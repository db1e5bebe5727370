import StoryGraph.Proofs.Play.Mirror
import StoryGraph.Proofs.Play.Beat
import StoryGraph.Proofs.Play.Interrupt
import StoryGraph.Proofs.Play.Placed

set_option relaxedAutoImplicit false
set_option autoImplicit false

/-!
# Plays that nothing holds back

Nodes wait on the stack only while the gate is busy. Behind a gate that is never busy a node that is
put on the stack is tried at once, so the stack is empty after every command and never overflows,
however the nodes of the story lead to one another.

## Main definitions

* `Gate.NeverBusy` — a gate is open whenever it is asked.
* `Command.KeepsOpen` — a command installs no other gates.
* `Runner.Clear` — no node waits, and the gate is never busy.
* `Runner.Resolves` — a choice leads to its goal at once, or the play stalls before it.

## Main results

* `Runner.Clear.perform` — every command leaves a play clear.
* `Runner.Run.runs_clear` — in every run behind such gates no node waits, no command is put off or
  broken off, and every choice is resolved at once.
-/

namespace StoryGraph

namespace Gate

variable {g : Gate}

/-- The gate is open whenever it is asked. -/
def NeverBusy (g : Gate) : Prop := ∀ place, g.answer place = false

/-- A gate that is never busy says so when it is asked. -/
theorem NeverBusy.ask_fst (h : g.NeverBusy) : g.ask.1 = false := by
  rw [Gate.ask_fst, h]

/-- A gate that is never busy is not so after it was asked. -/
theorem NeverBusy.ask_snd (h : g.NeverBusy) : g.ask.2.NeverBusy := fun place => by
  rw [answer_ask, h]

end Gate

/-- The command installs no gate that is ever busy, and loads no story but one that can be. -/
def Command.KeepsOpen : Command → Prop
  | install gate => gate.NeverBusy
  | load pool => pool.Made
  | _ => True

/-- A command that keeps the gate open is a sound one, as the pool it may load is well formed. -/
theorem Command.KeepsOpen.sound {c : Command} (hc : c.KeepsOpen) : c.Sound := by
  cases c with
  | load pool => exact hc
  | start | newGame | step | choose | jump | setFlags | clearFlags | install | restore => trivial

namespace Runner

variable {r : Runner} {id goal : NodeId} {place : Nat} {c : Choice}

/-- No node waits in the play `r`, and its gate is never busy. -/
structure Clear (r : Runner) : Prop where
  pending : r.pending = []
  gate : r.gate.NeverBusy

/-! ## Moves -/

/-- A step with at most one waiting node leaves none.

**Proof sketch.** By the kind of the beat, which is not busy as the gate never is. An entry leaves
of the stack what was below its node, and below a single node there is nothing. A stall has emptied
the stack, and the other beats found it empty. -/
theorem Beat.clear {t : Turn Outcome} (h : r.Beat t) (hgate : r.gate.NeverBusy)
    (hone : r.pending.length ≤ 1) : t.runner.Clear := by
  constructor
  · cases h with
    | busy hbusy _ =>
      rw [hgate.ask_fst] at hbusy
      cases hbusy
    | enters n below _ hbelow h =>
      have htail : r.pending.tail = [] := List.length_eq_zero_iff.1 (by simp; omega)
      rw [h.pending]
      exact List.suffix_nil.1 (htail ▸ hbelow)
    | stalls h => exact h.pending
    | offers _ hpending _ h => exact h.pending.trans hpending
    | ends hpending h => exact h.pending.trans hpending
    | rests hpending _ h =>
      rw [h.runner]
      exact hpending
  · rw [h.spares.gate]
    exact hgate.ask_snd

namespace Clear

/-- A clear play has room for a node. -/
theorem room (hr : r.Clear) (hcapacity : 0 < r.capacity) : r.pending.length < r.capacity := by
  simpa [hr.pending] using hcapacity

/-- A clear play stays clear when it asks its gate. -/
theorem opened (hr : r.Clear) : r.opened.Clear := ⟨hr.pending, hr.gate.ask_snd⟩

/-- A step leaves a clear play clear. -/
theorem step (hr : r.Clear) (hvalid : r.Valid) : r.step.runner.Clear :=
  hvalid.beat_step.clear hr.gate (by simp [hr.pending])

/-- A start leaves a clear play clear. -/
theorem start (hr : r.Clear) (hvalid : r.Valid) (hcapacity : 0 < r.capacity) (id : NodeId) :
    (r.start id).runner.Clear := by
  have hpushed : Valid { r with pending := id :: r.pending } :=
    steady_valid.push id hvalid (hr.room hcapacity)
  rw [start_of_room (hr.room hcapacity)]
  exact hpushed.beat_step.clear hr.gate (by simp [hr.pending])

/-- A choice leaves a clear play clear.

**Proof sketch.** By `choose_cases`. The gate is asked and flags are set, which puts nothing on the
stack. A goal is started from there, by `start`, and is tried at once. -/
theorem choose (hr : r.Clear) (hvalid : r.Valid) (hcapacity : 0 < r.capacity) (place : Nat) :
    (r.choose place).runner.Clear := by
  have hchosen (c : Choice) : (r.chosen c).Clear := ⟨hr.pending, hr.gate.ask_snd⟩
  obtain ⟨-, heq⟩ | ⟨-, -, heq⟩ | ⟨c, -, -, -, heq⟩ | ⟨c, goal, -, -, -, heq⟩ :=
    choose_cases r place
  · rw [heq]
    exact hr.opened
  · rw [heq]
    exact hr.opened
  · rw [heq]
    exact hchosen c
  · rw [heq]
    exact (hchosen c).start (steady_valid.set _ (steady_valid.ask _ hvalid)) hcapacity goal

/-- A jump leaves a clear play clear. -/
theorem jump (hr : r.Clear) (id : NodeId) : (r.jump id).runner.Clear := by
  unfold Runner.jump
  split
  case h_1 => exact hr
  case h_2 => exact ⟨rfl, hr.gate⟩

/-- Every command leaves a clear play clear.

**Proof sketch.** By the command. A start, a new game, a step and a choice search the stack, which
holds one node at most. A jump and a restored place drop the stack or leave it empty. A story that
is loaded drops it, too, and a gate that is installed is never busy, by assumption. -/
theorem perform (hr : r.Clear) (hvalid : r.Valid) (hcapacity : 0 < r.capacity) {c : Command}
    (hc : c.KeepsOpen) : (r.perform c).runner.Clear := by
  cases c with
  | start id => exact hr.start hvalid hcapacity id
  | newGame =>
    have hnew : Clear { r with flags := .empty, pending := [], cursor := .idle } := ⟨rfl, hr.gate⟩
    exact hnew.start (steady_valid.renew hvalid) hcapacity r.startNode
  | step => exact hr.step hvalid
  | choose place => exact hr.choose hvalid hcapacity place
  | jump id => exact hr.jump id
  | restore saved options =>
    obtain ⟨-, heq⟩ | ⟨id, later, -, -, -, heq⟩ := saved.restore_cases r options
    · rw [Runner.perform, heq]
      exact ⟨hr.pending, hr.gate⟩
    · rw [Runner.perform, heq]
      exact jump (r := { r with flags := saved.flagsOver options r.flags }) ⟨hr.pending, hr.gate⟩ id
  | install gate => exact ⟨hr.pending, hc⟩
  | load pool => exact ⟨rfl, hr.gate⟩
  | setFlags | clearFlags => exact ⟨hr.pending, hr.gate⟩

/-- A start of a clear play is neither put off nor broken off. -/
theorem answer_start (hr : r.Clear) (hcapacity : 0 < r.capacity) (id : NodeId) :
    (r.start id).answer ≠ .ok .busy ∧ ∀ full, (r.start id).answer ≠ .error full := by
  constructor
  · simp [start_answer_eq_busy_iff, hr.gate.ask_fst]
  · simp [start_answer_eq_error_iff, hr.room hcapacity]

/-- No command of a clear play is put off or broken off.

**Proof sketch.** The gate of a clear play is never busy, and its stack is empty, so there is room
on it. A start and a choice are busy or break off in no other case, by `choose_of_answer_eq_busy`
and `choose_of_answer_eq_error`; the other commands cannot. -/
theorem answer_perform (hr : r.Clear) (hcapacity : 0 < r.capacity) (c : Command) :
    (r.perform c).answer ≠ .moved (.ok .busy) ∧
      ∀ full, (r.perform c).answer ≠ .moved (.error full) := by
  cases c with
  | start id => simpa [Runner.perform, Turn.map] using hr.answer_start hcapacity id
  | newGame =>
    have hnew : Clear { r with flags := .empty, pending := [], cursor := .idle } := ⟨rfl, hr.gate⟩
    simpa [Runner.perform, newGame, Turn.map] using hnew.answer_start hcapacity r.startNode
  | step =>
    simp [Runner.perform, Turn.map, step_answer_eq_busy_iff, hr.gate.ask_fst]
  | choose place =>
    constructor
    · intro h
      obtain ⟨hbusy, -⟩ | ⟨-, hbusy, -⟩ := choose_of_answer_eq_busy (Reply.moved.inj h)
      · simp [hr.gate.ask_fst] at hbusy
      · simp [hr.opened.gate.ask_fst] at hbusy
    · intro full h
      have hfull := (choose_of_answer_eq_error (Reply.moved.inj h)).1
      exact absurd (hr.room hcapacity) (Nat.not_lt.2 hfull)
  | jump | setFlags | clearFlags | install | load | restore => simp [Runner.perform, Turn.map]

end Clear

/-! ## Choices -/

/-- The turn `t` resolves the choice `c` of `goal` in the play `r`: the goal is entered if it may be
once the flags of the choice are set, and else the play stalls. -/
structure Resolves (r : Runner) (c : Choice) (goal : NodeId)
    (t : Turn (Except StackFull Outcome)) : Prop where
  enters : (r.chosen c).Admits goal → t.answer = .ok (.entered goal) ∧
    t.runner.phase = .nodeActive ∧
    ∃ n ∈ r.pool.nodes, n.id = goal ∧ t.runner.current? = some n ∧
      ∀ f, t.runner.flags.has f = true ↔
        (r.flags.has f = true ∨ FlagSet.InRange f ∧ f ∈ r.pool.effectsOfChoice c) ∨
          FlagSet.InRange f ∧ f ∈ r.pool.effectsOf n
  stalls : ¬ (r.chosen c).Admits goal → t.answer = .ok .stalled ∧ t.runner.phase = .idle ∧
    ∀ f, t.runner.flags.has f = true ↔
      r.flags.has f = true ∨ FlagSet.InRange f ∧ f ∈ r.pool.effectsOfChoice c

/-- The flags that are set when a choice is made. -/
theorem has_flags_chosen {f : FlagId} : (r.chosen c).flags.has f = true ↔
    r.flags.has f = true ∨ FlagSet.InRange f ∧ f ∈ r.pool.effectsOfChoice c := by
  simp [chosen, FlagSet.has_setAll]

/-- A step on which one node waits enters it if it may, and else stalls.

**Proof sketch.** An open gate lets the step search its stack, and there is one node to try, with
none above it. -/
theorem step_of_single (hp : r.pool.WellFormed) (hopen : r.gate.ask.1 = false)
    (hpending : r.pending = [goal]) :
    (r.Admits goal → ∃ n ∈ r.pool.nodes, n.id = goal ∧ r.Enters n [] r.step) ∧
      (¬ r.Admits goal → r.Stalls r.step) := by
  rw [step_of_open hopen, if_neg (by simp [hpending]), hpending]
  constructor
  · intro hadmits
    exact enters_tryPending hp (List.forall_mem_nil _) hadmits
  · intro hadmits
    exact stalls_tryPending hp (by simpa using hadmits)

/-- A clear play resolves every choice that is on offer and leads somewhere.

**Proof sketch.** The choice sets its flags and puts its goal on the empty stack, so the step that
follows has this one node to try. By `step_of_single` it enters the goal if it may, and stalls if it
may not; the flags are those of the choice, with those of the goal if it was entered. -/
theorem Clear.resolves (hr : r.Clear) (hvalid : r.Valid) (hcapacity : 0 < r.capacity)
    (hoffer : r.offered? place = some c) (hgoto : c.goto = some goal) :
    r.Resolves c goal (r.choose place) := by
  have hpending : (r.chosen c).pending = [] := hr.pending
  rw [choose_of_goto hr.gate.ask_fst hoffer hgoto,
    start_of_room (r := r.chosen c) (hr.room hcapacity), hpending]
  -- the goal is all that waits when the choice steps
  obtain ⟨henters, hstalls⟩ := step_of_single (r := { r.chosen c with pending := [goal] })
    hvalid.wellFormed hr.gate.ask_snd.ask_fst rfl
  constructor
  · intro hadmits
    obtain ⟨n, hn, rfl, h⟩ := henters hadmits
    refine ⟨congrArg Except.ok h.answer, h.phase, n, hn, rfl, h.current, fun f => ?_⟩
    rw [← has_flags_chosen]
    exact h.flags f
  · intro hadmits
    have h := hstalls hadmits
    refine ⟨congrArg Except.ok h.answer, h.phase, fun f => ?_⟩
    rw [← has_flags_chosen]
    exact iff_of_eq (congrArg (fun flags : FlagSet => flags.has f = true) h.flags)

/-! ## Runs -/

/-- In a run behind gates that are never busy, a play stays clear.

**Proof sketch.** Induction on the run. Along it the play stays valid and keeps its capacity, so
`Clear.perform` applies to each command. Overwriting flags touches neither the stack nor the gate.
-/
theorem Run.clear {s : Runner} {trace : List Signal} (hs : s.Valid) (hcapacity : 0 < s.capacity)
    (hclear : s.Clear) (hr : Run Command.KeepsOpen s trace r) : r.Clear := by
  induction hr with
  | start => exact hclear
  | @perform trace r hr c hc ih =>
    have hsound : Run Command.Sound s trace r := hr.mono fun _ => Command.KeepsOpen.sound
    have hsame : r.capacity = s.capacity :=
      hsound.keeps (steady_capacity s.capacity) (fun _ h => h) rfl
    exact ih.perform (hsound.valid hs) (hsame ▸ hcapacity) hc
  | overwrite _ flags ih => exact ⟨ih.pending, ih.gate⟩

/-- **Behind a gate that is never busy nothing waits.** In every run in which no gate is ever busy
and one node may wait, the stack is empty after every command, no command is put off or finds the
stack full, and every choice that leads somewhere enters its goal at once or stalls before it.

**Proof sketch.** A start puts one node on an empty stack, and the step that follows takes it off
again; a step that finds the stack empty puts nothing there. -/
theorem Run.runs_clear {pool : Pool} {capacity : Nat} {startNode : NodeId} {trace : List Signal}
    (hpool : pool.Made) (hcapacity : 0 < capacity)
    (hr : Run Command.KeepsOpen (fresh pool capacity startNode) trace r) :
    r.pending = [] ∧
      (∀ c : Command, (r.perform c).answer ≠ .moved (.ok .busy) ∧
        ∀ full, (r.perform c).answer ≠ .moved (.error full)) ∧
      ∀ n place c goal, r.phase = .awaitingChoice → r.current? = some n →
        (r.pool.choicesOf n)[place]? = some c → c.goto = some goal →
        r.Resolves c goal (r.choose place) := by
  have hfresh : (fresh pool capacity startNode).Valid := (Reached.fresh hpool _ _).valid
  have hsound : Run Command.Sound (fresh pool capacity startNode) trace r :=
    hr.mono fun _ => Command.KeepsOpen.sound
  have hsame : r.capacity = capacity :=
    hsound.keeps (steady_capacity capacity) (fun _ h => h) rfl
  have hroom : 0 < r.capacity := hsame ▸ hcapacity
  have hclear : r.Clear := hr.clear hfresh hcapacity ⟨rfl, fun _ => rfl⟩
  refine ⟨hclear.pending, hclear.answer_perform hroom, ?_⟩
  intro n place c goal hphase hn hc hgoto
  exact hclear.resolves (hsound.valid hfresh) hroom
    (offered?_eq_some_iff_current?.2 ⟨hphase, n, hn, hc⟩) hgoto

/-- A story of two nodes that lead to each other; the way to the second is a choice that sets the
flag required there. -/
def roundStory : Pool :=
  (Script.rebuild "\n,1\n,1,choice,,,,,,,,,,round,2,6\n,2,,,,,,,,,,1,,,,,6" { pool := .empty {} }).2.pool

/-- Once around, to the choices of the first node again. -/
def goRound : List Command := [.start ⟨1⟩, .step, .choose 0, .step, .step]

/-- The play that has gone around; one node may wait. -/
def rounded : Runner := ((fresh roundStory 1 ⟨1⟩).performAll goRound).runner

/-- It can go around again.

**Proof sketch.** The run is traced: it awaits a choice whose goal is the second node. The rest is
the theorem, for one place on the stack. -/
theorem runs_clear_rounded :
    rounded.pending = [] ∧ (rounded.choose 0).answer = .ok (.entered ⟨2⟩) ∧
      ∃ c, rounded.offered? 0 = some c ∧ c.goto = some ⟨2⟩ ∧
        rounded.Resolves c ⟨2⟩ (rounded.choose 0) := by
  obtain ⟨hphase, hgoto, hanswer⟩ : rounded.phase = .awaitingChoice ∧
      (rounded.current?.bind fun n => (rounded.pool.choicesOf n)[0]?).map (·.goto) =
        some (some ⟨2⟩) ∧
      (rounded.choose 0).answer = .ok (.entered ⟨2⟩) := by decide +kernel
  obtain ⟨c, hc, hgoal⟩ := Option.map_eq_some_iff.1 hgoto
  obtain ⟨n, hn, hplace⟩ := Option.bind_eq_some_iff.1 hc
  have hopen : ∀ c ∈ goRound, c.KeepsOpen := by simp [goRound, Command.KeepsOpen]
  have hrun : Run Command.KeepsOpen (fresh roundStory 1 ⟨1⟩)
      ((fresh roundStory 1 ⟨1⟩).performAll goRound).trace rounded := Run.start.performAll hopen
  have hpool : roundStory.Made := Script.made_rebuild _ (.empty {})
  obtain ⟨hpending, -, hresolves⟩ := hrun.runs_clear hpool Nat.one_pos
  exact ⟨hpending, hanswer, c, offered?_eq_some_iff_current?.2 ⟨hphase, n, hn, hplace⟩, hgoal,
    hresolves n 0 c ⟨2⟩ hphase hn hplace hgoal⟩

end Runner

end StoryGraph
