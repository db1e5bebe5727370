import StoryGraph.Proofs.Play.Reached
import StoryGraph.Proofs.Script.Work

set_option relaxedAutoImplicit false
set_option autoImplicit false

/-!
# What a step does

A step follows the stack of waiting nodes, then the active node, and nothing else. Each of its
outcomes is described once, and for every play that can be the state alone decides which of them
comes about.

## Main definitions

* `Runner.Enters`, `Runner.Stalls`, `Runner.Offers`, `Runner.Ends`, `Runner.Rests` — the outcomes of
  a step with an open gate.
* `Runner.Follows` — which outcome a turn has, by the stack and by the active node.

## Main results

* `Runner.Reached.follows_step` — every step with an open gate follows the stack, then the active
  node.
-/

namespace StoryGraph

namespace Runner

variable {r : Runner}

/-! ## The outcomes -/

/-- The turn `t` of the play `r` asks the gate once, and changes nothing else than the flags, the
stack and the cursor. -/
structure Spares (r : Runner) (t : Turn Outcome) : Prop where
  gate : t.runner.gate = r.gate.ask.2
  pool : t.runner.pool = r.pool
  capacity : t.runner.capacity = r.capacity
  startNode : t.runner.startNode = r.startNode

/-- The turn `t` of the play `r` enters the node `n` while the nodes `below` go on waiting: the
flags gain the effect flags of `n` that are in range, and no other. -/
structure Enters (r : Runner) (n : Node) (below : List NodeId) (t : Turn Outcome) : Prop
    extends r.Spares t where
  answer : t.answer = .entered n.id
  pending : t.runner.pending = below
  phase : t.runner.phase = .nodeActive
  current : t.runner.current? = some n
  flags : ∀ f, t.runner.flags.has f = true ↔
    r.flags.has f = true ∨ FlagSet.InRange f ∧ f ∈ r.pool.effectsOf n
  events : Signal.events t.trace = [.entered n t.runner.flags]

/-- The turn `t` of the play `r` stalls: no node waits any more, none is active, and the presenter
hears nothing. -/
structure Stalls (r : Runner) (t : Turn Outcome) : Prop extends r.Spares t where
  answer : t.answer = .stalled
  pending : t.runner.pending = []
  phase : t.runner.phase = .idle
  flags : t.runner.flags = r.flags
  events : Signal.events t.trace = []

/-- The turn `t` of the play `r` offers the choices of the active node `n`. -/
structure Offers (r : Runner) (n : Node) (t : Turn Outcome) : Prop extends r.Spares t where
  answer : t.answer = .choicesPresented
  pending : t.runner.pending = r.pending
  phase : t.runner.phase = .awaitingChoice
  current : t.runner.current? = some n
  flags : t.runner.flags = r.flags
  events : Signal.events t.trace = [.offered (r.pool.choicesOf n)]

/-- The turn `t` of the play `r` comes to the end of the story. -/
structure Ends (r : Runner) (t : Turn Outcome) : Prop extends r.Spares t where
  answer : t.answer = .ended
  pending : t.runner.pending = r.pending
  phase : t.runner.phase = .idle
  flags : t.runner.flags = r.flags
  events : Signal.events t.trace = [.ended]

/-- The turn `t` of the play `r` has nothing to do. -/
structure Rests (r : Runner) (t : Turn Outcome) : Prop where
  answer : t.answer = .idle
  runner : t.runner = r.opened
  trace : t.trace = []

/-- The turn `t` of the play `r` follows the stack, then the active node. -/
structure Follows (r : Runner) (t : Turn Outcome) : Prop where
  /-- The first waiting node that may be entered is entered. -/
  entersWaiting : ∀ above id below, r.pending = above ++ id :: below →
    (∀ a ∈ above, ¬ r.Admits a) → r.Admits id → ∃ n ∈ r.pool.nodes, n.id = id ∧ r.Enters n below t
  /-- When no waiting node may be entered, the play stalls. -/
  stallsWaiting : r.pending ≠ [] → (∀ id ∈ r.pending, ¬ r.Admits id) → r.Stalls t
  /-- When no node waits and none is active, nothing happens. -/
  rests : r.pending = [] → r.phase = .idle → r.Rests t
  /-- Otherwise some node of the story is active. -/
  active : r.phase ≠ .idle → ∃ n ∈ r.pool.nodes, r.current? = some n
  /-- An active node offers its choices, wherever else it leads. -/
  offers : ∀ n, r.pending = [] → r.current? = some n → r.pool.choicesOf n ≠ [] → r.Offers n t
  /-- An active node without choices leads to its successor. -/
  entersNext : ∀ n next, r.pending = [] → r.current? = some n → r.pool.choicesOf n = [] →
    n.next = some next → r.Admits next → ∃ m ∈ r.pool.nodes, m.id = next ∧ r.Enters m [] t
  /-- When the successor may not be entered, the play stalls. -/
  stallsNext : ∀ n next, r.pending = [] → r.current? = some n → r.pool.choicesOf n = [] →
    n.next = some next → ¬ r.Admits next → r.Stalls t
  /-- When there is no successor, the story ends. -/
  ends : ∀ n, r.pending = [] → r.current? = some n → r.pool.choicesOf n = [] → n.next = none →
    r.Ends t

/-! ## The moves that bring them about -/

/-- An arrival enters the node at which it arrives, whatever was refused before it.

**Proof sketch.** By definition an arrival makes the node active, leaves `below` waiting and sets
the flags of the node. What was refused before it added no events. -/
theorem enters_arrive (hp : r.pool.WellFormed) {id : NodeId} {slot : Nat} {n : Node}
    (h : r.admission id = .ok (slot, n)) (below : List NodeId) (earlier : List Signal)
    (hearlier : Signal.events earlier = []) :
    n ∈ r.pool.nodes ∧ n.id = id ∧
      r.Enters n below (({ r.opened with pending := below }.arrive id slot n).after earlier) := by
  obtain ⟨hslot, rfl⟩ := hp.find?_eq_some_iff.1 (admission_eq_ok_iff.1 h).1
  refine ⟨Array.mem_of_getElem? hslot, rfl, ?_⟩
  constructor
  case toSpares => exact ⟨rfl, rfl, rfl, rfl⟩
  case answer => rfl
  case pending => rfl
  case phase => rfl
  case current => exact hslot
  case flags =>
    intro f
    change (r.flags.setAll (r.pool.effectsOf n)).has f = true ↔ _
    simp [FlagSet.has_setAll]
  case events =>
    change Signal.events (earlier ++ _) = _
    rw [Signal.events_append, hearlier]
    rfl

/-- A stall without waiting nodes stalls, whatever was refused before it.

**Proof sketch.** A stall empties the stack, rests and keeps the flags, by definition; what was
refused before it added no events. -/
theorem stalls_stall (earlier : List Signal) (hearlier : Signal.events earlier = []) :
    r.Stalls (({ r.opened with pending := [] }.stall).after earlier) := by
  constructor
  case toSpares => exact ⟨rfl, rfl, rfl, rfl⟩
  case answer => rfl
  case pending => rfl
  case phase => rfl
  case flags => rfl
  case events =>
    change Signal.events (earlier ++ _) = _
    rw [Signal.events_append, hearlier]
    rfl

/-- The search of the stack enters the first node that it may.

**Proof sketch.** By `tryPending_append` the refused nodes are passed over without events, and then
the arrival is `enters_arrive`. -/
theorem enters_tryPending (hp : r.pool.WellFormed) {above below : List NodeId} {id : NodeId}
    (habove : ∀ a ∈ above, ¬ r.Admits a) (hid : r.Admits id) :
    ∃ n ∈ r.pool.nodes, n.id = id ∧
      r.Enters n below (r.opened.tryPending (above ++ id :: below)) := by
  obtain ⟨slot, n, hadm⟩ := (admits_iff hp).1 hid
  obtain ⟨earlier, hearlier, htry⟩ := tryPending_append (r := r.opened)
    (fun a ha => admission_eq_error_of_not_admits (r := r) hp (habove a ha)) (id :: below)
  have hcons := tryPending_cons_of_ok (r := r.opened) hadm below
  obtain ⟨hn, hnid, henters⟩ := enters_arrive hp hadm below
    (earlier ++ [.notice (.popped id)]) (by rw [Signal.events_append, hearlier]; rfl)
  refine ⟨n, hn, hnid, ?_⟩
  rw [htry, hcons]
  simpa [Turn.after] using henters

/-- The search of the stack stalls when it may enter no node. -/
theorem stalls_tryPending (hp : r.pool.WellFormed) {ids : List NodeId}
    (h : ∀ id ∈ ids, ¬ r.Admits id) : r.Stalls (r.opened.tryPending ids) := by
  obtain ⟨earlier, hearlier, htry⟩ := tryPending_append (r := r.opened)
    (fun a ha => admission_eq_error_of_not_admits (r := r) hp (h a ha)) []
  rw [List.append_nil] at htry
  rw [htry]
  exact stalls_stall earlier hearlier

/-- When no node waits and none is active, a step does nothing. -/
theorem rests_proceed (hphase : r.phase = .idle) : r.Rests r.opened.proceed := by
  have hslot := phase_eq_idle_iff.1 hphase
  have hproceed : r.opened.proceed = { answer := .idle, runner := r.opened } := by
    simp [proceed, opened, hslot]
  exact ⟨by rw [hproceed], by rw [hproceed], by rw [hproceed]⟩

/-- When no node waits, a play moves on from its active node. -/
theorem proceed_eq_leave {n : Node} (h : r.current? = some n) :
    ∃ slot, r.cursor.slot? = some slot ∧ r.pool.node? slot = some n ∧
      r.opened.proceed = r.opened.leave slot n := by
  obtain ⟨slot, hslot, hn⟩ := Option.bind_eq_some_iff.1 h
  exact ⟨slot, hslot, hn, by simp [proceed, opened, hslot, hn]⟩

/-- An active node with choices offers them. -/
theorem offers_leave {slot : Nat} {n : Node} (hn : r.pool.node? slot = some n)
    (hchoices : n.hasChoices = true) : r.Offers n (r.opened.leave slot n) := by
  rw [leave, if_pos hchoices]
  exact ⟨⟨rfl, rfl, rfl, rfl⟩, rfl, rfl, rfl, hn, rfl, rfl⟩

/-- An active node without choices enters its successor if it may.

**Proof sketch.** The successor is admitted, so `leave` arrives there, with no node waiting before
or after. -/
theorem enters_leave (hp : r.pool.WellFormed) (hpending : r.pending = []) {slot : Nat} {n : Node}
    {next : NodeId} (hchoices : n.hasChoices = false) (hnext : n.next = some next)
    (hadmits : r.Admits next) :
    ∃ m ∈ r.pool.nodes, m.id = next ∧ r.Enters m [] (r.opened.leave slot n) := by
  obtain ⟨slot', m, hadm⟩ := (admits_iff hp).1 hadmits
  obtain ⟨hm, hid, henters⟩ := enters_arrive hp hadm [] [] rfl
  have hstack : { r.opened with pending := [] } = r.opened := by simp [opened, hpending]
  have hadm' : r.opened.admission next = .ok (slot', m) := hadm
  refine ⟨m, hm, hid, ?_⟩
  rw [hstack] at henters
  simpa [leave, hchoices, hnext, hadm', Turn.after] using henters

/-- An active node without choices stalls the play when its successor may not be entered.

**Proof sketch.** The successor is refused, which adds one notice, and the stall is `stalls_stall`.
-/
theorem stalls_leave (hp : r.pool.WellFormed) (hpending : r.pending = []) {slot : Nat} {n : Node}
    {next : NodeId} (hchoices : n.hasChoices = false) (hnext : n.next = some next)
    (hadmits : ¬ r.Admits next) : r.Stalls (r.opened.leave slot n) := by
  obtain ⟨refusal, hrefusal⟩ := admission_eq_error_of_not_admits hp hadmits
  have hstack : { r.opened with pending := [] } = r.opened := by simp [opened, hpending]
  have hrefusal' : r.opened.admission next = .error refusal := hrefusal
  have hstalls := stalls_stall (r := r) [.notice (refusal.notice next)] rfl
  rw [hstack] at hstalls
  simpa [leave, hchoices, hnext, hrefusal'] using hstalls

/-- An active node with neither choices nor a successor ends the story. -/
theorem ends_leave {slot : Nat} {n : Node} (hchoices : n.hasChoices = false)
    (hnext : n.next = none) : r.Ends (r.opened.leave slot n) := by
  have hleave : r.opened.leave slot n =
      { answer := .ended
        runner := { r.opened with cursor := .idle }
        trace := [.notice (.endOfContent n.id), .event .ended] } := by
    simp [leave, hchoices, hnext]
  rw [hleave]
  exact ⟨⟨rfl, rfl, rfl, rfl⟩, rfl, rfl, rfl, rfl, rfl⟩

/-! ## The step -/

/-- **Every step with an open gate follows the stack, then the active node.**

**Proof sketch.** A play that can be is valid, so its story is well formed and its active node is in
the story. With waiting nodes the step searches the stack, which passes over what may not be
entered; without them it leaves the active node, and whether that has choices is what its run
says. -/
theorem Reached.follows_step (hr : r.Reached) (hopen : r.gate.ask.1 = false) :
    r.Follows r.step := by
  have hvalid := hr.valid
  have hp := hvalid.wellFormed
  have hwaiting : r.pending ≠ [] → r.step = r.opened.tryPending r.pending := fun h => by
    rw [step_of_open hopen, if_neg (by simpa using h)]
  have hempty : r.pending = [] → r.step = r.opened.proceed := fun h => by
    rw [step_of_open hopen, if_pos (by simp [h])]
  have hnone : ∀ n, r.current? = some n → r.pool.choicesOf n = [] → n.hasChoices = false := by
    intro n hn hchoices
    have hiff := hp.hasChoices_iff (mem_of_current? hn)
    simpa [hchoices] using hiff
  constructor
  case entersWaiting =>
    intro above id below hpending habove hid
    rw [hwaiting (by simp [hpending]), hpending]
    exact enters_tryPending hp habove hid
  case stallsWaiting =>
    intro hpending hall
    rw [hwaiting hpending]
    exact stalls_tryPending hp hall
  case rests =>
    intro hpending hphase
    rw [hempty hpending]
    exact rests_proceed hphase
  case active =>
    intro hphase
    obtain ⟨n, hn⟩ := hvalid.exists_current? hphase
    exact ⟨n, mem_of_current? hn, hn⟩
  case offers =>
    intro n hpending hn hchoices
    obtain ⟨slot, -, hslot, hleave⟩ := proceed_eq_leave hn
    rw [hempty hpending, hleave]
    exact offers_leave hslot ((hp.hasChoices_iff (mem_of_current? hn)).2 hchoices)
  case entersNext =>
    intro n next hpending hn hchoices hnext hadmits
    obtain ⟨slot, -, -, hleave⟩ := proceed_eq_leave hn
    rw [hempty hpending, hleave]
    exact enters_leave hp hpending (hnone n hn hchoices) hnext hadmits
  case stallsNext =>
    intro n next hpending hn hchoices hnext hadmits
    obtain ⟨slot, -, -, hleave⟩ := proceed_eq_leave hn
    rw [hempty hpending, hleave]
    exact stalls_leave hp hpending (hnone n hn hchoices) hnext hadmits
  case ends =>
    intro n hpending hn hchoices hnext
    obtain ⟨slot, -, -, hleave⟩ := proceed_eq_leave hn
    rw [hempty hpending, hleave]
    exact ends_leave (hnone n hn hchoices) hnext

/-- A story of two nodes: the first requires a flag that nothing sets, the second sets another. -/
def gatedStory : Pool :=
  (Script.rebuild "\n,1,,,,,,,,,,,,,,,5\n,2,,,,,,,,,,,,,,6" { pool := .empty {} }).2.pool

/-- While the gate is closed, three nodes are put on the stack; the last two are a node that is
blocked and one that is not in the story. -/
def fillStack : List Command :=
  [.install { settled := true }, .start ⟨2⟩, .start ⟨1⟩, .start ⟨9⟩, .install .alwaysOpen]

/-- The play with these nodes on the stack. -/
def filled : Runner := ((fresh gatedStory 4 ⟨1⟩).performAll fillStack).runner

/-- A step from a stack on which only the last node may be entered. -/
theorem follows_step_filled :
    filled.pending = [⟨9⟩, ⟨1⟩, ⟨2⟩] ∧ filled.gate.ask.1 = false ∧ filled.Follows filled.step ∧
      filled.step.answer = .entered ⟨2⟩ := by
  have hreached : filled.Reached :=
    (Reached.fresh (Script.made_rebuild _ (.empty {})) 4 ⟨1⟩).performAll
      (by simp [fillStack, Command.Sound])
  exact ⟨rfl, rfl, hreached.follows_step rfl, by decide +kernel⟩

end Runner

end StoryGraph
