import StoryGraph.Proofs.Play.Beat
import StoryGraph.Proofs.Play.Placed
import StoryGraph.Proofs.Play.Refusal

set_option relaxedAutoImplicit false
set_option autoImplicit false

/-!
# What is offered is what can be chosen

While a play awaits a choice, the last thing that it showed is the choices of its active node, and a
choice taken then is one of those. Whatever else happens in between shows nothing, or the play no
longer awaits a choice.

## Main definitions

* `Runner.Heeds` — what becomes of a choice that is taken.
* `Runner.ChoosesFrom` — choices are taken from a list, and all others are ignored.

## Main results

* `Runner.Run.offered_last` — what a play that awaits a choice has shown last.
* `Runner.Run.chooses_from_shown` — in every run choices are taken from what was shown last.
-/

namespace StoryGraph

namespace Runner

variable {r : Runner} {place : Nat} {c : Choice} {goal : NodeId}

/-! ## The last offer -/

/-- A play that awaits a choice after a turn has offered it in that turn, or it stands where it
stood and the turn showed nothing.

**Proof sketch.** By what is seen of the turn. After an entry or an end the play does not await a
choice. After an offer it does, and has shown it. After a turn without events it rests, or it stands
where it stood. -/
theorem Shows.awaits {flags : FlagSet} {goal : Option NodeId} {t : Turn Reply}
    (h : r.Shows flags goal t) (hphase : t.runner.phase = .awaitingChoice) :
    (∃ n, t.runner.current? = some n ∧
        Signal.events t.trace = [.offered (t.runner.pool.choicesOf n)]) ∨
      (Signal.events t.trace = [] ∧ t.runner.cursor = r.cursor ∧ t.runner.pool = r.pool) := by
  cases h with
  | entered _ _ hactive _ _ _ _ => simp [hactive] at hphase
  | offered n _ _ hcurrent hpool _ hevents _ => exact .inl ⟨n, hcurrent, by rw [hpool, hevents]⟩
  | ended hidle _ _ _ => simp [hidle] at hphase
  | nothing hstands _ hevents _ =>
    obtain hidle | ⟨hcursor, hpool⟩ := hstands
    · simp [hidle] at hphase
    · exact .inr ⟨hevents, hcursor, hpool⟩

/-- In a run from an idle play, a play that awaits a choice has shown the choices of its active node
last.

**Proof sketch.** Induction on the run. By `Shows.awaits` the last command has offered the choices,
and then its event is the last one; or it showed nothing and left the play where it was, and then
the offer from before is still the last. Overwriting flags shows nothing. -/
theorem Run.offered_last {s : Runner} {trace : List Signal} (hs : s.Valid) (hidle : s.phase = .idle)
    (hr : Run Command.Sound s trace r) (hphase : r.phase = .awaitingChoice) :
    ∃ n, r.current? = some n ∧
      (Signal.events trace).getLast? = some (.offered (r.pool.choicesOf n)) := by
  induction hr with
  | start => simp [hidle] at hphase
  | @perform trace r hr c hc ih =>
    obtain ⟨goal, hshows⟩ := (hr.valid hs).shows_perform c
    rcases hshows.awaits hphase with ⟨n, hn, hevents⟩ | ⟨hevents, hcursor, hpool⟩
    · exact ⟨n, hn, by simp [hevents]⟩
    · have hbefore : r.phase = .awaitingChoice := by rwa [phase, ← hcursor]
      obtain ⟨n, hn, hlast⟩ := ih hbefore
      refine ⟨n, ?_, ?_⟩
      · rwa [current?, hcursor, hpool]
      · rwa [Signal.events_append, hevents, List.append_nil, hpool]
  | overwrite _ flags ih => exact ih hphase

/-! ## Taken choices -/

/-- The first node that a step tries is the one on top of the stack. -/
theorem head?_tried_step {below : List NodeId} (hopen : r.gate.ask.1 = false)
    (hpending : r.pending = goal :: below) :
    (Signal.tried r.step.trace).head? = some goal := by
  rw [step_of_open hopen, hpending, if_neg (by simp), tryPending]
  split
  · simp [Turn.after, arrive, Signal.tried?]
  · simp [Turn.after]

/-- What becomes of the choice `c` when it is taken at `place` in the play `r`. -/
structure Heeds (r : Runner) (place : Nat) (c : Choice) : Prop where
  answer_ne : (r.choose place).answer ≠ .ok .ignored
  /-- Its flags are set, and no others but those of a node that is shown. -/
  has_iff : ∀ f, (r.choose place).runner.flags.has f = true ↔
    (r.flags.has f = true ∨ FlagSet.InRange f ∧ f ∈ r.pool.effectsOfChoice c) ∨
      FlagSet.InRange f ∧ ∃ n handed,
        .entered n handed ∈ Signal.events (r.choose place).trace ∧ f ∈ r.pool.effectsOf n
  /-- A choice that leads nowhere can be followed by another one. -/
  stays : c.goto = none → (r.choose place).answer = .ok .awaitingChoice ∧
    (r.choose place).runner.cursor = r.cursor ∧ (r.choose place).runner.pending = r.pending
  /-- When there is room for its goal, the goal is the first node that is tried at once. -/
  leads : ∀ goal, c.goto = some goal → r.pending.length < r.capacity →
    r.gate.ask.2.ask.1 = false → (Signal.tried (r.choose place).trace).head? = some goal
  /-- When the gate closes in between, it is the first that the next step tries. -/
  waits : ∀ goal, c.goto = some goal → r.pending.length < r.capacity →
    r.gate.ask.2.ask.1 = true → (r.choose place).answer = .ok .busy ∧
      (r.choose place).runner.pending = goal :: r.pending ∧
      ∀ gate : Gate, gate.ask.1 = false →
        (Signal.tried ({ (r.choose place).runner with gate }.step).trace).head? = some goal

/-- With an open gate, the play `r` takes choices from the list `shown` and ignores all others. -/
structure ChoosesFrom (r : Runner) (shown : List Choice) : Prop where
  heeds : ∀ place c, shown[place]? = some c → r.Heeds place c
  ignores : ∀ place, shown.length ≤ place →
    r.choose place = { answer := .ok .ignored, runner := r.opened }

/-- A choice on offer is heeded.

**Proof sketch.** The equations for a choice on offer say what became of it: without a goal it is
over, with a goal that finds room the goal is on top of the stack. Then the first node that is tried
is the goal, at once if the gate is open at the second asking, and else at the next step under an
open gate. -/
theorem Valid.heeds (hr : r.Valid) (hopen : r.gate.ask.1 = false)
    (hoffer : r.offered? place = some c) : r.Heeds place c where
  answer_ne := by
    rw [Ne, choose_answer_eq_ignored_iff, hoffer]
    simp
  has_iff f := by
    have hflags := (hr.shows_choose place).has_iff (f := f)
    rw [flagsFor, hopen, hoffer, FlagSet.has_setAll] at hflags
    simpa [perform, Turn.map] using hflags
  stays hgoto := by
    rw [choose_of_goto_eq_none hopen hoffer hgoto]
    exact ⟨rfl, rfl, rfl⟩
  leads goal hgoto hroom hagain := by
    rw [choose_of_goto hopen hoffer hgoto, start_of_room (r := r.chosen c) hroom]
    exact head?_tried_step (r := { r.chosen c with pending := goal :: r.pending }) hagain rfl
  waits goal hgoto hroom hagain := by
    rw [choose_of_goto hopen hoffer hgoto, start_of_busy (r := r.chosen c) hroom hagain]
    refine ⟨rfl, rfl, fun gate hgate => ?_⟩
    exact head?_tried_step (r := { r.chosen c with gate, pending := goal :: r.pending }) hgate rfl

/-- A play that awaits a choice takes one of those that its active node has. -/
theorem Valid.choosesFrom (hr : r.Valid) (hopen : r.gate.ask.1 = false)
    (hphase : r.phase = .awaitingChoice) {n : Node} (hn : r.current? = some n) :
    r.ChoosesFrom (r.pool.choicesOf n) where
  heeds _ _ hc := hr.heeds hopen (offered?_eq_some_iff_current?.2 ⟨hphase, n, hn, hc⟩)
  ignores place hplace :=
    choose_of_offered?_eq_none hopen
      ((hr.offered?_eq_none_iff place).2 (.inr ⟨n, hn, hplace⟩))

/-- **Choices are taken from what was shown last.** In every run, a play that awaits a choice has
shown the choices of its active node last, and each of them can be taken, and no other; a play that
awaits none takes none.

**Proof sketch.** What a command shows last decides where the play stands: after an offer it awaits
a choice, after an entry or the end it does not, and a command that shows nothing leaves the play
where it stood or brings it to rest. -/
theorem Run.chooses_from_shown {pool : Pool} {capacity : Nat} {startNode : NodeId}
    {trace : List Signal} (hpool : pool.Made)
    (hr : Run Command.Sound (fresh pool capacity startNode) trace r) :
    (r.phase = .awaitingChoice → ∃ n, r.current? = some n ∧
        (Signal.events trace).getLast? = some (.offered (r.pool.choicesOf n)) ∧
        (r.gate.ask.1 = false → r.ChoosesFrom (r.pool.choicesOf n))) ∧
      (r.phase ≠ .awaitingChoice → r.gate.ask.1 = false → r.ChoosesFrom []) := by
  have hfresh : (fresh pool capacity startNode).Valid := (Reached.fresh hpool _ _).valid
  have hvalid : r.Valid := hr.valid hfresh
  constructor
  · intro hphase
    obtain ⟨n, hn, hlast⟩ := hr.offered_last hfresh rfl hphase
    exact ⟨n, hn, hlast, fun hopen => hvalid.choosesFrom hopen hphase hn⟩
  · intro hphase hopen
    refine ⟨by simp, fun place _ => choose_of_offered?_eq_none hopen ?_⟩
    exact (hvalid.offered?_eq_none_iff place).2 (.inl hphase)

/-- A story of two nodes: the first offers a choice that leads nowhere and one of the second. -/
def benchStory : Pool :=
  (Script.rebuild "\n,1\n,1,choice,,,,,,,,,,sit,,20\n,1,choice,,,,,,,,,,go on,2,21\n,2"
    { pool := .empty {} }).2.pool

/-- Between the offer and the choice the first choice is taken, a node is put on the stack while the
gate is closed, and a snapshot without a node is restored. -/
def dawdle : List Command :=
  [.start ⟨1⟩, .step, .choose 0, .install { settled := true }, .start ⟨2⟩,
    .restore { version := 1, nodeId := none, flags := [30] } {}, .install .alwaysOpen]

/-- The play that goes this way. -/
def dawdling : Runner := ((fresh benchStory 4 ⟨1⟩).performAll dawdle).runner

/-- It still awaits one of the two choices, which it has shown last.

**Proof sketch.** The run is traced: it awaits a choice, and two are on offer. The theorem says that
they were shown last and that each is heeded. -/
theorem chooses_from_shown_dawdling :
    dawdling.phase = .awaitingChoice ∧ dawdling.gate.ask.1 = false ∧ dawdling.pending = [⟨2⟩] ∧
      ∃ n, dawdling.current? = some n ∧ (dawdling.pool.choicesOf n).length = 2 ∧
        (Signal.events ((fresh benchStory 4 ⟨1⟩).performAll dawdle).trace).getLast? =
          some (.offered (dawdling.pool.choicesOf n)) ∧
        dawdling.ChoosesFrom (dawdling.pool.choicesOf n) := by
  obtain ⟨hphase, hopen, hpending, hlength⟩ :
      dawdling.phase = .awaitingChoice ∧ dawdling.gate.ask.1 = false ∧
        dawdling.pending = [⟨2⟩] ∧
        dawdling.current?.map (fun n => (dawdling.pool.choicesOf n).length) = some 2 := by
    decide +kernel
  have hsound : ∀ c ∈ dawdle, c.Sound := by simp [dawdle, Command.Sound]
  have hrun : Run Command.Sound (fresh benchStory 4 ⟨1⟩)
      ((fresh benchStory 4 ⟨1⟩).performAll dawdle).trace dawdling := Run.start.performAll hsound
  have hpool : benchStory.Made := Script.made_rebuild _ (.empty {})
  obtain ⟨n, hn, hlast, hchooses⟩ := (hrun.chooses_from_shown hpool).1 hphase
  refine ⟨hphase, hopen, hpending, n, hn, ?_, hlast, hchooses hopen⟩
  rw [hn] at hlength
  exact Option.some.inj hlength

end Runner

end StoryGraph
