import StoryGraph.Proofs.Play.Beat

set_option relaxedAutoImplicit false
set_option autoImplicit false

/-!
# Where a play stands

The cursor of a play always points at a node of the story that is played, also after the story was
replaced by a smaller one, and choices are awaited and offered only where there are some. So a move
never has to make do without the node at which the play stands.

## Main definitions

* `Runner.Placed` — a play stands at a node of its story, or nowhere.

## Main results

* `Runner.Run.offered_ne_nil` — in every run, what is offered is never nothing.
* `Runner.Run.stays_placed` — in every run a play is placed, and what is offered is never nothing.
-/

namespace StoryGraph

namespace Runner

variable {r : Runner}

/-! ## Plays in their place -/

/-- The play `r` stands at a node of its story, or nowhere, and its stack keeps to the capacity it
had at first. -/
structure Placed (capacity : Nat) (r : Runner) : Prop where
  /-- The slot of the cursor is one of the story. -/
  slot_lt : ∀ slot, r.cursor.slot? = some slot → slot < r.pool.nodes.size
  idle_iff : r.phase = .idle ↔ r.current? = none
  /-- Choices are awaited at a node that has some. -/
  awaits : r.phase = .awaitingChoice → ∃ n, r.current? = some n ∧ r.pool.choicesOf n ≠ []
  capacity_eq : r.capacity = capacity
  pending_le : r.pending.length ≤ capacity
  /-- A step has nothing to do only when no node waits and none is active, never because the node
  is missing at which the play stands. -/
  rests_iff : r.step.answer = .idle ↔ r.gate.ask.1 = false ∧ r.pending = [] ∧ r.phase = .idle
  /-- A choice is ignored only when none is awaited or there is none at its place, never because the
  node is missing at which the play stands. -/
  ignores_iff : ∀ place, (r.choose place).answer = .ok .ignored ↔
    r.gate.ask.1 = false ∧ (r.phase ≠ .awaitingChoice ∨
      ∃ n, r.current? = some n ∧ (r.pool.choicesOf n).length ≤ place)

/-- No start is ignored. -/
theorem start_answer_ne_ignored (r : Runner) (id : NodeId) :
    (r.start id).answer ≠ .ok .ignored := by
  obtain ⟨-, heq⟩ | ⟨-, -, heq⟩ | ⟨-, -, heq⟩ := start_cases r id
  · simp [heq]
  · simp [heq]
  · rw [heq]
    exact fun h => answer_tryPending_ne rfl (id :: r.pending) (Except.ok.inj h)

/-- A choice is ignored when the gate is open and there is no such choice on offer. -/
theorem choose_answer_eq_ignored_iff (r : Runner) (place : Nat) :
    (r.choose place).answer = .ok .ignored ↔ r.gate.ask.1 = false ∧ r.offered? place = none := by
  obtain ⟨hgate, heq⟩ | ⟨hgate, hoffer, heq⟩ | ⟨c, hgate, hoffer, -, heq⟩ |
    ⟨c, goal, hgate, hoffer, -, heq⟩ := choose_cases r place
  · simp [heq, hgate]
  · simp [heq, hgate, hoffer]
  · simp [heq, hoffer]
  · simp [heq, hoffer, start_answer_ne_ignored]

namespace Valid

/-- A play rests when no node waits and none is active.

**Proof sketch.** By `step_cases`. Without an active node the answer is idle. The search of the
stack and the way on from a node have other answers, and a valid play does not stand at a node that
is missing. -/
theorem step_answer_eq_idle_iff (hr : r.Valid) :
    r.step.answer = .idle ↔ r.gate.ask.1 = false ∧ r.pending = [] ∧ r.phase = .idle := by
  obtain ⟨hgate, heq⟩ | ⟨-, hpending, heq⟩ | ⟨hgate, hpending, hslot, heq⟩ |
    ⟨slot, -, -, hslot, hnone, -⟩ | ⟨slot, n, -, -, hslot, -, heq⟩ := step_cases r
  · simp [heq, hgate]
  · simpa [heq, hpending] using answer_tryPending_ne rfl r.pending
  · simp [heq, hgate, hpending, phase_eq_idle_iff.2 hslot]
  · -- the node at which a play stands is not missing
    obtain ⟨n, hn⟩ := hr.active slot hslot
    rw [hnone] at hn
    cases hn
  · have hphase : r.phase ≠ .idle := by simp [phase_eq_idle_iff, hslot]
    simpa [heq, hphase] using answer_leave_ne rfl slot n

/-- No choice is on offer when none is awaited, or none is at the place. -/
theorem offered?_eq_none_iff (hr : r.Valid) (place : Nat) :
    r.offered? place = none ↔ r.phase ≠ .awaitingChoice ∨
      ∃ n, r.current? = some n ∧ (r.pool.choicesOf n).length ≤ place := by
  unfold offered? phase current?
  cases hcursor : r.cursor with
  | idle => simp [Cursor.phase]
  | active slot => simp [Cursor.phase]
  | awaitingChoice slot =>
    obtain ⟨n, hn, -⟩ := hr.offers slot hcursor
    simp [Cursor.phase, Cursor.slot?, hn]

/-- A play that is valid is in its place.

**Proof sketch.** A valid play stands at a node of its story, and awaits a choice only where there
is one. Each field reads that off, for the phase as for the cursor. -/
theorem placed (hr : r.Valid) : r.Placed r.capacity where
  slot_lt slot hslot := by
    obtain ⟨n, hn⟩ := hr.active slot hslot
    exact (Array.getElem?_eq_some_iff.1 hn).1
  idle_iff := by
    constructor
    · intro hidle
      rw [current?, phase_eq_idle_iff.1 hidle]
      rfl
    · intro hnone
      refine Classical.byContradiction fun hphase => ?_
      obtain ⟨n, hn⟩ := hr.exists_current? hphase
      rw [hnone] at hn
      cases hn
  awaits hphase := by
    obtain ⟨n, hn⟩ := hr.exists_current? (by simp [hphase])
    obtain ⟨slot, hslot, hnode⟩ := Option.bind_eq_some_iff.1 hn
    obtain ⟨m, hm, hchoices⟩ := hr.offers slot (cursor_of_awaitingChoice hphase hslot)
    obtain rfl : n = m := Option.some.inj (hnode.symm.trans hm)
    exact ⟨n, hn, (hr.wellFormed.hasChoices_iff (mem_of_current? hn)).1 hchoices⟩
  capacity_eq := rfl
  pending_le := hr.pending_le
  rests_iff := hr.step_answer_eq_idle_iff
  ignores_iff place := by
    rw [choose_answer_eq_ignored_iff, hr.offered?_eq_none_iff]

end Valid

/-- No move changes the capacity of the stack. -/
theorem steady_capacity (capacity : Nat) : Steady (·.capacity = capacity) where
  ask _ hr := hr
  set _ hr := hr
  push _ hr _ := hr
  arrive hr _ _ := hr
  offer hr _ _ _ := hr
  halt hr _ := hr
  renew hr := hr
  load hr _ := hr

/-- In a run from a valid play, what is offered is never nothing.

**Proof sketch.** Induction on the run: an offer is in the trace from before, or the last command
made it, and then `Shows.offers` says that it was made at a node with choices. -/
theorem Run.offered_ne_nil {s : Runner} {trace : List Signal} (hs : s.Valid)
    (hr : Run Command.Sound s trace r) {cs : List Choice} (h : .event (.offered cs) ∈ trace) :
    cs ≠ [] := by
  induction hr with
  | start => cases h
  | perform hr c hc ih =>
    rcases List.mem_append.1 h with h | h
    · exact ih h
    · obtain ⟨goal, hshows⟩ := (hr.valid hs).shows_perform c
      exact (hshows.offers (Signal.mem_events_iff.2 h)).1
  | overwrite _ _ ih => exact ih h

/-- **In every run a play is in its place, and what is offered is never nothing.** Whatever is asked
of a play, whatever stories are loaded on the way and however the gates answer, it stands at a node
of its story or is idle, and awaits choices only where there are some.

**Proof sketch.** A play that begins is valid, and every change that a move is made of keeps it so.
Only a step offers choices, and only those of a node that has some. -/
theorem Run.stays_placed {pool : Pool} {capacity : Nat} {startNode : NodeId} {trace : List Signal}
    (hpool : pool.Made) (hr : Run Command.Sound (fresh pool capacity startNode) trace r) :
    r.Placed capacity ∧ ∀ cs, .offered cs ∈ Signal.events trace → cs ≠ [] := by
  have hfresh : (fresh pool capacity startNode).Valid := (Reached.fresh hpool _ _).valid
  have hvalid : r.Valid := hr.keeps steady_valid (fun flags h => h.overwrite flags) hfresh
  have hcapacity : r.capacity = capacity := hr.keeps (steady_capacity capacity) (fun _ h => h) rfl
  constructor
  · rw [← hcapacity]
    exact hvalid.placed
  · intro cs hcs
    exact hr.offered_ne_nil hfresh (Signal.mem_events_iff.1 hcs)

/-- A story of two nodes, the second of which offers a choice of the first. -/
def choosyStory : Pool :=
  (Script.rebuild "\n,1\n,2\n,2,choice,,,,,,,,,,back,1" { pool := .empty {} }).2.pool

/-- A story of one node. -/
def loneStory : Pool := (Script.rebuild "\n,2" { pool := .empty {} }).2.pool

/-- While a choice is awaited in the second slot, a story is loaded that has but one. -/
def shrink : List Command := [.start ⟨2⟩, .step, .load loneStory, .step, .choose 0, .start ⟨2⟩]

/-- The play that goes this way offers the choice, and stands in the first slot in the end.

**Proof sketch.** The run is traced up to its cursor. That the offer was not empty and that the play
is in its place are the two parts of the theorem. -/
theorem stays_placed_shrink :
    .offered (choosyStory.choicesOf (choosyStory.nodeOf ⟨2⟩)) ∈
        Signal.events ((fresh choosyStory 4 ⟨1⟩).performAll shrink).trace ∧
      choosyStory.choicesOf (choosyStory.nodeOf ⟨2⟩) ≠ [] ∧
      ((fresh choosyStory 4 ⟨1⟩).performAll shrink).runner.cursor = .active 0 ∧
      ((fresh choosyStory 4 ⟨1⟩).performAll shrink).runner.Placed 4 := by
  obtain ⟨hoffered, hcursor⟩ :
      Event.offered (choosyStory.choicesOf (choosyStory.nodeOf ⟨2⟩)) ∈
          Signal.events ((fresh choosyStory 4 ⟨1⟩).performAll shrink).trace ∧
        ((fresh choosyStory 4 ⟨1⟩).performAll shrink).runner.cursor = .active 0 := by
    decide +kernel
  have hsound : ∀ c ∈ shrink, c.Sound := by
    have hlone : loneStory.Made := Script.made_rebuild _ (.empty {})
    simpa [shrink, Command.Sound] using hlone
  have hrun : Run Command.Sound (fresh choosyStory 4 ⟨1⟩)
      ((fresh choosyStory 4 ⟨1⟩).performAll shrink).trace
      ((fresh choosyStory 4 ⟨1⟩).performAll shrink).runner := Run.start.performAll hsound
  obtain ⟨hplaced, hsome⟩ := hrun.stays_placed (Script.made_rebuild _ (.empty {}))
  exact ⟨hoffered, hsome _ hoffered, hcursor, hplaced⟩

end Runner

end StoryGraph
