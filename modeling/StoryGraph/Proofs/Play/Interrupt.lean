import StoryGraph.Proofs.FlagMembers
import StoryGraph.Proofs.Play.Reached
import StoryGraph.Proofs.Script.Work

set_option relaxedAutoImplicit false
set_option autoImplicit false

/-!
# Moves cut short

A step that finds the gate busy and a start that finds the stack full are as good as never made. A
choice may be half made then: its flags are set first, next its goal is put on the stack, and last
the gate is asked for the second time. Where it is cut short in between, what it did stays done.

## Main definitions

* `Turn.Untouched` — a turn left the play as it was, its gate apart, and showed nothing.
* `Turn.Halfway` — a turn set the flags of a choice, showed nothing and left the play where it was.

## Main results

* `Runner.untouched_or_halfway_of_busy` — which moves that find the gate busy leave the play alone.
* `Runner.untouched_or_halfway_of_full` — which moves that find the stack full leave it alone.
* `Runner.choose_eq_step_of_put_off` — a step at an open gate ends the choice that a busy gate cut
  short.
-/

namespace StoryGraph

namespace Turn

variable {α : Type} {t : Turn α} {r : Runner} {c : Choice} {waiting : List NodeId}

/-- The turn `t` left the play `r` as it was, its gate apart, and showed nothing. -/
structure Untouched (t : Turn α) (r : Runner) : Prop where
  runner : ∃ gate, t.runner = { r with gate }
  unheard : Signal.events t.trace = []

/-- The turn `t` broke the choice `c` of the play `r` off: its flags are set and `waiting` are on
the stack, but all else is as it was, the gate apart, and nothing was shown. -/
structure Halfway (t : Turn α) (r : Runner) (c : Choice) (waiting : List NodeId) : Prop where
  runner : ∃ gate, t.runner =
    { r with gate, flags := r.flags.setAll (r.pool.effectsOfChoice c), pending := waiting }
  unheard : Signal.events t.trace = []

/-- A turn that touches nothing keeps the flags. -/
theorem Untouched.flags_eq (h : t.Untouched r) : t.runner.flags = r.flags := by
  obtain ⟨gate, hrunner⟩ := h.runner
  rw [hrunner]

/-- A turn that touches nothing keeps the waiting nodes. -/
theorem Untouched.pending_eq (h : t.Untouched r) : t.runner.pending = r.pending := by
  obtain ⟨gate, hrunner⟩ := h.runner
  rw [hrunner]

/-- A choice that broke off left the play alone when no other node waits and all its flags were set
before.

**Proof sketch.** The play is where it was but for its gate, its flags and the waiting nodes. So it
was left alone exactly when the last two are the same, and setting flags changes nothing exactly
when all of them were set, by `FlagSet.setAll_eq_self_iff`. -/
theorem Halfway.untouched_iff (h : t.Halfway r c waiting) :
    t.Untouched r ↔ waiting = r.pending ∧
      ∀ f ∈ r.pool.effectsOfChoice c, FlagSet.InRange f → r.flags.has f = true := by
  obtain ⟨gate, hrunner⟩ := h.runner
  rw [← FlagSet.setAll_eq_self_iff]
  constructor
  · intro huntouched
    have hpending := huntouched.pending_eq
    have hflags := huntouched.flags_eq
    rw [hrunner] at hpending hflags
    exact ⟨hpending, hflags⟩
  · rintro ⟨hwaiting, hflags⟩
    refine ⟨⟨gate, ?_⟩, h.unheard⟩
    rw [hrunner, hwaiting, hflags]

end Turn

namespace Runner

variable {r : Runner} {id : NodeId} {place : Nat}

/-! ## Busy gates and full stacks -/

/-- A step is busy when the gate is.

**Proof sketch.** By `step_cases`: besides the busy gate, no case gives this answer. The search of
the stack and the way on from a node have other answers, by `answer_tryPending_ne` and
`answer_leave_ne`. -/
theorem step_answer_eq_busy_iff : r.step.answer = .busy ↔ r.gate.ask.1 = true := by
  constructor
  · intro h
    obtain ⟨hgate, -⟩ | ⟨-, -, heq⟩ | ⟨-, -, -, heq⟩ | ⟨_, -, -, -, -, heq⟩ |
      ⟨slot, n, -, -, -, -, heq⟩ := step_cases r
    · exact hgate
    · rw [heq] at h
      exact absurd h (answer_tryPending_ne rfl r.pending)
    · rw [heq] at h
      cases h
    · rw [heq] at h
      cases h
    · rw [heq] at h
      exact absurd h (answer_leave_ne rfl slot n)
  · intro h
    rw [step_of_busy h]

/-- A start fails exactly when the stack is full, and the error says how much it holds. -/
theorem start_answer_eq_error_iff {full : StackFull} :
    (r.start id).answer = .error full ↔ r.capacity ≤ r.pending.length ∧ full = ⟨r.capacity⟩ := by
  rcases Nat.lt_or_ge r.pending.length r.capacity with hroom | hfull
  · simp [start_of_room hroom, Turn.map, Nat.not_le_of_lt hroom]
  · simp [start_of_full hfull, hfull, eq_comm]

/-- A start is told to wait exactly when the stack had room and the gate is busy. By then the node
is on the stack. -/
theorem start_answer_eq_busy_iff :
    (r.start id).answer = .ok .busy ↔ r.pending.length < r.capacity ∧ r.gate.ask.1 = true := by
  rcases Nat.lt_or_ge r.pending.length r.capacity with hroom | hfull
  · simp [start_of_room hroom, Turn.map, Turn.after, hroom, step_answer_eq_busy_iff]
  · simp [start_of_full hfull, Nat.not_lt_of_ge hfull]

/-- A choice finds the gate busy either before it has done anything or when its goal waits.

**Proof sketch.** By `choose_cases`. The gate answers first. Once it has let the choice through,
only the start of a goal can be busy, and it is so when there was room for the goal and the gate is
busy at the second asking. -/
theorem choose_of_answer_eq_busy (h : (r.choose place).answer = .ok .busy) :
    (r.gate.ask.1 = true ∧ r.choose place = { answer := .ok .busy, runner := r.opened }) ∨
      (r.gate.ask.1 = false ∧ r.opened.gate.ask.1 = true ∧ r.pending.length < r.capacity ∧
        ∃ c goal, r.offered? place = some c ∧ c.goto = some goal ∧
          r.choose place = (r.chosen c).start goal) := by
  obtain ⟨hgate, heq⟩ | ⟨-, -, heq⟩ | ⟨c, -, -, -, heq⟩ | ⟨c, goal, hgate, hoffer, hgoto, heq⟩ :=
    choose_cases r place
  · exact .inl ⟨hgate, heq⟩
  · simp [heq] at h
  · simp [heq] at h
  · rw [heq] at h
    obtain ⟨hroom, hbusy⟩ := start_answer_eq_busy_iff.1 h
    exact .inr ⟨hgate, hbusy, hroom, c, goal, hoffer, hgoto, heq⟩

/-- A choice finds the stack full when it has set its flags.

**Proof sketch.** By `choose_cases`: only the start of a goal can fail, and by then the flags are
set. -/
theorem choose_of_answer_eq_error {full : StackFull} (h : (r.choose place).answer = .error full) :
    r.capacity ≤ r.pending.length ∧
      ∃ c goal, r.offered? place = some c ∧ c.goto = some goal ∧
        r.choose place = (r.chosen c).start goal := by
  obtain ⟨-, heq⟩ | ⟨-, -, heq⟩ | ⟨c, -, -, -, heq⟩ | ⟨c, goal, -, hoffer, hgoto, heq⟩ :=
    choose_cases r place
  · simp [heq] at h
  · simp [heq] at h
  · simp [heq] at h
  · rw [heq] at h
    exact ⟨(start_answer_eq_error_iff.1 h).1, c, goal, hoffer, hgoto, heq⟩

/-! ## Busy gates -/

/-- **A busy gate leaves the play alone, unless it closes within a choice.** A step that is busy did
nothing. So did a choice that is busy when the gate was so from the start; else the choice broke off
with its flags set and its goal on the stack.

**Proof sketch.** A busy step gives back the play with its gate asked once. For a choice,
`choose_of_answer_eq_busy` leaves two cases: a gate that was busy at once, and one that closed after
the goal was put on the stack. In the second case one node more waits than before, so something was
done. -/
theorem untouched_or_halfway_of_busy (r : Runner) (place : Nat) :
    (r.step.answer = .busy → r.step.Untouched r) ∧
      ((r.choose place).answer = .ok .busy →
        (r.gate.ask.1 = true ∧ (r.choose place).Untouched r) ∨
          (r.gate.ask.1 = false ∧ r.opened.gate.ask.1 = true ∧ ¬ (r.choose place).Untouched r ∧
            ∃ c goal, r.offered? place = some c ∧ c.goto = some goal ∧
              (r.choose place).Halfway r c (goal :: r.pending))) := by
  constructor
  · intro hstep
    rw [step_of_busy (step_answer_eq_busy_iff.1 hstep)]
    exact ⟨⟨_, rfl⟩, rfl⟩
  · intro hchoose
    obtain ⟨hgate, heq⟩ | ⟨hgate, hbusy, hroom, c, goal, hoffer, hgoto, heq⟩ :=
      choose_of_answer_eq_busy hchoose
    · left
      rw [heq]
      exact ⟨hgate, ⟨_, rfl⟩, rfl⟩
    · right
      have hhalf : (r.choose place).Halfway r c (goal :: r.pending) := by
        rw [heq, start_of_busy (r := r.chosen c) hroom hbusy]
        exact ⟨⟨_, rfl⟩, rfl⟩
      refine ⟨hgate, hbusy, fun huntouched => ?_, c, goal, hoffer, hgoto, hhalf⟩
      exact List.cons_ne_self goal r.pending (hhalf.untouched_iff.1 huntouched).1

/-- A story of two nodes: a choice at the first one sets two flags and leads to the second. -/
def forkedStory : Pool :=
  (Script.rebuild "\n,1\n,1,choice,,,,,,,,,,North,2,10&11\n,2" { pool := .empty {} }).2.pool

/-- The play that awaits this choice behind the given gate; one node may wait. -/
def atFork (gate : Gate) : Runner :=
  ((fresh forkedStory 1 ⟨1⟩).performAll [.start ⟨1⟩, .step, .install gate]).runner

/-- A play can come to this choice, whatever the gate. -/
theorem reached_atFork (gate : Gate) : (atFork gate).Reached := by
  have hpool : forkedStory.Made := Script.made_rebuild _ (.empty {})
  exact (Reached.fresh hpool 1 ⟨1⟩).performAll (by simp [Command.Sound])

/-- While the gate is closed, the choice leaves the play alone. -/
theorem untouched_atFork :
    ((atFork { settled := true }).choose 0).Untouched (atFork { settled := true }) := by
  have hgate : (atFork { settled := true }).gate.ask.1 = true := by decide +kernel
  have hbusy : ((atFork { settled := true }).choose 0).answer = .ok .busy := by
    rw [choose_of_busy hgate]
  obtain ⟨-, huntouched⟩ | ⟨hopen, -⟩ := (untouched_or_halfway_of_busy _ 0).2 hbusy
  · exact huntouched
  · rw [hgate] at hopen
    cases hopen

/-- The gate that is open when it is asked, and busy when it is asked again. -/
def closing : Gate := { upcoming := [false, true] }

/-- When the gate closes within the choice, the choice is busy, yet its flags are set and its goal
waits.

**Proof sketch.** The run is traced: no node waited before, and one waits afterwards. A turn that
touches nothing keeps the waiting nodes. -/
theorem not_untouched_closing :
    (atFork closing).Reached ∧ ((atFork closing).choose 0).answer = .ok .busy ∧
      (atFork closing).pending = [] ∧ ((atFork closing).choose 0).runner.pending = [⟨2⟩] ∧
      ((atFork closing).choose 0).runner.flags.ids = [10, 11] ∧
      ¬ ((atFork closing).choose 0).Untouched (atFork closing) := by
  obtain ⟨hbusy, hbefore, hafter, hflags⟩ :
      ((atFork closing).choose 0).answer = .ok .busy ∧ (atFork closing).pending = [] ∧
        ((atFork closing).choose 0).runner.pending = [⟨2⟩] ∧
        ((atFork closing).choose 0).runner.flags.ids = [10, 11] := by decide +kernel
  refine ⟨reached_atFork closing, hbusy, hbefore, hafter, hflags, fun huntouched => ?_⟩
  -- no rewriting here: it would compare the two plays by running them
  have hpending : ([⟨2⟩] : List NodeId) = [] :=
    hafter.symm.trans (huntouched.pending_eq.trans hbefore)
  cases hpending

/-- **A choice that a closing gate cut short is put off.** The next step ends it, when the gate is
open, just as an open gate would have ended it at once.

**Proof sketch.** The choice that was cut short left the play with its flags set and its goal on top
of the stack. That is the play which an open gate would have made a step of, after one notice that
the goal was put there. -/
theorem choose_eq_step_of_put_off (hopen : r.gate.ask.1 = false)
    (hbusy : (r.choose place).answer = .ok .busy) :
    ∃ earlier, Signal.events earlier = [] ∧
      { r with gate := .alwaysOpen }.choose place =
        ({ (r.choose place).runner with gate := .alwaysOpen }.step.after earlier).map .ok := by
  obtain ⟨hgate, -⟩ | ⟨-, hgate, hroom, c, goal, hoffer, hgoto, heq⟩ :=
    choose_of_answer_eq_busy hbusy
  · rw [hopen] at hgate
    cases hgate
  · refine ⟨[.notice (.pushed goal (r.pending.length + 1))], rfl, ?_⟩
    have hchoose := choose_of_goto (r := { r with gate := .alwaysOpen }) rfl hoffer hgoto
    have hstart := start_of_room (r := { r with gate := .alwaysOpen }.chosen c) hroom goal
    have hplay : { (r.choose place).runner with gate := .alwaysOpen } =
        { ({ r with gate := .alwaysOpen }.chosen c) with pending := goal :: r.pending } := by
      rw [heq, start_of_busy (r := r.chosen c) hroom hgate]
      rfl
    rw [hplay]
    exact hchoose.trans hstart

/-! ## Full stacks -/

/-- **A full stack leaves the play alone when a node is started, but not when a choice is made.**
The choice breaks off with its flags set, so it leaves the play alone only if all of them were set
before.

**Proof sketch.** A start looks at the room first, and gives the play back when there is none. A
choice sets its flags before it starts its goal, so when that finds no room the flags are set and
nothing else is different; `Halfway.untouched_iff` says when that is no difference. -/
theorem untouched_or_halfway_of_full (r : Runner) (id : NodeId) (place : Nat) (full : StackFull) :
    ((r.start id).answer = .error full → (r.start id).Untouched r) ∧
      ((r.choose place).answer = .error full →
        ∃ c goal, r.offered? place = some c ∧ c.goto = some goal ∧
          (r.choose place).Halfway r c r.pending ∧
          ((r.choose place).Untouched r ↔
            ∀ f ∈ r.pool.effectsOfChoice c, FlagSet.InRange f → r.flags.has f = true)) := by
  constructor
  · intro hstart
    rw [start_of_full (start_answer_eq_error_iff.1 hstart).1]
    exact ⟨⟨r.gate, rfl⟩, rfl⟩
  · intro hchoose
    obtain ⟨hfull, c, goal, hoffer, hgoto, heq⟩ := choose_of_answer_eq_error hchoose
    have hhalf : (r.choose place).Halfway r c r.pending := by
      rw [heq, start_of_full (r := r.chosen c) hfull]
      exact ⟨⟨_, rfl⟩, rfl⟩
    exact ⟨c, goal, hoffer, hgoto, hhalf, by simpa using hhalf.untouched_iff⟩

/-- The play that awaits the choice of the story above while the stack is full. -/
def crowded : Runner := ((atFork { upcoming := [true] }).perform (.start ⟨1⟩)).runner

/-- A start finds the stack full then and leaves the play alone. -/
theorem untouched_crowded :
    (crowded.start ⟨2⟩).answer = .error ⟨1⟩ ∧ (crowded.start ⟨2⟩).Untouched crowded := by
  have hfull : (crowded.start ⟨2⟩).answer = .error ⟨1⟩ := by decide +kernel
  exact ⟨hfull, (untouched_or_halfway_of_full crowded ⟨2⟩ 0 ⟨1⟩).1 hfull⟩

/-- The choice finds the stack full as well, yet its flags are set.

**Proof sketch.** The run is traced: no flag was set before, and two are set afterwards. A turn that
touches nothing keeps the flags. -/
theorem not_untouched_crowded :
    crowded.Reached ∧ (crowded.choose 0).answer = .error ⟨1⟩ ∧ crowded.flags.ids = [] ∧
      (crowded.choose 0).runner.flags.ids = [10, 11] ∧
      ¬ (crowded.choose 0).Untouched crowded := by
  obtain ⟨hfull, hbefore, hafter⟩ :
      (crowded.choose 0).answer = .error ⟨1⟩ ∧ crowded.flags.ids = [] ∧
        (crowded.choose 0).runner.flags.ids = [10, 11] := by decide +kernel
  have hreached : crowded.Reached :=
    (reached_atFork { upcoming := [true] }).perform (.start ⟨1⟩) trivial
  refine ⟨hreached, hfull, hbefore, hafter, fun huntouched => ?_⟩
  have hflags : ([10, 11] : List FlagId) = [] :=
    hafter.symm.trans ((congrArg FlagSet.ids huntouched.flags_eq).trans hbefore)
  cases hflags

end Runner

end StoryGraph
