import StoryGraph.Proofs.Play.Beat

set_option relaxedAutoImplicit false
set_option autoImplicit false

/-!
# Moves tell what they show

A move shows one thing at most, and its answer tells which: the presenter hears of one node when the
answer is that a node was entered, of one offer when it is that choices were presented, of the end
when it is that the story ended, and of nothing otherwise.

## Main definitions

* `Runner.Arrived` — where a play stands that told of a node.
* `Turn.Reports` — the answer to a move tells what it showed.
* `Turn.Lands` — the answer to a jump does.

## Main results

* `Runner.Reached.one_event` — the moves of every play that can be tell what they show.
-/

namespace StoryGraph

/-- The play `r` of `p` stands at the node `n`, of which it told when `flags` were set. -/
structure Runner.Arrived (p : Pool) (r : Runner) (n : Node) (flags : FlagSet) : Prop where
  phase : r.phase = .nodeActive
  current : r.current? = some n
  flags_eq : flags = r.flags
  /-- The effect flags of the node that are in range were set before. -/
  marked : ∀ f ∈ p.effectsOf n, FlagSet.InRange f → flags.has f = true

namespace Turn

/-- The answer to the move `t` of a play of `p` tells what it showed. -/
structure Reports (p : Pool) (t : Turn (Except StackFull Outcome)) : Prop where
  entered_iff : ∀ id, t.answer = .ok (.entered id) ↔
    ∃ n flags, n.id = id ∧ Signal.events t.trace = [.entered n flags]
  arrived : ∀ n flags, .entered n flags ∈ Signal.events t.trace → t.runner.Arrived p n flags
  presented_iff : t.answer = .ok .choicesPresented ↔
    ∃ cs, Signal.events t.trace = [.offered cs]
  /-- What is offered is the choices of the active node, and there are some. -/
  offered : ∀ cs, .offered cs ∈ Signal.events t.trace →
    cs ≠ [] ∧ ∃ n, t.runner.current? = some n ∧ cs = p.choicesOf n
  ended_iff : t.answer = .ok .ended ↔ Signal.events t.trace = [.ended]
  /-- Nothing is shown when the stack is full or the outcome is any other. -/
  quiet_iff : Signal.events t.trace = [] ↔ ∀ o, t.answer = .ok o → o.isShown = false

/-- The answer to the jump `t` to `goal` in a play of `p` tells whether a node was shown. -/
structure Lands (p : Pool) (goal : Option NodeId) (t : Turn Bool) : Prop where
  true_iff : t.answer = true ↔ ∃ n flags, Signal.events t.trace = [.entered n flags]
  false_iff : t.answer = false ↔ Signal.events t.trace = []
  arrived : ∀ n flags, .entered n flags ∈ Signal.events t.trace →
    goal = some n.id ∧ t.runner.Arrived p n flags

end Turn

namespace Runner

variable {r : Runner} {flags : FlagSet} {goal : Option NodeId}

namespace Shows

variable {t : Turn Reply}

/-- A turn that told of a node stands there. -/
theorem arrived (h : r.Shows flags goal t) {n : Node} {handed : FlagSet}
    (hshown : .entered n handed ∈ Signal.events t.trace) : t.runner.Arrived r.pool n handed := by
  cases h with
  | entered m hm hphase hcurrent hflags hevents _ =>
    rw [hevents] at hshown
    obtain ⟨rfl, rfl⟩ : n = m ∧ handed = t.runner.flags := by simpa using hshown
    exact ⟨hphase, hcurrent, rfl, fun f hf hin => (hflags f).2 (.inr ⟨hin, hf⟩)⟩
  | offered _ _ _ _ _ _ hevents _ => simp [hevents] at hshown
  | ended _ _ hevents _ => simp [hevents] at hshown
  | nothing _ _ hevents _ => simp [hevents] at hshown

/-- The answer to a move tells what it showed.

**Proof sketch.** It is enough to say of each answer which events it comes with, because what an
entry and an offer leave behind is read off the events by `arrived` and `offers`. What is seen of
the turn fixes the answer and the events together, case by case. -/
theorem reports {t : Turn (Except StackFull Outcome)} (h : r.Shows flags none (t.map .moved)) :
    t.Reports r.pool := by
  suffices hiff : (∀ id, t.answer = .ok (.entered id) ↔
        ∃ n flags, n.id = id ∧ Signal.events t.trace = [.entered n flags]) ∧
      (t.answer = .ok .choicesPresented ↔ ∃ cs, Signal.events t.trace = [.offered cs]) ∧
      (t.answer = .ok .ended ↔ Signal.events t.trace = [.ended]) ∧
      (Signal.events t.trace = [] ↔ ∀ o, t.answer = .ok o → o.isShown = false) by
    obtain ⟨hentered, hpresented, hended, hquiet⟩ := hiff
    exact ⟨hentered, fun _ _ => h.arrived, hpresented, fun _ => h.offers, hended, hquiet⟩
  cases h with
  | entered n _ _ _ _ hevents hanswer =>
    have hok : t.answer = .ok (.entered n.id) := by simpa [Turn.map] using hanswer
    have hshown : Signal.events t.trace = [.entered n t.runner.flags] := hevents
    simp [hok, hshown, Outcome.isShown]
  | offered n _ _ _ _ _ hevents hanswer =>
    have hok : t.answer = .ok .choicesPresented := Reply.moved.inj hanswer
    have hshown : Signal.events t.trace = [.offered (r.pool.choicesOf n)] := hevents
    simp [hok, hshown, Outcome.isShown]
  | ended _ _ hevents hanswer =>
    have hok : t.answer = .ok .ended := Reply.moved.inj hanswer
    have hshown : Signal.events t.trace = [.ended] := hevents
    simp [hok, hshown, Outcome.isShown]
  | nothing _ _ hevents hanswer =>
    have hquiet : ∀ o, t.answer = .ok o → o.isShown = false := fun o ho => by
      simpa [Turn.map, ho, Reply.isShown] using hanswer
    have hshown : Signal.events t.trace = [] := hevents
    have hne : ∀ o, o.isShown = true → t.answer ≠ .ok o := fun o ho heq => by
      simp [hquiet o heq] at ho
    simpa [hshown] using ⟨fun id => hne _ rfl, hne _ rfl, hne _ rfl, hquiet⟩

/-- The answer to a jump tells whether a node was shown.

**Proof sketch.** A jump is never seen to offer or to end. If it entered a node, the answer is true
and the one event names the goal; if it showed nothing, the answer is false. -/
theorem lands {t : Turn Bool} (h : r.Shows flags goal (t.map .entered)) : t.Lands r.pool goal := by
  have harrived : ∀ n handed, .entered n handed ∈ Signal.events t.trace →
      t.runner.Arrived r.pool n handed := fun _ _ => h.arrived
  cases h with
  | entered n _ _ _ _ hevents hanswer =>
    obtain ⟨htrue, hgoal⟩ : t.answer = true ∧ goal = some n.id := by
      simpa [Turn.map] using hanswer
    have hshown : Signal.events t.trace = [.entered n t.runner.flags] := hevents
    refine ⟨by simp [htrue, hshown], by simp [htrue, hshown], fun m handed hm => ?_⟩
    refine ⟨?_, harrived m handed hm⟩
    obtain ⟨rfl, -⟩ : m = n ∧ handed = t.runner.flags := by simpa [hshown] using hm
    exact hgoal
  | offered _ _ _ _ _ _ _ hanswer => cases hanswer
  | ended _ _ _ hanswer => cases hanswer
  | nothing _ _ hevents hanswer =>
    have hfalse : t.answer = false := hanswer
    have hshown : Signal.events t.trace = [] := hevents
    exact ⟨by simp [hfalse, hshown], by simp [hfalse, hshown], by simp [hshown]⟩

end Shows

/-- **A move shows one thing at most, and its answer tells which.**

**Proof sketch.** Every command comes to the entry of a node, an offer, the end or nothing that is
seen, and each of them fixes the answer. -/
theorem Reached.one_event (hr : r.Reached) :
    (∀ id, (r.start id).Reports r.pool) ∧ r.newGame.Reports r.pool ∧
      (r.step.map .ok).Reports r.pool ∧ (∀ place, (r.choose place).Reports r.pool) ∧
      (∀ id, (r.jump id).Lands r.pool (some id)) ∧
      ∀ saved options, (Snapshot.restore saved r options).Lands r.pool saved.nodeId := by
  have hvalid := hr.valid
  refine ⟨fun id => ?_, ?_, ?_, fun place => ?_, fun id => ?_, fun saved options => ?_⟩
  · exact (hvalid.shows_start id).reports
  · exact hvalid.shows_newGame.reports
  · exact hvalid.beat_step.shows.reports
  · exact (hvalid.shows_choose place).reports
  · exact (hvalid.shows_jump id).lands
  · exact (hvalid.shows_restore saved options).lands

/-- Below two nodes that may not be entered, the third is shown, with its flag set; a jump to one
that is not in the story shows nothing.

**Proof sketch.** The run is traced for its answers and its flags. The events follow from the
answers by the theorem. -/
theorem one_event_filled :
    filled.step.answer = .entered ⟨2⟩ ∧
      (∃ n flags, n.id = ⟨2⟩ ∧ Signal.events filled.step.trace = [.entered n flags] ∧
        flags.ids = [6]) ∧
      (filled.jump ⟨9⟩).answer = false ∧ Signal.events (filled.jump ⟨9⟩).trace = [] := by
  obtain ⟨hanswer, hids, hmissing⟩ : filled.step.answer = .entered ⟨2⟩ ∧
      filled.step.runner.flags.ids = [6] ∧ (filled.jump ⟨9⟩).answer = false := by decide +kernel
  have hreached : filled.Reached :=
    (Reached.fresh (Script.made_rebuild _ (.empty {})) 4 ⟨1⟩).performAll
      (by simp [fillStack, Command.Sound])
  obtain ⟨-, -, hstep, -, hjump, -⟩ := hreached.one_event
  -- from here on the play is any that answers so, and nothing is run again
  generalize filled = r at hanswer hids hmissing hstep hjump ⊢
  obtain ⟨n, flags, hid, hshown⟩ := (hstep.entered_iff ⟨2⟩).1 (congrArg Except.ok hanswer)
  have hflags : flags = r.step.runner.flags := (hstep.arrived n flags (by simp [hshown])).flags_eq
  refine ⟨hanswer, ⟨n, flags, hid, hshown, ?_⟩, hmissing, (hjump ⟨9⟩).false_iff.1 hmissing⟩
  rw [hflags, hids]

end Runner

end StoryGraph
