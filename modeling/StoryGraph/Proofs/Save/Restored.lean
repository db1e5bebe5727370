import StoryGraph.Proofs.FlagNumbers
import StoryGraph.Proofs.Graph.Lookup
import StoryGraph.Proofs.Play.Step

set_option relaxedAutoImplicit false
set_option autoImplicit false

/-!
# What is restored

A snapshot may come from anywhere: its flags in any order, given twice or out of range, its node
behind flags that are not set or not in the story at all. Restoring it is exact all the same. The
flags in range are set, and the node is entered if it is there; if it is not, the play stands where
it stood.

## Main definitions

* `Snapshot.Lists` — a snapshot lists the flags that are set in ascending order, each once.
* `Snapshot.Restores` — what it is to restore a snapshot.

## Main results

* `Snapshot.lists_capture` — a snapshot of a play lists its flags.
* `Runner.Reached.restores` — in every play that can be, any snapshot is restored exactly.
-/

namespace StoryGraph

namespace Snapshot

/-! ## The flags of a snapshot -/

/-- The snapshot lists the flags of a set in ascending order, each once, and all of them are in
range. -/
structure Lists (saved : Snapshot) (flags : FlagSet) : Prop where
  ascending : saved.flags.Pairwise fun f g => f.toInt < g.toInt
  inRange : ∀ f ∈ saved.flags, FlagSet.InRange f
  mem_iff : ∀ f, f ∈ saved.flags ↔ flags.has f = true

/-- A snapshot of a play lists its flags. -/
theorem lists_capture (r : Runner) : (capture r).Lists r.flags where
  ascending := FlagSet.pairwise_ids r.flags
  inRange _ hf := FlagSet.inRange_of_has (FlagSet.mem_ids.1 hf)
  mem_iff _ := FlagSet.mem_ids

/-! ## Restoring -/

/-- The turn `t` restores the snapshot in the play `r`. -/
structure Restores (saved : Snapshot) (options : Options) (r : Runner) (t : Turn Bool) : Prop where
  /-- The saved node is entered when it is asked for and in the story, whatever flags it requires
  and however the gate would answer. -/
  answer_iff : t.answer = true ↔
    options.jump = true ∧ ∃ id, saved.nodeId = some id ∧ r.pool.contains id = true
  /-- The flags are the earlier ones, unless they are cleared, those of the snapshot that are in
  range, and those of the node if it is entered. -/
  has_iff : ∀ f, t.runner.flags.has f = true ↔
    (options.clearFlags = false ∧ r.flags.has f = true) ∨
      FlagSet.InRange f ∧ (f ∈ saved.flags ∨
        t.answer = true ∧ ∃ n ∈ r.pool.nodes, saved.nodeId = some n.id ∧ f ∈ r.pool.effectsOf n)
  entered : t.answer = true → t.runner.pending = [] ∧ t.runner.phase = .nodeActive ∧
    ∃ n ∈ r.pool.nodes, saved.nodeId = some n.id ∧ t.runner.current? = some n ∧
      Signal.events t.trace = [.entered n t.runner.flags]
  missed : t.answer = false → t.runner.pending = r.pending ∧ t.runner.phase = r.phase ∧
    t.runner.cursor = r.cursor ∧ t.runner.current? = r.current? ∧ Signal.events t.trace = []
  /-- The gate is not asked, and nothing else is changed. -/
  spares : t.runner.gate = r.gate ∧ t.runner.pool = r.pool ∧ t.runner.capacity = r.capacity ∧
    t.runner.startNode = r.startNode
  captured : (capture t.runner).Lists t.runner.flags

variable {saved : Snapshot} {options : Options} {r : Runner} {t : Turn Bool}

/-- A turn restores a snapshot when it enters no node, for there is none to enter, and sets the
flags.

**Proof sketch.** The turn has answered false, so every part that speaks of an entry holds for want
of one. The others say that the flags were set and that nothing else was touched. -/
theorem restores_of_missed
    (hnot : ¬ (options.jump = true ∧ ∃ id, saved.nodeId = some id ∧ r.pool.contains id = true))
    (hanswer : t.answer = false)
    (hrunner : t.runner = { r with flags := saved.flagsOver options r.flags })
    (hevents : Signal.events t.trace = []) : saved.Restores options r t where
  answer_iff := by
    rw [hanswer]
    exact ⟨Bool.false_ne_true.elim, fun h => absurd h hnot⟩
  has_iff f := by
    rw [hrunner, hanswer, has_flagsOver_iff]
    simp
  entered htrue := by
    rw [hanswer] at htrue
    cases htrue
  missed _ := by
    rw [hrunner]
    exact ⟨rfl, rfl, rfl, rfl, hevents⟩
  spares := by
    rw [hrunner]
    exact ⟨rfl, rfl, rfl, rfl⟩
  captured := lists_capture t.runner

/-- A turn restores a snapshot when it enters the node that is saved.

**Proof sketch.** The node that was found is the one whose id is saved, and no other node has this
id, because the pool is well formed. So the flags that it adds are those of any node that bears the
saved id, which is how `Restores` puts it. The place, the stack and the event are read off the
runner and the trace; the part on a missed node is empty, as the answer is true. -/
theorem restores_of_entered (hp : r.pool.WellFormed) (hjump : options.jump = true) {id : NodeId}
    (hid : saved.nodeId = some id) {slot : Nat} {n : Node}
    (hfind : r.pool.find? id = some (slot, n)) (hanswer : t.answer = true)
    (hrunner : t.runner = { r with
      flags := (saved.flagsOver options r.flags).setAll (r.pool.effectsOf n), pending := [],
      cursor := .active slot })
    (hevents : Signal.events t.trace = [.entered n t.runner.flags]) :
    saved.Restores options r t := by
  obtain ⟨hslot, rfl⟩ := hp.find?_eq_some_iff.1 hfind
  have hmem : n ∈ r.pool.nodes := Array.mem_of_getElem? hslot
  -- the node of an id is the only one
  have hnode : ∀ m ∈ r.pool.nodes, saved.nodeId = some m.id → m = n := by
    intro m hm hsaved
    rw [hid, Option.some.injEq] at hsaved
    exact hp.eq_of_id_eq hm hmem hsaved.symm
  constructor
  case answer_iff =>
    refine iff_of_true hanswer ⟨hjump, n.id, hid, ?_⟩
    rw [Pool.WellFormed.contains_iff, (Pool.find?_eq_some_iff_slotOf?.1 hfind).1,
      Option.isSome_some]
  case has_iff =>
    intro f
    rw [hrunner, hanswer, FlagSet.has_setAll, Bool.or_eq_true, has_flagsOver_iff,
      decide_eq_true_iff, or_assoc, ← and_or_left]
    refine or_congr_right (and_congr_right fun _ => or_congr_right ⟨fun hf => ?_, ?_⟩)
    · exact ⟨rfl, n, hmem, hid, hf⟩
    · rintro ⟨-, m, hm, hsaved, hf⟩
      rwa [hnode m hm hsaved] at hf
  case entered =>
    intro _
    refine ⟨by rw [hrunner], by rw [hrunner]; rfl, n, hmem, hid, ?_, hevents⟩
    rw [hrunner]
    exact hslot
  case missed =>
    intro hfalse
    rw [hanswer] at hfalse
    cases hfalse
  case spares =>
    rw [hrunner]
    exact ⟨rfl, rfl, rfl, rfl⟩
  case captured => exact lists_capture t.runner

end Snapshot

namespace Runner

/-- **Any snapshot is restored exactly.** In every play that can be, whatever the options and
however the snapshot came about, the restoring answers whether the saved node was asked for and in
the story. The flags are just those in range that it is to leave set; with the node, the play stands
there with no node waiting and has shown it once, and without it, the play stands where it stood and
has shown nothing.

**Proof sketch.** The flags are set first, and that concerns neither the stack nor the cursor. A
jump finds the node by the index, and in a pool that is well formed the index finds each node in the
slot where it is. -/
theorem Reached.restores {r : Runner} (hr : r.Reached) (saved : Snapshot)
    (options : Snapshot.Options) : saved.Restores options r (saved.restore r options) := by
  have hp := hr.valid.wellFormed
  obtain ⟨hnone, heq⟩ | ⟨id, later, hid, hjump, hlater, heq⟩ := saved.restore_cases r options
  · refine Snapshot.restores_of_missed ?_ (by rw [heq]) (by rw [heq]) (by rw [heq]; rfl)
    rintro ⟨hjump, id, hid, -⟩
    rcases hnone with hnone | hnone
    · rw [hnone] at hid
      cases hid
    · rw [hnone] at hjump
      cases hjump
  · have hquiet : Signal.events later = [] := Signal.events_eq_nil fun σ hσ => ⟨_, hlater σ hσ⟩
    obtain ⟨hfind, hmissed⟩ | ⟨slot, n, hfind, hentered⟩ :=
      jump_cases { r with flags := saved.flagsOver options r.flags } id
    · rw [hmissed] at heq
      refine Snapshot.restores_of_missed ?_ (by rw [heq]) (by rw [heq]) ?_
      · rintro ⟨-, id', hid', hcontains⟩
        obtain rfl : id = id' := Option.some.inj (hid.symm.trans hid')
        rw [Pool.WellFormed.contains_iff, hp.find?_eq_none_iff.1 hfind] at hcontains
        cases hcontains
      · rw [heq, Signal.events_append, hquiet]
        rfl
    · rw [hentered] at heq
      refine Snapshot.restores_of_entered hp hjump hid hfind (by rw [heq]; rfl)
        (by rw [heq]; rfl) ?_
      rw [heq, Signal.events_append, hquiet]
      rfl

/-- A story with a node that requires a flag, and has an effect flag that is out of range. -/
def guardedStory : Pool :=
  (Script.rebuild "\n,1,,,,,,,,,,,,,,5&2000,7\n,2" { pool := .empty {} }).2.pool

/-- A way to a full stack while the gate is busy. -/
def holdBack : List Command :=
  [.setFlags [600], .start ⟨2⟩, .install { settled := true }, .start ⟨9⟩, .start ⟨1⟩]

/-- The play that is held back so. -/
def heldBack : Runner := ((fresh guardedStory 2 ⟨2⟩).performAll holdBack).runner

/-- A snapshot that somebody has edited. -/
def editedSave (id : NodeId) : Snapshot :=
  { version := 1, nodeId := some id, flags := [9, -1, 1024, 3, 9] }

/-- Behind a busy gate and with a full stack, the node is entered although its flag is not set; one
that is not in the story is missed, and only the flags are restored.

**Proof sketch.** The run is traced for its answers and its flags. That both turns restore their
snapshots is `Reached.restores`, whatever the gate and the stack. -/
theorem restores_heldBack :
    heldBack.Reached ∧ heldBack.gate.ask.1 = true ∧ heldBack.pending = [⟨1⟩, ⟨9⟩] ∧
      heldBack.capacity = 2 ∧ heldBack.admission ⟨1⟩ = .error .blocked ∧
      (editedSave ⟨1⟩).Restores { clearFlags := false } heldBack
        ((editedSave ⟨1⟩).restore heldBack { clearFlags := false }) ∧
      ((editedSave ⟨1⟩).restore heldBack { clearFlags := false }).answer = true ∧
      ((editedSave ⟨1⟩).restore heldBack { clearFlags := false }).runner.flags.ids =
        [3, 5, 9, 600] ∧
      (editedSave ⟨9⟩).Restores {} heldBack ((editedSave ⟨9⟩).restore heldBack) ∧
      ((editedSave ⟨9⟩).restore heldBack).answer = false ∧
      ((editedSave ⟨9⟩).restore heldBack).runner.flags.ids = [3, 9] := by
  have hreached : heldBack.Reached :=
    (Reached.fresh (Script.made_rebuild _ (.empty {})) 2 ⟨2⟩).performAll
      (by simp [holdBack, Command.Sound])
  obtain ⟨hbusy, hpending, hcapacity, hblocked, hentered, hflags, hmissed, hflags'⟩ :
      heldBack.gate.ask.1 = true ∧ heldBack.pending = [⟨1⟩, ⟨9⟩] ∧ heldBack.capacity = 2 ∧
        heldBack.admission ⟨1⟩ = .error .blocked ∧
        ((editedSave ⟨1⟩).restore heldBack { clearFlags := false }).answer = true ∧
        ((editedSave ⟨1⟩).restore heldBack { clearFlags := false }).runner.flags.ids =
          [3, 5, 9, 600] ∧
        ((editedSave ⟨9⟩).restore heldBack).answer = false ∧
        ((editedSave ⟨9⟩).restore heldBack).runner.flags.ids = [3, 9] := by decide +kernel
  exact ⟨hreached, hbusy, hpending, hcapacity, hblocked, hreached.restores _ _, hentered, hflags,
    hreached.restores _ _, hmissed, hflags'⟩

end Runner

end StoryGraph
