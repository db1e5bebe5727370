import StoryGraph.Proofs.Check.Issue
import StoryGraph.Proofs.Play.Within
import StoryGraph.Proofs.Script.Work

set_option relaxedAutoImplicit false
set_option autoImplicit false

/-!
# What a check promises of a play

A check looks at the story alone, and what it says holds of every play of the story, however long:
a node reported as unreachable is never shown, and a story without dangling links never stalls but
on a flag.

## Main results

* `Runner.Run.not_shown_of_unreachable` — no play from the start shows a node that is reported as
  unreachable.
* `Runner.Run.stalls_on_flags` — without dangling links every node that a play tries is in the
  story, and a play that stalls lacks a flag of each node that it tried.
-/

namespace StoryGraph

namespace Pool

variable {p : Pool}

/-! ## Closed parts of a story -/

/-- The nodes that a search reaches are closed under links. -/
theorem closed_reached (hp : p.WellFormed) (start : NodeId) :
    p.Closed fun id => ∀ slot, p.slotOf? id = some slot → (p.reached start)[slot]? = some true := by
  intro n hn hreached target htarget next hnext
  obtain ⟨slot, hslot⟩ := Array.mem_iff_getElem?.1 hn
  have hid : p.slotOf? n.id = some slot :=
    (hp.slotOf?_eq_some_iff n.id slot).2 (by simp [node?, hslot])
  exact reached_of_mem_targets hp (hreached slot hid) hslot htarget hnext

/-- Without dangling links the story as a whole is closed under them.

**Proof sketch.** A target is a next node or the goal of a choice. If it were outside, the report
would have an issue for it, of the one kind or of the other. -/
theorem closed_contains
    (hnext : ∀ source target, .danglingNext source target ∉ p.check.issues)
    (hchoice : ∀ source place target, .danglingChoice source place target ∉ p.check.issues) :
    p.Closed fun id => p.contains id = true := by
  intro n hn _ target htarget
  cases hout : p.contains target with
  | true => rfl
  | false =>
    rcases List.mem_append.1 htarget with h | h
    · have hissue := danglingNext_mem_check_iff.2 ⟨n, hn, rfl, by simpa using h, hout⟩
      exact absurd hissue (hnext n.id target)
    · obtain ⟨c, hc, hgoto⟩ := List.mem_filterMap.1 h
      obtain ⟨place, hplace⟩ := List.mem_iff_getElem?.1 hc
      have hissue := danglingChoice_mem_check_iff.2 ⟨n, hn, rfl, c, hplace, hgoto, hout⟩
      exact absurd hissue (hchoice n.id place target)

end Pool

namespace Runner

variable {pool : Pool} {capacity : Nat} {startNode : NodeId} {r : Runner} {trace : List Signal}

/-- A fresh play stays wherever it is sent. -/
theorem within_fresh (pool : Pool) (Q : NodeId → Prop) (capacity : Nat) (startNode : NodeId) :
    (fresh pool capacity startNode).Within pool Q startNode :=
  ⟨rfl, rfl, by simp [fresh], by rintro slot n ⟨⟩⟩

/-! ## Unreachable nodes -/

/-- **A node reported as unreachable is never shown.** Whatever a play is asked, if it is sent to
the node `start` alone, then no node is entered that a check from `start` reports.

**Proof sketch.** The nodes that the search reaches are closed under links, so the play stays among
them. A node that is reported has a slot that is not reached, and it has no other slot. -/
theorem Run.not_shown_of_unreachable (hpool : pool.Made) {start : NodeId}
    (hr : Run (Command.StaysIn (· = start) startNode) (fresh pool capacity startNode) trace r)
    {n : Node} {flags : FlagSet} (hshown : .entered n flags ∈ Signal.events trace) :
    .unreachable n.id ∉ (pool.checkFrom start).issues := by
  have hp := hpool.wellFormed
  have hstart : ∀ slot, pool.slotOf? start = some slot →
      (pool.reached start)[slot]? = some true := fun slot => Pool.reached_start hp
  have hwithin := (hr.mono fun c hc => hc.mono (by rintro id rfl; exact hstart)).within hp
    (Pool.closed_reached hp start) (within_fresh pool _ capacity startNode)
  obtain ⟨-, hreached⟩ := hwithin.2 _ (Signal.mem_events_iff.1 hshown)
  rw [Pool.unreachable_mem_checkFrom_iff]
  rintro ⟨slot, m, hm, hid, hunreached⟩
  have hslot : pool.slotOf? n.id = some slot := by
    rw [hp.slotOf?_eq_some_iff, hm, ← hid]
    rfl
  rw [hreached slot hslot] at hunreached
  cases hunreached

/-- A story in which the choices of two nodes alternate: the first node has the choice of the second
for its own, and loses its last one. The third node is at the end of no link. -/
def crossedStory : Pool :=
  (Script.rebuild
    "\n,1\n,1,choice,,,,,,,,,,a,2\n,4,choice,,,,,,,,,,b,5\n,1,choice,,,,,,,,,,c,3\n,2\n,3\n,5"
    { pool := .empty {} }).2.pool

/-- A way to the node behind the choice that the first node has not got from its rows. -/
def throughCrossedChoice : List Command := [.start ⟨1⟩, .step, .choose 1]

/-- The play that goes this way shows a node that is reported as reachable, while the node behind
the lost choice is not.

**Proof sketch.** The run is traced. That the fifth node is not reported follows from the theorem.
That the third one is, as no path leads to it: the first, the third and the fifth slot are closed
under links, and the third node is in none of them. -/
theorem not_shown_of_unreachable_crossed :
    .entered (crossedStory.nodeOf ⟨5⟩) .empty ∈
        Signal.events ((fresh crossedStory 4 ⟨0⟩).performAll throughCrossedChoice).trace ∧
      .unreachable ⟨5⟩ ∉ (crossedStory.checkFrom ⟨1⟩).issues ∧
      .unreachable ⟨3⟩ ∈ (crossedStory.checkFrom ⟨1⟩).issues := by
  obtain ⟨hshown, hid, hstart, hthird, hlinks⟩ :
      Event.entered (crossedStory.nodeOf ⟨5⟩) .empty ∈
          Signal.events ((fresh crossedStory 4 ⟨0⟩).performAll throughCrossedChoice).trace ∧
        (crossedStory.nodeOf ⟨5⟩).id = ⟨5⟩ ∧ crossedStory.slotOf? ⟨1⟩ = some 0 ∧
        (crossedStory.node? 3).map (·.id) = some ⟨3⟩ ∧
        ∀ slot ∈ [0, 2, 4], ∀ next ∈ crossedStory.links slot, next ∈ [0, 2, 4] := by
    decide +kernel
  have hcs : ∀ c ∈ throughCrossedChoice, c.StaysIn (· = ⟨1⟩) ⟨0⟩ := by
    simp [throughCrossedChoice, Command.StaysIn, Command.goal?]
  have hrun : Run (Command.StaysIn (· = ⟨1⟩) ⟨0⟩) (fresh crossedStory 4 ⟨0⟩)
      ((fresh crossedStory 4 ⟨0⟩).performAll throughCrossedChoice).trace
      ((fresh crossedStory 4 ⟨0⟩).performAll throughCrossedChoice).runner :=
    Run.start.performAll hcs
  refine ⟨hshown, ?_, ?_⟩
  · rw [← hid]
    exact hrun.not_shown_of_unreachable (Script.made_rebuild _ (.empty {})) hshown
  · -- links lead from the first slot to the third and the fifth alone
    obtain ⟨n, hn, hnid⟩ := Option.map_eq_some_iff.1 hthird
    refine Pool.unreachable_mem_checkFrom_iff.2 ⟨3, n, hn, hnid, Pool.reached_eq_false_iff.2
      ⟨(Array.getElem?_eq_some_iff.1 hn).1, fun h => ?_⟩⟩
    have hmem := Pool.reached_within (C := (· ∈ [0, 2, 4])) (by simp [hstart]) hlinks h
    simp at hmem

/-! ## Stalls -/

/-- **Without dangling links a play stalls on flags alone.** As long as it is sent to nodes of the
story, every node that it tries is in the story, and whenever it stalls each node that it tried
requires a flag that is not set.

**Proof sketch.** The nodes of the story are closed under its links, so the play stays among them.
A command that stalls could enter none of the nodes that it tried; they are there, so a flag of each
is lacking. -/
theorem Run.stalls_on_flags (hpool : pool.Made)
    (hnext : ∀ source target, .danglingNext source target ∉ pool.check.issues)
    (hchoice : ∀ source place target, .danglingChoice source place target ∉ pool.check.issues)
    (hr : Run (Command.StaysIn (pool.contains · = true) startNode) (fresh pool capacity startNode)
      trace r) :
    (∀ id ∈ Signal.tried trace, pool.contains id = true) ∧
      (∀ id, .notice (.entryMissing id) ∉ trace) ∧
      ∀ c : Command, c.StaysIn (pool.contains · = true) startNode →
        (r.perform c).answer = .moved (.ok .stalled) → (r.perform c).Barred pool := by
  have hp := hpool.wellFormed
  have hclosed := Pool.closed_contains hnext hchoice
  obtain ⟨hwithin, htrace⟩ := hr.within hp hclosed (within_fresh pool _ capacity startNode)
  refine ⟨fun id hid => Signal.Within.of_mem_tried htrace hid, fun id hmissing => ?_,
    fun c hc hstalled => ?_⟩
  · obtain ⟨hout, hin⟩ := htrace _ hmissing
    rw [hin] at hout
    cases hout
  · have hturn := hwithin.perform hp hclosed hc
    have hrefused := refused_perform (hwithin.pool ▸ hp) hstalled
    refine hrefused.barred hp hturn.runner.pool fun id hid => ?_
    exact Signal.Within.of_mem_tried hturn.trace hid

/-- A story of three nodes: the first offers a choice of the second, and the other two require flags
that only the author can set. -/
def lockedStory : Pool :=
  (Script.rebuild "\n,1\n,1,choice,,,,,,,,,,go,2,6\n,2,,,,,,,,,,,,,,,7\n,3,,,,,,,,,,3,,,,,6&8"
    { pool := .empty {} }).2.pool

/-- While the gate is closed, two nodes are put on the stack above the choices of the first. -/
def pileUp : List Command :=
  [.start ⟨1⟩, .step, .install { settled := true }, .start ⟨3⟩, .start ⟨2⟩, .install .alwaysOpen]

/-- The play with these nodes on the stack. -/
def piledUp : Runner := ((fresh lockedStory 4 ⟨1⟩).performAll pileUp).runner

/-- When the choice is taken then, all entries are refused: that of its node twice, and that of the
third node although the choice sets one of the flags required there.

**Proof sketch.** The ids that are put on the stack are in the story, and the report is clean. So
the theorem applies to the last command, of which the trace shows that it stalls. -/
theorem stalls_on_flags_piledUp :
    lockedStory.check.issues = [] ∧ (piledUp.choose 0).answer = .ok .stalled ∧
      Signal.tried (piledUp.choose 0).trace = [⟨2⟩, ⟨2⟩, ⟨3⟩] ∧
      (piledUp.perform (.choose 0)).Barred lockedStory := by
  obtain ⟨hclean, hstalled, htried, hin⟩ :
      lockedStory.check.issues = [] ∧ (piledUp.choose 0).answer = .ok .stalled ∧
        Signal.tried (piledUp.choose 0).trace = [⟨2⟩, ⟨2⟩, ⟨3⟩] ∧
        lockedStory.contains ⟨1⟩ = true ∧ lockedStory.contains ⟨2⟩ = true ∧
        lockedStory.contains ⟨3⟩ = true := by decide +kernel
  have hcs : ∀ c ∈ pileUp, c.StaysIn (lockedStory.contains · = true) ⟨1⟩ := by
    simp [pileUp, Command.StaysIn, Command.goal?, hin]
  have hrun : Run (Command.StaysIn (lockedStory.contains · = true) ⟨1⟩) (fresh lockedStory 4 ⟨1⟩)
      ((fresh lockedStory 4 ⟨1⟩).performAll pileUp).trace piledUp := Run.start.performAll hcs
  have hstays : (Command.choose 0).StaysIn (lockedStory.contains · = true) ⟨1⟩ := by
    simp [Command.StaysIn, Command.goal?]
  have hpool : lockedStory.Made := Script.made_rebuild _ (.empty {})
  have hnone : ∀ issue, issue ∉ lockedStory.check.issues := by simp [hclean]
  obtain ⟨-, -, hbarred⟩ := hrun.stalls_on_flags hpool (fun _ _ => hnone _) (fun _ _ _ => hnone _)
  exact ⟨hclean, hstalled, htried,
    hbarred (.choose 0) hstays (congrArg Reply.moved hstalled)⟩

end Runner

end StoryGraph
