import StoryGraph.Proofs.Check.Reach

set_option relaxedAutoImplicit false
set_option autoImplicit false

/-!
# What an issue says

An issue is in a report just when the fault that it names is in the story.

## Main results

* `Pool.danglingNext_mem_check_iff`, `Pool.danglingChoice_mem_check_iff` — the links that lead out
  of the story.
* `Pool.unreachable_mem_checkFrom_iff` — the nodes that a search from the start does not reach.
-/

namespace StoryGraph

namespace Pool

variable {p : Pool} {n : Node} {issue : Issue}

/-! ## The issues of one node -/

/-- A node that no row declares shows that. -/
theorem mem_placeholderIssues_iff :
    issue ∈ placeholderIssues n ↔ n.authored = false ∧ issue = .placeholderOnly n.id := by
  unfold placeholderIssues
  cases n.authored <;> simp

/-- A node shows its successor when that is not in the story. -/
theorem mem_nextIssues_iff :
    issue ∈ p.nextIssues n ↔
      ∃ target, n.next = some target ∧ p.contains target = false ∧
        issue = .danglingNext n.id target := by
  unfold nextIssues
  cases n.next with
  | none => simp
  | some target => cases hin : p.contains target <;> simp [hin]

/-- A node shows each of its choices that leads out of the story.

**Proof sketch.** The issues are the choices with their places, filtered. Each direction looks at
the goal of the choice: none gives no issue, one inside the story gives none, and one outside gives
the issue that is named. -/
theorem mem_choiceIssues_iff :
    issue ∈ p.choiceIssues n ↔
      ∃ place c target, (p.choicesOf n)[place]? = some c ∧ c.goto = some target ∧
        p.contains target = false ∧ issue = .danglingChoice n.id place target := by
  simp only [choiceIssues, List.mem_filterMap, Prod.exists, List.mem_zipIdx_iff_getElem?]
  constructor
  · rintro ⟨c, place, hc, hissue⟩
    cases hgoto : c.goto with
    | none => simp [hgoto] at hissue
    | some target =>
      cases hin : p.contains target
      · simp only [hgoto, hin, Bool.false_eq_true, if_false, Option.some.injEq] at hissue
        exact ⟨place, c, target, hc, hgoto, hin, hissue.symm⟩
      · simp [hgoto, hin] at hissue
  · rintro ⟨place, c, target, hc, hgoto, hin, rfl⟩
    exact ⟨c, place, hc, by simp [hgoto, hin]⟩

/-- A node shows each flag out of range that it names. -/
theorem mem_flagIssues_iff :
    issue ∈ p.flagIssues n ↔
      ∃ flag ∈ ascending ((p.flagsNamedBy n).filter fun flag => ¬ FlagSet.InRange flag),
        issue = .flagOutOfRange n.id flag := by
  simp only [flagIssues, List.mem_map, eq_comm]

/-! ## The issues of a story -/

/-- The issues of a report are those that its nodes show. -/
theorem mem_check_iff :
    issue ∈ p.check.issues ↔
      ∃ n ∈ p.nodes, issue ∈ placeholderIssues n ∨ issue ∈ p.nextIssues n ∨
        issue ∈ p.choiceIssues n ∨ issue ∈ p.flagIssues n := by
  simp [check, nodeIssues]

/-- A dangling successor is reported just when some node has it. -/
theorem danglingNext_mem_check_iff {source target : NodeId} :
    .danglingNext source target ∈ p.check.issues ↔
      ∃ n ∈ p.nodes, n.id = source ∧ n.next = some target ∧ p.contains target = false := by
  simp only [mem_check_iff, mem_placeholderIssues_iff, mem_nextIssues_iff, mem_choiceIssues_iff,
    mem_flagIssues_iff, Issue.danglingNext.injEq, reduceCtorEq, and_false, exists_false, false_or,
    or_false]
  grind

/-- A dangling choice is reported just when some node has it at its place. -/
theorem danglingChoice_mem_check_iff {source target : NodeId} {place : Nat} :
    .danglingChoice source place target ∈ p.check.issues ↔
      ∃ n ∈ p.nodes, n.id = source ∧ ∃ c, (p.choicesOf n)[place]? = some c ∧
        c.goto = some target ∧ p.contains target = false := by
  simp only [mem_check_iff, mem_placeholderIssues_iff, mem_nextIssues_iff, mem_choiceIssues_iff,
    mem_flagIssues_iff, Issue.danglingChoice.injEq, reduceCtorEq, and_false, exists_false, false_or,
    or_false]
  grind

/-- No node shows by itself that it is not reached. -/
theorem unreachable_notMem_check {id : NodeId} : .unreachable id ∉ p.check.issues := by
  simp [mem_check_iff, mem_placeholderIssues_iff, mem_nextIssues_iff, mem_choiceIssues_iff,
    mem_flagIssues_iff]

/-- A node is reported as unreachable just when it is in a slot that the search does not reach.

**Proof sketch.** The issues come from the nodes zipped with the marks of the search, so a node and
its mark stand in the same slot. The node is reported exactly when that mark is `false`. -/
theorem unreachable_mem_checkFrom_iff {start id : NodeId} :
    .unreachable id ∈ (p.checkFrom start).issues ↔
      ∃ slot n, p.node? slot = some n ∧ n.id = id ∧ (p.reached start)[slot]? = some false := by
  simp only [checkFrom, List.mem_append, unreachable_notMem_check, false_or, unreachableIssues,
    List.mem_filterMap, Prod.exists]
  constructor
  · rintro ⟨n, reached, hmem, hissue⟩
    obtain ⟨slot, hslot⟩ := List.mem_iff_getElem?.1 hmem
    obtain ⟨hn, hreached⟩ := List.getElem?_zip_eq_some.1 hslot
    cases reached
    · simp only [Bool.false_eq_true, if_false, Option.some.injEq, Issue.unreachable.injEq] at hissue
      exact ⟨slot, n, by simpa [node?] using hn, hissue, by simpa using hreached⟩
    · simp at hissue
  · rintro ⟨slot, n, hn, rfl, hreached⟩
    refine ⟨n, false, List.mem_iff_getElem?.2 ⟨slot, List.getElem?_zip_eq_some.2 ?_⟩, by simp⟩
    exact ⟨by simpa [node?] using hn, by simpa using hreached⟩

end Pool

end StoryGraph
