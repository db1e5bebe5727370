import StoryGraph.Check.Issue

set_option relaxedAutoImplicit false
set_option autoImplicit false

/-!
# Reachable nodes

Which nodes a play from a given start can ever show: those at the end of a path of links. A link
is the successor of a node or the goal of one of its choices. Whether flags bar the way does not
count.

## Main definitions

* `Pool.links` — the slots to which a node leads.
* `Search` — a search in breadth: which slots have been met, and which still wait.
* `Search.run` — the search carried to its end.
* `Pool.checkFrom` — the report of `Pool.check`, and the nodes that no path reaches.

## Implementation notes

The search ends because each step either meets a new slot or has fewer slots waiting.
-/

namespace StoryGraph

namespace Pool

/-- The nodes to which a node leads, in the story or not. -/
def targets (p : Pool) (n : Node) : List NodeId :=
  n.next.toList ++ (p.choicesOf n).filterMap (·.goto)

/-- The slots to which the node in a slot leads. -/
def links (p : Pool) (slot : Nat) : List Nat :=
  match p.node? slot with
  | some n => (p.targets n).filterMap p.slotOf?
  | none => []

end Pool

/-- A search in breadth. -/
structure Search where
  /-- Which slots have been met. -/
  met : Array Bool
  /-- The slots whose links have not been followed yet, oldest first. -/
  waiting : List Nat
deriving DecidableEq, Repr

namespace Search

/-- How many slots have not been met. -/
def unmet (s : Search) : Nat := s.met.toList.countP (!·)

/-- Meets a slot: one not met before has to wait for its links to be followed. -/
def meet (s : Search) (slot : Nat) : Search :=
  if h : slot < s.met.size then
    if s.met[slot] then s else { met := s.met.set slot true, waiting := s.waiting ++ [slot] }
  else s

/-- Meets the slots of a list in order. -/
def meetAll (s : Search) (slots : List Nat) : Search := slots.foldl meet s

/-- Meeting a slot changes nothing, or it leaves fewer slots unmet than there were.

**Proof sketch.** A slot that the search does not have, or that it has met, changes nothing. Meeting
any other turns one mark from `false` to `true`, so one `false` fewer is counted. -/
theorem unmet_meet (s : Search) (slot : Nat) :
    s.meet slot = s ∨ (s.meet slot).unmet < s.unmet := by
  unfold meet
  split
  case isFalse => exact .inl rfl
  case isTrue h =>
    split
    case isTrue => exact .inl rfl
    case isFalse hnew =>
      have hpos : 0 < s.met.toList.countP (!·) :=
        List.countP_pos_iff.mpr ⟨s.met[slot], Array.getElem_mem_toList h, by simpa using hnew⟩
      refine .inr ?_
      simp only [unmet, Array.toList_set]
      rw [List.countP_set (by simpa using h)]
      simp only [Array.getElem_toList, Bool.not_eq_true] at hnew ⊢
      simp only [hnew]
      simp only [Bool.not_false, Bool.not_true, if_true, Bool.false_eq_true, if_false]
      omega

/-- Meeting slots one after another changes nothing, or it leaves fewer slots unmet than there were;
so a search that goes on comes to its end.

**Proof sketch.** Induction on the slots, for every search: either `meet` changes nothing, and the
induction hypothesis speaks of the same search, or `unmet_meet` has lowered the count, and it cannot
rise again. -/
theorem unmet_meetAll (s : Search) (slots : List Nat) :
    s.meetAll slots = s ∨ (s.meetAll slots).unmet < s.unmet := by
  induction slots generalizing s with
  | nil => exact .inl rfl
  | cons slot slots ih =>
    have hcons : s.meetAll (slot :: slots) = (s.meet slot).meetAll slots := rfl
    rw [hcons]
    rcases s.unmet_meet slot with h | h
    · rw [h]
      exact ih s
    · rcases ih (s.meet slot) with h' | h'
      · rw [h']
        exact .inr h
      · exact .inr (Nat.lt_trans h' h)

/-- Follows the links of every waiting slot until none waits. -/
def run (p : Pool) (s : Search) : Search :=
  match _h : s.waiting with
  | [] => s
  | slot :: later => run p ({ s with waiting := later }.meetAll (p.links slot))
termination_by (s.unmet, s.waiting.length)
decreasing_by
  rcases unmet_meetAll { s with waiting := later } (p.links slot) with hsame | hless
  · rw [hsame]
    exact Prod.Lex.right _ (by simp [_h])
  · exact Prod.Lex.left _ _ hless

/-- The search that has met the slot of one node, if that node is there. -/
def start (p : Pool) (id : NodeId) : Search :=
  let unstarted : Search := { met := Array.replicate p.nodes.size false, waiting := [] }
  unstarted.meetAll (p.slotOf? id).toList

end Search

namespace Pool

/-- Which slots a path of links from a node leads to. -/
def reached (p : Pool) (start : NodeId) : Array Bool :=
  (Search.run p (Search.start p start)).met

/-- The issues of the nodes that no path from `start` reaches. -/
def unreachableIssues (p : Pool) (start : NodeId) : List Issue :=
  (p.nodes.toList.zip (p.reached start).toList).filterMap fun (n, reached) =>
    if reached then none else some (.unreachable n.id)

/-- The report of `Pool.check`, and after it the nodes that no path from `start` reaches. -/
def checkFrom (p : Pool) (start : NodeId) : Report :=
  ⟨p.check.issues ++ p.unreachableIssues start⟩

end Pool

end StoryGraph
