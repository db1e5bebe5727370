import StoryGraph.Graph.Pool

set_option relaxedAutoImplicit false
set_option autoImplicit false

/-!
# Checking a compiled story

A story with a broken link still plays: the link leads nowhere and the story stalls. The check
finds such faults beforehand.

## Main definitions

* `Issue` — a fault of a compiled story.
* `Report` — the issues found, node by node in the order of their slots.
* `Pool.check` — the issues that a node shows by itself.
-/

namespace StoryGraph

/-- A fault of a compiled story. -/
inductive Issue where
  /-- A node's successor is not in the story. -/
  | danglingNext (source target : NodeId)
  /-- A choice of a node leads to a node that is not in the story. -/
  | danglingChoice (source : NodeId) (choice : Nat) (target : NodeId)
  /-- Choices hang on a node that no row declares. -/
  | placeholderOnly (node : NodeId)
  /-- A node or one of its choices names a flag that no flag set can hold. -/
  | flagOutOfRange (node : NodeId) (flag : FlagId)
  /-- No path leads from the start to a node. -/
  | unreachable (node : NodeId)
deriving DecidableEq, Repr

/-- The issues found in a story. -/
structure Report where
  issues : List Issue
deriving DecidableEq, Repr

/-- A report is clean when it has no issue. -/
def Report.isClean (r : Report) : Bool := r.issues.isEmpty

/-- `insertAscending f fs` is the ascending list `fs` with `f` in its place; a flag that is in `fs`
already is not repeated. -/
def insertAscending (f : FlagId) : List FlagId → List FlagId
  | [] => [f]
  | g :: gs => if f < g then f :: g :: gs else if f = g then g :: gs else g :: insertAscending f gs

/-- The flags of a list in ascending order, each once. -/
def ascending (fs : List FlagId) : List FlagId :=
  fs.foldr insertAscending []

namespace Pool

/-- The flags that a node or one of its choices names. -/
def flagsNamedBy (p : Pool) (n : Node) : List FlagId :=
  p.requiredBy n ++ p.effectsOf n ++ (p.choicesOf n).flatMap p.effectsOfChoice

/-- The issue of a node that no row declares. -/
def placeholderIssues (n : Node) : List Issue :=
  if n.authored then [] else [.placeholderOnly n.id]

/-- The issue of a successor that is not in the story. -/
def nextIssues (p : Pool) (n : Node) : List Issue :=
  match n.next with
  | some target => if p.contains target then [] else [.danglingNext n.id target]
  | none => []

/-- The issues of choices that lead out of the story. -/
def choiceIssues (p : Pool) (n : Node) : List Issue :=
  (p.choicesOf n).zipIdx.filterMap fun (choice, place) =>
    match choice.goto with
    | some target => if p.contains target then none else some (.danglingChoice n.id place target)
    | none => none

/-- The issues of flags that no flag set can hold, each flag once and in ascending order. -/
def flagIssues (p : Pool) (n : Node) : List Issue :=
  (ascending ((p.flagsNamedBy n).filter fun flag => ¬ FlagSet.InRange flag)).map
    (.flagOutOfRange n.id)

/-- The issues that a node shows by itself. -/
def nodeIssues (p : Pool) (n : Node) : List Issue :=
  placeholderIssues n ++ p.nextIssues n ++ p.choiceIssues n ++ p.flagIssues n

/-- The issues that the nodes show by themselves. -/
def check (p : Pool) : Report := ⟨p.nodes.toList.flatMap p.nodeIssues⟩

end Pool

end StoryGraph
