import StoryGraph.Graph.NodeId

set_option relaxedAutoImplicit false
set_option autoImplicit false

/-!
# Notices

What a story tells its author, beside its results: oddities of the script while it is compiled,
and each move of the play.

## Main definitions

* `Notice` — one thing worth telling.
* `Notice.level` — how loud it is told.
* `Notice.message`, `Notice.fields` — its text, and the facts that go with it, by name.
-/

namespace StoryGraph

/-- How loud a notice is told. -/
inductive Level where
  | trace
  | debug
  | info
  | warn
deriving DecidableEq, Repr

/-- One thing that a story tells its author. -/
inductive Notice where
  /-- A choice hangs on a node that no row has declared yet. -/
  | placeholder (id : NodeId)
  /-- A row declares a node that is there already. -/
  | redeclared (id : NodeId) (line : Nat)
  /-- A choice row has no label and is left out. -/
  | unlabelledChoice (line : Nat)
  /-- A choice does not follow the choices that its node has so far. -/
  | brokenRun (id : NodeId) (offset position : UInt32)
  /-- A script has been compiled. -/
  | compiled (nodes choices flagRefs : Nat)
  /-- A node waits to be entered. -/
  | pushed (id : NodeId) (depth : Nat)
  /-- A waiting node is taken. -/
  | popped (id : NodeId)
  /-- A node to be entered is not in the story. -/
  | entryMissing (id : NodeId)
  /-- A flag that a node requires is not set. -/
  | entryBlocked (id : NodeId)
  /-- A node has been entered. -/
  | entered (id : NodeId) (slot : Nat)
  /-- The node has neither choices nor a successor. -/
  | endOfContent (id : NodeId)
  /-- None of the waiting nodes could be entered. -/
  | stalled
  /-- A node to jump to is not in the story. -/
  | jumpMissing (id : NodeId)
  /-- The node of a snapshot is not in the story. -/
  | savedNodeMissing (id : NodeId)
  /-- A line is shown to nobody but the author. -/
  | lineShown (id : NodeId) (speaker text : String)
  /-- A choice is shown to nobody but the author. -/
  | choiceShown (index : Nat) (label : String) (goto : Option NodeId)
  /-- The end is shown to nobody but the author. -/
  | endShown
deriving DecidableEq, Repr

namespace Notice

/-- How loud a notice is told. -/
def level : Notice → Level
  | pushed .. | popped .. => .trace
  | brokenRun .. | savedNodeMissing .. => .warn
  | compiled .. | lineShown .. | choiceShown .. | endShown => .info
  | _ => .debug

/-- The text of a notice. -/
def message : Notice → String
  | placeholder _ => "materializing placeholder node"
  | redeclared .. => "node re-declared; fields patched in place"
  | unlabelledChoice _ => "skipping choice row without a label"
  | brokenRun .. =>
    "choice run is not contiguous; choices for one node must be listed together"
  | compiled .. => "compiled dialogue script"
  | pushed .. => "pending push"
  | popped _ => "pending pop"
  | entryMissing _ => "entry failed: node not found"
  | entryBlocked _ => "entry blocked by flag requirements"
  | entered .. => "entered node"
  | endOfContent _ => "end of content"
  | stalled => "no entry succeeded; runner stalled"
  | jumpMissing _ => "jump target not found"
  | savedNodeMissing _ => "saved node is missing from the loaded script"
  | lineShown _ _ text => text
  | choiceShown _ label _ => "choice: " ++ label
  | endShown => "end of script"

/-- How a notice shows where a choice leads. -/
def showGoto : Option NodeId → String
  | some id => s!"Some(NodeId({id}))"
  | none => "None"

/-- The facts that go with a notice, each under its name. -/
def fields : Notice → List (String × String)
  | placeholder id | popped id | entryMissing id | entryBlocked id | endOfContent id
  | jumpMissing id | savedNodeMissing id => [("node_id", toString id)]
  | redeclared id line => [("node_id", toString id), ("line", toString line)]
  | unlabelledChoice line => [("line", toString line)]
  | brokenRun id offset position =>
    [("node_id", toString id), ("offset", toString offset.toNat),
      ("position", toString position.toNat)]
  | compiled nodes choices flagRefs =>
    [("nodes", toString nodes), ("choices", toString choices), ("flag_refs", toString flagRefs)]
  | pushed id depth => [("node_id", toString id), ("depth", toString depth)]
  | entered id slot => [("node_id", toString id), ("slot", toString slot)]
  | lineShown id speaker _ => [("node_id", toString id), ("speaker", speaker)]
  | choiceShown index _ goto => [("index", toString index), ("goto", showGoto goto)]
  | stalled | endShown => []

end Notice

end StoryGraph
