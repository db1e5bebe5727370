import StoryGraph.FlagSet
import StoryGraph.Graph.NodeId
import StoryGraph.Graph.Span
import StoryGraph.Text.Blank

set_option relaxedAutoImplicit false
set_option autoImplicit false

/-!
# Nodes and choices

A node is one beat of a story: a line that somebody speaks, how it is presented, and where the
story goes from it. A choice is a branch that a node offers to the player.

## Main definitions

* `AdvancePolicy` — how a presenter moves past a node.
* `Content` — what is shown at a node, and its successor.
* `Draft` — all that a row of a script gives a node.
* `Node` — a node of a compiled story.
* `Node.apply` — a node after one more row has declared it.
* `Choice` — a branch that a node offers.
-/

namespace StoryGraph

/-- How a presenter moves past a node. -/
inductive AdvancePolicy where
  /-- Wait for the player. -/
  | default
  /-- Ignore the player until the line has been played in full. -/
  | block
  /-- Show the whole line at once. -/
  | fast
  /-- Show the whole line at once and move on without waiting. -/
  | fastForward
deriving DecidableEq, Repr, Inhabited

/-- The policy that a text names, whatever its case; a text that names none means the default. -/
def AdvancePolicy.ofText (text : String) : AdvancePolicy :=
  let word := String.ofList (Text.lowerAscii (Text.trim text.toList))
  if word = "block" then .block
  else if word = "fast" then .fast
  else if word = "fastforward" then .fastForward
  else .default

/-- What is shown at a node, and its successor. The story itself acts on `next` alone; all else is
handed to the presenter as it is. -/
structure Content where
  /-- The key of the row in the author's table. -/
  indexKey : String := ""
  rowType : String := ""
  speaker : String := ""
  text : String := ""
  actors : Option String := none
  bgm : String := ""
  sfx : String := ""
  cg : String := ""
  transition : String := ""
  advancePolicy : String := ""
  /-- The node that follows when the player has no choice. -/
  next : Option NodeId := none
deriving DecidableEq, Repr, Inhabited

/-- All that a row of a script gives a node, its flag lists as runs of the pool. -/
structure Draft extends Content where
  /-- The flags set on entry. -/
  effects : Span := {}
  /-- The flags required for entry. -/
  requires : Span := {}
deriving DecidableEq, Repr, Inhabited

/-- A node of a compiled story. -/
structure Node extends Draft where
  id : NodeId
  /-- The run of the choices that the node offers. -/
  choices : Span := {}
  /-- Whether a row declares the node, rather than only choices that hang on it. -/
  authored : Bool := false
deriving DecidableEq, Repr, Inhabited

namespace Node

/-- A node that no row has declared yet. -/
def placeholder (id : NodeId) : Node := { id }

/-- A node offers choices when its run is not empty, even if that run holds nothing. -/
def hasChoices (n : Node) : Bool := !n.choices.isEmpty

/-- The advance policy that the node's text names. -/
def policy (n : Node) : AdvancePolicy := .ofText n.advancePolicy

/-- `n.apply d` is the node `n` after a row with the draft `d` has declared it: the draft replaces
all but the id and the choices, and an empty index key keeps the one before. -/
def apply (n : Node) (d : Draft) : Node :=
  { n with
    toDraft := { d with indexKey := if d.indexKey.isEmpty then n.indexKey else d.indexKey }
    authored := true }

/-- The node after it got the choice at `position`: the first choice fixes where its run starts,
each later one makes the run longer by one. -/
def withChoice (n : Node) (position : UInt32) : Node :=
  { n with
    choices :=
      { offset := if n.choices.isEmpty then position else n.choices.offset
        count := n.choices.count + 1 } }

end Node

/-- A branch that a node offers to the player. -/
structure Choice where
  label : String
  /-- The node that the choice leads to; without one the player chooses again. -/
  goto : Option NodeId := none
  /-- The flags set when the choice is taken. -/
  effects : Span := {}
deriving DecidableEq, Repr, Inhabited

end StoryGraph
