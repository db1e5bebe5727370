import StoryGraph.Graph.Node
import StoryGraph.Script.Cell
import StoryGraph.Script.Row
import StoryGraph.Text.Line

set_option relaxedAutoImplicit false
set_option autoImplicit false

/-!
# Entries of a script

What the rows of a script say, before any of it is put into a pool. The first line of a script is
its header; blank lines between the rows do not count, but they keep their numbers.

## Main definitions

* `Declaration` — what a row says of a node.
* `Entry` — what a row says.
* `Entry.ofRow` — the meaning of a row.
* `Script.entries?` — the entries of a script with their line numbers.
-/

namespace StoryGraph

/-- What a row says of a node. -/
structure Declaration extends Content where
  /-- The flags set on entry. -/
  effects : List FlagId := []
  /-- The flags required for entry. -/
  requires : List FlagId := []
deriving DecidableEq, Repr, Inhabited

/-- What a row says. -/
inductive Entry where
  /-- The row declares a node. -/
  | node (id : NodeId) (said : Declaration)
  /-- The row hangs a choice on a node. -/
  | choice (parent : NodeId) (label : String) (goto : Option NodeId) (effects : List FlagId)
  /-- The row would be a choice, but has no label. -/
  | unlabelled
  /-- The row names a node by a number that is none, as its cell shows. -/
  | unaddressed (cell : String)
deriving DecidableEq, Repr

namespace Entry

/-- The meaning of a row that declares a choice. The label comes first: a row without one says
nothing, whatever its other cells hold. -/
def ofChoiceRow (r : Row) : Entry :=
  let label := Text.trim (r.cell .choiceLabel).toList
  if label.isEmpty then .unlabelled
  else
    match Cell.parentId? (r.cell .nodeId) with
    | none => .unaddressed (r.cell .nodeId)
    | some parent =>
      .choice parent (String.ofList label) (Cell.target? (r.cell .choiceGoto))
        (Cell.flagList (r.cell .choiceSet))

/-- What a row says of the node that it declares. -/
def declarationOf (r : Row) : Declaration where
  indexKey := r.cell .indexKey
  rowType := r.cell .rowType
  speaker := r.cell .speaker
  text := r.cell .text
  actors := Cell.actors? (r.cell .actors)
  bgm := r.cell .bgm
  sfx := r.cell .sfx
  cg := r.cell .cg
  transition := r.cell .transition
  advancePolicy := r.cell .advancePolicy
  next := Cell.target? (r.cell .nextNodeId)
  effects := Cell.flagList (r.cell .flagsSet)
  requires := Cell.flagList (r.cell .flagsReq)

/-- The meaning of a row that declares a node. -/
def ofNodeRow (r : Row) : Entry :=
  match Cell.nodeId? (r.cell .nodeId) with
  | none => .unaddressed (r.cell .nodeId)
  | some id => .node id (declarationOf r)

/-- The meaning of a row. -/
def ofRow (r : Row) : Entry :=
  if r.isChoice then ofChoiceRow r else ofNodeRow r

/-- The node that an entry names. -/
def named? : Entry → Option NodeId
  | node id _ => some id
  | choice parent .. => some parent
  | unlabelled | unaddressed _ => none

end Entry

namespace Script

/-- The entries of the lines after the header, each with the number of its line. A blank line has
no entry. -/
def entriesFrom (number : Nat) : List (List Char) → List (Nat × Entry)
  | [] => []
  | line :: later =>
    if line.all Text.isBlank then entriesFrom (number + 1) later
    else (number, Entry.ofRow (Row.ofLine line)) :: entriesFrom (number + 1) later

/-- The entries of a script with their line numbers; none when the script has not even a header. -/
def entries? (text : String) : Option (List (Nat × Entry)) :=
  match Text.lines text.toList with
  | [] => none
  | _ :: rows => some (entriesFrom 2 rows)

end Script

end StoryGraph
