import StoryGraph.FlagSet
import StoryGraph.Graph.NodeId
import StoryGraph.Text.Blank

set_option relaxedAutoImplicit false
set_option autoImplicit false

/-!
# Reading a cell

What the text of a cell means. Scripts are edited loosely, so a reader rejects nothing: where it
finds no number, it goes on with a default.

## Main definitions

* `Cell.leadingInt?` — the integer at the start of a text.
* `Cell.nodeId?` — the node that a row is about.
* `Cell.parentId?` — the node that a choice hangs on.
* `Cell.target?` — the node that a link leads to.
* `Cell.flagList` — a list of flags.
* `Cell.actors?` — who is on stage.

## Implementation notes

A magnitude stops growing at `Cell.maxMagnitude`, so that an absurdly long number stays out of the
range of ids instead of coming round to a valid one.
-/

namespace StoryGraph.Cell

/-- The largest magnitude that a number can reach. -/
def maxMagnitude : Nat := 0x7FFFFFFFFFFFFFFF

/-- The value of a decimal digit. -/
def digitValue (c : Char) : Nat := c.toNat - '0'.toNat

/-- The number that the digits at the start of `cs` write, at most `maxMagnitude`. -/
def magnitude (cs : List Char) : Nat :=
  (cs.takeWhile Char.isDigit).foldl (fun n c => min (10 * n + digitValue c) maxMagnitude) 0

/-- A magnitude is clamped: no row of digits makes it larger than `maxMagnitude`.

**Proof sketch.** Induction on the digits: after each of them the number is clamped again. -/
theorem magnitude_le (cs : List Char) : magnitude cs ≤ maxMagnitude := by
  have step : ∀ (ds : List Char) (n : Nat), n ≤ maxMagnitude →
      ds.foldl (fun n c => min (10 * n + digitValue c) maxMagnitude) n ≤ maxMagnitude := by
    intro ds
    induction ds with
    | nil => exact fun n h => h
    | cons d ds ih => exact fun n _ => ih _ (Nat.min_le_right ..)
  exact step _ 0 (Nat.zero_le _)

/-- The integer at the start of a text, after blanks: an optional minus and the digits behind it.
A blank text has none; a text without digits there means zero. -/
def leadingInt? (text : List Char) : Option Int :=
  match Text.trim text with
  | [] => none
  | '-' :: cs => some (-(magnitude cs))
  | cs => some (magnitude cs)

/-- The node that a cell names. A blank cell names node zero; none when the number cannot be that
of a node. -/
def nodeId? (text : String) : Option NodeId :=
  NodeId.ofInt? ((leadingInt? text.toList).getD 0)

/-- The part of a text before its first dash, or all of it when the dash comes first. -/
def beforeDash (cs : List Char) : List Char :=
  match cs with
  | '-' :: _ => cs
  | _ => cs.takeWhile (· != '-')

/-- The node that a choice hangs on: its id, which a dash and a name for the choice may follow. -/
def parentId? (text : String) : Option NodeId :=
  nodeId? (String.ofList (beforeDash (Text.trim text.toList)))

/-- The node that a link leads to: none for a blank cell and for a number that is no node's. -/
def target? (text : String) : Option NodeId :=
  (leadingInt? text.toList).bind NodeId.ofInt?

/-- The flag that an item of a flag list names. -/
def flagOf (item : List Char) : FlagId :=
  Int32.ofIntClamp ((leadingInt? item).getD 0)

/-- The flags of a list: numbers joined by `&`. Blanks do not count wherever they stand, and neither
do empty items. -/
def flagList (text : String) : List FlagId :=
  let items := (text.toList.filter (!Text.isBlank ·)).splitOn '&'
  (items.filter (!·.isEmpty)).map flagOf

/-- What a single actor's key stands for: that actor in the centre, fading in. -/
def soleActorSuffix : String := "@C(in=fade)"

/-- Who is on stage: nobody for a blank cell. A bare key, without place, separator or space, is
short for that actor alone. -/
def actors? (text : String) : Option String :=
  match Text.trim text.toList with
  | [] => none
  | spec =>
    if spec.any fun c => c == '@' || c == ';' || c == ' ' then some (String.ofList spec)
    else some (String.ofList spec ++ soleActorSuffix)

end StoryGraph.Cell
