import StoryGraph.Play.Event

set_option relaxedAutoImplicit false
set_option autoImplicit false

/-!
# Backlog

The lines shown last, so that a player can read them again.

## Main definitions

* `SpokenLine` — a line as it was shown.
* `Backlog` — the last lines, up to a capacity.
* `Backlog.record`, `Backlog.latest` — a new line, and the lines to read again.
* `Backlog.hear` — the lines among the events of a play.
-/

namespace StoryGraph

/-- A line as it was shown. -/
structure SpokenLine where
  nodeId : NodeId
  speaker : String
  text : String
deriving DecidableEq, Repr

/-- The line of a node. -/
def Node.spoken (n : Node) : SpokenLine := ⟨n.id, n.speaker, n.text⟩

/-- The last `count` elements of a list. -/
def lastOf {α : Type} (count : Nat) (xs : List α) : List α := xs.drop (xs.length - count)

/-- As many elements are kept as there is room for, or all of them if there are fewer. -/
@[simp] theorem length_lastOf {α : Type} (count : Nat) (xs : List α) :
    (lastOf count xs).length = min count xs.length := by
  simp only [lastOf, List.length_drop]
  omega

/-- The last lines of a play, up to a capacity. -/
structure Backlog where
  capacity : Nat := 256
  /-- The lines, oldest first. -/
  lines : List SpokenLine := []
deriving DecidableEq, Repr, Inhabited

namespace Backlog

/-- Records a line; when there is no room for it, the oldest is dropped. A backlog without any room
records nothing. -/
def record (b : Backlog) (line : SpokenLine) : Backlog :=
  if b.capacity = 0 then b
  else if b.lines.length = b.capacity then { b with lines := b.lines.tail ++ [line] }
  else { b with lines := b.lines ++ [line] }

/-- The last `count` lines, oldest first. -/
def latest (b : Backlog) (count : Nat) : List SpokenLine := lastOf count b.lines

/-- Drops all lines. -/
def clear (b : Backlog) : Backlog := { b with lines := [] }

/-- Records the line of a node that was entered; the other events have no line. -/
def hearEvent (b : Backlog) : Event → Backlog
  | .entered node _ => b.record node.spoken
  | .offered _ | .ended => b

/-- Records the lines among the events of a play. -/
def hear (b : Backlog) (events : List Event) : Backlog := events.foldl hearEvent b

end Backlog

end StoryGraph
