import StoryGraph.Play.Event
import StoryGraph.Play.Gate

set_option relaxedAutoImplicit false
set_option autoImplicit false

/-!
# Plays and turns

The state of a play, and what a move in it comes to.

## Main definitions

* `Runner` — a play in progress.
* `Cursor`, `Phase` — where a play stands, and what it is doing.
* `Outcome` — what a move did.
* `Turn` — the answer to a move, the play afterwards, and what happened in order.
-/

namespace StoryGraph

/-- Where a play stands: the slot of its node, and whether it waits for a choice there. -/
inductive Cursor where
  | idle
  | active (slot : Nat)
  | awaitingChoice (slot : Nat)
deriving DecidableEq, Repr, Inhabited

/-- The slot of the active node. -/
def Cursor.slot? : Cursor → Option Nat
  | idle => none
  | active slot | awaitingChoice slot => some slot

/-- What a play is doing. -/
inductive Phase where
  | idle
  | nodeActive
  | awaitingChoice
deriving DecidableEq, Repr

/-- What a play with the given cursor is doing. -/
def Cursor.phase : Cursor → Phase
  | idle => .idle
  | active _ => .nodeActive
  | awaitingChoice _ => .awaitingChoice

/-- What a move did. -/
inductive Outcome where
  /-- The gate was busy. -/
  | busy
  /-- A node was entered. -/
  | entered (id : NodeId)
  /-- The choices of the active node were offered. -/
  | choicesPresented
  /-- A choice that leads nowhere was taken; the play waits for another. -/
  | awaitingChoice
  /-- The active node had neither choices nor a successor. -/
  | ended
  /-- Every entry was refused. -/
  | stalled
  /-- There was nothing to do. -/
  | idle
  /-- The move was not possible here. -/
  | ignored
deriving DecidableEq, Repr

/-- The stack of waiting nodes is full. -/
structure StackFull where
  capacity : Nat
deriving DecidableEq, Repr

/-- The message for a full stack. -/
def StackFull.message (e : StackFull) : String :=
  s!"pending-entry stack overflow (capacity {e.capacity})"

/-- A play in progress. -/
structure Runner where
  pool : Pool
  flags : FlagSet := .empty
  /-- The nodes that wait to be entered, newest first. -/
  pending : List NodeId := []
  /-- The largest number of waiting nodes. -/
  capacity : Nat := 1024
  cursor : Cursor := .idle
  gate : Gate := .alwaysOpen
  /-- The node at which a new game starts. -/
  startNode : NodeId := ⟨0⟩

/-- What came of a move. -/
structure Turn (α : Type) where
  answer : α
  /-- The play afterwards. -/
  runner : Runner
  /-- What happened, in order. -/
  trace : List Signal := []

namespace Turn

variable {α β : Type}

/-- The same turn with another answer. -/
def map (f : α → β) (t : Turn α) : Turn β := { t with answer := f t.answer }

/-- The same turn, with what happened before it. -/
def after (t : Turn α) (earlier : List Signal) : Turn α := { t with trace := earlier ++ t.trace }

end Turn

end StoryGraph
