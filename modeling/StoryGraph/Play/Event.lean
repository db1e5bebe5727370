import StoryGraph.Graph.Pool

set_option relaxedAutoImplicit false
set_option autoImplicit false

/-!
# Events of a play

What a play shows: the line of a node, the choices that it offers, the end. Whoever presents the
story hears the events as they happen, and cannot answer them.

## Main definitions

* `Event` — what a presenter hears.
* `Event.notices` — how an event is told when there is no presenter.
* `Signal` — an event or a notice, in the order in which they came about.
-/

namespace StoryGraph

/-- What a presenter hears. -/
inductive Event where
  /-- A node was entered, and these flags are set now. -/
  | entered (node : Node) (flags : FlagSet)
  /-- The active node offers its choices. -/
  | offered (choices : List Choice)
  /-- The active node has neither choices nor a successor. -/
  | ended
deriving DecidableEq

/-- How an event is told when there is no presenter: as notices to the author. -/
def Event.notices : Event → List Notice
  | entered node _ => [.lineShown node.id node.speaker node.text]
  | offered choices =>
    choices.zipIdx.map fun (choice, place) => .choiceShown place choice.label choice.goto
  | ended => [.endShown]

/-- What a play gives off. -/
inductive Signal where
  | event (e : Event)
  | notice (n : Notice)
deriving DecidableEq

namespace Signal

/-- The events among signals, in order. -/
def events (trace : List Signal) : List Event :=
  trace.filterMap fun
    | event e => some e
    | notice _ => none

/-- The notices among signals, in order. -/
def notices (trace : List Signal) : List Notice :=
  trace.filterMap fun
    | event _ => none
    | notice n => some n

/-- The signals of a play without a presenter: every event is told as notices, in its place. -/
def headless (trace : List Signal) : List Signal :=
  trace.flatMap fun
    | event e => e.notices.map notice
    | notice n => [notice n]

end Signal

end StoryGraph
