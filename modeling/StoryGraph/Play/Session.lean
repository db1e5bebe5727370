import StoryGraph.Play.Backlog
import StoryGraph.Save.Snapshot

set_option relaxedAutoImplicit false
set_option autoImplicit false

/-!
# Sessions

A session is a play with everything around it: the player gives commands, and a backlog listens.

## Main definitions

* `Command` — what can be asked of a play.
* `Reply` — what comes back.
* `Runner.perform` — a command carried out.
* `Session` — a play with its backlog, and `Session.perform`.
-/

namespace StoryGraph

/-- What can be asked of a play. -/
inductive Command where
  | start (id : NodeId)
  | newGame
  | step
  | choose (place : Nat)
  | jump (id : NodeId)
  | setFlags (ids : List FlagId)
  | clearFlags
  | install (gate : Gate)
  | load (pool : Pool)
  | restore (saved : Snapshot) (options : Snapshot.Options)

/-- What comes back from a command. -/
inductive Reply where
  /-- A move was made, or the stack was full. -/
  | moved (result : Except StackFull Outcome)
  /-- Whether the node was entered. -/
  | entered (yes : Bool)
  /-- There is nothing to answer. -/
  | done

/-- Carries out a command. -/
def Runner.perform (r : Runner) : Command → Turn Reply
  | .start id => (r.start id).map .moved
  | .newGame => r.newGame.map .moved
  | .step => r.step.map fun o => .moved (.ok o)
  | .choose place => (r.choose place).map .moved
  | .jump id => (r.jump id).map .entered
  | .setFlags ids => { answer := .done, runner := r.setFlags ids }
  | .clearFlags => { answer := .done, runner := r.clearFlags }
  | .install gate => { answer := .done, runner := { r with gate } }
  | .load pool => { answer := .done, runner := r.load pool }
  | .restore saved options => (saved.restore r options).map .entered

/-- Carries out commands in order, and gathers what happened. -/
def Runner.performAll (r : Runner) : List Command → Turn (List Reply)
  | [] => { answer := [], runner := r }
  | c :: later =>
    let t := r.perform c
    ((t.runner.performAll later).after t.trace).map (t.answer :: ·)

/-- A play with its backlog. -/
structure Session where
  runner : Runner
  backlog : Backlog := {}

/-- What a session heard of a command. -/
structure Session.Step where
  reply : Reply
  session : Session
  /-- What happened, in order. -/
  trace : List Signal

/-- Carries out a command. With a presenter the backlog listens too; without one, the events are
told as notices, and the backlog hears nothing. -/
def Session.perform (s : Session) (c : Command) (presented : Bool := true) : Session.Step :=
  let t := s.runner.perform c
  let trace := if presented then t.trace else Signal.headless t.trace
  { reply := t.answer
    session := { runner := t.runner, backlog := s.backlog.hear (Signal.events trace) }
    trace }

end StoryGraph
