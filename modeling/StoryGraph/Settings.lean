import StoryGraph.Graph.Limits
import StoryGraph.Graph.NodeId
import StoryGraph.Play.Session

set_option relaxedAutoImplicit false
set_option autoImplicit false

/-!
# Settings

What can be set for compiling and playing a story.

## Main definitions

* `Settings` — the settings, all with defaults.
* `Settings.session` — a session over a compiled story, as the settings want it.
-/

namespace StoryGraph

/-- What can be set for compiling and playing a story. -/
structure Settings where
  limits : Limits := {}
  /-- The largest number of nodes that wait to be entered. -/
  pendingCapacity : UInt64 := 1024
  /-- The number of lines that the backlog keeps. -/
  backlogCapacity : UInt64 := 256
  /-- The node at which a new game starts. -/
  startNode : NodeId := ⟨0⟩
deriving DecidableEq, Repr, Inhabited

namespace Settings

/-- A play of a compiled story, nothing done yet. -/
def runner (s : Settings) (pool : Pool) : Runner where
  pool
  capacity := s.pendingCapacity.toNat
  startNode := s.startNode

/-- A backlog without lines. -/
def backlog (s : Settings) : Backlog where
  capacity := s.backlogCapacity.toNat

/-- A session over a compiled story, nothing done yet. -/
def session (s : Settings) (pool : Pool) : Session where
  runner := s.runner pool
  backlog := s.backlog

end Settings

end StoryGraph
