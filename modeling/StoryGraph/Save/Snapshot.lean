import StoryGraph.Play.Runner

set_option relaxedAutoImplicit false
set_option autoImplicit false

/-!
# Snapshots

What has to be saved of a play in order to resume it: the active node and the flags.

## Main definitions

* `Snapshot` — the saved state of a play.
* `Snapshot.capture` — the snapshot of a play.
* `Snapshot.restore` — a play brought to the state of a snapshot.
-/

namespace StoryGraph

/-- The saved state of a play. -/
structure Snapshot where
  /-- The version of the format. -/
  version : UInt32
  /-- The active node. -/
  nodeId : Option NodeId
  flags : List FlagId
deriving DecidableEq, Repr

namespace Snapshot

/-- The version of the format that is written and read. -/
def currentVersion : UInt32 := 1

/-- How a snapshot is restored. -/
structure Options where
  /-- Whether the flags that are set are cleared first. -/
  clearFlags : Bool := true
  /-- Whether the saved node is entered. -/
  jump : Bool := true
deriving DecidableEq, Repr, Inhabited

/-- The snapshot of a play. -/
def capture (r : Runner) : Snapshot where
  version := currentVersion
  nodeId := r.current?.map (·.id)
  flags := r.flags.ids

/-- Brings a play to the state of a snapshot, and answers whether the saved node was entered. The
flags are restored even when that node is not in the story. -/
def restore (s : Snapshot) (r : Runner) (o : Options := {}) : Turn Bool :=
  let r := if o.clearFlags then r.clearFlags else r
  let r := r.setFlags s.flags
  match s.nodeId, o.jump with
  | some id, true =>
    let t := r.jump id
    if t.answer then t else { t with trace := t.trace ++ [.notice (.savedNodeMissing id)] }
  | _, _ => { answer := false, runner := r }

end Snapshot

end StoryGraph
