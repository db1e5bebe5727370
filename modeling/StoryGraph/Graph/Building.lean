import StoryGraph.Graph.Pool

set_option relaxedAutoImplicit false
set_option autoImplicit false

/-!
# Building a pool

While a pool grows, a journal keeps what the author of the script should hear of. Both outlive a
failure: what was built before it stays, and so does what was noticed.

## Main definitions

* `Build` — a pool and the journal of its making.
* `Building` — a step of the work on a build.
* `Building.upsert`, `Building.ensure`, `Building.pushFlags`, `Building.attach` — the growth of
  the pool, with the notices that go with it.
-/

namespace StoryGraph

/-- A pool and the journal of its making. -/
structure Build where
  pool : Pool
  /-- The notices, in the order in which they were made. -/
  journal : Array Notice := #[]

/-- A step of the work on a build, which may fail for a cause of type `ε`. -/
abbrev Building (ε α : Type) := EStateM ε Build α

namespace Building

variable {ε α : Type}

/-- Writes a notice into the journal. -/
def note (n : Notice) : Building ε Unit := fun b =>
  .ok () { b with journal := b.journal.push n }

/-- Lets the pool grow. When a part is full, the pool stays as it was. -/
def grow (f : Pool → Except Overflow (α × Pool)) : Building Overflow α := fun b =>
  match f b.pool with
  | .ok (a, pool) => .ok a { b with pool }
  | .error o => .error o b

/-- Empties the pool. -/
def reset : Building ε Unit := fun b => .ok () { b with pool := b.pool.reset }

/-- Declares a node. -/
def upsert (id : NodeId) (d : Draft) : Building Overflow Pool.Declared :=
  grow (·.upsert id d)

/-- The slot of a node, which becomes a placeholder if it is not there. -/
def ensure (id : NodeId) : Building Overflow Nat := fun b =>
  if b.pool.contains id then grow (·.ensure id) b
  else grow (·.ensure id) { b with journal := b.journal.push (.placeholder id) }

/-- Appends flags, and names the run that they form. -/
def pushFlags (ids : List FlagId) : Building Overflow Span :=
  grow (·.pushFlags ids)

/-- Appends a choice to the node in a slot, and notices when the run of its choices breaks. -/
def attach (slot : Nat) (c : Choice) : Building Overflow Unit := fun b =>
  match b.pool.attach slot c with
  | .ok pool => .ok () { pool, journal := b.journal ++ (b.pool.brokenRun? slot).toArray }
  | .error o => .error o b

end Building

end StoryGraph
