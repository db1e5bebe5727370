import StoryGraph.Graph.Limits
import StoryGraph.Graph.Node
import StoryGraph.Notice

set_option relaxedAutoImplicit false
set_option autoImplicit false

/-!
# Pools

A compiled story lies in one pool: the nodes in the order of their first mention, all choices, and
all flags that a list names. A node keeps its place, its *slot*, for as long as the pool lasts.

## Main definitions

* `Pool` — a compiled story.
* `Pool.slotOf?`, `Pool.node?`, `Pool.find?` — the slot of an id, the node in a slot, and both.
* `Pool.choicesOf`, `Pool.effectsOf`, `Pool.requiredBy`, `Pool.effectsOfChoice` — the lists that
  spans name.
* `Pool.upsert`, `Pool.ensure`, `Pool.pushFlags`, `Pool.attach` — the four ways in which a pool
  grows.

## Implementation notes

A way to grow answers with a new pool or with the part that is full; so it cannot leave half of
its work behind. The index repeats what the nodes say, for the sake of a fast look-up.
-/

namespace StoryGraph

/-- A compiled story. -/
structure Pool where
  limits : Limits
  /-- The nodes in the order of their slots. -/
  nodes : Array Node := #[]
  /-- The choices of all nodes. -/
  choices : Array Choice := #[]
  /-- The flags of all lists. -/
  flagRefs : Array FlagId := #[]
  /-- The slot of each node. -/
  index : Std.TreeMap NodeId Nat := ∅

namespace Pool

/-- The empty pool under the given limits, lowered to what a span can address. -/
def empty (limits : Limits := {}) : Pool := { limits := limits.addressable }

instance : Inhabited Pool := ⟨empty⟩

/-- The pool without its contents. -/
def reset (p : Pool) : Pool := { limits := p.limits }

/-- Two pools are equal when they hold the same, under the same limits. -/
instance : BEq Pool where
  beq p q :=
    decide (p.limits = q.limits) && p.nodes == q.nodes && p.choices == q.choices &&
      p.flagRefs == q.flagRefs && p.index.toList == q.index.toList

/-! ## Look-up -/

/-- The slot of a node, if the node is in the pool. -/
def slotOf? (p : Pool) (id : NodeId) : Option Nat := p.index[id]?

/-- The node with the given id is in the pool. -/
def contains (p : Pool) (id : NodeId) : Bool := p.index.contains id

/-- The node in a slot. -/
def node? (p : Pool) (slot : Nat) : Option Node := p.nodes[slot]?

/-- A node with its slot. -/
def find? (p : Pool) (id : NodeId) : Option (Nat × Node) := do
  let slot ← p.slotOf? id
  let node ← p.node? slot
  return (slot, node)

/-- The flags in a run of the pool. -/
def flags (p : Pool) (s : Span) : List FlagId := s.slice p.flagRefs

/-- The choices that a node offers. -/
def choicesOf (p : Pool) (n : Node) : List Choice := n.choices.slice p.choices

/-- The flags that a node sets on entry. -/
def effectsOf (p : Pool) (n : Node) : List FlagId := p.flags n.effects

/-- The flags that a node requires for entry. -/
def requiredBy (p : Pool) (n : Node) : List FlagId := p.flags n.requires

/-- The flags that a choice sets when it is taken. -/
def effectsOfChoice (p : Pool) (c : Choice) : List FlagId := p.flags c.effects

/-! ## Growth -/

/-- How many elements a part holds. -/
def size (p : Pool) : Part → Nat
  | .nodes => p.nodes.size
  | .choices => p.choices.size
  | .flagRefs => p.flagRefs.size

/-- A part has room for `extra` more elements, or it overflows. -/
def room (p : Pool) (part : Part) (extra : Nat) : Except Overflow Unit :=
  if p.size part + extra > (p.limits.of part).toNat then .error ⟨part, p.limits.of part⟩
  else .ok ()

/-- Gives a new node the next slot. -/
def allocate (p : Pool) (n : Node) : Except Overflow (Nat × Pool) := do
  p.room .nodes 1
  return (p.nodes.size,
    { p with nodes := p.nodes.push n, index := p.index.insert n.id p.nodes.size })

/-- What became of a declared node. -/
structure Declared where
  slot : Nat
  /-- Whether the node was not there before. -/
  inserted : Bool
deriving DecidableEq, Repr

/-- Declares a node: a node that is there is patched in its slot, any other gets the next one. -/
def upsert (p : Pool) (id : NodeId) (d : Draft) : Except Overflow (Declared × Pool) :=
  match p.slotOf? id with
  | some slot => .ok (⟨slot, false⟩, { p with nodes := p.nodes.modify slot (·.apply d) })
  | none => (p.allocate ((Node.placeholder id).apply d)).map fun (slot, p) => (⟨slot, true⟩, p)

/-- The slot of a node, which becomes a placeholder if it is not there. -/
def ensure (p : Pool) (id : NodeId) : Except Overflow (Nat × Pool) :=
  match p.slotOf? id with
  | some slot => .ok (slot, p)
  | none => p.allocate (Node.placeholder id)

/-- Appends flags, and names the run that they form. The empty list needs no room. -/
def pushFlags (p : Pool) (ids : List FlagId) : Except Overflow (Span × Pool) := do
  let offset := p.flagRefs.size.toUInt32
  if ids.isEmpty then
    return (⟨offset, 0⟩, p)
  p.room .flagRefs ids.length
  return (⟨offset, ids.length.toUInt32⟩, { p with flagRefs := p.flagRefs ++ ids.toArray })

/-- Appends a choice to the node in a slot; for a slot without a node nothing is appended. -/
def attach (p : Pool) (slot : Nat) (c : Choice) : Except Overflow Pool := do
  p.room .choices 1
  if slot < p.nodes.size then
    return { p with
      nodes := p.nodes.modify slot (·.withChoice p.choices.size.toUInt32)
      choices := p.choices.push c }
  else
    return p

/-- The notice due when a choice is attached: the run of a node that has choices must end where
the next choice will be. -/
def brokenRun? (p : Pool) (slot : Nat) : Option Notice := do
  let n ← p.node? slot
  let position := p.choices.size.toUInt32
  if n.hasChoices && n.choices.stop != position.toNat then
    return .brokenRun n.id n.choices.offset position
  else
    none

end Pool

end StoryGraph
