import StoryGraph.Proofs.Graph.Lookup
import StoryGraph.Proofs.GuardedWords

set_option relaxedAutoImplicit false
set_option autoImplicit false

/-!
# Guarded growth

The four ways in which a pool grows, by guarded steps: sums that have to fit into a word, sizes that
have to fit into the shorter words of a run, and a slot that has to be in the pool. A pool that is
well formed grows so without ever being held up, and in the same way.

## Main definitions

* `Pool.guardedUpsert`, `Pool.guardedEnsure`, `Pool.guardedPushFlags`, `Pool.guardedAttach` — the
  four ways to grow.

## Main results

* `Pool.WellFormed.run_guardedUpsert`, `Pool.WellFormed.run_guardedEnsure`,
  `Pool.WellFormed.run_guardedPushFlags`, `Pool.WellFormed.run_guardedAttach` — each of them comes
  to what the pool does without guards.

## Implementation notes

A guarded step may be held up, and then it has no result at all; a part that is full is a result
like any other. So its type is `ExceptT Overflow Option`, and an `Option` in a step is a guard.
-/

namespace StoryGraph

/-! ## The steps -/

/-- The node after it got the choice at `position`. The number of its choices must fit into the word
of a run, and so must the place where a run ends that is made longer, as it is compared with the
position. -/
def Node.guardedWithChoice (n : Node) (position : UInt32) : Option Node := do
  let count ← Word.narrow? (n.choices.count.toNat + 1)
  if n.choices.isEmpty then
    return { n with choices := { offset := position, count } }
  let _ ← n.choices.guardedStop
  return { n with choices := { offset := n.choices.offset, count } }

namespace Pool

/-- A part has room for `extra` more elements, as a sum of words tells. -/
def guardedRoom (p : Pool) (part : Part) (extra : Nat) : ExceptT Overflow Option Unit := do
  let wanted ← Word.fit? (p.size part + extra)
  if wanted > (p.limits.of part).toNat then throw ⟨part, p.limits.of part⟩

/-- Gives a new node the next slot. -/
def guardedAllocate (p : Pool) (n : Node) : ExceptT Overflow Option (Nat × Pool) := do
  p.guardedRoom .nodes 1
  return (p.nodes.size,
    { p with nodes := p.nodes.push n, index := p.index.insert n.id p.nodes.size })

/-- Declares a node. A node that is there is read from its slot, which must be one of the pool. -/
def guardedUpsert (p : Pool) (id : NodeId) (d : Draft) :
    ExceptT Overflow Option (Declared × Pool) := do
  match p.slotOf? id with
  | some slot =>
    let n ← p.node? slot
    return (⟨slot, false⟩, { p with nodes := p.nodes.setIfInBounds slot (n.apply d) })
  | none =>
    let (slot, p) ← p.guardedAllocate ((Node.placeholder id).apply d)
    return (⟨slot, true⟩, p)

/-- The slot of a node, which becomes a placeholder if it is not there. -/
def guardedEnsure (p : Pool) (id : NodeId) : ExceptT Overflow Option (Nat × Pool) := do
  match p.slotOf? id with
  | some slot => return (slot, p)
  | none => p.guardedAllocate (Node.placeholder id)

/-- Appends flags. Where they start and how many they are must fit into the words of a run. -/
def guardedPushFlags (p : Pool) (ids : List FlagId) :
    ExceptT Overflow Option (Span × Pool) := do
  if ids.isEmpty then
    let offset ← Word.narrow? p.flagRefs.size
    return (⟨offset, 0⟩, p)
  p.guardedRoom .flagRefs ids.length
  let offset ← Word.narrow? p.flagRefs.size
  let count ← Word.narrow? ids.length
  return (⟨offset, count⟩, { p with flagRefs := p.flagRefs ++ ids.toArray })

/-- Appends a choice to the node in a slot. The place of the choice must fit into the word of a
run. -/
def guardedAttach (p : Pool) (slot : Nat) (c : Choice) : ExceptT Overflow Option Pool := do
  p.guardedRoom .choices 1
  let position ← Word.narrow? p.choices.size
  match p.node? slot with
  | none => return p
  | some n =>
    let n ← n.guardedWithChoice position
    return { p with
      nodes := p.nodes.setIfInBounds slot n
      choices := p.choices.push c }

end Pool

/-! ## No step is held up -/

/-- A node takes a choice while it has fewer choices than fit into the word of a run.

**Proof sketch.** One more than the count fits in a word, so the guarded sum is the plain one. Where
the run ends is only looked at, not kept. -/
theorem Node.guardedWithChoice_eq {n : Node} (h : n.choices.count.toNat + 1 < UInt32.size)
    (position : UInt32) : n.guardedWithChoice position = some (n.withChoice position) := by
  have hcount : Word.narrow? (n.choices.count.toNat + 1) = some (n.choices.count + 1) := by
    rw [Word.narrow?_of_lt h, Option.some.injEq, ← UInt32.toNat_inj, Span.toNat_toUInt32 h,
      UInt32.toNat_add, UInt32.toNat_one, Nat.mod_eq_of_lt h]
  unfold guardedWithChoice withChoice
  rw [hcount, Span.guardedStop_eq]
  cases n.choices.isEmpty <;> rfl

namespace Pool

variable {p : Pool}

/-- A node that is read, changed and put back is changed in its slot. -/
theorem setIfInBounds_eq_modify {n : Node} {slot : Nat} (hn : p.node? slot = some n)
    (f : Node → Node) : p.nodes.setIfInBounds slot (f n) = p.nodes.modify slot f := by
  refine Array.ext_getElem? fun s => ?_
  rw [Array.getElem?_setIfInBounds, Array.getElem?_modify]
  split
  case isTrue h =>
    subst h
    have hlt := (Array.getElem?_eq_some_iff.1 hn).1
    rw [node?] at hn
    rw [if_pos hlt, hn, Option.map_some]
  case isFalse => rfl

/-- The sum of sizes that are not too large fits into a word. -/
theorem run_guardedRoom {part : Part} {extra : Nat} (h : p.size part + extra < UInt64.size) :
    (p.guardedRoom part extra).run = some (p.room part extra) := by
  rw [guardedRoom, room, Word.fit?_of_lt h]
  change ExceptT.run (if _ then _ else _) = _
  split <;> rfl

namespace WellFormed

/-- No part is so large that one more element would not fit into a word. -/
theorem run_guardedRoom_one (hp : p.WellFormed) (part : Part) :
    (p.guardedRoom part 1).run = some (p.room part 1) := by
  have hlt := hp.size_lt part
  have hwords : UInt32.size + 1 < UInt64.size := by decide
  exact run_guardedRoom (by omega)

/-- A new node never fails to get its slot but for want of room. -/
theorem run_guardedAllocate (hp : p.WellFormed) (n : Node) :
    (p.guardedAllocate n).run = some (p.allocate n) := by
  have hroom := hp.run_guardedRoom_one .nodes
  unfold guardedAllocate allocate
  rw [ExceptT.run_bind, hroom]
  cases p.room .nodes 1 <;> rfl

/-- A node that is patched is in its slot.

**Proof sketch.** A slot that the index gives holds a node, since the pool is well formed; so the
guard passes and the patch is the same. A new id is `run_guardedAllocate`. -/
theorem run_guardedUpsert (hp : p.WellFormed) (id : NodeId) (d : Draft) :
    (p.guardedUpsert id d).run = some (p.upsert id d) := by
  unfold guardedUpsert Pool.upsert
  cases hslot : p.slotOf? id with
  | some slot =>
    obtain ⟨n, hn, -⟩ := Option.map_eq_some_iff.1 ((hp.slotOf?_eq_some_iff id slot).1 hslot)
    simp only [hn, ← setIfInBounds_eq_modify hn]
    rfl
  | none =>
    have halloc := hp.run_guardedAllocate ((Node.placeholder id).apply d)
    simp only
    rw [ExceptT.run_bind, halloc]
    cases p.allocate ((Node.placeholder id).apply d) <;> rfl

/-- A node that is asked for is there, or gets its slot. -/
theorem run_guardedEnsure (hp : p.WellFormed) (id : NodeId) :
    (p.guardedEnsure id).run = some (p.ensure id) := by
  unfold guardedEnsure Pool.ensure
  cases p.slotOf? id with
  | some slot => rfl
  | none => exact hp.run_guardedAllocate (Node.placeholder id)

/-- Where flags go and how many they are fits into the words of a run, once there is room for them.
The sum that tells whether there is fits into a word if the list of flags fits into memory.

**Proof sketch.** The sum of the size and of the length stays in a word, as the size is below
`UInt32.size` and the length at most `Word.largestSize`. Once there is room, the length is below the
limit, and so it has a word of its own. -/
theorem run_guardedPushFlags (hp : p.WellFormed) {ids : List FlagId}
    (hids : ids.length ≤ Word.largestSize) :
    (p.guardedPushFlags ids).run = some (p.pushFlags ids) := by
  have hlt := hp.size_lt .flagRefs
  have hsum : p.size .flagRefs + ids.length < UInt64.size := by
    simp only [UInt32.size, UInt64.size, Word.largestSize] at *
    omega
  have hroom := run_guardedRoom hsum
  have hoffset : Word.narrow? p.flagRefs.size = some p.flagRefs.size.toUInt32 :=
    Word.narrow?_of_lt hlt
  unfold guardedPushFlags Pool.pushFlags
  rw [hoffset]
  split
  case isTrue => rfl
  case isFalse =>
    rw [ExceptT.run_bind, hroom]
    cases hfull : p.room .flagRefs ids.length with
    | error o => rfl
    | ok u =>
      have hle := room_eq_ok_iff.1 hfull
      have hcount : Word.narrow? ids.length = some ids.length.toUInt32 :=
        Word.narrow?_of_lt (Nat.lt_of_le_of_lt (by omega) (hp.limits_lt .flagRefs))
      rw [hcount]
      rfl

/-- A choice has a place that fits into the words of a run, and its node fewer choices than fit.

**Proof sketch.** The place of the choice is the number of choices, which is below `UInt32.size`. If
the slot has no node, nothing more is written. If it has one, its run grows by one choice, which
does not overflow by `Node.guardedWithChoice_eq`. -/
theorem run_guardedAttach (hp : p.WellFormed) (slot : Nat) (c : Choice) :
    (p.guardedAttach slot c).run = some (p.attach slot c) := by
  have hroom := hp.run_guardedRoom_one .choices
  have hposition : Word.narrow? p.choices.size = some p.choices.size.toUInt32 :=
    Word.narrow?_of_lt (hp.size_lt .choices)
  unfold guardedAttach Pool.attach
  rw [ExceptT.run_bind, hroom, hposition]
  cases hfull : p.room .choices 1 with
  | error o => rfl
  | ok u =>
    cases hn : p.node? slot with
    | none =>
      have hge : ¬ slot < p.nodes.size := by simpa [node?] using hn
      rw [if_neg hge]
      rfl
    | some n =>
      have hslot : slot < p.nodes.size := (Array.getElem?_eq_some_iff.1 hn).1
      have hmem := Array.mem_of_getElem? hn
      have hle : p.choices.size + 1 ≤ _ := room_eq_ok_iff.1 hfull
      -- the run of the node ends among the choices, and there is room for one more of them
      have hcount : n.choices.count.toNat + 1 < UInt32.size := by
        have hlimit := hp.limits_lt .choices
        have hstop := hp.stop_le n hmem
        rw [Span.stop] at hstop
        omega
      simp only [if_pos hslot, ← setIfInBounds_eq_modify hn, Node.guardedWithChoice_eq hcount]
      rfl

end WellFormed

end Pool

end StoryGraph
