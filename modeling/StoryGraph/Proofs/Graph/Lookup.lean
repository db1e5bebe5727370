import StoryGraph.Proofs.Graph.Growth

set_option relaxedAutoImplicit false
set_option autoImplicit false

/-!
# Looking up what has grown

What becomes of the nodes that are looked up by their ids when a pool grows, and why equal pools
answer every look-up alike.

## Main definitions

* `Pool.ids` — the ids of the nodes in the order of their slots.
* `Pool.nodeOf` — the node with a given id, or the placeholder that would stand for it.
* `Pool.Agrees` — two pools hold the same.

## Main results

* `Pool.nodeOf_upsert`, `Pool.nodeOf_ensure`, `Pool.nodeOf_pushFlags`, `Pool.nodeOf_attach` — how
  each way to grow changes the nodes.
* `Pool.ids_upsert`, `Pool.ids_ensure` — how the ids grow.
* `Pool.agrees_of_beq`, `Pool.Agrees.find?` — equal pools find the same nodes.

## Implementation notes

A row may declare a node that is there or one that is not, and to the rest of the development that
makes no difference: `Pool.nodeOf` stands for both, so that a declaration is one equation.
-/

namespace StoryGraph

namespace Pool

variable {p q : Pool}

/-- The ids of the nodes in the order of their slots. -/
def ids (p : Pool) : List NodeId := p.nodes.toList.map (·.id)

/-- The node with the given id; while there is none, the placeholder that would stand for it. -/
def nodeOf (p : Pool) (id : NodeId) : Node := (p.find? id).elim (.placeholder id) (·.2)

/-! ## Ids and slots -/

/-- The slot of an id is its place among the ids. -/
theorem WellFormed.slotOf?_eq_some_iff_ids (hp : p.WellFormed) {id : NodeId} {slot : Nat} :
    p.slotOf? id = some slot ↔ p.ids[slot]? = some id := by
  rw [hp.slotOf?_eq_some_iff, ids, List.getElem?_map, node?, Array.getElem?_toList]

/-- A pool contains the nodes whose ids it lists. -/
theorem WellFormed.contains_iff_mem_ids (hp : p.WellFormed) {id : NodeId} :
    p.contains id = true ↔ id ∈ p.ids := by
  rw [contains_iff, Option.isSome_iff_exists, List.mem_iff_getElem?]
  exact exists_congr fun slot => hp.slotOf?_eq_some_iff_ids

/-- An id without a slot is not listed. -/
theorem WellFormed.slotOf?_eq_none_iff (hp : p.WellFormed) {id : NodeId} :
    p.slotOf? id = none ↔ id ∉ p.ids := by
  rw [← hp.contains_iff_mem_ids, contains_iff]
  cases p.slotOf? id <;> simp

/-- A listed id leads to its node. -/
theorem WellFormed.find?_of_mem_ids (hp : p.WellFormed) {id : NodeId} (h : id ∈ p.ids) :
    ∃ slot, p.find? id = some (slot, p.nodeOf id) := by
  cases hf : p.find? id with
  | none => exact absurd h (hp.slotOf?_eq_none_iff.1 (hp.find?_eq_none_iff.1 hf))
  | some found => exact ⟨found.1, by simp [nodeOf, hf]⟩

/-- A node that is found by its id is the node of this id. -/
theorem nodeOf_of_find? {id : NodeId} {slot : Nat} {n : Node} (h : p.find? id = some (slot, n)) :
    p.nodeOf id = n := by
  simp [nodeOf, h]

/-- A node in a slot is the node of its id. -/
theorem WellFormed.nodeOf_of_node? (hp : p.WellFormed) {slot : Nat} {n : Node}
    (h : p.node? slot = some n) : p.nodeOf n.id = n :=
  nodeOf_of_find? (hp.find?_eq_some_iff.2 ⟨h, rfl⟩)

/-- No two nodes of a pool have the same id. -/
theorem WellFormed.eq_of_id_eq (hp : p.WellFormed) {n m : Node} (hn : n ∈ p.nodes)
    (hm : m ∈ p.nodes) (hid : n.id = m.id) : n = m := by
  obtain ⟨slot, hslot⟩ := Array.mem_iff_getElem?.1 hn
  obtain ⟨other, hother⟩ := Array.mem_iff_getElem?.1 hm
  rw [← hp.nodeOf_of_node? hslot, ← hp.nodeOf_of_node? hother, hid]

/-- The slot of a node is found by its id. -/
theorem WellFormed.slotOf?_of_node? (hp : p.WellFormed) {slot : Nat} {n : Node}
    (hn : p.node? slot = some n) : p.slotOf? n.id = some slot := by
  rw [hp.slotOf?_eq_some_iff, hn]
  rfl

/-- While an id has no slot, its node is a placeholder. -/
theorem nodeOf_of_slotOf?_eq_none {id : NodeId} (h : p.slotOf? id = none) :
    p.nodeOf id = .placeholder id := by
  simp [nodeOf, find?, h]

/-! ## Nodes of a growing pool -/

/-- A pool finds what another one finds when the two agree on a slot and on the node in it. -/
theorem nodeOf_congr {id : NodeId} (hslot : q.slotOf? id = p.slotOf? id)
    (hnode : ∀ slot, p.slotOf? id = some slot → q.node? slot = p.node? slot) :
    q.nodeOf id = p.nodeOf id := by
  have hfind : q.find? id = p.find? id := by
    simp only [find?, hslot]
    cases hs : p.slotOf? id with
    | none => rfl
    | some slot => simp [hnode slot hs]
  rw [nodeOf, nodeOf, hfind]

/-- A new node is the node of its id, and the others are what they were.

**Proof sketch.** The new node is in the last slot, and the pool stays well formed, so its id leads
there. Any other id keeps its entry in the index, and that entry is not the last slot, which was
free before. -/
theorem WellFormed.nodeOf_push (hp : p.WellFormed) {n : Node}
    (hq : q = { p with nodes := p.nodes.push n, index := p.index.insert n.id p.nodes.size })
    (hwf : q.WellFormed) (id : NodeId) :
    q.nodeOf id = if n.id = id then n else p.nodeOf id := by
  split
  case isTrue hid =>
    subst hid
    have hlast : q.node? p.nodes.size = some n := by simp [hq, node?]
    exact hwf.nodeOf_of_node? hlast
  case isFalse hid =>
    refine nodeOf_congr ?_ fun slot hs => ?_
    · simp [hq, slotOf?, Std.TreeMap.getElem?_insert, hid]
    · have hlt : slot ≠ p.nodes.size := by
        rintro rfl
        have := (hp.slotOf?_eq_some_iff id _).1 hs
        simp [node?] at this
      simp [hq, node?, Array.getElem?_push, hlt]

/-- A node changed in its slot is changed under its id, and the others are what they were.

**Proof sketch.** The index is what it was. The id leads to the slot that was changed; any other id
leads to another slot, as the node in this one has only one id. -/
theorem WellFormed.nodeOf_modify (hp : p.WellFormed) {id : NodeId} {slot : Nat} {f : Node → Node}
    {choices : Array Choice} (hslot : p.slotOf? id = some slot)
    (hq : q = { p with nodes := p.nodes.modify slot f, choices }) (other : NodeId) :
    q.nodeOf other = if id = other then f (p.nodeOf other) else p.nodeOf other := by
  obtain ⟨n, hn, hid⟩ := Option.map_eq_some_iff.1 ((hp.slotOf?_eq_some_iff id slot).1 hslot)
  split
  case isTrue hsame =>
    subst hsame
    have hfound : q.find? id = some (slot, f n) := by
      have hnode : q.node? slot = some (f n) := by
        simp only [node?] at hn
        simp [hq, node?, Array.getElem?_modify, hn]
      have hsl : q.slotOf? id = some slot := by
        rw [hq]
        exact hslot
      simp [find?, hsl, hnode]
    rw [nodeOf_of_find? hfound, nodeOf_of_find? (hp.find?_eq_some_iff.2 ⟨hn, hid⟩)]
  case isFalse hne =>
    refine nodeOf_congr (by rw [hq]; rfl) fun s hs => ?_
    have hother : slot ≠ s := by
      rintro rfl
      have h := (hp.slotOf?_eq_some_iff other slot).1 hs
      rw [hn] at h
      exact hne (hid.symm.trans (Option.some.inj h))
    simp [hq, node?, Array.getElem?_modify, hother]

/-- A declaration changes the node that it names, whether that was there or not.

**Proof sketch.** If the id has a slot, the node there is patched, by `nodeOf_modify`. If it has
none, a patched placeholder is pushed, by `nodeOf_push`, and a placeholder is what `nodeOf` gives
for an id without a slot. -/
theorem nodeOf_upsert (hp : p.WellFormed) {id : NodeId} {d : Draft} {r : Declared}
    (h : p.upsert id d = .ok (r, q)) (other : NodeId) :
    q.nodeOf other = if id = other then (p.nodeOf other).apply d else p.nodeOf other := by
  have hwf := hp.upsert h
  rcases upsert_eq_ok h with ⟨slot, hslot, -, hq⟩ | ⟨hnew, -, -, hq⟩
  · exact hp.nodeOf_modify hslot (f := (·.apply d)) hq other
  · rw [hp.nodeOf_push (n := (Node.placeholder id).apply d) hq hwf other]
    by_cases hid : id = other
    · subst hid
      simp [nodeOf_of_slotOf?_eq_none hnew, Node.apply, Node.placeholder]
    · simp [hid, Node.apply, Node.placeholder]

/-- Asking for a node changes no node.

**Proof sketch.** A placeholder that is pushed is what `nodeOf` gave before, when the id had no
slot. -/
theorem nodeOf_ensure (hp : p.WellFormed) {id : NodeId} {slot : Nat}
    (h : p.ensure id = .ok (slot, q)) (other : NodeId) : q.nodeOf other = p.nodeOf other := by
  have hwf := hp.ensure h
  rcases ensure_eq_ok h with ⟨-, rfl⟩ | ⟨hnew, -, -, hq⟩
  · rfl
  · rw [hp.nodeOf_push (n := Node.placeholder id) hq hwf other]
    by_cases hid : id = other
    · subst hid
      simp [nodeOf_of_slotOf?_eq_none hnew, Node.placeholder]
    · simp [hid, Node.placeholder]

/-- Appending flags changes no node. -/
theorem nodeOf_pushFlags {ids : List FlagId} {s : Span} (h : p.pushFlags ids = .ok (s, q))
    (other : NodeId) : q.nodeOf other = p.nodeOf other := by
  obtain ⟨-, -, rfl⟩ := pushFlags_eq_ok h
  rfl

/-- A choice lengthens the run of its node, and of no other.

**Proof sketch.** The slot of the id is a slot of the pool, so its node is changed there, by
`nodeOf_modify`. -/
theorem nodeOf_attach (hp : p.WellFormed) {id : NodeId} {slot : Nat} {c : Choice}
    (hslot : p.slotOf? id = some slot) (h : p.attach slot c = .ok q) (other : NodeId) :
    q.nodeOf other =
      if id = other then (p.nodeOf other).withChoice p.choices.size.toUInt32
      else p.nodeOf other := by
  obtain ⟨-, ⟨-, hq⟩ | ⟨hge, -⟩⟩ := attach_eq_ok h
  · exact hp.nodeOf_modify hslot (f := (·.withChoice p.choices.size.toUInt32)) hq other
  · have := (hp.slotOf?_eq_some_iff id slot).1 hslot
    simp [node?, hge] at this

/-! ## Ids of a growing pool -/

/-- A change in one slot that keeps the id of its node lists the same ids. -/
theorem ids_modify {f : Node → Node} (hid : ∀ n, (f n).id = n.id) (slot : Nat)
    (choices : Array Choice) : ids { p with nodes := p.nodes.modify slot f, choices } = p.ids :=
  toList_map_modify hid slot

/-- A declaration lists its node last, unless it is listed already.

**Proof sketch.** A node that is patched keeps its id, so the ids stay. A new one is pushed behind
the others, with this id. -/
theorem ids_upsert (hp : p.WellFormed) {id : NodeId} {d : Draft} {r : Declared}
    (h : p.upsert id d = .ok (r, q)) :
    q.ids = if id ∈ p.ids then p.ids else p.ids ++ [id] := by
  rcases upsert_eq_ok h with ⟨slot, hslot, -, rfl⟩ | ⟨hnew, -, -, rfl⟩
  · have hmem : id ∈ p.ids := List.mem_iff_getElem?.2 ⟨slot, hp.slotOf?_eq_some_iff_ids.1 hslot⟩
    rw [if_pos hmem]
    exact ids_modify (p := p) (f := (·.apply d)) (fun _ => rfl) slot p.choices
  · rw [if_neg (hp.slotOf?_eq_none_iff.1 hnew)]
    simp [ids, Node.apply, Node.placeholder]

/-- Asking for a node lists it last, unless it is listed already. -/
theorem ids_ensure (hp : p.WellFormed) {id : NodeId} {slot : Nat}
    (h : p.ensure id = .ok (slot, q)) :
    q.ids = if id ∈ p.ids then p.ids else p.ids ++ [id] := by
  rcases ensure_eq_ok h with ⟨hslot, rfl⟩ | ⟨hnew, -, -, rfl⟩
  · rw [if_pos (List.mem_iff_getElem?.2 ⟨slot, hp.slotOf?_eq_some_iff_ids.1 hslot⟩)]
  · rw [if_neg (hp.slotOf?_eq_none_iff.1 hnew)]
    simp [ids, Node.placeholder]

/-- The node that was asked for is in the slot that was answered. -/
theorem slotOf?_ensure {id : NodeId} {slot : Nat} (h : p.ensure id = .ok (slot, q)) :
    q.slotOf? id = some slot := by
  rcases ensure_eq_ok h with ⟨hslot, rfl⟩ | ⟨-, -, rfl, rfl⟩
  · exact hslot
  · simp [slotOf?]

/-- Appending flags lists no node. -/
theorem ids_pushFlags {ids : List FlagId} {s : Span} (h : p.pushFlags ids = .ok (s, q)) :
    q.ids = p.ids := by
  obtain ⟨-, -, rfl⟩ := pushFlags_eq_ok h
  rfl

/-- Attaching a choice lists no node. -/
theorem ids_attach {slot : Nat} {c : Choice} (h : p.attach slot c = .ok q) : q.ids = p.ids := by
  obtain ⟨-, ⟨-, rfl⟩ | ⟨-, rfl⟩⟩ := attach_eq_ok h
  · exact ids_modify (p := p) (f := (·.withChoice p.choices.size.toUInt32)) (fun _ => rfl) slot _
  · rfl

/-! ## Pools that hold the same -/

/-- Two pools hold the same nodes, choices and flags, and give each node the same slot. -/
structure Agrees (p q : Pool) : Prop where
  nodes : p.nodes = q.nodes
  choices : p.choices = q.choices
  flagRefs : p.flagRefs = q.flagRefs
  slotOf? : ∀ id, p.slotOf? id = q.slotOf? id

/-- Equal pools hold the same.

**Proof sketch.** Equality compares the parts one by one, and the index as a sorted list; two
indices with the same list find the same slot for every id. -/
theorem agrees_of_beq (h : (p == q) = true) : p.Agrees q := by
  change (decide (p.limits = q.limits) && p.nodes == q.nodes && p.choices == q.choices &&
    p.flagRefs == q.flagRefs && p.index.toList == q.index.toList) = true at h
  simp only [Bool.and_eq_true, beq_iff_eq] at h
  obtain ⟨⟨⟨⟨-, hnodes⟩, hchoices⟩, hrefs⟩, hindex⟩ := h
  refine ⟨hnodes, hchoices, hrefs, fun id => Option.ext fun slot => ?_⟩
  rw [Pool.slotOf?, Pool.slotOf?, ← Std.TreeMap.mem_toList_iff_getElem?_eq_some,
    ← Std.TreeMap.mem_toList_iff_getElem?_eq_some, hindex]

namespace Agrees

/-- A pool holds the same as itself. -/
theorem refl (p : Pool) : p.Agrees p := ⟨rfl, rfl, rfl, fun _ => rfl⟩

/-- Pools that hold the same have the same node in each slot. -/
theorem node? (h : p.Agrees q) (slot : Nat) : p.node? slot = q.node? slot := by
  rw [Pool.node?, Pool.node?, h.nodes]

/-- Pools that hold the same find the same nodes. -/
theorem find? (h : p.Agrees q) (id : NodeId) : p.find? id = q.find? id := by
  simp only [Pool.find?, h.slotOf?, h.node?]

/-- Pools that hold the same offer the same choices at a node. -/
theorem choicesOf (h : p.Agrees q) (n : Node) : p.choicesOf n = q.choicesOf n := by
  rw [Pool.choicesOf, Pool.choicesOf, h.choices]

/-- Pools that hold the same have the same flags in each run. -/
theorem flags (h : p.Agrees q) (s : Span) : p.flags s = q.flags s := by
  rw [Pool.flags, Pool.flags, h.flagRefs]

/-- A node sets the same flags in pools that hold the same. -/
theorem effectsOf (h : p.Agrees q) (n : Node) : p.effectsOf n = q.effectsOf n := h.flags _

/-- A node requires the same flags in pools that hold the same. -/
theorem requiredBy (h : p.Agrees q) (n : Node) : p.requiredBy n = q.requiredBy n := h.flags _

/-- A choice sets the same flags in pools that hold the same. -/
theorem effectsOfChoice (h : p.Agrees q) (c : Choice) :
    p.effectsOfChoice c = q.effectsOfChoice c := h.flags _

end Agrees

end Pool

end StoryGraph
