import StoryGraph.Graph.Building

set_option relaxedAutoImplicit false
set_option autoImplicit false

/-!
# The growth of a pool

What each of the four ways to grow makes of a pool, and the invariant that all pools keep: the
index tells the same as the nodes, no part exceeds its limit, and no run of choices leaves the pool.

## Main definitions

* `Pool.Made` — the pools that come out of an empty one.
* `Pool.WellFormed` — the invariant of these pools.

## Main results

* `Pool.upsert_eq_ok`, `Pool.ensure_eq_ok`, `Pool.pushFlags_eq_ok`, `Pool.attach_eq_ok` — all that
  a way to grow can do.
* `Pool.upsert_eq_error_iff`, `Pool.ensure_eq_error_iff`, `Pool.pushFlags_eq_error_iff`,
  `Pool.attach_eq_error_iff` — when it fails.
* `Pool.Made.wellFormed` — every pool is well formed.
* `Pool.WellFormed.find?_eq_some_iff` — a node is found by its id in its slot, and nowhere else.
* `Pool.run_pushFlags`, `Pool.flags_pushFlags_new` — where appended flags lie, and what their run
  holds.
-/

namespace StoryGraph

namespace Span

variable {α : Type}

/-- A run inside an array holds the same when the array grows. -/
theorem slice_append (s : Span) (a b : Array α) (h : s.stop ≤ a.size) :
    s.slice (a ++ b) = s.slice a := by
  have h' : s.stop ≤ (a ++ b).size := by
    rw [Array.size_append]
    omega
  rw [slice, slice, if_pos h, if_pos h']
  simp only [stop] at h
  rw [Array.toList_append, List.drop_append_of_le_length (by simp; omega),
    List.take_append_of_le_length (by simp; omega)]

/-- A number of places that can be named keeps its value. -/
theorem toNat_toUInt32 {n : Nat} (h : n < UInt32.size) : n.toUInt32.toNat = n := by
  rw [Nat.toUInt32_eq, UInt32.toNat_ofNat_of_lt' h]

/-- The run that a list forms behind an array, when its places can be named. -/
theorem stop_new (a : Array α) (b : List α) (h : a.size + b.length < UInt32.size) :
    stop ⟨a.size.toUInt32, b.length.toUInt32⟩ = a.size + b.length := by
  rw [stop, toNat_toUInt32 (by omega), toNat_toUInt32 (by omega)]

/-- What is appended to an array is what the run behind the array holds.

**Proof sketch.** The run starts behind the old elements and is as long as the list, and both
numbers fit in their words, by assumption. -/
theorem slice_new (a : Array α) (b : List α) (h : a.size + b.length < UInt32.size) :
    slice ⟨a.size.toUInt32, b.length.toUInt32⟩ (a ++ b.toArray) = b := by
  have hstop : stop ⟨a.size.toUInt32, b.length.toUInt32⟩ ≤ (a ++ b.toArray).size := by
    rw [stop_new a b h]
    simp
  have ha : a.size.toUInt32.toNat = a.size := toNat_toUInt32 (by omega)
  have hb : b.length.toUInt32.toNat = b.length := toNat_toUInt32 (by omega)
  rw [slice, if_pos hstop]
  simp [ha, hb]

end Span

namespace Pool

/-! ## What a way to grow can do -/

/-- A part has room for as many elements as its limit allows. -/
theorem room_eq_ok_iff {p : Pool} {part : Part} {extra : Nat} :
    p.room part extra = .ok () ↔ p.size part + extra ≤ (p.limits.of part).toNat := by
  unfold room
  split <;> simp <;> omega

/-- A new node gets the next slot, and there must be room for it. -/
theorem allocate_eq_ok {p q : Pool} {n : Node} {slot : Nat} (h : p.allocate n = .ok (slot, q)) :
    p.size .nodes + 1 ≤ (p.limits.of .nodes).toNat ∧ slot = p.nodes.size ∧
      q = { p with nodes := p.nodes.push n, index := p.index.insert n.id p.nodes.size } := by
  unfold allocate at h
  cases hroom : p.room .nodes 1 with
  | error o => simp [hroom, bind, Except.bind] at h
  | ok u =>
    simp only [hroom, bind, Except.bind, pure, Except.pure, Except.ok.injEq, Prod.mk.injEq] at h
    exact ⟨room_eq_ok_iff.1 hroom, h.1.symm, h.2.symm⟩

/-- A declaration patches the node that is there, or gives a new node the next slot.

**Proof sketch.** By whether the id has a slot. If it has, nothing can fail. If it has none,
`allocate_eq_ok` says what the pool got and that there was room. -/
theorem upsert_eq_ok {p q : Pool} {id : NodeId} {d : Draft} {r : Declared}
    (h : p.upsert id d = .ok (r, q)) :
    (∃ slot, p.slotOf? id = some slot ∧ r = ⟨slot, false⟩ ∧
      q = { p with nodes := p.nodes.modify slot (·.apply d) }) ∨
    (p.slotOf? id = none ∧ p.size .nodes + 1 ≤ (p.limits.of .nodes).toNat ∧
      r = ⟨p.nodes.size, true⟩ ∧
      q = { p with
        nodes := p.nodes.push ((Node.placeholder id).apply d)
        index := p.index.insert id p.nodes.size }) := by
  unfold upsert at h
  cases hslot : p.slotOf? id with
  | some slot =>
    simp only [hslot, Except.ok.injEq, Prod.mk.injEq] at h
    exact .inl ⟨slot, rfl, h.1.symm, h.2.symm⟩
  | none =>
    simp only [hslot] at h
    cases halloc : p.allocate ((Node.placeholder id).apply d) with
    | error o => simp [halloc, Except.map] at h
    | ok sq =>
      obtain ⟨hroom, hs, hq⟩ := allocate_eq_ok halloc
      simp only [halloc, Except.map, Except.ok.injEq, Prod.mk.injEq] at h
      exact .inr ⟨rfl, hroom, by rw [← h.1, hs], by rw [← h.2, hq]; rfl⟩

/-- The node that is asked for is there already, or a placeholder gets the next slot. -/
theorem ensure_eq_ok {p q : Pool} {id : NodeId} {slot : Nat} (h : p.ensure id = .ok (slot, q)) :
    (p.slotOf? id = some slot ∧ q = p) ∨
    (p.slotOf? id = none ∧ p.size .nodes + 1 ≤ (p.limits.of .nodes).toNat ∧
      slot = p.nodes.size ∧
      q = { p with
        nodes := p.nodes.push (Node.placeholder id)
        index := p.index.insert id p.nodes.size }) := by
  unfold ensure at h
  cases hslot : p.slotOf? id with
  | some s =>
    simp only [hslot, Except.ok.injEq, Prod.mk.injEq] at h
    exact .inl ⟨by rw [h.1], h.2.symm⟩
  | none =>
    simp only [hslot] at h
    exact .inr ⟨rfl, allocate_eq_ok h⟩

/-- Flags go to the end of the flag references, and there must be room for them.

**Proof sketch.** An empty list is not even checked for room, and appending it changes nothing. Any
other one goes behind the flags once `room_eq_ok_iff` has found room for it. -/
theorem pushFlags_eq_ok {p q : Pool} {ids : List FlagId} {s : Span}
    (h : p.pushFlags ids = .ok (s, q)) :
    (ids = [] ∨ p.size .flagRefs + ids.length ≤ (p.limits.of .flagRefs).toNat) ∧
      s = ⟨p.flagRefs.size.toUInt32, ids.length.toUInt32⟩ ∧
      q = { p with flagRefs := p.flagRefs ++ ids.toArray } := by
  unfold pushFlags at h
  cases ids with
  | nil =>
    simp only [List.isEmpty_nil, if_true, pure, Except.pure, Except.ok.injEq, Prod.mk.injEq] at h
    exact ⟨.inl rfl, h.1.symm, by rw [← h.2]; simp⟩
  | cons id ids =>
    cases hroom : p.room .flagRefs (id :: ids).length with
    | error o =>
      simp only [hroom, List.isEmpty_cons, Bool.false_eq_true, if_false, bind, Except.bind,
        reduceCtorEq] at h
    | ok u =>
      simp only [hroom, List.isEmpty_cons, Bool.false_eq_true, if_false, bind, Except.bind, pure,
        Except.pure, Except.ok.injEq, Prod.mk.injEq] at h
      exact ⟨.inr (room_eq_ok_iff.1 hroom), h.1.symm, h.2.symm⟩

/-- A choice goes to the end of the choices, and its node's run takes it in; for a slot without a
node nothing happens.

**Proof sketch.** The room is asked for first; then the test of the slot tells the two cases. -/
theorem attach_eq_ok {p q : Pool} {slot : Nat} {c : Choice} (h : p.attach slot c = .ok q) :
    p.size .choices + 1 ≤ (p.limits.of .choices).toNat ∧
      ((slot < p.nodes.size ∧
        q = { p with
          nodes := p.nodes.modify slot (·.withChoice p.choices.size.toUInt32)
          choices := p.choices.push c }) ∨
      (p.nodes.size ≤ slot ∧ q = p)) := by
  unfold attach at h
  cases hroom : p.room .choices 1 with
  | error o => simp [hroom, bind, Except.bind] at h
  | ok u =>
    refine ⟨room_eq_ok_iff.1 hroom, ?_⟩
    simp only [hroom, bind, Except.bind] at h
    split at h
    case isTrue hlt =>
      simp only [pure, Except.pure, Except.ok.injEq] at h
      exact .inl ⟨hlt, h.symm⟩
    case isFalse hge =>
      simp only [pure, Except.pure, Except.ok.injEq] at h
      exact .inr ⟨by omega, h.symm⟩

/-! ## When a pool cannot grow -/

section

variable {p : Pool} {o : Overflow}

/-- A part has no room for more elements than its limit allows. -/
theorem room_eq_error_iff {part : Part} {extra : Nat} :
    p.room part extra = .error o ↔
      (p.limits.of part).toNat < p.size part + extra ∧ o = ⟨part, p.limits.of part⟩ := by
  unfold room
  split
  case isTrue hfull => simp [hfull, eq_comm]
  case isFalse hroom => simp [hroom]

/-- A new node fails when there is no room for one more. -/
theorem allocate_eq_error_iff {n : Node} :
    p.allocate n = .error o ↔ p.room .nodes 1 = .error o := by
  unfold allocate
  cases p.room .nodes 1 <;> simp [bind, Except.bind, pure, Except.pure]

/-- A declaration fails when its node is new and there is no room for it. -/
theorem upsert_eq_error_iff {id : NodeId} {d : Draft} :
    p.upsert id d = .error o ↔ p.slotOf? id = none ∧ p.room .nodes 1 = .error o := by
  unfold upsert
  cases p.slotOf? id with
  | some slot => simp
  | none =>
    rw [← allocate_eq_error_iff (n := (Node.placeholder id).apply d)]
    cases p.allocate ((Node.placeholder id).apply d) <;> simp [Except.map]

/-- A node that is asked for fails to appear when it is new and there is no room for it. -/
theorem ensure_eq_error_iff {id : NodeId} :
    p.ensure id = .error o ↔ p.slotOf? id = none ∧ p.room .nodes 1 = .error o := by
  unfold ensure
  cases p.slotOf? id with
  | some slot => simp
  | none => simp [allocate_eq_error_iff]

/-- Flags fail to go in when there are some and there is no room for all of them. -/
theorem pushFlags_eq_error_iff {ids : List FlagId} :
    p.pushFlags ids = .error o ↔ ids ≠ [] ∧ p.room .flagRefs ids.length = .error o := by
  unfold pushFlags
  cases ids with
  | nil => simp [pure, Except.pure]
  | cons id ids =>
    cases p.room .flagRefs (id :: ids).length <;> simp [bind, Except.bind, pure, Except.pure]

/-- A choice fails to go in when there is no room for one more, whatever its slot. -/
theorem attach_eq_error_iff {slot : Nat} {c : Choice} :
    p.attach slot c = .error o ↔ p.room .choices 1 = .error o := by
  unfold attach
  cases p.room .choices 1 with
  | error o' => simp [bind, Except.bind]
  | ok u =>
    simp only [bind, Except.bind, reduceCtorEq, iff_false]
    split <;> simp [pure, Except.pure]

end

/-! ## What growth leaves alone -/

section

variable {p q : Pool}

/-- Declaring a node leaves the limits of the pool as they are. -/
theorem limits_upsert {id : NodeId} {d : Draft} {r : Declared} (h : p.upsert id d = .ok (r, q)) :
    q.limits = p.limits := by
  rcases upsert_eq_ok h with ⟨_, -, -, rfl⟩ | ⟨-, -, -, rfl⟩ <;> rfl

/-- Asking for a node leaves the limits of the pool as they are. -/
theorem limits_ensure {id : NodeId} {slot : Nat} (h : p.ensure id = .ok (slot, q)) :
    q.limits = p.limits := by
  rcases ensure_eq_ok h with ⟨-, rfl⟩ | ⟨-, -, -, rfl⟩ <;> rfl

/-- Appending flags leaves the limits of the pool as they are. -/
theorem limits_pushFlags {ids : List FlagId} {s : Span} (h : p.pushFlags ids = .ok (s, q)) :
    q.limits = p.limits := by
  obtain ⟨-, -, rfl⟩ := pushFlags_eq_ok h
  rfl

/-- Attaching a choice leaves the limits of the pool as they are. -/
theorem limits_attach {slot : Nat} {c : Choice} (h : p.attach slot c = .ok q) :
    q.limits = p.limits := by
  obtain ⟨-, ⟨-, rfl⟩ | ⟨-, rfl⟩⟩ := attach_eq_ok h <;> rfl

/-- Neither flags nor choices are touched by a declaration. -/
theorem parts_upsert {id : NodeId} {d : Draft} {r : Declared} (h : p.upsert id d = .ok (r, q)) :
    q.flagRefs = p.flagRefs ∧ q.choices = p.choices := by
  rcases upsert_eq_ok h with ⟨_, -, -, rfl⟩ | ⟨-, -, -, rfl⟩ <;> exact ⟨rfl, rfl⟩

/-- Neither flags nor choices are touched when a node is asked for. -/
theorem parts_ensure {id : NodeId} {slot : Nat} (h : p.ensure id = .ok (slot, q)) :
    q.flagRefs = p.flagRefs ∧ q.choices = p.choices := by
  rcases ensure_eq_ok h with ⟨-, rfl⟩ | ⟨-, -, -, rfl⟩ <;> exact ⟨rfl, rfl⟩

/-- No flag is touched when a choice is attached. -/
theorem flagRefs_attach {slot : Nat} {c : Choice} (h : p.attach slot c = .ok q) :
    q.flagRefs = p.flagRefs := by
  obtain ⟨-, ⟨-, rfl⟩ | ⟨-, rfl⟩⟩ := attach_eq_ok h <;> rfl

end

/-! ## The pools that can be -/

/-- The pools that come out of an empty one by growing and by being emptied. -/
inductive Made : Pool → Prop
  | empty (limits : Limits) : Made (.empty limits)
  | reset {p : Pool} (hp : Made p) : Made p.reset
  | upsert {p q : Pool} {id : NodeId} {d : Draft} {r : Declared} (hp : Made p)
      (h : p.upsert id d = .ok (r, q)) : Made q
  | ensure {p q : Pool} {id : NodeId} {slot : Nat} (hp : Made p)
      (h : p.ensure id = .ok (slot, q)) : Made q
  | pushFlags {p q : Pool} {ids : List FlagId} {s : Span} (hp : Made p)
      (h : p.pushFlags ids = .ok (s, q)) : Made q
  | attach {p q : Pool} {slot : Nat} {c : Choice} (hp : Made p)
      (h : p.attach slot c = .ok q) : Made q

/-- The index tells the same as the nodes, no part exceeds its limit, each limit is one that a span
can address, and no run of choices leaves the pool. -/
structure WellFormed (p : Pool) : Prop where
  limits_lt : ∀ part, (p.limits.of part).toNat < UInt32.size
  size_le : ∀ part, p.size part ≤ (p.limits.of part).toNat
  slotOf?_eq_some_iff : ∀ id slot, p.slotOf? id = some slot ↔ (p.node? slot).map (·.id) = some id
  stop_le : ∀ n ∈ p.nodes, n.choices.stop ≤ p.choices.size

/-- A node is found in the slot of its id. -/
theorem find?_eq_some_iff_slotOf? {p : Pool} {id : NodeId} {slot : Nat} {n : Node} :
    p.find? id = some (slot, n) ↔ p.slotOf? id = some slot ∧ p.node? slot = some n := by
  simp only [find?, bind, pure, Option.bind_eq_some_iff, Option.some.injEq, Prod.mk.injEq]
  constructor
  · rintro ⟨s, hs, m, hm, rfl, rfl⟩
    exact ⟨hs, hm⟩
  · rintro ⟨hs, hm⟩
    exact ⟨slot, hs, n, hm, rfl, rfl⟩

/-- A change in one slot that keeps a feature of its node keeps it in every slot.

**Proof sketch.** Compare the nodes slot by slot: the one that was changed has kept the feature, and
the others are the same. -/
theorem toList_map_modify {α : Type} {nodes : Array Node} {f : Node → Node} {g : Node → α}
    (hg : ∀ n, g (f n) = g n) (slot : Nat) :
    (nodes.modify slot f).toList.map g = nodes.toList.map g := by
  refine List.ext_getElem? fun s => ?_
  simp only [List.getElem?_map, Array.getElem?_toList, Array.getElem?_modify]
  split
  · cases nodes[s]? <;> simp [hg]
  · rfl

/-- A change in one slot that keeps the id of its node keeps the id in every slot. -/
theorem map_id_modify {nodes : Array Node} {f : Node → Node} (hid : ∀ n, (f n).id = n.id)
    (slot s : Nat) : ((nodes.modify slot f)[s]?).map (·.id) = nodes[s]?.map (·.id) := by
  rw [← Array.getElem?_toList, ← Array.getElem?_toList, ← List.getElem?_map,
    toList_map_modify hid, List.getElem?_map]

namespace WellFormed

variable {p q : Pool}

/-- No part has more elements than a span can address. -/
theorem size_lt (hp : p.WellFormed) (part : Part) : p.size part < UInt32.size :=
  Nat.lt_of_le_of_lt (hp.size_le part) (hp.limits_lt part)

/-- A node is found by its id in its slot, and nowhere else.

**Proof sketch.** The index of a well-formed pool leads each id to the slot of the node that has it.
-/
theorem find?_eq_some_iff (hp : p.WellFormed) {id : NodeId} {slot : Nat} {n : Node} :
    p.find? id = some (slot, n) ↔ p.node? slot = some n ∧ n.id = id := by
  rw [find?_eq_some_iff_slotOf?, hp.slotOf?_eq_some_iff]
  constructor
  · rintro ⟨hid, hn⟩
    rw [hn] at hid
    exact ⟨hn, Option.some.inj hid⟩
  · rintro ⟨hn, rfl⟩
    exact ⟨by rw [hn]; rfl, hn⟩

/-- What is not found has no slot.

**Proof sketch.** A slot in the index of a well-formed pool holds a node, so it would be found. -/
theorem find?_eq_none_iff (hp : p.WellFormed) {id : NodeId} :
    p.find? id = none ↔ p.slotOf? id = none := by
  constructor
  · intro h
    cases hs : p.slotOf? id with
    | none => rfl
    | some slot =>
      obtain ⟨n, hn, hid⟩ := Option.map_eq_some_iff.1 ((hp.slotOf?_eq_some_iff id slot).1 hs)
      rw [hp.find?_eq_some_iff.2 ⟨hn, hid⟩] at h
      contradiction
  · intro h
    simp [find?, h]

/-- The pool contains the nodes that it has a slot for. -/
theorem contains_iff (id : NodeId) : p.contains id = (p.slotOf? id).isSome := by
  rw [contains, slotOf?, Std.TreeMap.contains_eq_isSome_getElem?]

/-- A node has as many choices as its run has places. -/
theorem length_choicesOf (hp : p.WellFormed) {n : Node} (hn : n ∈ p.nodes) :
    (p.choicesOf n).length = n.choices.count.toNat := Span.length_slice _ _ (hp.stop_le n hn)

/-- A node of a pool has choices when the pool holds some in its run. -/
theorem hasChoices_iff (hp : p.WellFormed) {n : Node} (hn : n ∈ p.nodes) :
    n.hasChoices = true ↔ p.choicesOf n ≠ [] := by
  have hzero : n.choices.count = 0 ↔ n.choices.count.toNat = 0 := by
    rw [← UInt32.toNat_inj]
    rfl
  rw [← List.length_pos_iff, hp.length_choicesOf hn, Nat.pos_iff_ne_zero, ne_eq, ← hzero]
  simp [Node.hasChoices, Span.isEmpty]

/-- A new node may get the next slot when its id is new and its run of choices is in the pool.

**Proof sketch.** The sizes and the spans are as before, but for the new node. The index is compared
id by id and slot by slot: the new id has the last slot, and no other, since it had none before; an
old id keeps its slot, and does not have the last, where there was no node. -/
theorem push (hp : p.WellFormed) {n : Node} (hnew : p.slotOf? n.id = none)
    (hroom : p.size .nodes + 1 ≤ (p.limits.of .nodes).toNat)
    (hstop : n.choices.stop ≤ p.choices.size) :
    WellFormed { p with nodes := p.nodes.push n, index := p.index.insert n.id p.nodes.size } where
  limits_lt := hp.limits_lt
  size_le part := by
    cases part with
    | nodes => simpa [size] using hroom
    | choices => exact hp.size_le .choices
    | flagRefs => exact hp.size_le .flagRefs
  slotOf?_eq_some_iff id slot := by
    simp only [slotOf?, node?, Std.TreeMap.getElem?_insert, Std.LawfulEqCmp.compare_eq_iff_eq,
      Array.getElem?_push]
    have hold := hp.slotOf?_eq_some_iff id slot
    simp only [slotOf?, node?] at hold hnew
    by_cases hid : n.id = id
    · subst hid
      have hnot : ¬ (p.nodes[slot]?.map (·.id) = some n.id) := by
        rw [← hold, hnew]
        simp
      by_cases hs : slot = p.nodes.size
      · simp [hs]
      · simp only [if_true, Option.some.injEq, if_neg hs]
        exact ⟨fun h => absurd h.symm hs, fun h => absurd h hnot⟩
    · by_cases hs : slot = p.nodes.size
      · -- There was no node in this slot, so the index did not have it for any id.
        have hout : p.nodes[slot]? = none := by simp [hs]
        rw [hout] at hold
        simpa [hid, hs] using hold
      · simpa [hid, hs] using hold
  stop_le m hm := by
    rcases Array.mem_push.1 hm with hm | rfl
    · exact hp.stop_le m hm
    · exact hstop

/-- A node may be changed in its slot while the choices grow, when it keeps its id and its run of
choices stays in the pool.

**Proof sketch.** The ids in the slots are the same, by `map_id_modify`, so the index is right as
before. A run of choices is that of the changed node, or an old one, and the choices have become
more. -/
theorem modify (hp : p.WellFormed) {slot : Nat} {f : Node → Node} {choices : Array Choice}
    (hid : ∀ n, (f n).id = n.id) (hle : p.choices.size ≤ choices.size)
    (hroom : choices.size ≤ (p.limits.of .choices).toNat)
    (hstop : ∀ n ∈ p.nodes, (f n).choices.stop ≤ choices.size) :
    WellFormed { p with nodes := p.nodes.modify slot f, choices } where
  limits_lt := hp.limits_lt
  size_le part := by
    cases part with
    | nodes => simpa [size] using hp.size_le .nodes
    | choices => exact hroom
    | flagRefs => exact hp.size_le .flagRefs
  slotOf?_eq_some_iff id s := by
    simpa only [slotOf?, node?, map_id_modify hid] using hp.slotOf?_eq_some_iff id s
  stop_le m hm := by
    obtain ⟨i, hi⟩ := Array.mem_iff_getElem?.1 hm
    rw [Array.getElem?_modify] at hi
    split at hi
    · obtain ⟨n, hn, rfl⟩ := Option.map_eq_some_iff.1 hi
      exact hstop n (Array.mem_of_getElem? hn)
    · exact Nat.le_trans (hp.stop_le m (Array.mem_of_getElem? hi)) hle

/-- Declaring a node keeps a pool well formed. -/
theorem upsert (hp : p.WellFormed) {id : NodeId} {d : Draft} {r : Declared}
    (h : p.upsert id d = .ok (r, q)) : q.WellFormed := by
  rcases upsert_eq_ok h with ⟨slot, -, -, rfl⟩ | ⟨hnew, hroom, -, rfl⟩
  · exact hp.modify (fun n => rfl) (Nat.le_refl _) (hp.size_le .choices) hp.stop_le
  · exact hp.push (n := (Node.placeholder id).apply d) hnew hroom (Nat.zero_le _)

/-- Asking for a node keeps a pool well formed. -/
theorem ensure (hp : p.WellFormed) {id : NodeId} {slot : Nat} (h : p.ensure id = .ok (slot, q)) :
    q.WellFormed := by
  rcases ensure_eq_ok h with ⟨-, rfl⟩ | ⟨hnew, hroom, -, rfl⟩
  · exact hp
  · exact hp.push (n := Node.placeholder id) hnew hroom (Nat.zero_le _)

/-- Appending flags keeps a pool well formed.

**Proof sketch.** Only the flag references become longer, and they were given room, or nothing was
appended. -/
theorem pushFlags (hp : p.WellFormed) {ids : List FlagId} {s : Span}
    (h : p.pushFlags ids = .ok (s, q)) : q.WellFormed := by
  obtain ⟨hroom, -, rfl⟩ := pushFlags_eq_ok h
  refine ⟨hp.limits_lt, fun part => ?_, hp.slotOf?_eq_some_iff, hp.stop_le⟩
  cases part with
  | nodes => exact hp.size_le .nodes
  | choices => exact hp.size_le .choices
  | flagRefs =>
    rcases hroom with rfl | hroom
    · simpa [size] using hp.size_le .flagRefs
    · simpa [size] using hroom

/-- Attaching a choice keeps a pool well formed.

**Proof sketch.** By `modify` the one thing to show is that the run of each node, with the new
choice in it, ends among the choices. An empty run now starts at the new choice; any other is longer
by one, and ended among the old choices. No sum leaves its word, because the choices fit in the
pool. -/
theorem attach (hp : p.WellFormed) {slot : Nat} {c : Choice} (h : p.attach slot c = .ok q) :
    q.WellFormed := by
  obtain ⟨hroom, ⟨-, rfl⟩ | ⟨-, rfl⟩⟩ := attach_eq_ok h
  · refine hp.modify (fun n => rfl) (by simp) (by simpa [size] using hroom) fun n hn => ?_
    have hlt := hp.size_lt .choices
    have hstop := hp.stop_le n hn
    rw [Array.size_push]
    simp only [size] at hlt
    simp only [Span.stop] at hstop
    simp only [Node.withChoice, Span.stop, Span.isEmpty, UInt32.toNat_add, beq_iff_eq]
    split
    case isTrue hzero =>
      simp [hzero]
      omega
    case isFalse =>
      simp
      omega
  · exact hp

end WellFormed

/-- The limits of an empty pool are such that a span can address every place.

**Proof sketch.** The limits are cut to the largest place, which is below the number of places. The
pool has no nodes, so nothing else is asked. -/
theorem wellFormed_empty (limits : Limits) : (Pool.empty limits).WellFormed where
  limits_lt part := by
    have hmin : ∀ n : UInt64, (min n Limits.largestPlace).toNat < UInt32.size := by
      intro n
      have hplace : Limits.largestPlace.toNat < UInt32.size := by decide
      change (if n ≤ Limits.largestPlace then n else Limits.largestPlace).toNat < UInt32.size
      split
      case isTrue hle =>
        rw [UInt64.le_iff_toNat_le] at hle
        exact Nat.lt_of_le_of_lt hle hplace
      case isFalse => exact hplace
    cases part <;> exact hmin _
  size_le part := by cases part <;> exact Nat.zero_le _
  slotOf?_eq_some_iff id slot := by simp [empty, slotOf?, node?]
  stop_le n hn := by simp [empty] at hn

/-- Every pool is well formed.

**Proof sketch.** Induction on how the pool was made. Each growth is one of the lemmas above; a pool
that was emptied keeps its limits and has nothing else to be wrong. -/
theorem Made.wellFormed {p : Pool} (hp : p.Made) : p.WellFormed := by
  induction hp with
  | empty limits => exact wellFormed_empty limits
  | @reset p _ ih =>
    refine ⟨ih.limits_lt, fun part => ?_, fun id slot => ?_, fun n hn => ?_⟩
    · cases part <;> exact Nat.zero_le _
    · simp [Pool.reset, slotOf?, node?]
    · simp [Pool.reset] at hn
  | upsert _ h ih => exact ih.upsert h
  | ensure _ h ih => exact ih.ensure h
  | pushFlags _ h ih => exact ih.pushFlags h
  | attach _ h ih => exact ih.attach h

/-! ## Flags that are appended -/

section

variable {p q : Pool}

/-- A run of flags is what it was when flags are appended. -/
theorem flags_pushFlags {ids : List FlagId} {s t : Span} (h : p.pushFlags ids = .ok (s, q))
    (ht : t.stop ≤ p.flagRefs.size) : q.flags t = p.flags t := by
  obtain ⟨-, -, rfl⟩ := pushFlags_eq_ok h
  exact t.slice_append _ _ ht

/-- Flags that were appended are as many as a span can address. -/
theorem WellFormed.lt_of_pushFlags (hp : p.WellFormed) {ids : List FlagId} {s : Span}
    (h : p.pushFlags ids = .ok (s, q)) : p.flagRefs.size + ids.length < UInt32.size := by
  have hlt := (hp.pushFlags h).size_lt .flagRefs
  obtain ⟨-, -, rfl⟩ := pushFlags_eq_ok h
  simpa [size] using hlt

/-- The run of the flags that were appended starts where the flag references ended, and ends where
they end now.

**Proof sketch.** Both ends are below `UInt32.size`, as the grown flag references are, so the words
of the run hold them. -/
theorem run_pushFlags (hp : p.WellFormed) {ids : List FlagId} {s : Span}
    (h : p.pushFlags ids = .ok (s, q)) :
    s.offset.toNat = p.flagRefs.size ∧ s.stop = q.flagRefs.size := by
  have hlt := hp.lt_of_pushFlags h
  obtain ⟨-, rfl, rfl⟩ := pushFlags_eq_ok h
  refine ⟨Span.toNat_toUInt32 (by omega), ?_⟩
  rw [Span.stop_new _ _ hlt]
  simp

/-- The flags that were appended are what their run holds, and the run is in the pool. -/
theorem flags_pushFlags_new (hp : p.WellFormed) {ids : List FlagId} {s : Span}
    (h : p.pushFlags ids = .ok (s, q)) : q.flags s = ids ∧ s.stop ≤ q.flagRefs.size := by
  refine ⟨?_, Nat.le_of_eq (run_pushFlags hp h).2⟩
  have hlt := hp.lt_of_pushFlags h
  obtain ⟨-, rfl, rfl⟩ := pushFlags_eq_ok h
  exact Span.slice_new _ _ hlt

/-- The flag references only grow. -/
theorem size_flagRefs_pushFlags {ids : List FlagId} {s : Span}
    (h : p.pushFlags ids = .ok (s, q)) : p.flagRefs.size ≤ q.flagRefs.size := by
  obtain ⟨-, -, rfl⟩ := pushFlags_eq_ok h
  simp

end

end Pool

end StoryGraph
