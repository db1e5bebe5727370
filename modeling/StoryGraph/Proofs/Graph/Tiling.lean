import StoryGraph.Proofs.Graph.Growth

set_option relaxedAutoImplicit false
set_option autoImplicit false

/-!
# How the runs of choices lie

The choices of all nodes lie in one array, and each node has a run of them. A choice that is
attached takes the place behind the run of its node, whether the choice itself lies there or not. As
long as it always does, the runs lie side by side and fill the array. The first time it does not,
the run takes in a choice of another node, and the two runs overlap ever after.

## Main definitions

* `Span.Covers`, `Span.extend` — the places of a run, and a run with one place more.
* `Runs.count` — the number of places in all runs.
* `Runs.Tangled`, `Runs.Tiled` — two runs have a place in common; every place lies in just one run.
* `Runs.Laid` — runs that are tangled if one of them broke, and tile the places if none did.
* `Pool.runs` — the runs of the nodes.

## Main results

* `Runs.covers_set_extend` — a longer run has one place more, the one behind it.
* `Runs.Laid.extend` — what is known of runs when one more choice is attached.
* `Pool.runs_attach` — a choice that is attached makes the run of its node longer.
-/

namespace StoryGraph

namespace Span

/-- The run `s` has the place `place`. -/
def Covers (s : Span) (place : Nat) : Prop := s.offset.toNat ≤ place ∧ place < s.stop

/-- A run with one place more; an empty run starts at `position`. -/
def extend (s : Span) (position : UInt32) : Span where
  offset := if s.isEmpty then position else s.offset
  count := s.count + 1

variable {s : Span}

/-- An empty run has no place. -/
theorem not_covers_of_isEmpty (h : s.isEmpty = true) (place : Nat) : ¬ s.Covers place := by
  have hzero : s.count = 0 := by simpa [isEmpty] using h
  simp only [Covers, stop, hzero, UInt32.reduceToNat]
  omega

/-- A longer run has one place more: the one behind it, or `position` if it had none.

**Proof sketch.** The count grows by one without wrapping round. A run that was not empty keeps its
offset, so the new place is the one behind it. An empty run covered nothing, and starts at
`position` now. -/
theorem covers_extend {position : UInt32} (hcount : s.count.toNat + 1 < UInt32.size) (place : Nat) :
    (s.extend position).Covers place ↔
      s.Covers place ∨ place = if s.isEmpty then position.toNat else s.stop := by
  have hsucc : (s.count + 1).toNat = s.count.toNat + 1 := by
    rw [UInt32.toNat_add]
    exact Nat.mod_eq_of_lt hcount
  cases hempty : s.isEmpty
  · simp only [extend, hempty, Covers, stop, hsucc, Bool.false_eq_true, if_false]
    omega
  · have hnone := not_covers_of_isEmpty hempty place
    have hzero : s.count.toNat = 0 := by
      simpa [isEmpty, ← UInt32.toNat_inj] using hempty
    simp only [hnone, false_or, if_true]
    simp only [extend, hempty, Covers, stop, hsucc, hzero, if_true]
    omega

end Span

/-! ## Runs side by side -/

namespace Runs

/-- The number of places in all runs, counted run by run. -/
def count : List Span → Nat
  | [] => 0
  | s :: runs => s.count.toNat + count runs

/-- The run in a slot has the place `place`. -/
def Covers (runs : List Span) (slot place : Nat) : Prop :=
  ∃ s, runs[slot]? = some s ∧ s.Covers place

/-- Two runs have a place in common. -/
def Tangled (runs : List Span) : Prop :=
  ∃ slot other place, slot ≠ other ∧ Covers runs slot place ∧ Covers runs other place

/-- Each of the first `size` places lies in exactly one run, and the runs have no other places. -/
structure Tiled (runs : List Span) (size : Nat) : Prop where
  covered : ∀ place < size, ∃ slot, Covers runs slot place
  unique : ∀ slot other place, Covers runs slot place → Covers runs other place → slot = other
  inside : ∀ slot place, Covers runs slot place → place < size

/-- Runs of `size` places, counted run by run. If one of them broke, two of them overlap, and if
none did, they tile the first `size` places. -/
structure Laid (runs : List Span) (size : Nat) (broken : Bool) : Prop where
  total : count runs = size
  tangled : broken = true → Tangled runs
  tiled : broken = false → Tiled runs size

variable {runs : List Span} {size : Nat} {broken : Bool}

/-- Runs that tile their places have none in common. -/
theorem Tiled.not_tangled (h : Tiled runs size) : ¬ Tangled runs := by
  rintro ⟨slot, other, place, hne, hslot, hother⟩
  exact hne (h.unique slot other place hslot hother)

/-- A run that becomes longer gains the place behind it, and the other runs keep theirs.

**Proof sketch.** In the slot that was written stands the longer run, which is `Span.covers_extend`.
In every other slot stands what stood there. -/
theorem covers_set_extend {slot : Nat} {s : Span} (position : UInt32) (hs : runs[slot]? = some s)
    (hcount : s.count.toNat + 1 < UInt32.size) (other place : Nat) :
    Covers (runs.set slot (s.extend position)) other place ↔
      Covers runs other place ∨
        other = slot ∧ place = if s.isEmpty then position.toNat else s.stop := by
  have hlt : slot < runs.length := (List.getElem?_eq_some_iff.1 hs).1
  by_cases hsame : other = slot
  · subst hsame
    simp only [Covers, List.getElem?_set, hlt, if_true, hs, Option.some.injEq, exists_eq_left',
      true_and]
    exact Span.covers_extend hcount place
  · simp only [Covers, List.getElem?_set, Ne.symm hsame, hsame, if_false, false_and, or_false]

/-- An empty run more covers nothing.

**Proof sketch.** An old slot has its run. Behind the old ones is one run, and it is empty. -/
theorem covers_snoc_empty (slot place : Nat) :
    Covers (runs ++ [({} : Span)]) slot place ↔ Covers runs slot place := by
  rcases Nat.lt_or_ge slot runs.length with hold | hnew
  · simp only [Covers, List.getElem?_append_left hold]
  · have hnone : runs[slot]? = none := List.getElem?_eq_none hnew
    simp only [Covers, hnone, reduceCtorEq, false_and, exists_false, iff_false, not_exists, not_and]
    intro s hs
    obtain rfl : s = {} := by
      rw [List.getElem?_append_right hnew] at hs
      exact List.mem_singleton.1 (List.mem_of_getElem? hs)
    exact Span.not_covers_of_isEmpty rfl place

/-- An empty run more counts nothing. -/
theorem count_snoc_empty (runs : List Span) : count (runs ++ [({} : Span)]) = count runs := by
  induction runs with
  | nil => rfl
  | cons s runs ih => rw [List.cons_append, count, ih, count]

/-- A place more in one run counts once.

**Proof sketch.** Induction on the runs: the slot is the first one, or it is one of the others. -/
theorem count_set {slot : Nat} {s t : Span} (hs : runs[slot]? = some s)
    (ht : t.count.toNat = s.count.toNat + 1) : count (runs.set slot t) = count runs + 1 := by
  induction runs generalizing slot with
  | nil => simp at hs
  | cons head runs ih =>
    cases slot with
    | zero =>
      obtain rfl : head = s := by simpa using hs
      rw [List.set_cons_zero, count, count, ht]
      omega
    | succ slot =>
      have htail := ih (by simpa using hs)
      rw [List.set_cons_succ, count, count, htail]
      omega

namespace Laid

/-- No runs, no places. -/
theorem nil : Laid [] 0 false where
  total := rfl
  tangled h := by cases h
  tiled _ :=
    { covered := fun _ h => absurd h (Nat.not_lt_zero _)
      unique := by simp [Covers]
      inside := by simp [Covers] }

/-- An empty run more changes nothing. -/
theorem snoc_empty (h : Laid runs size broken) : Laid (runs ++ [({} : Span)]) size broken where
  total := by rw [count_snoc_empty, h.total]
  tangled hb := by simpa only [Tangled, covers_snoc_empty] using h.tangled hb
  tiled hb :=
    { covered := by simpa only [covers_snoc_empty] using (h.tiled hb).covered
      unique := by simpa only [covers_snoc_empty] using (h.tiled hb).unique
      inside := by simpa only [covers_snoc_empty] using (h.tiled hb).inside }

/-- Runs stay tangled when one of them becomes longer. -/
theorem tangled_set_extend {slot : Nat} {s : Span} {position : UInt32} (hs : runs[slot]? = some s)
    (hcount : s.count.toNat + 1 < UInt32.size) (h : Tangled runs) :
    Tangled (runs.set slot (s.extend position)) := by
  obtain ⟨i, j, place, hne, hi, hj⟩ := h
  exact ⟨i, j, place, hne, (covers_set_extend position hs hcount i place).2 (.inl hi),
    (covers_set_extend position hs hcount j place).2 (.inl hj)⟩

/-- Runs go on tiling their places when one of them takes in the next place.

**Proof sketch.** By `covers_set_extend` the runs cover what they covered, and `size` in this slot.
So every place up to `size` is covered. No place is covered twice: the old ones were not, and no old
one is `size`, as the old ones are inside. -/
theorem tiled_set_extend {slot : Nat} {s : Span} {position : UInt32} (hs : runs[slot]? = some s)
    (hcount : s.count.toNat + 1 < UInt32.size)
    (hnext : (if s.isEmpty then position.toNat else s.stop) = size) (h : Tiled runs size) :
    Tiled (runs.set slot (s.extend position)) (size + 1) := by
  have hcovers := covers_set_extend position hs hcount
  rw [hnext] at hcovers
  constructor
  case covered =>
    intro place hplace
    rcases Nat.lt_succ_iff_lt_or_eq.1 hplace with hold | rfl
    · obtain ⟨other, hother⟩ := h.covered place hold
      exact ⟨other, (hcovers other place).2 (.inl hother)⟩
    · exact ⟨slot, (hcovers slot place).2 (.inr ⟨rfl, rfl⟩)⟩
  case unique =>
    intro i j place hi hj
    rcases (hcovers i place).1 hi with hiold | ⟨hislot, hplace⟩
    · rcases (hcovers j place).1 hj with hjold | ⟨-, hplace⟩
      · exact h.unique i j place hiold hjold
      · exact absurd (h.inside i place hiold) (by omega)
    · rcases (hcovers j place).1 hj with hjold | ⟨hjslot, -⟩
      · exact absurd (h.inside j place hjold) (by omega)
      · rw [hislot, hjslot]
  case inside =>
    intro i place hi
    rcases (hcovers i place).1 hi with hold | ⟨-, hplace⟩
    · exact Nat.lt_succ_of_lt (h.inside i place hold)
    · omega

/-- Runs that tile their places become tangled when a run takes in another place than the next.

**Proof sketch.** The place that the run takes in is one of those that are tiled, so some run has
it, and not this one, as it is behind this one. -/
theorem tangled_of_tiled {slot : Nat} {s : Span} {position : UInt32} (hs : runs[slot]? = some s)
    (hcount : s.count.toNat + 1 < UInt32.size) (hsome : s.isEmpty = false) (hlt : s.stop < size)
    (h : Tiled runs size) : Tangled (runs.set slot (s.extend position)) := by
  have hcovers := covers_set_extend position hs hcount
  simp only [hsome, Bool.false_eq_true, if_false] at hcovers
  obtain ⟨other, hother⟩ := h.covered s.stop hlt
  refine ⟨slot, other, s.stop, ?_, (hcovers slot _).2 (.inr ⟨rfl, rfl⟩),
    (hcovers other _).2 (.inl hother)⟩
  rintro rfl
  obtain ⟨t, ht, -, hbefore⟩ := hother
  obtain rfl : s = t := Option.some.inj (hs.symm.trans ht)
  exact Nat.lt_irrefl _ hbefore

/-- What is known of runs when one of them becomes longer while the array grows by one place: it
breaks when it does not end where the new place is.

**Proof sketch.** The total is `count_set`. Runs that were tangled stay so. Runs that were not tile
their places: if the one that grows ends where the new place is, or is empty, they go on tiling by
`tiled_set_extend`; if not, it takes in a place that another run has, by `tangled_of_tiled`. -/
theorem extend (h : Laid runs size broken) {slot : Nat} {s : Span} {position : UInt32}
    (hs : runs[slot]? = some s) (hposition : position.toNat = size) (hstop : s.stop ≤ size)
    (hsize : size + 1 < UInt32.size) :
    Laid (runs.set slot (s.extend position)) (size + 1)
      (broken || (!s.isEmpty && s.stop != size)) := by
  have hcount : s.count.toNat + 1 < UInt32.size := by
    simp only [Span.stop] at hstop
    omega
  have hsucc : (s.extend position).count.toNat = s.count.toNat + 1 := by
    rw [Span.extend, UInt32.toNat_add]
    exact Nat.mod_eq_of_lt hcount
  constructor
  case total => rw [count_set hs hsucc, h.total]
  case tangled =>
    intro hbroken
    cases hb : broken with
    | true => exact tangled_set_extend hs hcount (h.tangled hb)
    | false =>
      simp only [hb, Bool.false_or, Bool.and_eq_true, Bool.not_eq_true', bne_iff_ne] at hbroken
      exact tangled_of_tiled hs hcount hbroken.1 (Nat.lt_of_le_of_ne hstop hbroken.2) (h.tiled hb)
  case tiled =>
    intro hbroken
    simp only [Bool.or_eq_false_iff, Bool.and_eq_false_iff, Bool.not_eq_false', bne_eq_false_iff_eq]
      at hbroken
    refine tiled_set_extend hs hcount ?_ (h.tiled hbroken.1)
    rcases hbroken.2 with hempty | hend
    · rw [if_pos hempty, hposition]
    · rw [hend, hposition, ite_self]

end Laid

end Runs

/-! ## The runs of a pool -/

namespace Pool

variable {p q : Pool}

/-- The runs of the nodes, in the order of their slots. -/
def runs (p : Pool) : List Span := p.nodes.toList.map (·.choices)

/-- The run in a slot is that of the node there. -/
theorem getElem?_runs (p : Pool) (slot : Nat) :
    p.runs[slot]? = (p.node? slot).map (·.choices) := by
  rw [runs, List.getElem?_map, Array.getElem?_toList, node?]

/-- A declaration leaves the runs as they are; a new node has an empty one. -/
theorem runs_upsert {id : NodeId} {d : Draft} {r : Declared} (h : p.upsert id d = .ok (r, q)) :
    q.runs = p.runs ∨ q.runs = p.runs ++ [({} : Span)] := by
  rcases upsert_eq_ok h with ⟨slot, -, -, rfl⟩ | ⟨-, -, -, rfl⟩
  · left
    exact toList_map_modify (f := (·.apply d)) (g := (·.choices)) (fun _ => rfl) slot
  · right
    simp [runs, Node.apply, Node.placeholder]

/-- A node that is asked for leaves the runs as they are; a new node has an empty one. -/
theorem runs_ensure {id : NodeId} {slot : Nat} (h : p.ensure id = .ok (slot, q)) :
    q.runs = p.runs ∨ q.runs = p.runs ++ [({} : Span)] := by
  rcases ensure_eq_ok h with ⟨-, rfl⟩ | ⟨-, -, -, rfl⟩
  · exact .inl rfl
  · right
    simp [runs, Node.placeholder]

/-- A choice that is attached makes the run of its node longer.

**Proof sketch.** Compare the runs slot by slot. In the slot of the node stands the node with its
choice, whose run is `extend` by definition; in all others stands what stood there. -/
theorem runs_attach {slot : Nat} {n : Node} {c : Choice} (hn : p.node? slot = some n)
    (h : p.attach slot c = .ok q) :
    q.runs = p.runs.set slot (n.choices.extend p.choices.size.toUInt32) ∧
      q.choices.size = p.choices.size + 1 := by
  obtain ⟨hlt, hget⟩ := Array.getElem?_eq_some_iff.1 hn
  obtain ⟨-, ⟨-, rfl⟩ | ⟨hge, -⟩⟩ := attach_eq_ok h
  · refine ⟨List.ext_getElem? fun s => ?_, Array.size_push ..⟩
    have hrun : (n.withChoice p.choices.size.toUInt32).choices =
        n.choices.extend p.choices.size.toUInt32 := rfl
    simp only [node?] at hn
    rw [getElem?_runs, List.getElem?_set, getElem?_runs, node?, node?, Array.getElem?_modify]
    by_cases hs : slot = s
    · subst hs
      rw [if_pos rfl, if_pos rfl, hn, ← hrun, if_pos (by simpa [runs] using hlt)]
      rfl
    · rw [if_neg hs, if_neg hs]
  · omega

end Pool

end StoryGraph
