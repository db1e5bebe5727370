import StoryGraph.FlagSet

set_option relaxedAutoImplicit false
set_option autoImplicit false

/-!
# The members of a flag set

A flag set is told by its members alone, and the list of them makes it up again.

## Main results

* `FlagSet.mem_ids` — the list of the members names just the flags that are in the set.
* `FlagSet.eq_of_has` — sets with the same members are equal.
* `FlagSet.setAll_ids` — setting the members of a set in the empty set gives the set.
-/

namespace StoryGraph.FlagSet

variable {s t : FlagSet}

/-- The id for which a bit stands. -/
def idAt (word : Fin 16) (bit : Fin 64) : FlagId := Int32.ofNat (64 * word + bit)

/-- The bit that stands for an id is found there. -/
theorem locate_idAt (word : Fin 16) (bit : Fin 64) : locate (idAt word bit) = some (word, bit) := by
  have hword := word.isLt
  have hbit := bit.isLt
  rw [locate_eq_some_iff, idAt, Int32.toInt_ofNat_of_lt (by omega)]
  omega

/-- A flag is in a set when its bit is one. -/
theorem has_idAt (s : FlagSet) (word : Fin 16) (bit : Fin 64) :
    s.has (idAt word bit) = bitOf (s.words.get word) bit := by
  rw [has, locate_idAt]
  rfl

/-- Only flags in range are in a set. -/
theorem inRange_of_has {id : FlagId} (h : s.has id = true) : InRange id := by
  refine Decidable.byContradiction fun hout => ?_
  rw [has, locate_eq_none_iff.2 hout] at h
  contradiction

/-- A flag in range is the one for which its bit stands. -/
theorem exists_idAt_eq {id : FlagId} (h : InRange id) : ∃ word bit, idAt word bit = id := by
  cases hid : locate id with
  | none => exact absurd h (locate_eq_none_iff.1 hid)
  | some found =>
    obtain ⟨word, bit⟩ := found
    have hat := locate_eq_some_iff.1 (locate_idAt word bit)
    have hin := locate_eq_some_iff.1 hid
    exact ⟨word, bit, Int32.toInt_inj.1 (hat.trans hin.symm)⟩

/-- The list of the members names just the flags that are in the set.

**Proof sketch.** A member is listed for each bit that is one, and an id in range stands for exactly
one bit of one word. -/
theorem mem_ids {id : FlagId} : id ∈ s.ids ↔ s.has id = true := by
  simp only [ids, bitsOf, List.mem_flatMap, List.mem_finRange, true_and, List.mem_map,
    List.mem_filter, List.mem_range]
  constructor
  · rintro ⟨word, bit, ⟨hbit, hone⟩, rfl⟩
    exact (has_idAt s word ⟨bit, hbit⟩).trans hone
  · intro h
    obtain ⟨word, bit, rfl⟩ := exists_idAt_eq (inRange_of_has h)
    rw [has_idAt] at h
    exact ⟨word, bit, ⟨bit.isLt, h⟩, rfl⟩

/-- Sets with the same members are equal.

**Proof sketch.** A bit of a word is whether the flag is in the set for which it stands, so the
words are equal bit by bit. -/
theorem eq_of_has (h : ∀ id, s.has id = t.has id) : s = t := by
  have hwords : s.words = t.words := by
    refine Vector.ext fun i hi => UInt64.toBitVec_inj.1 (BitVec.eq_of_getLsbD_eq fun j hj => ?_)
    have hbit := h (idAt ⟨i, hi⟩ ⟨j, hj⟩)
    rw [has_idAt, has_idAt] at hbit
    exact hbit
  cases s
  cases t
  exact congrArg FlagSet.mk hwords

/-- Setting the members of a set in the empty set gives the set. -/
theorem setAll_ids (s : FlagSet) : empty.setAll s.ids = s := by
  refine eq_of_has fun id => ?_
  rw [has_setAll, has_empty, Bool.false_or]
  by_cases h : s.has id = true
  · rw [h, decide_eq_true ⟨inRange_of_has h, mem_ids.2 h⟩]
  · rw [Bool.not_eq_true] at h
    rw [h, decide_eq_false fun hmem => by simp [mem_ids.1 hmem.2] at h]

/-- Setting flags that are set already, as far as they are in range, changes nothing. -/
theorem setAll_of_has {ids : List FlagId} (h : ∀ id ∈ ids, InRange id → s.has id = true) :
    s.setAll ids = s := by
  refine eq_of_has fun id => ?_
  rw [has_setAll]
  by_cases hmem : InRange id ∧ id ∈ ids
  · rw [h id hmem.2 hmem.1, Bool.true_or]
  · rw [decide_eq_false hmem, Bool.or_false]

/-- Setting flags changes nothing just when they are set already, as far as they are in range. -/
theorem setAll_eq_self_iff {ids : List FlagId} :
    s.setAll ids = s ↔ ∀ id ∈ ids, InRange id → s.has id = true := by
  refine ⟨fun h id hid hin => ?_, setAll_of_has⟩
  rw [← h, has_setAll, decide_eq_true ⟨hin, hid⟩, Bool.or_true]

end StoryGraph.FlagSet
