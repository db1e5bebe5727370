set_option relaxedAutoImplicit false
set_option autoImplicit false

/-!
# Flag sets

The progress of a story is a set of flags. A flag set holds the ids `0` to `1023` as the bits of
sixteen words, so that it has a fixed size and a fixed written form.

## Main definitions

* `FlagId` — a flag as scripts name it; every 32-bit id can be written down.
* `FlagSet` — a set of flag ids below `FlagSet.capacity`.
* `FlagSet.locate` — the word and the bit that stand for an id.
* `FlagSet.has`, `FlagSet.set`, `FlagSet.hasAll`, `FlagSet.setAll` — membership and insertion.
* `FlagSet.ids` — the members in ascending order.

## Main results

* `FlagSet.locate_eq_some_iff`, `FlagSet.locate_eq_none_iff` — which bit stands for which id.
* `FlagSet.has_set`, `FlagSet.has_setAll` — what insertion does to membership.

## Implementation notes

An id that no bit stands for is never an error: it is no member of any set, and setting it
changes nothing. A requirement on such a flag can therefore never be met.
-/

namespace StoryGraph

/-- A flag as scripts name it. -/
abbrev FlagId := Int32

/-- A set of flag ids below `FlagSet.capacity`, one bit for each. -/
structure FlagSet where
  /-- The words; bit `b` of word `w` stands for the id `64 * w + b`. -/
  words : Vector UInt64 16
deriving DecidableEq

namespace FlagSet

/-- The number of ids that a flag set can hold. -/
def capacity : Nat := 1024

/-- The set without members. -/
def empty : FlagSet := ⟨Vector.replicate 16 0⟩

instance : Inhabited FlagSet := ⟨empty⟩

/-- A flag id is in range when some flag set holds it. -/
def InRange (id : FlagId) : Prop := 0 ≤ id.toInt ∧ id.toInt < capacity

instance (id : FlagId) : Decidable (InRange id) :=
  inferInstanceAs (Decidable (_ ∧ _))

/-- The word and the bit that stand for an id, if there are any. -/
def locate (id : FlagId) : Option (Fin 16 × Fin 64) :=
  if h : InRange id then
    some (⟨id.toInt.toNat / 64, by have := h.1; have := h.2; simp only [capacity] at this; omega⟩,
      ⟨id.toInt.toNat % 64, by omega⟩)
  else none

/-- Bit `bit` of `word` is one. -/
def bitOf (word : UInt64) (bit : Nat) : Bool :=
  word.toBitVec.getLsbD bit

/-- `withBit word bit` is `word` with bit `bit` made one. -/
def withBit (word : UInt64) (bit : Nat) : UInt64 :=
  word ||| UInt64.ofBitVec (BitVec.twoPow 64 bit)

/-- `s.has id`: the flag `id` is in `s`. An id out of range is in no set. -/
def has (s : FlagSet) (id : FlagId) : Bool :=
  match locate id with
  | some (word, bit) => bitOf s.words[word] bit
  | none => false

/-- `s.set id` is `s` with the flag `id`; an id out of range leaves `s` as it is. -/
def set (s : FlagSet) (id : FlagId) : FlagSet :=
  match locate id with
  | some (word, bit) => ⟨s.words.set word (withBit s.words[word] bit)⟩
  | none => s

/-- `s.hasAll ids`: every flag of `ids` is in `s`. -/
def hasAll (s : FlagSet) (ids : List FlagId) : Bool :=
  ids.all s.has

/-- `s.setAll ids` is `s` with every flag of `ids`. -/
def setAll (s : FlagSet) (ids : List FlagId) : FlagSet :=
  ids.foldl set s

/-- The bits of a word that are one, in ascending order. -/
def bitsOf (word : UInt64) : List Nat :=
  (List.range 64).filter (bitOf word)

/-- The members of a flag set in ascending order. -/
def ids (s : FlagSet) : List FlagId :=
  (List.finRange 16).flatMap fun (word : Fin 16) =>
    (bitsOf s.words[word]).map fun bit => Int32.ofNat (64 * word + bit)

/-- The number of members. -/
def count (s : FlagSet) : Nat :=
  (s.words.toList.flatMap bitsOf).length

/-! ## Membership -/

/-- Bit `bit` of word `word` stands for the id `64 * word + bit`, and for no other.

**Proof sketch.** For an id in range, the word and the bit are the quotient and the remainder by 64,
which are determined by the sum. An id out of range has no word, and no sum of a word and a bit
comes to it. -/
theorem locate_eq_some_iff {id : FlagId} {word : Fin 16} {bit : Fin 64} :
    locate id = some (word, bit) ↔ id.toInt = 64 * word.val + bit.val := by
  unfold locate
  split
  case isTrue h =>
    have h1 := h.1
    have h2 := h.2
    simp only [capacity] at h2
    simp only [Option.some.injEq, Prod.mk.injEq, Fin.ext_iff]
    omega
  case isFalse h =>
    simp only [InRange, capacity] at h
    have := word.isLt
    have := bit.isLt
    simp only [reduceCtorEq, false_iff]
    omega

/-- No bit stands for an id out of range. -/
theorem locate_eq_none_iff {id : FlagId} : locate id = none ↔ ¬ InRange id := by
  unfold locate
  split <;> simp_all

/-- Making a bit one changes that bit alone. -/
theorem bitOf_withBit (word : UInt64) (bit other : Nat) (h : bit < 64) :
    bitOf (withBit word bit) other = (bitOf word other || decide (bit = other)) := by
  simp only [bitOf, withBit, UInt64.toBitVec_or, BitVec.getLsbD_or, BitVec.getLsbD_twoPow, h,
    decide_true, Bool.true_and]

/-- No flag is in the empty set. -/
@[simp] theorem has_empty (id : FlagId) : empty.has id = false := by
  unfold has
  split
  · simp [empty, bitOf]
  · rfl

/-- Setting a flag adds that flag alone, if it is in range.

**Proof sketch.** An id out of range sets nothing. For one in range, look where the other id is
kept. In another word nothing was written; in the same word `bitOf_withBit` says what became of the
bit; and by `locate_eq_some_iff` two ids have the same bit only if they are equal. An id that is
kept nowhere is not in range, so it differs from the one that was set. -/
theorem has_set (s : FlagSet) (id other : FlagId) :
    (s.set id).has other = (s.has other || decide (InRange id ∧ id = other)) := by
  unfold set
  split
  case h_1 word bit hid =>
    have hin : InRange id := Decidable.byContradiction fun hout => by
      rw [locate_eq_none_iff.2 hout] at hid
      contradiction
    unfold has
    split
    case h_1 word' bit' hother =>
      have h1 := locate_eq_some_iff.1 hid
      have h2 := locate_eq_some_iff.1 hother
      have heq : id = other ↔ word = word' ∧ bit = bit' := by
        constructor
        · rintro rfl
          simpa [hid] using hother
        · rintro ⟨rfl, rfl⟩
          exact Int32.toInt_inj.1 (h1.trans h2.symm)
      by_cases hw : word = word'
      · subst hw
        simp [bitOf_withBit, hin, heq, Fin.ext_iff]
      · have : word.val ≠ word'.val := fun h => hw (Fin.ext h)
        simp [heq, hw, this]
    case h_2 hother =>
      have hne : id ≠ other := by
        rintro rfl
        rw [hid] at hother
        contradiction
      simp [hne]
  case h_2 hid =>
    simp [locate_eq_none_iff.1 hid]

/-- Setting flags adds those of them that are in range.

**Proof sketch.** Induction on the list, for every set: the first flag is `has_set`, and the
hypothesis is used for the set that has it. -/
theorem has_setAll (s : FlagSet) (ids : List FlagId) (id : FlagId) :
    (s.setAll ids).has id = (s.has id || decide (InRange id ∧ id ∈ ids)) := by
  induction ids generalizing s with
  | nil => simp [setAll]
  | cons i ids ih =>
    have hcons : s.setAll (i :: ids) = (s.set i).setAll ids := rfl
    rw [hcons, ih, has_set, Bool.or_assoc]
    congr 1
    by_cases h : i = id
    · subst h
      by_cases hin : InRange i <;> simp [hin]
    · simp [h, Ne.symm h]

end FlagSet

end StoryGraph
