import StoryGraph.FlagSet
import StoryGraph.Graph.Span
import StoryGraph.Proofs.Script.CellNumbers

set_option relaxedAutoImplicit false
set_option autoImplicit false

/-!
# Guarded words

A guarded step is one that goes by the words and the arrays of a machine, and has no result where it
would leave them: where a number does not fit into its word, a shift is as long as the word, or an
array has no element in the place that is read. What flags, runs and cells need of words never
comes to that, whatever the flag, the run or the cell.

## Main definitions

* `Word.fit?`, `Word.narrow?` — a number in a word that can hold it.
* `Word.largestSize` — the largest size of what is in memory.
* `Span.guardedStop` — the place after a run, as a sum of words.
* `FlagSet.guardedHas`, `FlagSet.guardedSet` — flags by the index of a word and a mask.
* `Cell.guardedWord?` — the number of a cell, negated only within the range of a word.

## Main results

* `Span.guardedStop_eq`, `FlagSet.guardedHas_eq`, `FlagSet.guardedSet_eq`, `Cell.guardedWord?_eq` —
  each guarded step has a result, and the right one.
-/

namespace StoryGraph

/-! ## Numbers in words -/

namespace Word

/-- The number `n`, if a word of 64 bits can hold it. -/
def fit? (n : Nat) : Option Nat := if n < UInt64.size then some n else none

/-- The largest number of elements that a text or a list in memory can have, where places have
numbers of 64 bits and a distance of two places may be negative. -/
def largestSize : Nat := 0x7FFFFFFFFFFFFFFF

/-- The word of 32 bits that holds the number `n`, if there is one. -/
def narrow? (n : Nat) : Option UInt32 := if n < UInt32.size then some n.toUInt32 else none

/-- A number below 2 ^ 64 fits in a word. -/
theorem fit?_of_lt {n : Nat} (h : n < UInt64.size) : fit? n = some n := if_pos h

/-- A number below 2 ^ 32 keeps its value in half a word. -/
theorem narrow?_of_lt {n : Nat} (h : n < UInt32.size) : narrow? n = some n.toUInt32 := if_pos h

end Word

/-- The place after the last one of a run, in a word of 64 bits. -/
def Span.guardedStop (s : Span) : Option Nat := Word.fit? (s.offset.toNat + s.count.toNat)

/-- The place after a run always fits into its word, as two shorter words are added. -/
theorem Span.guardedStop_eq (s : Span) : s.guardedStop = some s.stop := by
  have hoffset := s.offset.toNat_lt
  have hcount := s.count.toNat_lt
  have hsize : UInt64.size = 2 ^ 64 := rfl
  exact Word.fit?_of_lt (by omega)

/-! ## Flags -/

namespace FlagSet

/-- The index of the word and the number of the bit that stand for an id, if it has any: they are
the upper and the lower bits of its number. -/
def place? (id : FlagId) : Option (Nat × Nat) :=
  if id.toInt < 0 then none
  else if capacity ≤ id.toInt.toNat then none
  else some (id.toInt.toNat >>> 6, id.toInt.toNat &&& 63)

/-- The word with only bit `bit`, made by a shift. -/
def mask? (bit : Nat) : Option UInt64 := if bit < 64 then some (1 <<< UInt64.ofNat bit) else none

/-- Whether a flag is in the set, by the mask of its bit. -/
def guardedHas (s : FlagSet) (id : FlagId) : Option Bool :=
  match place? id with
  | some (word, bit) => do
    let mask ← mask? bit
    let held ← s.words[word]?
    return held &&& mask != 0
  | none => some false

/-- The set with a flag, by the mask of its bit. -/
def guardedSet (s : FlagSet) (id : FlagId) : Option FlagSet :=
  match place? id with
  | some (word, bit) => do
    let mask ← mask? bit
    if h : word < 16 then some ⟨s.words.set word (s.words[word] ||| mask)⟩ else none
  | none => some s

/-- Whether all flags of a list are in the set. -/
def guardedHasAll (s : FlagSet) (ids : List FlagId) : Option Bool := ids.allM s.guardedHas

/-- The set with all flags of a list. -/
def guardedSetAll (s : FlagSet) (ids : List FlagId) : Option FlagSet := ids.foldlM guardedSet s

/-- The place of a flag is the one that `locate` says.

**Proof sketch.** A shift by six is a quotient by 64, and a mask of six ones a remainder. An id that
is in range has both, as `locate_eq_some_iff` says; one that is not is negative or too large, and
one of the two guards rejects it. -/
theorem place?_eq (id : FlagId) :
    place? id = (locate id).map fun (word, bit) => (word.val, bit.val) := by
  have hword : id.toInt.toNat >>> 6 = id.toInt.toNat / 64 := Nat.shiftRight_eq_div_pow _ 6
  have hbit : id.toInt.toNat &&& 63 = id.toInt.toNat % 64 := Nat.and_two_pow_sub_one_eq_mod _ 6
  have hcapacity : capacity = 1024 := rfl
  rw [place?, hword, hbit]
  cases hid : locate id with
  | none =>
    have hout := locate_eq_none_iff.1 hid
    rw [InRange] at hout
    split
    case isTrue => rfl
    case isFalse hpos => exact if_pos (by omega)
  | some found =>
    obtain ⟨word, bit⟩ := found
    have hin := locate_eq_some_iff.1 hid
    have hwordlt := word.isLt
    have hbitlt := bit.isLt
    rw [if_neg (by omega), if_neg (by omega), Option.map_some, Option.some.injEq, Prod.mk.injEq]
    omega

/-- No flag has a shift as long as a word. -/
theorem mask?_eq (bit : Fin 64) : mask? bit = some (UInt64.ofBitVec (BitVec.twoPow 64 bit)) := by
  have hbit := bit.isLt
  rw [mask?, if_pos hbit, Option.some.injEq, ← UInt64.toBitVec_inj, UInt64.toBitVec_shiftLeft,
    BitVec.twoPow_eq]
  simp [Nat.mod_eq_of_lt hbit]

/-- The mask of a bit meets a word just when the bit is one.

**Proof sketch.** A word met with the mask of a bit is that mask if the bit is one, and zero if not;
and the mask is not zero, as it has this bit. -/
theorem and_twoPow_ne_zero (word : UInt64) (bit : Fin 64) :
    (word &&& UInt64.ofBitVec (BitVec.twoPow 64 bit) != 0) = bitOf word bit := by
  have hmask : BitVec.twoPow 64 bit.val ≠ 0#64 := by
    intro h
    have hone := congrArg (·.getLsbD bit.val) h
    simp at hone
  rw [bitOf, Bool.eq_iff_iff, bne_iff_ne, ne_eq, ← UInt64.toBitVec_inj, UInt64.toBitVec_and,
    BitVec.and_twoPow]
  cases word.toBitVec.getLsbD bit <;> simp [hmask]

/-- Looking for a flag never leaves the words, whatever the flag.

**Proof sketch.** The place of a flag is a word of the sixteen, by `place?_eq`, and its mask a bit
of that word. A flag without a place is not in the set. -/
theorem guardedHas_eq (s : FlagSet) (id : FlagId) : s.guardedHas id = some (s.has id) := by
  rw [guardedHas, place?_eq, has]
  cases locate id with
  | none => rfl
  | some found =>
    obtain ⟨word, bit⟩ := found
    have hword : s.words[word.val]? = some s.words[word] := Vector.getElem?_eq_getElem word.isLt
    simp only [Option.map_some, mask?_eq, hword, bind, Option.bind_some, pure, and_twoPow_ne_zero]

/-- Setting a flag never leaves the words, whatever the flag. -/
theorem guardedSet_eq (s : FlagSet) (id : FlagId) : s.guardedSet id = some (s.set id) := by
  rw [guardedSet, place?_eq, set]
  cases locate id with
  | none => rfl
  | some found =>
    obtain ⟨word, bit⟩ := found
    simp only [Option.map_some, mask?_eq, bind, Option.bind_some, dif_pos word.isLt, withBit]
    rfl

/-- Looking a list of flags up never fails, and finds what the unguarded look-up finds. -/
theorem guardedHasAll_eq (s : FlagSet) (ids : List FlagId) :
    s.guardedHasAll ids = some (s.hasAll ids) := by
  unfold guardedHasAll hasAll
  induction ids with
  | nil => rfl
  | cons id ids ih =>
    rw [List.allM, guardedHas_eq, List.all_cons]
    cases s.has id with
    | true => exact ih
    | false => rfl

/-- Setting a list of flags never fails, and sets what the unguarded setting sets. -/
theorem guardedSetAll_eq (s : FlagSet) (ids : List FlagId) :
    s.guardedSetAll ids = some (s.setAll ids) := by
  unfold guardedSetAll setAll
  induction ids generalizing s with
  | nil => rfl
  | cons id ids ih =>
    rw [List.foldlM_cons, guardedSet_eq]
    exact ih (s.set id)

end FlagSet

/-! ## Cells -/

namespace Cell

/-- The negation of a word, if it is a word again. -/
def negate? (w : Int64) : Option Int64 := if w = Int64.minValue then none else some (-w)

/-- The integer at the start of a text, if it has one; and all of that only if no negation leaves
the range of a word. -/
def guardedWord? (text : List Char) : Option (Option Int64) :=
  match Text.trim text with
  | [] => some none
  | '-' :: cs => (negate? (wordMagnitude cs)).map some
  | cs => some (some (wordMagnitude cs))

/-- A magnitude is not negative, so its negation is a word. -/
theorem negate?_wordMagnitude (cs : List Char) :
    negate? (wordMagnitude cs) = some (-wordMagnitude cs) := by
  refine if_neg fun h => ?_
  have hint := toInt_wordMagnitude cs
  rw [h] at hint
  have hmin : Int64.minValue.toInt = -2 ^ 63 := rfl
  omega

/-- No negation leaves the range of a word, whatever the cell. -/
theorem guardedWord?_eq (text : List Char) :
    (guardedWord? text).map (·.map Int64.toInt) = some (leadingInt? text) := by
  have hword : guardedWord? text = some (leadingWord? text) := by
    unfold guardedWord? leadingWord?
    generalize Text.trim text = cs
    split <;> simp [negate?_wordMagnitude]
  rw [hword, Option.map_some, map_toInt_leadingWord?]

end Cell

end StoryGraph
