import Mathlib
import StoryGraph.Proofs.FlagMembers

set_option relaxedAutoImplicit false
set_option autoImplicit false

/-!
# Flag sets as sets of numbers

A flag set is the set of the numbers whose bits are one. Setting flags and clearing them does the
same to these numbers, flags out of range left out, and whatever a flag set is asked, the answer is
the one about the numbers.

## Main definitions

* `FlagSet.Change`, `FlagSet.changeAll` — what can be done to a flag set, and the set after a run of
  changes.
* `FlagSet.ones` — the numbers whose bits are one.
* `FlagSet.Change.apply` — what a change makes of a set of numbers.
* `FlagSet.Denotes` — the answers of a flag set are those about a set of numbers.

## Main results

* `FlagSet.mem_ones_iff` — a flag is in a flag set when its number is one of these.
* `FlagSet.ones_changeAll` — a run of changes does to the numbers what it does to the flag set.
* `FlagSet.map_toInt_ids` — the members are listed in ascending order, each once.
* `FlagSet.count_eq_sum_cpop` — the members are counted by the ones of each word.
* `FlagSet.denotes_changeAll` — after any changes a flag set is the set that the same changes make
  of the numbers.
-/

namespace StoryGraph.FlagSet

/-! ## Changes -/

/-- What can be done to a flag set. -/
inductive Change where
  | set (id : FlagId)
  | setAll (ids : List FlagId)
  | clear
deriving DecidableEq, Repr

/-- The flag set after a change. -/
def change (s : FlagSet) : Change → FlagSet
  | .set id => s.set id
  | .setAll ids => s.setAll ids
  | .clear => .empty

/-- The flag set after a run of changes. -/
def changeAll (s : FlagSet) (cs : List Change) : FlagSet := cs.foldl change s

/-- The numbers that flags in range have. -/
def known : Finset Int := (Finset.range 1024).image Int.ofNat

/-- What a change makes of a set of numbers: numbers that are not known are left out. -/
def Change.apply (S : Finset Int) : Change → Finset Int
  | .set id => S ∪ {id.toInt} ∩ known
  | .setAll ids => S ∪ (ids.map Int32.toInt).toFinset ∩ known
  | .clear => ∅

/-- The numbers whose bits are one: bit `n % 64` of word `n / 64` stands for `n`. -/
def ones (s : FlagSet) : Finset Int :=
  known.filter fun n =>
    (s.words[(n / 64).toNat]?).any fun word => word.toNat.testBit (n % 64).toNat

variable {s : FlagSet}

/-! ## Numbers and flags -/

/-- The known numbers are those from 0 to 1023. -/
theorem mem_known_iff {n : Int} : n ∈ known ↔ 0 ≤ n ∧ n < 1024 := by
  simp only [known, Finset.mem_image, Finset.mem_range]
  constructor
  · rintro ⟨k, hk, rfl⟩
    exact ⟨Int.natCast_nonneg k, Int.ofNat_lt.2 hk⟩
  · rintro ⟨hpos, hlt⟩
    exact ⟨n.toNat, by omega, Int.toNat_of_nonneg hpos⟩

/-- The known numbers are those of flags in range. -/
theorem toInt_mem_known_iff {id : FlagId} : id.toInt ∈ known ↔ InRange id := mem_known_iff

/-- Every known number is that of a flag. -/
theorem exists_toInt_eq {n : Int} (h : n ∈ known) : ∃ id : FlagId, id.toInt = n := by
  rw [mem_known_iff] at h
  refine ⟨Int32.ofNat n.toNat, ?_⟩
  rw [Int32.toInt_ofNat_of_lt (by omega)]
  omega

/-- The number of the flag for which a bit stands. -/
theorem toInt_idAt (word : Fin 16) (bit : Fin 64) : (idAt word bit).toInt = 64 * word + bit :=
  locate_eq_some_iff.1 (locate_idAt word bit)

/-- A bit of a word is a bit of the number that the word is. -/
theorem bitOf_eq_testBit (word : UInt64) (bit : Nat) : bitOf word bit = word.toNat.testBit bit := by
  rw [bitOf, ← BitVec.testBit_toNat, UInt64.toNat_toBitVec]

/-- A flag in range is looked up by the bit that stands for its number. -/
theorem any_testBit_idAt (s : FlagSet) (word : Fin 16) (bit : Fin 64) :
    ((s.words[((idAt word bit).toInt / 64).toNat]?).any fun w =>
      w.toNat.testBit ((idAt word bit).toInt % 64).toNat) = s.has (idAt word bit) := by
  have hword : ((idAt word bit).toInt / 64).toNat = word := by
    rw [toInt_idAt]
    omega
  have hbit : ((idAt word bit).toInt % 64).toNat = bit := by
    rw [toInt_idAt]
    omega
  rw [hword, hbit, has_idAt, bitOf_eq_testBit, Vector.getElem?_eq_getElem word.isLt,
    Option.any_some]
  rfl

/-- A flag is in a flag set when its number is one of those whose bits are one. -/
theorem mem_ones_iff {id : FlagId} : id.toInt ∈ s.ones ↔ s.has id = true := by
  rw [ones, Finset.mem_filter, toInt_mem_known_iff]
  constructor
  · rintro ⟨hin, hone⟩
    obtain ⟨word, bit, rfl⟩ := exists_idAt_eq hin
    rwa [any_testBit_idAt] at hone
  · intro h
    have hin := inRange_of_has h
    obtain ⟨word, bit, rfl⟩ := exists_idAt_eq hin
    exact ⟨hin, by rwa [any_testBit_idAt]⟩

/-- Only known numbers have bits. -/
theorem ones_subset_known (s : FlagSet) : s.ones ⊆ known := Finset.filter_subset _ _

/-- Sets of known numbers are equal when they have the same flags. -/
theorem eq_of_toInt_mem_iff {S T : Finset Int} (hS : S ⊆ known) (hT : T ⊆ known)
    (h : ∀ id : FlagId, id.toInt ∈ S ↔ id.toInt ∈ T) : S = T := by
  ext n
  constructor
  · intro hn
    obtain ⟨id, rfl⟩ := exists_toInt_eq (hS hn)
    exact (h id).1 hn
  · intro hn
    obtain ⟨id, rfl⟩ := exists_toInt_eq (hT hn)
    exact (h id).2 hn

/-- Flag sets are equal when the same numbers have ones. -/
theorem ones_inj {t : FlagSet} : s.ones = t.ones ↔ s = t := by
  constructor
  · intro h
    apply eq_of_has
    intro id
    rw [Bool.eq_iff_iff, ← mem_ones_iff, ← mem_ones_iff, h]
  · rintro rfl
    rfl

/-- No bit of the empty flag set is one. -/
theorem ones_empty : empty.ones = ∅ := by
  apply eq_of_toInt_mem_iff (ones_subset_known _) (Finset.empty_subset _)
  intro id
  simp [mem_ones_iff]

/-! ## Changes of the numbers -/

/-- A change leaves known numbers. -/
theorem Change.apply_subset {S : Finset Int} (hS : S ⊆ known) (c : Change) : c.apply S ⊆ known := by
  cases c with
  | set id => exact Finset.union_subset hS Finset.inter_subset_right
  | setAll ids => exact Finset.union_subset hS Finset.inter_subset_right
  | clear => exact Finset.empty_subset _

/-- A change does to the numbers what it does to the flag set.

**Proof sketch.** Both sides hold only numbers that a set can know, so it is enough to compare which
ids are in them. On the left `has_set` and `has_setAll` say it, on the right the union and the
intersection of the numbers. -/
theorem ones_change (s : FlagSet) (c : Change) : (s.change c).ones = c.apply s.ones := by
  apply eq_of_toInt_mem_iff (ones_subset_known _) (c.apply_subset (ones_subset_known _))
  intro id
  rw [mem_ones_iff]
  cases c with
  | set other =>
    rw [change, has_set, Bool.or_eq_true, decide_eq_true_iff, Change.apply, Finset.mem_union,
      Finset.mem_inter, Finset.mem_singleton, mem_ones_iff, toInt_mem_known_iff, Int32.toInt_inj]
    apply or_congr_right
    constructor
    · rintro ⟨hin, rfl⟩
      exact ⟨rfl, hin⟩
    · rintro ⟨rfl, hin⟩
      exact ⟨hin, rfl⟩
  | setAll others =>
    have hnumber : id.toInt ∈ (others.map Int32.toInt).toFinset ↔ id ∈ others := by
      simp [Int32.toInt_inj]
    rw [change, has_setAll, Bool.or_eq_true, decide_eq_true_iff, Change.apply, Finset.mem_union,
      Finset.mem_inter, hnumber, mem_ones_iff, toInt_mem_known_iff]
    exact or_congr_right and_comm
  | clear => simp [change, Change.apply]

/-- A run of changes does to the numbers what it does to the flag set. -/
theorem ones_changeAll (s : FlagSet) (cs : List Change) :
    (s.changeAll cs).ones = cs.foldl Change.apply s.ones := by
  induction cs generalizing s with
  | nil => rfl
  | cons c cs ih =>
    have hcons : s.changeAll (c :: cs) = (s.change c).changeAll cs := rfl
    rw [hcons, ih, ones_change, List.foldl_cons]

/-! ## The list of the members -/

/-- The members stand in ascending order, each once.

**Proof sketch.** The members are listed word by word and, in a word, bit by bit. Within a word the
numbers differ by their bits, which ascend. Between two words the later one starts above all numbers
of the earlier, as a bit is less than 64. -/
theorem pairwise_ids (s : FlagSet) : s.ids.Pairwise fun i j => i.toInt < j.toInt := by
  have hvalue : ∀ (word : Fin 16), ∀ bit ∈ bitsOf s.words[word],
      (Int32.ofNat (64 * word + bit)).toInt = 64 * word + bit ∧ bit < 64 := by
    intro word bit hbit
    have hlt := List.mem_range.1 (List.mem_filter.1 hbit).1
    refine ⟨?_, hlt⟩
    rw [Int32.toInt_ofNat_of_lt (by omega)]
    omega
  rw [ids, List.pairwise_flatMap]
  constructor
  · intro word _
    rw [List.pairwise_map]
    have hbits : (bitsOf s.words[word]).Pairwise (· < ·) := List.pairwise_lt_range.filter _
    apply hbits.imp_of_mem
    intro bit other hbit hother hlt
    rw [(hvalue word bit hbit).1, (hvalue word other hother).1]
    omega
  · apply (List.pairwise_lt_finRange 16).imp
    intro word later hlt i hi j hj
    obtain ⟨bit, hbit, rfl⟩ := List.mem_map.1 hi
    obtain ⟨other, hother, rfl⟩ := List.mem_map.1 hj
    have hbound := (hvalue word bit hbit).2
    rw [(hvalue word bit hbit).1, (hvalue later other hother).1]
    omega

/-- The members are listed in ascending order, each once.

**Proof sketch.** The numbers of the listed members ascend, so they are the sorted form of the set
of these numbers. That set is `ones`, as both hold the numbers of the flags that are in the set. -/
theorem map_toInt_ids (s : FlagSet) : s.ids.map Int32.toInt = s.ones.sort (· ≤ ·) := by
  have hlt : (s.ids.map Int32.toInt).Pairwise (· < ·) := List.pairwise_map.2 s.pairwise_ids
  have hones : (s.ids.map Int32.toInt).toFinset = s.ones := by
    apply eq_of_toInt_mem_iff ?_ (ones_subset_known s)
    · intro id
      simp [mem_ones_iff, mem_ids, Int32.toInt_inj]
    · intro n hn
      simp only [List.mem_toFinset, List.mem_map] at hn
      obtain ⟨id, hid, rfl⟩ := hn
      exact toInt_mem_known_iff.2 (inRange_of_has (mem_ids.1 hid))
  rw [← hones]
  exact ((List.toFinset_sort (· ≤ ·) (hlt.imp ne_of_lt)).2 (hlt.imp le_of_lt)).symm

/-! ## The number of members -/

/-- As many bits are listed as the word has ones.

**Proof sketch.** Induction on the number of bits that have been looked at. One more bit goes to the
end of the list; the library adds it to its sum first, and `BitVec.cpopNatRec_add` says that the
order does not matter. -/
theorem length_bitsOf (word : UInt64) : (bitsOf word).length = word.toBitVec.cpop.toNat := by
  have hbelow : ∀ k,
      ((List.range k).filter (bitOf word)).length = word.toBitVec.cpopNatRec k 0 := by
    intro k
    induction k with
    | zero => rfl
    | succ k ih =>
      rw [BitVec.cpopNatRec_succ, BitVec.cpopNatRec_add, ← ih, List.range_succ, List.filter_append]
      cases h : bitOf word k <;> simp_all [bitOf]
  rw [BitVec.toNat_cpop]
  exact hbelow 64

/-- The members are counted by the ones of each word. -/
theorem count_eq_sum_cpop (s : FlagSet) :
    s.count = (s.words.toList.map fun word => word.toBitVec.cpop.toNat).sum := by
  rw [count, List.length_flatMap]
  simp only [length_bitsOf]

/-- As many members are counted as are listed. -/
theorem count_eq_length_ids (s : FlagSet) : s.count = s.ids.length := by
  have hwords : s.words.toList = (List.finRange 16).map fun word : Fin 16 => s.words[word] := by
    apply List.ext_getElem
    · simp
    · simp
  rw [count, ids, hwords, List.length_flatMap, List.length_flatMap, List.map_map]
  simp only [List.length_map, Function.comp_def]

/-! ## All answers -/

/-- The answers of the flag set `s` are those about the set of numbers `S`. -/
structure Denotes (s : FlagSet) (S : Finset Int) : Prop where
  subset_known : S ⊆ known
  has_iff : ∀ id : FlagId, s.has id = true ↔ id.toInt ∈ S
  hasAll_iff : ∀ ids : List FlagId, s.hasAll ids = true ↔ ∀ id ∈ ids, id.toInt ∈ S
  /-- The members are listed in ascending order, each once. -/
  map_ids : s.ids.map Int32.toInt = S.sort (· ≤ ·)
  count_eq : s.count = S.card
  length_ids : s.ids.length = s.count
  /-- The members are counted word by word. -/
  count_eq_sum : s.count = (s.words.toList.map fun word => word.toBitVec.cpop.toNat).sum
  /-- Two flag sets are equal just when their numbers are, whatever was done to either. -/
  eq_iff : ∀ (t : FlagSet) (cs : List Change),
    s = t.changeAll cs ↔ S = cs.foldl Change.apply t.ones
  /-- The list of the members makes up the flag set again. -/
  setAll_ids : empty.setAll s.ids = s

/-- A flag set is the set of the numbers whose bits are one.

**Proof sketch.** Each field is one of the lemmas above. -/
theorem denotes_ones (s : FlagSet) : s.Denotes s.ones where
  subset_known := ones_subset_known s
  has_iff _ := mem_ones_iff.symm
  hasAll_iff ids := by simp only [hasAll, List.all_eq_true, mem_ones_iff]
  map_ids := map_toInt_ids s
  count_eq := by
    rw [count_eq_length_ids, ← Finset.length_sort (· ≤ ·), ← map_toInt_ids, List.length_map]
  length_ids := (count_eq_length_ids s).symm
  count_eq_sum := count_eq_sum_cpop s
  eq_iff t cs := by rw [← ones_changeAll, ones_inj]
  setAll_ids := setAll_ids s

/-- **A flag set is a set of numbers from 0 to 1023.** Whether it starts out empty or from any
sixteen words, after any changes it gives the answers about the set that the same changes make of
the numbers of these words.

**Proof sketch.** The numbers whose bits are one are changed along with the flag set, one change
after the other. So it is enough to compare the answers of a flag set with its own ones. -/
theorem denotes_changeAll :
    (∀ cs : List Change, (empty.changeAll cs).Denotes (cs.foldl Change.apply ∅)) ∧
      ∀ (words : Vector UInt64 16) (cs : List Change),
        (changeAll ⟨words⟩ cs).Denotes (cs.foldl Change.apply (ones ⟨words⟩)) := by
  constructor
  · intro cs
    rw [← ones_empty, ← ones_changeAll]
    exact denotes_ones _
  · intro words cs
    rw [← ones_changeAll]
    exact denotes_ones _

/-- Numbers out of range are left out, and a number that is set twice is listed once. -/
example : (empty.changeAll [.setAll [700, 3, -1, 64], .set 1024, .setAll [63, 3]]).ids =
    [3, 63, 64, 700] := by
  decide +kernel

end StoryGraph.FlagSet
