import Mathlib.Algebra.Ring.Int.Defs
import StoryGraph.Proofs.Script.Rows
import StoryGraph.Proofs.Script.Work
import StoryGraph.Proofs.Text.Trimmed

set_option relaxedAutoImplicit false
set_option autoImplicit false

/-!
# The numbers of a cell

A cell is read as the integer that it writes, however long that is. The readers work with numbers
that stop growing at the end of the range of a word; but what they make of a number is settled long
before it gets there, so no number that is too large comes round to an id or to a flag. Behind a
dash nothing counts, whether a cell is read for the node of a choice or for that of a declaration.

## Main definitions

* `Cell.exactInt` — the integer that a text writes, of any size.
* `Cell.leadingWord?` — the same reading in words of 64 bits.
* `Cell.flagItems` — the items of a flag list.
* `Cell.ReadsExactly` — the readers of a cell go by the integers that it writes.
* `Row.Refused` — an entry fails as its row names no node.

## Main results

* `Cell.magnitude_eq`, `Cell.leadingInt?_eq_some` — numbers that stop growing are exact up to there.
* `Cell.map_toInt_leadingWord?` — no step of the reading leaves the range of a word.
* `Cell.readsExactly` — every cell is read by the integers that it writes.
* `Cell.parentId?_eq_nodeId?` — what follows a dash does not matter to the node that a cell names.
* `Entry.named_or_refused_of_same_cell` — a choice and a declaration with the same cell name the
  same node, or both of them fail.
-/

namespace StoryGraph

namespace Cell

/-! ## Exact integers -/

/-- The number that the digits at the start of `cs` write, however many they are. -/
def exactMagnitude (cs : List Char) : Nat := Nat.ofDigitChars 10 (cs.takeWhile Char.isDigit) 0

/-- The integer that a text writes at its start, after blanks: an optional minus and the digits
behind it, zero if there are none. -/
def exactInt (text : List Char) : Int :=
  match Text.trim text with
  | '-' :: cs => -(exactMagnitude cs)
  | cs => exactMagnitude cs

/-- A magnitude is exact until it stops growing.

**Proof sketch.** Induction on the digits, from their end. One more digit makes tenfold and adds its
value; once the number is at `maxMagnitude`, both stay there. -/
theorem magnitude_eq (cs : List Char) : magnitude cs = min (exactMagnitude cs) maxMagnitude := by
  have hfold : ∀ digits : List Char,
      digits.foldl (fun n c => min (10 * n + digitValue c) maxMagnitude) 0 =
        min (Nat.ofDigitChars 10 digits 0) maxMagnitude := by
    intro digits
    induction digits using List.reverseRecOn with
    | nil => rfl
    | append_singleton digits c ih =>
      rw [List.foldl_concat, ih, Nat.ofDigitChars_eq_foldl, Nat.ofDigitChars_eq_foldl,
        List.foldl_concat]
      simp only [digitValue, maxMagnitude]
      omega
  exact hfold _

section

variable {text cs : List Char} {c : Char}

/-- A text has no integer when it is blank. -/
theorem leadingInt?_of_blank (h : text.all Text.isBlank = true) : leadingInt? text = none := by
  simp only [leadingInt?, Text.trim_eq_nil_iff.2 h]

/-- Behind a minus stands the magnitude of an integer. -/
theorem leadingInt?_of_minus (h : Text.trim text = '-' :: cs) :
    leadingInt? text = some (-(magnitude cs : Int)) := by
  simp only [leadingInt?, h]

/-- Without a minus the integer is its magnitude. -/
theorem leadingInt?_of_ne (h : Text.trim text = c :: cs) (hc : c ≠ '-') :
    leadingInt? text = some (magnitude (c :: cs) : Int) := by
  simp [leadingInt?, h, hc]

/-- A blank cell is read as zero. -/
theorem exactInt_of_blank (h : text.all Text.isBlank = true) : exactInt text = 0 := by
  simp [exactInt, Text.trim_eq_nil_iff.2 h, exactMagnitude]

/-- After a minus sign the magnitude counts down. -/
theorem exactInt_of_minus (h : Text.trim text = '-' :: cs) :
    exactInt text = -(exactMagnitude cs) := by
  simp only [exactInt, h]

/-- Without a minus sign the cell is read as its magnitude. -/
theorem exactInt_of_ne (h : Text.trim text = c :: cs) (hc : c ≠ '-') :
    exactInt text = exactMagnitude (c :: cs) := by
  simp [exactInt, h, hc]

/-- A text that is not blank has the integer that it writes, unless that is too large.

**Proof sketch.** By the first character behind the blanks: a minus, or any other. What follows is
read as a magnitude, which is exact up to `maxMagnitude`, by `magnitude_eq`. -/
theorem leadingInt?_eq_some (h : text.all Text.isBlank = false) :
    leadingInt? text = some (max (-(2 ^ 63 - 1)) (min (exactInt text) (2 ^ 63 - 1))) := by
  cases htrim : Text.trim text with
  | nil => simp [Text.trim_eq_nil_iff.1 htrim] at h
  | cons c cs =>
    by_cases hc : c = '-'
    · subst hc
      rw [leadingInt?_of_minus htrim, exactInt_of_minus htrim, magnitude_eq, maxMagnitude,
        Option.some.injEq]
      omega
    · rw [leadingInt?_of_ne htrim hc, exactInt_of_ne htrim hc, magnitude_eq, maxMagnitude,
        Option.some.injEq]
      omega

end

/-! ## Nodes and flags -/

/-- The node that an integer names has this number.

**Proof sketch.** In range the number goes into a word of 32 bits and comes out of it unchanged. -/
theorem map_ofInt? (n : Int) :
    (NodeId.ofInt? n).map (fun id => (id.val.toNat : Int)) =
      if 0 ≤ n ∧ n < 2 ^ 32 then some n else none := by
  have hsize : (UInt32.size : Int) = 2 ^ 32 := rfl
  rw [NodeId.ofInt?, hsize]
  split
  case isTrue h =>
    rw [Option.map_some, Option.some.injEq]
    have hword : (UInt32.ofNat n.toNat).toNat = n.toNat := UInt32.toNat_ofNat_of_lt' (by
      simp only [UInt32.size]
      omega)
    rw [hword]
    omega
  case isFalse => rfl

/-- An integer that stopped growing names a node just when the exact one does, and the same. -/
theorem ofInt?_clamp (n : Int) :
    NodeId.ofInt? (max (-(2 ^ 63 - 1)) (min n (2 ^ 63 - 1))) = NodeId.ofInt? n := by
  have hsize : (UInt32.size : Int) = 2 ^ 32 := rfl
  unfold NodeId.ofInt?
  rw [hsize]
  by_cases h : 0 ≤ n ∧ n < 2 ^ 32
  · have hclamp : max (-(2 ^ 63 - 1)) (min n (2 ^ 63 - 1)) = n := by omega
    rw [hclamp]
  · rw [if_neg h, if_neg (by omega)]

/-- The node of a cell is the one with the integer that it writes. -/
theorem nodeId?_eq (text : String) : nodeId? text = NodeId.ofInt? (exactInt text.toList) := by
  rw [nodeId?]
  cases hblank : text.toList.all Text.isBlank with
  | false => rw [leadingInt?_eq_some hblank, Option.getD_some, ofInt?_clamp]
  | true => rw [leadingInt?_of_blank hblank, exactInt_of_blank hblank, Option.getD_none]

/-- The target of a cell that is not blank is the node with the integer that it writes. -/
theorem target?_eq {text : String} (h : text.toList.all Text.isBlank = false) :
    target? text = NodeId.ofInt? (exactInt text.toList) := by
  rw [target?, leadingInt?_eq_some h, Option.bind_some, ofInt?_clamp]

/-- A flag is clamped to its range.

**Proof sketch.** By the two comparisons of the definition. Between the bounds the integer keeps its
value. -/
theorem toInt_ofIntClamp (n : Int) :
    (Int32.ofIntClamp n).toInt = max (-2 ^ 31) (min n (2 ^ 31 - 1)) := by
  have hmin : Int32.minValue.toInt = -2 ^ 31 := rfl
  have hmax : Int32.maxValue.toInt = 2 ^ 31 - 1 := rfl
  unfold Int32.ofIntClamp
  split
  case isTrue hlow =>
    split
    case isTrue hhigh =>
      rw [Int32.toInt_ofIntLE]
      omega
    case isFalse hhigh =>
      omega
  case isFalse hlow =>
    omega

/-- The flag of an item has the integer that the item writes, clamped to its range. -/
theorem toInt_flagOf (item : List Char) :
    (flagOf item).toInt = max (-2 ^ 31) (min (exactInt item) (2 ^ 31 - 1)) := by
  rw [flagOf, toInt_ofIntClamp]
  cases hblank : item.all Text.isBlank with
  | false =>
    rw [leadingInt?_eq_some hblank, Option.getD_some]
    omega
  | true => rw [leadingInt?_of_blank hblank, exactInt_of_blank hblank, Option.getD_none]

/-! ## Reading in words -/

/-- The sum of two words, or else the word that is nearest to it. -/
def addWords (a b : Int64) : Int64 := Int64.ofIntClamp (a.toInt + b.toInt)

/-- The product of two words, or else the word that is nearest to it. -/
def mulWords (a b : Int64) : Int64 := Int64.ofIntClamp (a.toInt * b.toInt)

/-- The value of a decimal digit, taken from bytes. -/
def digitWord (c : Char) : Int64 := Int64.ofNat (c.toUInt8 - '0'.toUInt8).toNat

/-- The magnitude that the digits at the start of `cs` write, in words. -/
def wordMagnitude (cs : List Char) : Int64 :=
  (cs.takeWhile Char.isDigit).foldl (fun n c => addWords (mulWords n 10) (digitWord c)) 0

/-- The integer at the start of a text, in words. -/
def leadingWord? (text : List Char) : Option Int64 :=
  match Text.trim text with
  | [] => none
  | '-' :: cs => some (-wordMagnitude cs)
  | cs => some (wordMagnitude cs)

/-- The word nearest to an integer.

**Proof sketch.** By the two comparisons of the definition. Between the bounds the integer keeps its
value. -/
theorem toInt_nearestWord (n : Int) :
    (Int64.ofIntClamp n).toInt = max (-2 ^ 63) (min n (2 ^ 63 - 1)) := by
  have hmin : Int64.minValue.toInt = -2 ^ 63 := rfl
  have hmax : Int64.maxValue.toInt = 2 ^ 63 - 1 := rfl
  unfold Int64.ofIntClamp
  split
  case isTrue hlow =>
    split
    case isTrue hhigh =>
      rw [Int64.toInt_ofIntLE]
      omega
    case isFalse hhigh => omega
  case isFalse hlow => omega

/-- The byte of a digit is not below that of zero.

**Proof sketch.** A digit is below 128, so its byte is its code point. That byte is at least the one
of zero, so the difference of the bytes is the difference of the code points. -/
theorem toInt_digitWord {c : Char} (h : c.isDigit = true) :
    (digitWord c).toInt = digitValue c := by
  have hrange : 48 ≤ c.toNat ∧ c.toNat ≤ 57 := Char.isDigit_iff_toNat.1 h
  have hzero : '0'.toUInt8.toNat = '0'.toNat := rfl
  have hbyte : c.toUInt8.toNat = c.toNat := by
    change c.val.toUInt8.toNat = c.val.toNat
    rw [UInt32.toNat_toUInt8]
    exact Nat.mod_eq_of_lt (Nat.lt_of_le_of_lt hrange.2 (by decide))
  have hle : '0'.toUInt8 ≤ c.toUInt8 := by
    rw [UInt8.le_iff_toNat_le, hbyte]
    exact hrange.1
  rw [digitWord, UInt8.toNat_sub_of_le _ _ hle, hbyte, hzero, digitValue,
    Int64.toInt_ofNat_of_lt (by omega)]

/-- The magnitude in words is the magnitude.

**Proof sketch.** Induction on the digits, from their end. By the hypothesis the number so far is
the magnitude so far. Tenfold and the digit are added with words that stop at their bounds, and the
lower bound is never reached. -/
theorem toInt_wordMagnitude (cs : List Char) : (wordMagnitude cs).toInt = magnitude cs := by
  have hfold : ∀ digits : List Char, (∀ c ∈ digits, c.isDigit = true) →
      (digits.foldl (fun n c => addWords (mulWords n 10) (digitWord c)) 0).toInt =
        digits.foldl (fun n c => min (10 * n + digitValue c) maxMagnitude) 0 := by
    intro digits hdigits
    induction digits using List.reverseRecOn with
    | nil => rfl
    | append_singleton digits c ih =>
      have hc := toInt_digitWord (hdigits c (by simp))
      have hten : (10 : Int64).toInt = 10 := rfl
      have hbefore := ih fun d hd => hdigits d (by simp [hd])
      rw [List.foldl_concat, List.foldl_concat, addWords, toInt_nearestWord, mulWords,
        toInt_nearestWord, hbefore, hc, hten, maxMagnitude]
      omega
  exact hfold _ fun _ => List.mem_takeWhile_imp

/-- The negation of a magnitude is again a word. -/
theorem toInt_neg_wordMagnitude (cs : List Char) :
    (-wordMagnitude cs).toInt = -(magnitude cs : Int) := by
  have hle := magnitude_le cs
  simp only [maxMagnitude] at hle
  rw [Int64.toInt_neg, toInt_wordMagnitude]
  exact Int.bmod_eq_of_le (by omega) (by omega)

/-- Reading in words comes to the same integers, so no step leaves the range of a word.

**Proof sketch.** By the sign, as both readers go by it. The magnitude in words is the magnitude, by
`toInt_wordMagnitude`, and its negative is one of a word, because it is at most `maxMagnitude`. -/
theorem map_toInt_leadingWord? (text : List Char) :
    (leadingWord? text).map Int64.toInt = leadingInt? text := by
  cases htrim : Text.trim text with
  | nil => simp only [leadingWord?, leadingInt?, htrim, Option.map_none]
  | cons c cs =>
    by_cases hc : c = '-'
    · subst hc
      simp only [leadingWord?, leadingInt?_of_minus htrim, htrim, Option.map_some,
        toInt_neg_wordMagnitude]
    · simp [leadingWord?, leadingInt?_of_ne htrim hc, htrim, hc, toInt_wordMagnitude]

/-! ## The readers of a cell -/

/-- The items of a flag list: what stands between ampersands and is not empty, without blanks. -/
def flagItems (text : String) : List (List Char) :=
  ((text.toList.filter (!Text.isBlank ·)).splitOn '&').filter (!·.isEmpty)

/-- The flags of a list are those of its items. -/
theorem flagList_eq_map (text : String) : flagList text = (flagItems text).map flagOf := rfl

/-- The readers of the cell `text` go by the integers that it writes, of any size. -/
structure ReadsExactly (text : String) : Prop where
  /-- What is not blank is read as an integer, at the nearest end of the range if it is too
  large. -/
  leadingInt : text.toList.all Text.isBlank = false → leadingInt? text.toList =
    some (max (-(2 ^ 63 - 1)) (min (exactInt text.toList) (2 ^ 63 - 1)))
  /-- It names the node with this number, and none when there cannot be such a node. -/
  nodeId : text.toList.all Text.isBlank = false →
    (nodeId? text).map (fun id => (id.val.toNat : Int)) =
      if 0 ≤ exactInt text.toList ∧ exactInt text.toList < 2 ^ 32 then some (exactInt text.toList)
      else none
  target : text.toList.all Text.isBlank = false →
    (target? text).map (fun id => (id.val.toNat : Int)) =
      if 0 ≤ exactInt text.toList ∧ exactInt text.toList < 2 ^ 32 then some (exactInt text.toList)
      else none
  /-- A blank cell is node zero and no target. -/
  blank : text.toList.all Text.isBlank = true →
    leadingInt? text.toList = none ∧ nodeId? text = some ⟨0⟩ ∧ target? text = none
  flags : (flagList text).map Int32.toInt =
    (flagItems text).map fun item => max (-2 ^ 31) (min (exactInt item) (2 ^ 31 - 1))
  /-- An item whose integer is that of no flag can neither set one nor be met by one. -/
  outOfRange : ∀ item ∈ flagItems text, ¬ (0 ≤ exactInt item ∧ exactInt item < 1024) →
    ∀ s : FlagSet, s.set (flagOf item) = s ∧ s.has (flagOf item) = false ∧
      s.hasAll (flagList text) = false
  /-- No step leaves the range of a word, neither for the cell nor for an item of it. -/
  words : ∀ part ∈ text.toList :: flagItems text,
    (leadingWord? part).map Int64.toInt = leadingInt? part

/-- A flag that is not in range is set by nothing and met by nothing. -/
theorem set_eq_self_of_not_inRange {id : FlagId} (h : ¬ FlagSet.InRange id) (s : FlagSet) :
    s.set id = s ∧ s.has id = false := by
  rw [← FlagSet.locate_eq_none_iff] at h
  simp only [FlagSet.set, FlagSet.has, h, and_self]

/-- **Every cell is read by the integers that it writes.** However long a number is, it does not
come round to that of a node or of a flag.

**Proof sketch.** A magnitude that stops growing is the exact one or the largest word, and the
largest word is no number of a node and of no flag that a set can hold. -/
theorem readsExactly (text : String) : ReadsExactly text := by
  constructor
  case leadingInt => exact leadingInt?_eq_some
  case nodeId =>
    intro _
    rw [nodeId?_eq, map_ofInt?]
  case target =>
    intro h
    rw [target?_eq h, map_ofInt?]
  case blank =>
    intro h
    have hnone := leadingInt?_of_blank h
    refine ⟨hnone, ?_, ?_⟩
    · rw [nodeId?, hnone]
      rfl
    · rw [target?, hnone, Option.bind_none]
  case flags =>
    rw [flagList_eq_map, List.map_map]
    exact List.map_congr_left fun item _ => toInt_flagOf item
  case outOfRange =>
    intro item hitem hout s
    have hrange : ¬ FlagSet.InRange (flagOf item) := by
      rw [FlagSet.InRange, toInt_flagOf, FlagSet.capacity]
      omega
    obtain ⟨hset, hhas⟩ := set_eq_self_of_not_inRange hrange s
    refine ⟨hset, hhas, ?_⟩
    rw [flagList_eq_map, FlagSet.hasAll, List.all_eq_false]
    exact ⟨flagOf item, List.mem_map_of_mem hitem, by simp [hhas]⟩
  case words => exact fun part _ => map_toInt_leadingWord? part

/-- The number behind the last node's, and one that would come round to it in a word. -/
example : (nodeId? "4294967295").isSome = true ∧ nodeId? "4294967296" = none ∧
    nodeId? "18446744073709551615" = none := by
  decide +kernel

/-! ## The cell of a choice -/

/-- What stands before a dash starts with the digits that the whole text starts with. -/
theorem takeWhile_isDigit_beforeDash (cs : List Char) :
    (cs.takeWhile (· != '-')).takeWhile Char.isDigit = cs.takeWhile Char.isDigit := by
  rw [List.takeWhile_takeWhile]
  congr 1
  funext c
  by_cases hc : c = '-'
  · subst hc
    rfl
  · simp [hc]

/-- What a dash cuts off a text, and the blanks before it, do not change its integer.

**Proof sketch.** A blank text has no integer before or after. If it begins with a dash, that is a
sign, and nothing is cut off. If it does not, only its first digits are read, and those stand before
any dash and any blank: they are the same after both are cut off. -/
theorem leadingInt?_beforeDash (text : List Char) :
    leadingInt? (beforeDash (Text.trim text)) = leadingInt? text := by
  cases htrim : Text.trim text with
  | nil =>
    rw [leadingInt?_of_blank (Text.trim_eq_nil_iff.1 htrim)]
    rfl
  | cons c cs =>
    by_cases hc : c = '-'
    · -- a dash in front is a sign and cuts nothing off
      subst hc
      have hself : Text.trim ('-' :: cs) = '-' :: cs := by rw [← htrim, Text.trim_trim]
      rw [beforeDash, leadingInt?_of_minus hself, leadingInt?_of_minus htrim]
    · have hblank := Text.not_isBlank_of_trim_eq_cons htrim
      have hcut : beforeDash (c :: cs) = c :: cs.takeWhile (· != '-') := by
        simp [beforeDash, hc]
      have hcons : Text.trim (c :: cs.takeWhile (· != '-')) =
          c :: Text.trimEnd (cs.takeWhile (· != '-')) := by
        rw [Text.trim_eq_trimEnd hblank, Text.trimEnd_cons hblank]
      have hdigits : (c :: Text.trimEnd (cs.takeWhile (· != '-'))).takeWhile Char.isDigit =
          (c :: cs).takeWhile Char.isDigit := by
        simp only [List.takeWhile_cons, takeWhile_isDigit_beforeDash,
          Text.takeWhile_trimEnd fun _ => Text.not_isDigit_of_isBlank]
      rw [hcut, leadingInt?_of_ne hcons hc, leadingInt?_of_ne htrim hc, magnitude, magnitude,
        hdigits]

/-- What follows a dash does not matter to the node that a cell names. -/
theorem parentId?_eq_nodeId? (text : String) : parentId? text = nodeId? text := by
  rw [parentId?, nodeId?, nodeId?, String.toList_ofList, leadingInt?_beforeDash]

end Cell

/-! ## Choices and declarations -/

namespace Row

variable {r : Row} {id : NodeId} {line : Nat} {b b' : Build}

/-- The entry of the row `r` fails on a line as the row names no node. -/
def Refused (r : Row) (line : Nat) (b : Build) : Prop :=
  ∃ b', (Entry.ofRow r).enact line b = .error (.unaddressed line (r.cell .nodeId)) b'

/-- A row names the node that its cell does, whether it is a choice or not. -/
theorem named?_eq_nodeId? (r : Row) : r.named? = Cell.nodeId? (r.cell .nodeId) := by
  rw [named?, Cell.parentId?_eq_nodeId?, ite_self]

/-- A row whose entry names a node is never refused: such an entry fails for want of room only. -/
theorem not_refused_of_named? (h : (Entry.ofRow r).named? = some id) : ¬ r.Refused line b := by
  rintro ⟨b', hfail⟩
  cases he : Entry.ofRow r with
  | node id' said =>
    rw [he] at hfail
    obtain ⟨o, hfull, -⟩ := Entry.enact_node_eq_error hfail
    cases hfull
  | choice parent label goal effects =>
    rw [he] at hfail
    obtain ⟨o, hfull, -⟩ := Entry.enact_choice_eq_error hfail
    cases hfull
  | unlabelled =>
    rw [he] at h
    cases h
  | unaddressed cell =>
    rw [he] at h
    cases h

/-- The entry of a row that takes effect names the node of its cell and is not refused, or it is
refused wherever it stands.

**Proof sketch.** By `entry_cases`. A declaration and a choice name the node of the row, and are not
refused, by `not_refused_of_named?`. A row that should name a node and names none is refused on
every line. A choice without a label takes no effect. -/
theorem named_or_refused (heffect : r.isEffective = true) :
    (∃ id, Cell.nodeId? (r.cell .nodeId) = some id ∧ (Entry.ofRow r).named? = some id ∧
      ∀ line b, ¬ r.Refused line b) ∨
    (Cell.nodeId? (r.cell .nodeId) = none ∧ ∀ line b, r.Refused line b) := by
  rw [← named?_eq_nodeId?]
  obtain ⟨id, -, hid, he⟩ | ⟨id, -, -, hid, he⟩ | ⟨hchoice, hlabel, -⟩ | ⟨-, hnone, he⟩ :=
    r.entry_cases
  · have hnamed : (Entry.ofRow r).named? = some id := by rw [he]; rfl
    exact .inl ⟨id, hid, hnamed, fun _ _ => not_refused_of_named? hnamed⟩
  · have hnamed : (Entry.ofRow r).named? = some id := by rw [he]; rfl
    exact .inl ⟨id, hid, hnamed, fun _ _ => not_refused_of_named? hnamed⟩
  · simp [isEffective, hchoice, hlabel] at heffect
  · exact .inr ⟨hnone, fun line b => ⟨b, by rw [he]; rfl⟩⟩

end Row

/-- **A choice and a declaration read the same cell the same way.** Cutting a text at its first dash
changes neither the node that it names nor whether it names one. So a choice with a label and a
declaration that have the same id cell name the same node and neither is refused, or both are
refused wherever they stand.

**Proof sketch.** Both rows take effect, so `Row.named_or_refused` settles each of them by the node
that its cell names. The two cells are equal, so that is the same node for both, or none for either.
-/
theorem Entry.named_or_refused_of_same_cell :
    (∀ text, Cell.parentId? text = Cell.nodeId? text) ∧
    ∀ choice declaration : Row, choice.isLabelled = true → declaration.isChoice = false →
      choice.cell .nodeId = declaration.cell .nodeId →
      (∃ id, (Entry.ofRow choice).named? = some id ∧ (Entry.ofRow declaration).named? = some id ∧
        ∀ line b, ¬ choice.Refused line b ∧ ¬ declaration.Refused line b) ∨
      ∀ line b, choice.Refused line b ∧ declaration.Refused line b := by
  refine ⟨Cell.parentId?_eq_nodeId?, fun choice declaration hlabel hdeclares hcell => ?_⟩
  have hchoice := Row.named_or_refused (r := choice) (by simp [Row.isEffective, hlabel])
  have hdeclaration :=
    Row.named_or_refused (r := declaration) (by simp [Row.isEffective, hdeclares])
  rw [← hcell] at hdeclaration
  obtain ⟨id, hid, hnamed, hkept⟩ | ⟨hnone, hrefused⟩ := hchoice
  · obtain ⟨other, hother, hnamed', hkept'⟩ | ⟨hnone, -⟩ := hdeclaration
    · obtain rfl : id = other := Option.some.inj (hid.symm.trans hother)
      exact .inl ⟨id, hnamed, hnamed', fun line b => ⟨hkept line b, hkept' line b⟩⟩
    · rw [hid] at hnone
      cases hnone
  · obtain ⟨other, hother, -, -⟩ | ⟨-, hrefused'⟩ := hdeclaration
    · rw [hnone] at hother
      cases hother
    · exact .inr fun line b => ⟨hrefused line b, hrefused' line b⟩

/-- A choice and a declaration with one cell, which names the node twelve before its first dash, both
name that node, and neither is refused.

**Proof sketch.** The entry of the choice is computed. It names the node twelve, so the theorem
leaves the first of its two cases; the second is excluded, as an entry that names a node is never
refused. -/
theorem Entry.same_node_of_dashed_cell :
    (Entry.ofRow (Row.ofLine ", 12 -2-b,choice,,,,,,,,,,Go".toList)).named? = some ⟨12⟩ ∧
    (Entry.ofRow (Row.ofLine ", 12 -2-b".toList)).named? = some ⟨12⟩ ∧
    ∀ line b, ¬ (Row.ofLine ", 12 -2-b,choice,,,,,,,,,,Go".toList).Refused line b ∧
      ¬ (Row.ofLine ", 12 -2-b".toList).Refused line b := by
  have htwelve : (Entry.ofRow (Row.ofLine ", 12 -2-b,choice,,,,,,,,,,Go".toList)).named? =
      some ⟨12⟩ := by
    decide +kernel
  obtain ⟨id, hchoice, hdeclaration, hkept⟩ | hrefused :=
    Entry.named_or_refused_of_same_cell.2 (Row.ofLine ", 12 -2-b,choice,,,,,,,,,,Go".toList)
      (Row.ofLine ", 12 -2-b".toList) (by decide +kernel) (by decide +kernel) (by decide +kernel)
  · obtain rfl : id = ⟨12⟩ := Option.some.inj (hchoice.symm.trans htwelve)
    exact ⟨hchoice, hdeclaration, hkept⟩
  · exact absurd (hrefused 2 { pool := .empty }).1 (Row.not_refused_of_named? htwelve)

end StoryGraph
