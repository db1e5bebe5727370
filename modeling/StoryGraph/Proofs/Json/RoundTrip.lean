import StoryGraph.Json.Reader
import StoryGraph.Json.Writer

set_option relaxedAutoImplicit false
set_option autoImplicit false

/-!
# Reading back what was written

Every JSON value is read back from its written form, and the reader stops exactly behind it.

## Main definitions

* `Json.Stops` — no number can go on into a text.
* `Json.Reads` — the reader gives back all written forms up to a length.

## Main results

* `Json.readCodes_writeStr`, `Json.readNumber_writeInt` — strings and numbers are read back.
* `Json.parse?_compress` — every value is read back from its written form.

## Implementation notes

The depth that the reader allows for goes down by one at every item and at every bracket, and the
written form of each is at least one character long. So the length of the written form is depth
enough, and the induction is on the depth.
-/

namespace StoryGraph.Json

/-! ## Digits -/

/-- The text `rest` does not go on with a digit. -/
def NoDigit (rest : List Char) : Prop := ∀ c later, rest = c :: later → c.isDigit = false

/-- Digits before a text without digits at its start are all that is taken. -/
theorem spanDigits_append {digits rest : List Char} (hdigits : ∀ c ∈ digits, c.isDigit = true)
    (hrest : NoDigit rest) : spanDigits (digits ++ rest) = (digits, rest) := by
  have htake : rest.takeWhile Char.isDigit = [] := by
    cases rest with
    | nil => rfl
    | cons c later => rw [List.takeWhile_cons, if_neg (by simp [hrest c later rfl])]
  have hdrop : rest.dropWhile Char.isDigit = rest := by
    cases rest with
    | nil => rfl
    | cons c later => rw [List.dropWhile_cons, if_neg (by simp [hrest c later rfl])]
  rw [spanDigits, List.takeWhile_append_of_pos hdigits, List.dropWhile_append_of_pos hdigits, htake,
    hdrop, List.append_nil]

/-- The digits of a number are digits. -/
theorem isDigit_of_mem_toDigits {n : Nat} : ∀ c ∈ Nat.toDigits 10 n, c.isDigit = true :=
  fun _ hc => Nat.isDigit_of_mem_toDigits (by decide) (by decide) hc

/-- The digits of a number other than zero start with another digit than zero.

**Proof sketch.** Strong induction on the number. Below ten it is its own digit; from ten on, its
first digit is that of a tenth of it. -/
theorem exists_toDigits_eq_cons {n : Nat} (hn : 0 < n) :
    ∃ c cs, Nat.toDigits 10 n = c :: cs ∧ c ≠ '0' := by
  induction n using Nat.strongRecOn with
  | ind n ih =>
    by_cases hlt : n < 10
    · refine ⟨n.digitChar, [], Nat.toDigits_of_lt_base hlt, ?_⟩
      have hall : ∀ m < 10, 0 < m → Nat.digitChar m ≠ '0' := by decide
      exact hall n hlt hn
    · obtain ⟨c, cs, heq, hc⟩ := ih (n / 10) (by omega) (by omega)
      refine ⟨c, cs ++ [(n % 10).digitChar], ?_, hc⟩
      rw [Nat.toDigits_of_base_le (by decide) (by omega), heq]
      rfl

/-- The digits of a number are the whole part of a number. -/
theorem isWhole_toDigits (n : Nat) : isWhole (Nat.toDigits 10 n) = true := by
  rcases Nat.eq_zero_or_pos n with rfl | hn
  · rfl
  · obtain ⟨c, cs, heq, hc⟩ := exists_toDigits_eq_cons hn
    rw [heq]
    unfold isWhole
    split
    · contradiction
    · rfl
    · simpa using fun h => hc (by simp_all)

/-- The digits of a number spell it. -/
theorem natOf_toDigits (n : Nat) : natOf (Nat.toDigits 10 n) = n :=
  Nat.ofDigitChars_ten_toDigits

/-! ## Numbers -/

/-- The text `rest` does not go on with anything that a number could go on with. -/
def Stops (rest : List Char) : Prop :=
  ∀ c later, rest = c :: later → c.isDigit = false ∧ c ≠ '.' ∧ c ≠ 'e' ∧ c ≠ 'E'

/-- What stops a number does not begin with a digit. -/
theorem Stops.noDigit {rest : List Char} (h : Stops rest) : NoDigit rest :=
  fun c later heq => (h c later heq).1

/-- The written form of an integer is its sign and the digits of its magnitude. -/
theorem writeInt_eq (n : Int) :
    writeInt n = (if n < 0 then ['-'] else []) ++ Nat.toDigits 10 n.natAbs := by
  cases n with
  | ofNat m =>
    have h : ¬ (Int.ofNat m < 0) := by simp
    rw [if_neg h]
    rfl
  | negSucc m =>
    rw [if_pos (Int.negSucc_lt_zero m)]
    rfl

/-- The sign and the magnitude of an integer make it up. -/
theorem signed_natAbs (n : Int) : Text.signed (decide (n < 0)) n.natAbs = n := by
  rw [Text.signed]
  by_cases hneg : n < 0
  · rw [if_pos (decide_eq_true hneg)]
    omega
  · rw [if_neg (by rw [decide_eq_false hneg]; exact Bool.false_ne_true)]
    omega

/-- The first character of an integer is a minus or a digit. -/
theorem exists_writeInt_eq_cons (n : Int) :
    ∃ c cs, writeInt n = c :: cs ∧ (c = '-' ∨ c.isDigit = true) := by
  rw [writeInt_eq]
  split
  · exact ⟨'-', _, rfl, .inl rfl⟩
  · cases hd : Nat.toDigits 10 n.natAbs with
    | nil => exact absurd hd Nat.toDigits_ne_nil
    | cons c cs => exact ⟨c, cs, rfl, .inr (isDigit_of_mem_toDigits c (by rw [hd]; simp))⟩

/-- No fraction is read where there is no point. -/
theorem readFraction_of_ne {rest : List Char} (h : ∀ later, rest ≠ '.' :: later) :
    readFraction rest = some (none, rest) := by
  unfold readFraction
  split
  · exact absurd rfl (h _)
  · rfl

/-- No exponent is read where a number stops. -/
theorem readExponent_of_stops {rest : List Char} (h : Stops rest) :
    readExponent rest = some (none, rest) := by
  cases rest with
  | nil => rfl
  | cons c later =>
    obtain ⟨-, -, he, hE⟩ := h c later rfl
    simp [readExponent, he, hE]

/-- The digits of a number are taken from the text that they start. -/
theorem spanDigits_toDigits (n : Nat) {rest : List Char} (hrest : NoDigit rest) :
    spanDigits (Nat.toDigits 10 n ++ rest) = (Nat.toDigits 10 n, rest) :=
  spanDigits_append isDigit_of_mem_toDigits hrest

/-- Digits do not start with a sign. -/
theorem exists_toDigits_append_eq_cons (n : Nat) (rest : List Char) :
    ∃ c cs, Nat.toDigits 10 n ++ rest = c :: cs ∧ c ≠ '-' ∧ c ≠ '+' := by
  cases hd : Nat.toDigits 10 n with
  | nil => exact absurd hd Nat.toDigits_ne_nil
  | cons c cs =>
    have hc : c.isDigit = true := isDigit_of_mem_toDigits c (by rw [hd]; simp)
    refine ⟨c, cs ++ rest, rfl, ?_, ?_⟩
    · rintro rfl
      contradiction
    · rintro rfl
      contradiction

/-- The sign of an integer is read back. -/
theorem readSign_writeInt (n : Int) (rest : List Char) :
    Text.readSign (writeInt n ++ rest) = (decide (n < 0), Nat.toDigits 10 n.natAbs ++ rest) := by
  rw [writeInt_eq]
  split
  case isTrue hneg => simp [Text.readSign, hneg]
  case isFalse hpos =>
    obtain ⟨c, cs, heq, hminus, hplus⟩ := exists_toDigits_append_eq_cons n.natAbs rest
    rw [List.nil_append, heq, decide_eq_false hpos]
    simp [Text.readSign, hminus, hplus]

/-- An exponent is read back.

**Proof sketch.** The sign is read back by `readSign_writeInt`. The digits that follow are at least
one, and are taken up to the text behind them. -/
theorem readExponent_writeInt (n : Int) {rest : List Char} (hrest : NoDigit rest) :
    readExponent ('e' :: (writeInt n ++ rest)) = some (some n, rest) := by
  have hspan := spanDigits_toDigits n.natAbs hrest
  cases hd : Nat.toDigits 10 n.natAbs with
  | nil => exact absurd hd Nat.toDigits_ne_nil
  | cons c cs =>
    have hnat : natOf (c :: cs) = n.natAbs := by rw [← hd, natOf_toDigits]
    rw [hd, List.cons_append] at hspan
    simp [readExponent, readSign_writeInt, hd, hspan, hnat, signed_natAbs]

/-- The sign of an integer is taken off first. -/
theorem readNumber_eq_readUnsigned (n : Int) (rest : List Char) :
    readNumber (writeInt n ++ rest) =
      readUnsigned (decide (n < 0)) (Nat.toDigits 10 n.natAbs ++ rest) := by
  rw [writeInt_eq]
  by_cases hneg : n < 0
  · rw [if_pos hneg, decide_eq_true hneg]
    rfl
  · obtain ⟨c, cs, heq, hminus, -⟩ := exists_toDigits_append_eq_cons n.natAbs rest
    rw [if_neg hneg, decide_eq_false hneg, List.nil_append, heq]
    simp [readNumber, hminus]

/-- An integer is read back where no fraction follows, and an exponent behind it makes a decimal of
it.

**Proof sketch.** The digits of the integer are read up to what follows them, they make a whole
number by `isWhole_toDigits`, and no fraction comes. What is left is whether an exponent follows:
then the integer is its mantissa. Minus zero is no written integer. -/
theorem readNumber_writeInt_append (n : Int) {rest : List Char} (hrest : NoDigit rest)
    (hpoint : ∀ later, rest ≠ '.' :: later) :
    readNumber (writeInt n ++ rest) = (readExponent rest).map fun found =>
      (found.1.elim (.int n) (.decimal n), found.2) := by
  have hwhole : (guard (isWhole (Nat.toDigits 10 n.natAbs) = true) : Option Unit) = some () := by
    rw [isWhole_toDigits]
    rfl
  have hnat := natOf_toDigits n.natAbs
  have hsigned := signed_natAbs n
  -- only a magnitude of zero is read as a decimal behind a minus
  have hzero : ¬ (n < 0 ∧ Nat.toDigits 10 n.natAbs = ['0']) := by
    rintro ⟨hneg, hdigits⟩
    obtain ⟨c, cs, heq, hc⟩ := exists_toDigits_eq_cons (n := n.natAbs) (by omega)
    rw [heq] at hdigits
    exact hc (List.cons.inj hdigits).1
  rw [readNumber_eq_readUnsigned, readUnsigned, spanDigits_toDigits n.natAbs hrest]
  dsimp only
  rw [hwhole, readFraction_of_ne hpoint]
  rcases hexp : readExponent rest with _ | ⟨_ | exponent, cs⟩
  · simp [hexp]
  · simp [hexp, hzero, hnat, hsigned]
  · simp [hexp, hnat, hsigned]

/-- An integer is read back. -/
theorem readNumber_writeInt (n : Int) {rest : List Char} (hrest : Stops rest) :
    readNumber (writeInt n ++ rest) = some (.int n, rest) := by
  have hpoint : ∀ later, rest ≠ '.' :: later := fun later heq => (hrest '.' later heq).2.1 rfl
  rw [readNumber_writeInt_append n hrest.noDigit hpoint, readExponent_of_stops hrest]
  rfl

/-- A decimal is read back.

**Proof sketch.** The mantissa is an integer with an exponent behind it, by
`readNumber_writeInt_append`, and the exponent is `readExponent_writeInt`. -/
theorem readNumber_writeDecimal (mantissa exponent : Int) {rest : List Char} (hrest : Stops rest) :
    readNumber (writeInt mantissa ++ 'e' :: (writeInt exponent ++ rest)) =
      some (.decimal mantissa exponent, rest) := by
  have hdigit : NoDigit ('e' :: (writeInt exponent ++ rest)) := by
    rintro c later ⟨⟩
    rfl
  rw [readNumber_writeInt_append mantissa hdigit (by simp),
    readExponent_writeInt exponent hrest.noDigit]
  rfl

/-! ## Strings -/

/-- The code point of a character is no half of a surrogate pair. -/
theorem not_half_toNat (c : Char) : isHighHalf c.toNat = false ∧ isLowHalf c.toNat = false := by
  have hvalid : c.toNat < 0xD800 ∨ 0xDFFF < c.toNat ∧ c.toNat < 0x110000 := c.valid
  constructor
  · simp only [isHighHalf, Bool.and_eq_false_iff, decide_eq_false_iff_not]
    omega
  · simp only [isLowHalf, Bool.and_eq_false_iff, decide_eq_false_iff_not]
    omega

/-- The code points of a text spell it. -/
theorem spell_map_toNat (cs : List Char) : spell (cs.map Char.toNat) = some cs := by
  induction cs with
  | nil => rfl
  | cons c cs ih =>
    obtain ⟨hhigh, hlow⟩ := not_half_toNat c
    rw [List.map_cons, spell.eq_def]
    simp [hhigh, hlow, ih]

/-- The hexadecimal digits of a control character spell its code point. -/
theorem hexNumber?_control : ∀ n < 0x20,
    Text.hexNumber? ['0', '0', Nat.digitChar (n / 16), Nat.digitChar (n % 16)] = some n := by
  decide

/-- An escape of one letter is read as the character that it stands for. -/
theorem readCodes_short {letter c : Char} (hletter : letter ≠ 'u')
    (hc : shortEscape? letter = some c) (rest : List Char) :
    readCodes ('\\' :: letter :: rest) =
      (readCodes rest).map fun found => (c.toNat :: found.1, found.2) := by
  have hstep : readCodes ('\\' :: letter :: rest) = (shortEscape? letter).bind fun c =>
      (readCodes rest).bind fun found => some (c.toNat :: found.1, found.2) := by
    rw [readCodes]
    · rfl
    · rintro a b c d later rfl
      exact absurd rfl hletter
  rw [hstep, hc]
  cases readCodes rest <;> rfl

/-- A character that is not escaped is read as itself.

**Proof sketch.** The character is no quote and no backslash, so none of the first equations of the
reader applies, and the last one takes the character as it is. -/
theorem readCodes_plain {c : Char} (hquote : c ≠ '"') (hslash : c ≠ '\\')
    (hplain : ¬ c.toNat < 0x20) (rest : List Char) :
    readCodes (c :: rest) =
      (readCodes rest).map fun found => (c.toNat :: found.1, found.2) := by
  have hstep : readCodes (c :: rest) =
      (readCodes rest).bind fun found => some (c.toNat :: found.1, found.2) := by
    rw [readCodes]
    · rw [if_neg (by simp [hplain, hslash])]
      rfl
    · exact hquote
    · rintro a b c d later rfl
      exact absurd rfl hslash
    · rintro letter later rfl
      exact absurd rfl hslash
  rw [hstep]
  cases readCodes rest <;> rfl

/-- A character is read back from how it is written inside a string.

**Proof sketch.** One case for each way in which a character is escaped: seven have a letter of
their own, controls are written by their number, and all others stand for themselves. -/
theorem readCodes_escape (c : Char) (rest : List Char) :
    readCodes (escape c ++ rest) =
      (readCodes rest).map fun found => (c.toNat :: found.1, found.2) := by
  unfold escape
  split
  case h_8 _ hquote hslash _ _ _ _ _ =>
    split
    case isTrue hlt =>
      simp only [List.cons_append, List.nil_append, readCodes, hexNumber?_control c.toNat hlt]
      cases readCodes rest <;> rfl
    case isFalse hge => exact readCodes_plain hquote hslash hge rest
  all_goals exact readCodes_short (by decide) rfl rest

/-- The characters of a text are read back up to its closing quote. -/
theorem readCodes_flatMap_escape (cs rest : List Char) :
    readCodes (cs.flatMap escape ++ '"' :: rest) = some (cs.map Char.toNat, rest) := by
  induction cs with
  | nil => rw [List.flatMap_nil, List.nil_append, readCodes, List.map_nil]
  | cons c cs ih =>
    rw [List.flatMap_cons, List.append_assoc, readCodes_escape, ih]
    rfl

/-- A string is read back behind its opening quote, also one without a text.

**Proof sketch.** A text is read character by character, by `readCodes_flatMap_escape`. The lone
half of a pair, which stands for no text, is read as a code that spells none. -/
theorem readString_writeStr (text : Option String) (rest : List Char) :
    ∃ body, writeStr text = '"' :: body ∧ readString (body ++ rest) = some (text, rest) := by
  cases text with
  | none =>
    refine ⟨_, rfl, ?_⟩
    have hhex : Text.hexNumber? ['d', '8', '0', '0'] = some 0xD800 := by decide
    simp only [List.cons_append, List.nil_append, readString, readCodes, hhex]
    rfl
  | some s =>
    refine ⟨s.toList.flatMap escape ++ ['"'], rfl, ?_⟩
    simp only [List.append_assoc, List.singleton_append, readString, readCodes_flatMap_escape,
      Option.map_some, spell_map_toNat, String.ofList_toList]

/-! ## Values -/

/-- The text `cs` starts as a value does: with neither a blank nor a closing bracket. -/
def Starts (cs : List Char) : Prop := ∃ c later, cs = c :: later ∧ isBlank c = false ∧ c ≠ ']'

/-- A text begins an item when its first character is neither blank nor the end of a list. -/
theorem starts_cons {c : Char} (later : List Char) (h : isBlank c = false ∧ c ≠ ']') :
    Starts (c :: later) :=
  ⟨c, later, rfl, h⟩

/-- A digit is no blank. -/
theorem isBlank_of_isDigit {c : Char} (h : c.isDigit = true) : isBlank c = false := by
  cases hblank : isBlank c with
  | false => rfl
  | true =>
    simp only [isBlank, Bool.or_eq_true, beq_iff_eq] at hblank
    rcases hblank with ((rfl | rfl) | rfl) | rfl <;> contradiction

/-- The written form of an integer starts as a value does. -/
theorem starts_writeInt (n : Int) (rest : List Char) : Starts (writeInt n ++ rest) := by
  obtain ⟨c, cs, heq, hc⟩ := exists_writeInt_eq_cons n
  rw [heq]
  rcases hc with rfl | hc
  · exact starts_cons _ (by decide)
  · refine starts_cons _ ⟨isBlank_of_isDigit hc, ?_⟩
    rintro rfl
    contradiction

/-- The written form of a value starts as a value does.

**Proof sketch.** One case for each kind of value, by its first character: a letter, a minus or a
digit, a quote or a bracket. -/
theorem starts_write (j : Json) (rest : List Char) : Starts (write j ++ rest) := by
  cases j with
  | null => exact starts_cons _ (by decide)
  | bool b => cases b <;> exact starts_cons _ (by decide)
  | int n => exact starts_writeInt n rest
  | decimal mantissa exponent =>
    rw [write, List.append_assoc]
    exact starts_writeInt mantissa _
  | str text =>
    obtain ⟨body, heq, -⟩ := readString_writeStr text []
    rw [write, heq]
    exact starts_cons _ (by decide)
  | arr items => exact starts_cons _ (by decide)
  | obj members => exact starts_cons _ (by decide)

/-- The written form of some items starts as a value does. -/
theorem starts_writeItems (item : Json) (items : List Json) (rest : List Char) :
    Starts (writeItems (item :: items) ++ rest) := by
  cases items with
  | nil =>
    rw [writeItems, List.append_assoc]
    exact starts_write item _
  | cons next later =>
    rw [writeItems, List.append_assoc]
    exact starts_write item _

/-- No blank stands before the start of a value. -/
theorem Starts.skip {cs : List Char} (h : Starts cs) : skip cs = cs := by
  obtain ⟨c, later, rfl, hblank, -⟩ := h
  rw [Json.skip, List.dropWhile_cons, if_neg (by simp [hblank])]

/-- A value that starts as a number does is read as a number.

**Proof sketch.** By the first character, a minus or a digit: all other kinds of values begin with
another one. -/
theorem readValue_writeInt (n : Int) (rest : List Char) (depth : Nat) :
    readValue (depth + 1) (writeInt n ++ rest) = readNumber (writeInt n ++ rest) := by
  obtain ⟨c, cs, heq, hc⟩ := exists_writeInt_eq_cons n
  rw [readValue, (starts_writeInt n rest).skip, heq, List.cons_append]
  split
  case h_7 => rfl
  all_goals
    obtain ⟨rfl, -⟩ := List.cons.inj ‹_›
    rcases hc with hc | hc <;> contradiction

/-- The written form of some members starts with the quote of a key. -/
theorem exists_writeMembers_eq_cons (member : Option String × Json)
    (members : List (Option String × Json)) :
    ∃ body, writeMembers (member :: members) = '"' :: body := by
  obtain ⟨key, value⟩ := member
  obtain ⟨body, heq, -⟩ := readString_writeStr key []
  cases members with
  | nil => exact ⟨_, by rw [writeMembers, writeMember, heq]; rfl⟩
  | cons next later => exact ⟨_, by rw [writeMembers, writeMember, heq]; rfl⟩

/-- An array with an item is read item by item. -/
theorem readValue_array {cs : List Char} (h : Starts cs) (depth : Nat) :
    readValue (depth + 1) ('[' :: cs) =
      (readItems depth cs).map fun found => (.arr found.1, found.2) := by
  have hbracket : skip ('[' :: cs) = '[' :: cs := rfl
  have hskip := h.skip
  obtain ⟨c, later, rfl, -, hc⟩ := h
  simp only [readValue, hbracket, hskip]
  split
  · simp_all
  · cases readItems depth (c :: later) <;> rfl

/-- An object with a member is read member by member. -/
theorem readValue_object (cs : List Char) (depth : Nat) :
    readValue (depth + 1) ('{' :: '"' :: cs) =
      (readMembers depth ('"' :: cs)).map fun found => (.obj found.1, found.2) := by
  have hbracket : skip ('{' :: '"' :: cs) = '{' :: '"' :: cs := rfl
  have hskip : skip ('"' :: cs) = '"' :: cs := rfl
  simp only [readValue, hbracket, hskip]
  split
  · simp_all
  · cases readMembers depth ('"' :: cs) <;> rfl

/-- The reader gives back the written forms up to the length `depth`, with what stands behind
them. -/
structure Reads (depth : Nat) : Prop where
  value : ∀ j rest, (write j).length ≤ depth → Stops rest →
    readValue depth (write j ++ rest) = some (j, rest)
  items : ∀ item items rest, (writeItems (item :: items)).length ≤ depth →
    readItems depth (writeItems (item :: items) ++ rest) = some (item :: items, rest)
  members : ∀ member members rest, (writeMembers (member :: members)).length ≤ depth →
    readMembers depth (writeMembers (member :: members) ++ rest) = some (member :: members, rest)

/-- No number goes on into a comma or a closing bracket. -/
theorem stops_cons {c : Char} (rest : List Char)
    (h : c.isDigit = false ∧ c ≠ '.' ∧ c ≠ 'e' ∧ c ≠ 'E') : Stops (c :: rest) := by
  rintro c' later ⟨⟩
  exact h

namespace Reads

variable {depth : Nat}

/-- A value is read back one level further down.

**Proof sketch.** One case for each kind of value. What has no parts is read by the lemma for its
kind. A list or a record opens with a bracket, which costs one character and one level; what stands
behind it is read by the hypothesis of the level below. -/
theorem value_succ (h : Reads depth) (j : Json) {rest : List Char}
    (hlength : (write j).length ≤ depth + 1) (hrest : Stops rest) :
    readValue (depth + 1) (write j ++ rest) = some (j, rest) := by
  cases j with
  | null => rfl
  | bool b => cases b <;> rfl
  | int n => rw [write, readValue_writeInt, readNumber_writeInt n hrest]
  | decimal mantissa exponent =>
    rw [write, List.append_assoc, List.cons_append, readValue_writeInt,
      readNumber_writeDecimal mantissa exponent hrest]
  | str text =>
    obtain ⟨body, heq, hread⟩ := readString_writeStr text rest
    have hvalue : readValue (depth + 1) ('"' :: (body ++ rest)) =
        (readString (body ++ rest)).bind fun found => some (.str found.1, found.2) := rfl
    rw [write, heq, List.cons_append, hvalue, hread]
    rfl
  | arr items =>
    cases items with
    | nil => rfl
    | cons item items =>
      rw [write, List.length_cons] at hlength
      rw [write, List.cons_append, readValue_array (starts_writeItems item items rest),
        h.items item items rest (by omega)]
      rfl
  | obj members =>
    cases members with
    | nil => rfl
    | cons member members =>
      rw [write, List.length_cons] at hlength
      obtain ⟨body, heq⟩ := exists_writeMembers_eq_cons member members
      have hmembers := h.members member members rest (by omega)
      rw [heq, List.cons_append] at hmembers
      rw [write, heq, List.cons_append, List.cons_append, readValue_object, hmembers]
      rfl

/-- Items are read back one level further down.

**Proof sketch.** An item is read one level further down, where it is written in fewer characters.
It ends at a bracket or at a comma, both of which stop a value. After a comma the other items are
read one level further down, too. -/
theorem items_succ (h : Reads depth) (item : Json) (items : List Json) (rest : List Char)
    (hlength : (writeItems (item :: items)).length ≤ depth + 1) :
    readItems (depth + 1) (writeItems (item :: items) ++ rest) = some (item :: items, rest) := by
  cases items with
  | nil =>
    simp only [writeItems, List.length_append, List.length_singleton] at hlength
    have hitem := h.value item (']' :: rest) (by omega) (stops_cons rest (by decide))
    simp only [writeItems, List.append_assoc, List.singleton_append, readItems, hitem]
    rfl
  | cons next later =>
    simp only [writeItems, List.length_append, List.length_cons] at hlength
    have hitem := h.value item (',' :: (writeItems (next :: later) ++ rest)) (by omega)
      (stops_cons _ (by decide))
    have hlater := h.items next later rest (by omega)
    simp only [writeItems, List.append_assoc, List.cons_append, readItems, hitem]
    change (readItems depth (writeItems (next :: later) ++ rest)).bind _ = _
    rw [hlater]
    rfl

/-- A member is read back one level further down, and then what follows it decides.

**Proof sketch.** A key is read back by `readString_writeStr`, a colon follows, and the value is
read by the hypothesis. The text behind stops the value, and the reader then looks at it. -/
theorem member_succ (h : Reads depth) (key : Option String) (value : Json) (tail : List Char)
    (hlength : (write value).length ≤ depth) (htail : Stops tail) :
    readMembers (depth + 1) (writeMember (key, value) ++ tail) =
      match skip tail with
      | '}' :: rest => some ([(key, value)], rest)
      | ',' :: rest =>
        (readMembers depth rest).bind fun later => some ((key, value) :: later.1, later.2)
      | _ => none := by
  obtain ⟨body, heq, hkey⟩ := readString_writeStr key (':' :: (write value ++ tail))
  have hquote : skip ('"' :: (body ++ ':' :: (write value ++ tail))) =
      '"' :: (body ++ ':' :: (write value ++ tail)) := rfl
  have hcolon : skip (':' :: (write value ++ tail)) = ':' :: (write value ++ tail) := rfl
  have hvalue := h.value value tail hlength htail
  simp only [writeMember, heq, List.append_assoc, List.cons_append, readMembers, hquote]
  rw [hkey]
  change (readValue depth (write value ++ tail)).bind _ = _
  rw [hvalue]
  rfl

/-- Members are read back one level further down.

**Proof sketch.** The first member is `member_succ`. Behind the last one a brace follows and ends
the record. Behind any other follows a comma, and the members after it are read one level further
down. -/
theorem members_succ (h : Reads depth) (member : Option String × Json)
    (members : List (Option String × Json)) (rest : List Char)
    (hlength : (writeMembers (member :: members)).length ≤ depth + 1) :
    readMembers (depth + 1) (writeMembers (member :: members) ++ rest) =
      some (member :: members, rest) := by
  obtain ⟨key, value⟩ := member
  cases members with
  | nil =>
    simp only [writeMembers, writeMember, List.length_append, List.length_cons] at hlength
    have hmember := h.member_succ key value ('}' :: rest) (by omega)
      (stops_cons rest (by decide))
    rw [writeMembers, List.append_assoc, List.singleton_append, hmember]
    rfl
  | cons next later =>
    simp only [writeMembers, writeMember, List.length_append, List.length_cons] at hlength
    have hmember := h.member_succ key value (',' :: (writeMembers (next :: later) ++ rest))
      (by omega) (stops_cons _ (by decide))
    have hlater := h.members next later rest (by omega)
    rw [writeMembers, List.append_assoc, List.cons_append, hmember]
    change (readMembers depth (writeMembers (next :: later) ++ rest)).bind _ = _
    rw [hlater]
    rfl

end Reads

/-- The reader gives back all written forms, at every depth.

**Proof sketch.** Induction on the depth. No written form is empty, so at depth zero there is
nothing to show; a bracket, an item or a member takes one level, and at least one character. -/
theorem reads (depth : Nat) : Reads depth := by
  induction depth with
  | zero =>
    refine ⟨fun j rest hlength _ => ?_, fun item items rest hlength => ?_,
      fun member members rest hlength => ?_⟩
    · obtain ⟨c, cs, heq, -⟩ := starts_write j []
      rw [List.append_nil] at heq
      simp [heq] at hlength
    · obtain ⟨c, cs, heq, -⟩ := starts_writeItems item items []
      rw [List.append_nil] at heq
      simp [heq] at hlength
    · obtain ⟨body, heq⟩ := exists_writeMembers_eq_cons member members
      simp [heq] at hlength
  | succ depth ih =>
    exact ⟨fun j _ hlength hrest => ih.value_succ j hlength hrest, ih.items_succ, ih.members_succ⟩

/-- **Every value is read back from its written form.**

**Proof sketch.** Reading takes no more levels than the text has characters, so the depth that
`parse?` allows is enough, and `reads` says the rest for a text with nothing behind the value. -/
theorem parse?_compress (j : Json) : parse? j.compress = some j := by
  have hdepth : (write j).length ≤ depthBound (write j).length := by
    simp only [depthBound]
    omega
  have hread := (reads _).value j [] hdepth (by rintro c later ⟨⟩)
  rw [List.append_nil] at hread
  rw [parse?, compress, String.toList_ofList, hread]
  rfl

end StoryGraph.Json
