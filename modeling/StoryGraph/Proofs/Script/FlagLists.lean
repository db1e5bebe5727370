import StoryGraph.Proofs.Script.CellNumbers

set_option relaxedAutoImplicit false
set_option autoImplicit false

/-!
# Flag lists as they are written

A flag list is written as the numbers of its flags with ampersands between them. Authors are not
held to more: ampersands may stand without a number beside them, and blanks anywhere, even inside a
number. Reading such a text gives the list back, flag by flag.

## Main definitions

* `Cell.decimal` — the number of a flag as it is written.
* `Cell.Lists` — a text without blanks is a written flag list.
* `Cell.Spread` — a text is another one with blanks put into it.
* `Cell.WritesFlags` — a cell is a written flag list.

## Main results

* `Cell.flagOf_decimal` — the number of every flag is read back.
* `Cell.writesFlags_iff` — a cell is a written flag list when its items are the numbers of the
  flags.
* `Cell.writesFlags_intercalate` — every flag list can be written.
* `Cell.flagList_reads_back` — every written flag list is read back.
-/

namespace StoryGraph.Cell

/-! ## How flags are written -/

/-- The number of a flag as it is written: in decimal, behind a minus if it is negative. -/
def decimal (id : FlagId) : List Char := (toString id.toInt).toList

/-- The text, which has no blanks, is made of the numbers of the flags and of ampersands: at least
one between two numbers, and any others anywhere but inside a number. -/
inductive Lists : List FlagId → List Char → Prop
  | nil : Lists [] []
  | ampersand {ids : List FlagId} {cs : List Char} (later : Lists ids cs) : Lists ids ('&' :: cs)
  /-- The last number may end the text. -/
  | last (id : FlagId) : Lists [id] (decimal id)
  | cons {ids : List FlagId} {cs : List Char} (id : FlagId) (later : Lists ids cs) :
      Lists (id :: ids) (decimal id ++ '&' :: cs)

/-- The second text is the first one with blanks put into it, anywhere and any number of them. -/
inductive Spread : List Char → List Char → Prop
  | nil : Spread [] []
  | keep {cs text : List Char} (c : Char) (later : Spread cs text) : Spread (c :: cs) (c :: text)
  | blank {cs text : List Char} {c : Char} (hc : Text.isBlank c = true) (later : Spread cs text) :
      Spread cs (c :: text)

/-- The cell `text` is the flag list `ids` as it is written. -/
def WritesFlags (ids : List FlagId) (text : String) : Prop :=
  ∃ plain, Lists ids plain ∧ Spread plain text.toList

variable {ids : List FlagId} {id : FlagId} {cs text : List Char} {c : Char}

/-! ## One number -/

/-- The number of a flag is its sign and the digits of its magnitude. -/
theorem decimal_eq (id : FlagId) :
    decimal id = (if id.toInt < 0 then ['-'] else []) ++ Nat.toDigits 10 id.toInt.natAbs := by
  rw [decimal]
  cases id.toInt with
  | ofNat n => simp [toString, Int.repr, Nat.repr]
  | negSucc n => simp [toString, Int.repr, Nat.repr, Int.negSucc_lt_zero]

/-- A number is made of digits and of a minus. -/
theorem minus_or_isDigit_of_mem_decimal (hc : c ∈ decimal id) : c = '-' ∨ c.isDigit = true := by
  rw [decimal_eq, List.mem_append] at hc
  rcases hc with hsign | hdigit
  · split at hsign
    · exact .inl (List.mem_singleton.1 hsign)
    · cases hsign
  · exact .inr (Nat.isDigit_of_mem_toDigits (by decide) (by decide) hdigit)

/-- There is no number without characters. -/
theorem decimal_ne_nil (id : FlagId) : decimal id ≠ [] := by
  rw [decimal_eq]
  exact List.append_ne_nil_of_right_ne_nil _ Nat.toDigits_ne_nil

/-- No ampersand stands in a number. -/
theorem ne_ampersand_of_mem_decimal (hc : c ∈ decimal id) : c ≠ '&' := by
  rintro rfl
  rcases minus_or_isDigit_of_mem_decimal hc with h | h <;> cases h

/-- No blank stands in a number. -/
theorem not_isBlank_of_mem_decimal (hc : c ∈ decimal id) : Text.isBlank c = false := by
  rcases minus_or_isDigit_of_mem_decimal hc with rfl | h
  · decide
  · exact Text.not_isBlank_of_isDigit h

/-- The digits of a number write it. -/
theorem exactMagnitude_toDigits (n : Nat) : exactMagnitude (Nat.toDigits 10 n) = n := by
  have hdigits : (Nat.toDigits 10 n).takeWhile Char.isDigit = Nat.toDigits 10 n :=
    List.takeWhile_eq_self_iff.2 fun _ => Nat.isDigit_of_mem_toDigits (by decide) (by decide)
  rw [exactMagnitude, hdigits, Nat.ofDigitChars_ten_toDigits]

/-- The number of a flag writes the integer that the flag has.

**Proof sketch.** The decimal of a flag has no blanks. With a minus the digits behind it are read,
and without one the digits themselves, the first of which is no minus; either way they are those of
the absolute value. -/
theorem exactInt_decimal (id : FlagId) : exactInt (decimal id) = id.toInt := by
  have htrim : Text.trim (decimal id) = decimal id :=
    Text.trim_eq_self fun _ => not_isBlank_of_mem_decimal
  by_cases hneg : id.toInt < 0
  · rw [decimal_eq, if_pos hneg, List.singleton_append] at htrim
    rw [decimal_eq, if_pos hneg, List.singleton_append, exactInt_of_minus htrim,
      exactMagnitude_toDigits]
    omega
  · rw [decimal_eq, if_neg hneg, List.nil_append] at htrim ⊢
    cases hdigits : Nat.toDigits 10 id.toInt.natAbs with
    | nil => exact absurd hdigits Nat.toDigits_ne_nil
    | cons c cs =>
      have hc : c.isDigit = true :=
        Nat.isDigit_of_mem_toDigits (by decide) (by decide) (hdigits ▸ List.mem_cons_self)
      have hne : c ≠ '-' := by
        rintro rfl
        cases hc
      rw [hdigits] at htrim
      rw [exactInt_of_ne htrim hne, ← hdigits, exactMagnitude_toDigits]
      omega

/-- **The number of every flag is read back**, that of the least one as well. -/
theorem flagOf_decimal (id : FlagId) : flagOf (decimal id) = id := by
  have hlow := id.le_toInt
  have hhigh := id.toInt_lt
  rw [← Int32.toInt_inj, toInt_flagOf, exactInt_decimal]
  omega

/-! ## Numbers between ampersands -/

/-- An ampersand at the start of a text has nothing before it. -/
theorem splitOn_ampersand (cs : List Char) : ('&' :: cs).splitOn '&' = [] :: cs.splitOn '&' := by
  rw [List.splitOn_eq_splitOnP, List.splitOn_eq_splitOnP, List.splitOnP_cons_eq_if_modifyHead,
    beq_self_eq_true, if_pos rfl]

/-- An ampersand ends a number. -/
theorem splitOn_decimal_append (id : FlagId) (cs : List Char) :
    (decimal id ++ '&' :: cs).splitOn '&' = decimal id :: cs.splitOn '&' := by
  rw [List.splitOn_eq_splitOnP, List.splitOn_eq_splitOnP]
  exact List.splitOnP_append_cons_of_forall_mem
    (fun c hc => beq_eq_false_iff_ne.2 (ne_ampersand_of_mem_decimal hc)) '&' rfl cs

/-- So does the end of the text. -/
theorem splitOn_decimal (id : FlagId) : (decimal id).splitOn '&' = [decimal id] := by
  rw [List.splitOn_eq_splitOnP]
  exact List.splitOnP_eq_singleton
    fun c hc => beq_eq_false_iff_ne.2 (ne_ampersand_of_mem_decimal hc)

/-- The pieces of a written flag list that are not empty are the numbers of the flags.

**Proof sketch.** Induction on how the list is written. An ampersand alone begins an empty piece,
which is dropped; a flag is a piece of its own. -/
theorem Lists.filter_splitOn (h : Lists ids cs) :
    (cs.splitOn '&').filter (!·.isEmpty) = ids.map decimal := by
  induction h with
  | nil => rfl
  | ampersand later ih => rw [splitOn_ampersand, List.filter_cons_of_neg (by simp), ih]
  | last id =>
    rw [splitOn_decimal, List.filter_cons_of_pos (by simp [decimal_ne_nil id])]
    rfl
  | cons id later ih =>
    rw [splitOn_decimal_append, List.filter_cons_of_pos (by simp [decimal_ne_nil id]), ih]
    rfl

/-- Pieces with ampersands between them are a written flag list, when those that are not empty are
the numbers of the flags.

**Proof sketch.** Induction on the pieces, with the last one apart, behind which no ampersand
stands. -/
theorem lists_intercalate {pieces : List (List Char)}
    (h : pieces.filter (!·.isEmpty) = ids.map decimal) : Lists ids (['&'].intercalate pieces) := by
  induction pieces generalizing ids with
  | nil =>
    obtain rfl : ids = [] := List.map_eq_nil_iff.1 h.symm
    exact .nil
  | cons piece pieces ih =>
    -- an empty piece adds nothing, and any other is the number of the first flag
    cases piece with
    | nil =>
      rw [List.filter_cons_of_neg (by simp)] at h
      cases pieces with
      | nil => simpa using ih h
      | cons next pieces =>
        rw [List.intercalate_cons_cons]
        exact .ampersand (ih h)
    | cons c piece =>
      rw [List.filter_cons_of_pos (by simp)] at h
      obtain ⟨id, ids, rfl, hid, hids⟩ := List.map_eq_cons_iff.1 h.symm
      rw [← hid]
      cases pieces with
      | nil =>
        obtain rfl : ids = [] := List.map_eq_nil_iff.1 hids
        rw [List.intercalate_singleton]
        exact .last id
      | cons next pieces =>
        rw [List.intercalate_cons_cons, List.append_assoc, List.singleton_append]
        exact .cons id (ih hids.symm)

/-- A text without blanks is a written flag list when its pieces that are not empty are the numbers
of the flags. -/
theorem lists_iff : Lists ids cs ↔ (cs.splitOn '&').filter (!·.isEmpty) = ids.map decimal := by
  constructor
  · exact Lists.filter_splitOn
  · intro h
    have hwhole : ['&'].intercalate (cs.splitOn '&') = cs := List.intercalate_splitOn '&'
    rw [← hwhole]
    exact lists_intercalate h

/-- Without flags there are ampersands only.

**Proof sketch.** Forward by induction on how the list is written: without flags only an ampersand
can come next. Backward by induction on the text. -/
theorem lists_nil_iff : Lists [] cs ↔ ∀ c ∈ cs, c = '&' := by
  constructor
  · intro h
    generalize hids : ([] : List FlagId) = ids at h
    induction h with
    | nil => simp
    | ampersand later ih => simpa using ih hids
    | last id => cases hids
    | cons id later => cases hids
  · intro h
    induction cs with
    | nil => exact .nil
    | cons c cs ih =>
      obtain ⟨rfl, hcs⟩ := List.forall_mem_cons.1 h
      exact .ampersand (ih hcs)

/-- No blank stands in a written flag list before blanks are put into it. -/
theorem Lists.not_isBlank (h : Lists ids cs) : ∀ c ∈ cs, Text.isBlank c = false := by
  have hampersand : Text.isBlank '&' = false := by decide
  induction h with
  | nil => simp
  | ampersand later ih => exact List.forall_mem_cons.2 ⟨hampersand, ih⟩
  | last id => exact fun _ => not_isBlank_of_mem_decimal
  | cons id later ih =>
    exact List.forall_mem_append.2
      ⟨fun _ => not_isBlank_of_mem_decimal, List.forall_mem_cons.2 ⟨hampersand, ih⟩⟩

/-! ## Blanks -/

/-- Blanks put into a text are all that is taken out of it again, if it had none.

**Proof sketch.** Induction on how the blanks were put in: what is kept is no blank, and what was
put in is one. -/
theorem Spread.filter_eq (h : Spread cs text) (hcs : ∀ c ∈ cs, Text.isBlank c = false) :
    text.filter (!Text.isBlank ·) = cs := by
  induction h with
  | nil => rfl
  | keep c later ih =>
    obtain ⟨hc, hcs⟩ := List.forall_mem_cons.1 hcs
    rw [List.filter_cons_of_pos (by simp [hc]), ih hcs]
  | blank hc later ih => rw [List.filter_cons_of_neg (by simp [hc]), ih hcs]

/-- A text has blanks put into what is left of it without them. -/
theorem spread_filter (text : List Char) : Spread (text.filter (!Text.isBlank ·)) text := by
  induction text with
  | nil => exact .nil
  | cons c text ih =>
    cases hc : Text.isBlank c with
    | true =>
      rw [List.filter_cons_of_neg (by simp [hc])]
      exact .blank hc ih
    | false =>
      rw [List.filter_cons_of_pos (by simp [hc])]
      exact .keep c ih

/-- A text is itself with no blanks put into it. -/
theorem spread_self (cs : List Char) : Spread cs cs := by
  induction cs with
  | nil => exact .nil
  | cons c cs ih => exact .keep c ih

/-! ## Flag lists -/

/-- **A cell is a written flag list when its items are the numbers of the flags.** -/
theorem writesFlags_iff {text : String} :
    WritesFlags ids text ↔ flagItems text = ids.map decimal := by
  rw [flagItems, ← lists_iff]
  constructor
  · rintro ⟨plain, hlists, hspread⟩
    rwa [hspread.filter_eq hlists.not_isBlank]
  · exact fun h => ⟨_, h, spread_filter _⟩

instance (ids : List FlagId) (text : String) : Decidable (WritesFlags ids text) :=
  decidable_of_iff' _ writesFlags_iff

/-- Every flag list can be written: its numbers with one ampersand between any two.

**Proof sketch.** The numbers of the flags are not empty, so they are the pieces that
`lists_intercalate` asks for, and the text has no blanks put in. -/
theorem writesFlags_intercalate (ids : List FlagId) :
    WritesFlags ids ("&".intercalate (ids.map fun id => toString id.toInt)) := by
  refine ⟨['&'].intercalate (ids.map decimal), lists_intercalate ?_, ?_⟩
  · rw [List.filter_eq_self]
    rintro _ hmem
    obtain ⟨id, -, rfl⟩ := List.mem_map.1 hmem
    simp [decimal_ne_nil id]
  · rw [String.toList_intercalate, List.map_map]
    exact spread_self _

/-- No flags are written as ampersands and blanks, and nothing else is.

**Proof sketch.** The text without its blanks is the plain list, which consists of ampersands by
`lists_nil_iff`. Conversely, if there are only ampersands and blanks, the text without its blanks is
such a list, and the text is that list spread out. -/
theorem writesFlags_nil_iff {text : String} :
    WritesFlags [] text ↔ ∀ c ∈ text.toList, c = '&' ∨ Text.isBlank c = true := by
  constructor
  · rintro ⟨plain, hlists, hspread⟩
    have hplain := hspread.filter_eq hlists.not_isBlank
    intro c hc
    rw [lists_nil_iff, ← hplain] at hlists
    cases hblank : Text.isBlank c with
    | true => exact .inr rfl
    | false => exact .inl (hlists c (List.mem_filter.2 ⟨hc, by simp [hblank]⟩))
  · intro h
    refine ⟨_, lists_nil_iff.2 fun c hc => ?_, spread_filter _⟩
    obtain ⟨hmem, hblank⟩ := List.mem_filter.1 hc
    exact (h c hmem).resolve_right (by simpa using hblank)

/-- **Every written flag list is read back**, in order and with its repetitions, wherever there are
more ampersands in the text than it needs and wherever there are blanks. Every list can be written,
and the texts in which there is no flag are those made of ampersands and blanks.

**Proof sketch.** Without its blanks a text is cut at its ampersands. The pieces that are not empty
are the numbers of the flags, and the number of a flag is read as that flag. -/
theorem flagList_reads_back :
    (∀ ids text, WritesFlags ids text → flagList text = ids) ∧
    (∀ ids, WritesFlags ids ("&".intercalate (ids.map fun id => toString id.toInt))) ∧
    ∀ text,
      (WritesFlags [] text ↔ ∀ c ∈ text.toList, c = '&' ∨ Text.isBlank c = true) ∧
      (flagList text = [] ↔ ∀ c ∈ text.toList, c = '&' ∨ Text.isBlank c = true) := by
  refine ⟨fun ids text h => ?_, writesFlags_intercalate, fun text => ⟨writesFlags_nil_iff, ?_⟩⟩
  · have hread : flagOf ∘ decimal = id := funext flagOf_decimal
    rw [flagList_eq_map, writesFlags_iff.1 h, List.map_map, hread, List.map_id]
  · rw [← writesFlags_nil_iff, writesFlags_iff, flagList_eq_map, List.map_eq_nil_iff]
    rfl

/-- The least flag with a blank behind its minus, a flag that is cut in two by a line break, one
that is listed twice, and ampersands that no flag needs. -/
theorem flagList_reads_back_scattered :
    WritesFlags [12, -2147483648, 0, 12] "&1\n2& -\u3000214748 3648 &&0& 12 & " ∧
      flagList "&1\n2& -\u3000214748 3648 &&0& 12 & " = [12, -2147483648, 0, 12] := by
  have hwritten :
      WritesFlags [12, -2147483648, 0, 12] "&1\n2& -\u3000214748 3648 &&0& 12 & " := by
    decide +kernel
  exact ⟨hwritten, flagList_reads_back.1 _ _ hwritten⟩

end StoryGraph.Cell
