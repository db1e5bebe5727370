import Mathlib.Data.List.Forall2
import StoryGraph.Script.Row

set_option relaxedAutoImplicit false
set_option autoImplicit false

/-!
# Rows as they are written

How a table is written line by line, and that every line is read as it was written: a cell stands
between quotes, where each quote of its own is written twice, or as it is when it has neither a
comma nor a quote.

## Main definitions

* `Row.double`, `Row.quote` — a text with its quotes written twice, and the same between quotes.
* `Row.Writes` — the two ways to write a cell.

## Main results

* `Row.Writes.readCell_append` — a written cell is read in full, and no character behind it.
* `Row.ofLine_written` — a written line is read as the texts of its cells.
-/

namespace StoryGraph.Row

/-- A text with each of its quotes written twice. -/
def double (text : List Char) : List Char :=
  text.flatMap fun c => if c = '"' then ['"', '"'] else [c]

/-- A text between quotes. -/
def quote (text : List Char) : List Char := '"' :: (double text ++ ['"'])

/-- The characters that may stand for the cell `text` in a line. -/
inductive Writes (text : List Char) : List Char → Prop
  | bare (hcomma : ',' ∉ text) (hquote : '"' ∉ text) : Writes text text
  | quoted : Writes text (quote text)

variable {text cell rest : List Char}

/-- A cell is written in one of the two ways. -/
theorem writes_iff :
    Writes text cell ↔ (cell = text ∧ ',' ∉ text ∧ '"' ∉ text) ∨ cell = quote text := by
  constructor
  · rintro (⟨hcomma, hquote⟩ | _)
    · exact .inl ⟨rfl, hcomma, hquote⟩
    · exact .inr rfl
  · rintro (⟨rfl, hcomma, hquote⟩ | rfl)
    · exact .bare hcomma hquote
    · exact .quoted

instance (text cell : List Char) : Decidable (Writes text cell) :=
  decidable_of_iff' _ writes_iff

/-! ## One cell -/

/-- Outside quotes, characters other than commas and quotes are read as they are.

**Proof sketch.** Induction on the text: its characters are neither commas nor quotes, so the last
equation of the reader applies to each. -/
theorem readCell_false_append (hcomma : ',' ∉ text) (hquote : '"' ∉ text) (rest : List Char) :
    readCell false (text ++ rest) = (readCell false rest).map (text ++ ·) id := by
  induction text with
  | nil => rfl
  | cons c text ih =>
    simp only [List.mem_cons, not_or] at hcomma hquote
    rw [List.cons_append, readCell, ih hcomma.2 hquote.2]
    · rfl
    · exact fun h => hcomma.1 h.symm
    · exact fun h => hquote.1 h.symm

/-- Between quotes, all characters are read as they are when quotes are written twice.

**Proof sketch.** Induction on the text. A quote is written twice and read as one; any other
character is read as it is. -/
theorem readCell_true_append (text rest : List Char) :
    readCell true (double text ++ rest) = (readCell true rest).map (text ++ ·) id := by
  induction text with
  | nil => rfl
  | cons c text ih =>
    by_cases hc : c = '"'
    · subst hc
      have hdouble : double ('"' :: text) = '"' :: '"' :: double text := rfl
      rw [hdouble, List.cons_append, List.cons_append, readCell, ih]
      rfl
    · have hdouble : double (c :: text) = c :: double text := by simp [double, hc]
      rw [hdouble, List.cons_append, readCell, ih]
      · rfl
      · exact fun _ h => absurd h hc
      · exact hc

/-- A quote that no other quote follows closes what is quoted. -/
theorem readCell_true_quote (hrest : ∀ more, rest ≠ '"' :: more) :
    readCell true ('"' :: rest) = readCell false rest := by
  rw [readCell]
  exact hrest

/-- A written cell is read in full, and what follows it as if it were not there. -/
theorem Writes.readCell_append (h : Writes text cell) (hrest : ∀ more, rest ≠ '"' :: more) :
    readCell false (cell ++ rest) = (readCell false rest).map (text ++ ·) id := by
  cases h with
  | bare hcomma hquote => exact readCell_false_append hcomma hquote rest
  | quoted =>
    rw [quote, List.cons_append, List.append_assoc, readCell, readCell_true_append,
      List.singleton_append, readCell_true_quote hrest]

/-- A written cell may end the line. -/
theorem Writes.readCell_end (h : Writes text cell) : readCell false cell = (text, none) := by
  have hnil : ∀ more, ([] : List Char) ≠ '"' :: more := by simp
  simpa [readCell] using h.readCell_append hnil

/-- A comma ends a written cell. -/
theorem Writes.readCell_comma (h : Writes text cell) (more : List Char) :
    readCell false (cell ++ ',' :: more) = (text, some more) := by
  have hcomma : ∀ later, ',' :: more ≠ '"' :: later := by simp
  simpa [readCell] using h.readCell_append hcomma

/-! ## A line -/

/-- Written cells with commas between them are read one by one. When there are as many of them as
are wanted, a comma and anything else may follow.

**Proof sketch.** Induction on the cells, for every limit. A cell with others behind it is read up
to its comma, and the others have the rest of the limit. The last one ends with the line, or with a
comma where the limit is used up. -/
theorem readCells_written {texts cells : List (List Char)} (h : List.Forall₂ Writes texts cells)
    (hsome : texts ≠ []) {limit : Nat} (hlimit : texts.length ≤ limit)
    (hrest : rest = [] ∨ texts.length = limit ∧ ∃ more, rest = ',' :: more) :
    readCells limit ([','].intercalate cells ++ rest) = texts := by
  induction h generalizing limit with
  | nil => exact absurd rfl hsome
  | cons hcell hcells ih =>
    cases limit with
    | zero => simp at hlimit
    | succ limit =>
      cases hcells with
      | nil =>
        rw [List.intercalate_singleton]
        obtain rfl | ⟨hlast, more, rfl⟩ := hrest
        · simp only [List.append_nil, readCells, hcell.readCell_end]
        · obtain rfl : limit = 0 := by simpa using hlast.symm
          simp only [readCells, hcell.readCell_comma]
      | cons hnext hcells =>
        rw [List.intercalate_cons_cons, List.append_assoc, List.append_assoc,
          List.singleton_append, readCells, hcell.readCell_comma]
        simp only [ih (by simp) (by simpa using hlimit) (by simpa using hrest)]

/-- **A written line is read as the texts of its cells.** Each cell may be written in either way;
the columns that are left over are empty, and what follows the last column does not count.

**Proof sketch.** A written cell is read in full whatever stands behind it, unless that is a quote;
but behind a written cell stands a comma or the end of the line. -/
theorem ofLine_written {texts : List String} {cells : List (List Char)}
    (h : List.Forall₂ (fun text cell => Writes text.toList cell) texts cells) (hsome : texts ≠ [])
    (hlimit : texts.length ≤ columnCount) {rest : List Char}
    (hrest : rest = [] ∨ texts.length = columnCount ∧ ∃ more, rest = ',' :: more) :
    ofLine ([','].intercalate cells ++ rest) =
      ⟨Vector.ofFn fun place => (texts[place.val]?).getD ""⟩ := by
  have hread :
      readCells columnCount ([','].intercalate cells ++ rest) = texts.map String.toList :=
    readCells_written (List.forall₂_map_left_iff.2 h) (by simpa using hsome)
      (by simpa using hlimit) (by simpa using hrest)
  simp only [ofLine, hread, List.getElem?_map, mk.injEq]
  congr 1
  funext place
  cases texts[place.val]? with
  | none => rfl
  | some text => exact String.ofList_toList

/-- The texts of a full row, some of them empty or made of quotes and commas. -/
def quotedTexts : List String :=
  ["key", "", "\"\"", "Ann, or \"Bo\"", ",", "", "", "", "", "", "", "", "", "", "", "", "\""]

/-- A way to write these texts, the later empty ones as they are. -/
def quotedCells : List (List Char) :=
  ["key".toList, quote [], quote "\"\"".toList, quote "Ann, or \"Bo\"".toList, quote [','],
    [], [], [], [], [], [], [], [], [], [], [], quote ['"']]

/-- The line of these cells is read as their texts, whatever follows the last column. -/
theorem ofLine_written_quotedCells :
    List.Forall₂ (fun text cell => Writes text.toList cell) quotedTexts quotedCells ∧
      quotedTexts.length = columnCount ∧
      [','].intercalate quotedCells =
        "key,\"\",\"\"\"\"\"\",\"Ann, or \"\"Bo\"\"\",\",\",,,,,,,,,,,,\"\"\"\"".toList ∧
      ofLine ([','].intercalate quotedCells ++ ",and \"more".toList) =
        ⟨Vector.ofFn fun place => (quotedTexts[place.val]?).getD ""⟩ := by
  have hwritten :
      List.Forall₂ (fun text cell => Writes text.toList cell) quotedTexts quotedCells := by
    decide +kernel
  refine ⟨hwritten, rfl, by decide +kernel, ?_⟩
  exact ofLine_written hwritten (by simp [quotedTexts]) (Nat.le_refl _)
    (.inr ⟨rfl, "and \"more".toList, rfl⟩)

end StoryGraph.Row
