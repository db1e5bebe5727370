import Mathlib.Algebra.Ring.Parity
import StoryGraph.Proofs.Script.Written

set_option relaxedAutoImplicit false
set_option autoImplicit false

/-!
# The pieces of a line

A line is cut at each comma with an even number of quotes before it, and every column is read from
its own piece. So a faulty line does not spoil more than it has to: quotes in the wrong places count
for the column in which they stand, and one that is never closed takes in the rest of the line.

## Main definitions

* `Row.CutAt`, `Row.pieces` — the places where a line is cut, and what stands between them.
* `Row.opens` — a text has an odd number of quotes.
* `Row.piecesFrom` — the pieces of the rest of a line, by a flag for the quotes before it.
* `Row.ReadByPieces` — the row of a line is read from its pieces.

## Main results

* `Row.pieces_eq_piecesFrom` — the pieces are found by walking along the line.
* `Row.readCells_eq_map` — the cells of a line are those of its pieces.
* `Row.piecesFrom_append_comma`, `Row.exists_last_piece` — the pieces of a line that goes on.
* `Row.readByPieces_ofLine` — every line is read from its pieces.
-/

namespace StoryGraph.Row

/-- The text of a line is cut at a comma with an even number of quotes before it. -/
def CutAt (text : List Char) (place : Nat) : Prop :=
  text[place]? = some ',' ∧ Even ((text.take place).count '"')

instance (text : List Char) (place : Nat) : Decidable (CutAt text place) :=
  inferInstanceAs (Decidable (_ ∧ _))

/-- What stands in a line between the places where it is cut. -/
def pieces (line : List Char) : List (List Char) :=
  (line.zipIdx.splitOnP fun (_, place) => CutAt line place).map (·.map Prod.fst)

/-! ## Walking along a line -/

/-- An odd number of quotes: outside quotes before the text means inside behind it. -/
def opens (text : List Char) : Bool := decide (Odd (text.count '"'))

/-- The empty text leaves no quotation open. -/
@[simp] theorem opens_nil : opens [] = false := rfl

/-- A quote in front of a text turns round whether it leaves a quotation open; any other character
does not matter. -/
@[simp] theorem opens_cons (c : Char) (text : List Char) :
    opens (c :: text) = (opens text ^^ c == '"') := by
  by_cases hc : c = '"'
  · subst hc
    rw [opens, opens, List.count_cons_self, beq_self_eq_true, Bool.xor_true, ← decide_not,
      decide_eq_decide, Nat.odd_add_one]
  · rw [opens, opens, List.count_cons_of_ne hc, beq_eq_false_iff_ne.2 hc, Bool.xor_false]

/-- What a text opens hangs on its first character and on the rest. -/
theorem opens_cons_eq_iff {inside : Bool} {c : Char} {text : List Char} :
    opens (c :: text) = inside ↔ opens text = (inside ^^ c == '"') := by
  rw [opens_cons]
  constructor
  · rintro rfl
    rw [Bool.xor_assoc, Bool.xor_self, Bool.xor_false]
  · intro h
    rw [h, Bool.xor_assoc, Bool.xor_self, Bool.xor_false]

/-- A character other than a quote opens nothing. -/
theorem opens_cons_of_ne {c : Char} (hc : c ≠ '"') (text : List Char) :
    opens (c :: text) = opens text := by
  rw [opens_cons, beq_eq_false_iff_ne.2 hc, Bool.xor_false]

/-- Two texts in a row leave a quotation open when exactly one of them does by itself. -/
@[simp] theorem opens_append (text more : List Char) :
    opens (text ++ more) = (opens text ^^ opens more) := by
  induction text with
  | nil => simp
  | cons c text ih =>
    rw [List.cons_append, opens_cons, opens_cons, ih, Bool.xor_assoc, Bool.xor_assoc,
      Bool.xor_comm (opens more)]

/-- An even number of quotes leaves none open. -/
theorem opens_eq_false_iff {text : List Char} : opens text = false ↔ Even (text.count '"') := by
  rw [opens, decide_eq_false_iff_not, Nat.not_odd_iff_even]

/-- The pieces of the rest of a line: `inside` says whether the number of quotes before it is
odd. -/
def piecesFrom (inside : Bool) : List Char → List (List Char)
  | [] => [[]]
  | c :: rest =>
    if c = ',' ∧ inside = false then [] :: piecesFrom false rest
    else (piecesFrom (inside ^^ c == '"') rest).modifyHead (c :: ·)

/-- There is at least one piece. -/
theorem exists_piecesFrom_eq_cons (inside : Bool) (cs : List Char) :
    ∃ piece later, piecesFrom inside cs = piece :: later := by
  induction cs generalizing inside with
  | nil => exact ⟨[], [], rfl⟩
  | cons c cs ih =>
    rw [piecesFrom]
    split
    · exact ⟨[], _, rfl⟩
    · obtain ⟨piece, later, h⟩ := ih (inside ^^ c == '"')
      exact ⟨c :: piece, later, by rw [h, List.modifyHead_cons]⟩

/-- A character that does not cut the line belongs to the first piece.

**Proof sketch.** There is a first piece of the rest of the line, by `exists_piecesFrom_eq_cons`,
and the character is put in front of it. -/
theorem piecesFrom_cons_eq_cons {inside : Bool} {c : Char} {rest piece : List Char}
    {later : List (List Char)} (hcut : ¬ (c = ',' ∧ inside = false))
    (h : piecesFrom inside (c :: rest) = piece :: later) :
    ∃ first, piece = c :: first ∧ piecesFrom (inside ^^ c == '"') rest = first :: later := by
  obtain ⟨first, more, hfirst⟩ := exists_piecesFrom_eq_cons (inside ^^ c == '"') rest
  rw [piecesFrom, if_neg hcut, hfirst, List.modifyHead_cons] at h
  obtain ⟨rfl, rfl⟩ := List.cons.inj h
  exact ⟨first, rfl, hfirst⟩

/-- The pieces of the rest of a line hang on the line before it by the number of its quotes
alone.

**Proof sketch.** Induction on the rest of the line, with what stands before it generalized. A place
is a cut when its character is a comma and the text before it leaves no quotation open, which is
what the flag of `piecesFrom` says. One more character goes to the text before, and turns the flag
when it is a quote. -/
theorem map_splitOnP_eq_piecesFrom (before rest : List Char) :
    ((rest.zipIdx before.length).splitOnP fun (_, place) => CutAt (before ++ rest) place).map
      (·.map Prod.fst) = piecesFrom (opens before) rest := by
  induction rest generalizing before with
  | nil => rfl
  | cons c rest ih =>
    have hcut : CutAt (before ++ c :: rest) before.length ↔ c = ',' ∧ opens before = false := by
      rw [CutAt, List.take_left, opens_eq_false_iff]
      simp
    have hrest := ih (before ++ [c])
    rw [List.length_append, List.length_singleton, List.append_assoc, List.singleton_append,
      opens_append, opens_cons, opens_nil, Bool.false_xor] at hrest
    rw [List.zipIdx_cons, List.splitOnP_cons_eq_if_modifyHead, piecesFrom]
    by_cases h : c = ',' ∧ opens before = false
    · rw [if_pos (decide_eq_true (hcut.2 h)), if_pos h, List.map_cons, hrest]
      simp [h]
    · rw [if_neg (by rwa [decide_eq_true_iff, hcut]), if_neg h, ← hrest]
      cases (rest.zipIdx (before.length + 1)).splitOnP _ with
      | nil => rfl
      | cons piece later => rfl

/-- The pieces are found by walking along the line. -/
theorem pieces_eq_piecesFrom (line : List Char) : pieces line = piecesFrom false line :=
  map_splitOnP_eq_piecesFrom [] line

/-! ## Reading piece by piece -/

/-- The first piece stands at the beginning of the line.

**Proof sketch.** Induction on the line. At a cut the first piece is empty; any other character is
the first one of the piece and of the line. -/
theorem isPrefix_of_piecesFrom {inside : Bool} {cs piece : List Char} {later : List (List Char)}
    (h : piecesFrom inside cs = piece :: later) : piece <+: cs := by
  induction cs generalizing inside piece with
  | nil =>
    obtain ⟨rfl, -⟩ := List.cons.inj h
    exact List.prefix_rfl
  | cons c cs ih =>
    by_cases hcut : c = ',' ∧ inside = false
    · rw [piecesFrom, if_pos hcut] at h
      obtain ⟨rfl, -⟩ := List.cons.inj h
      exact List.nil_prefix
    · obtain ⟨first, rfl, hfirst⟩ := piecesFrom_cons_eq_cons hcut h
      exact List.cons_prefix_cons.2 ⟨rfl, ih hfirst⟩

/-- Between quotes, a character other than a quote is read as it is. -/
theorem readCell_true_cons {c : Char} (hquote : c ≠ '"') (rest : List Char) :
    readCell true (c :: rest) = (readCell true rest).map (c :: ·) id := by
  rw [readCell]
  · exact fun _ h => absurd h hquote
  · exact hquote

/-- Outside quotes, a character other than a comma or a quote is read as it is. -/
theorem readCell_false_cons {c : Char} (hcomma : c ≠ ',') (hquote : c ≠ '"') (rest : List Char) :
    readCell false (c :: rest) = (readCell false rest).map (c :: ·) id := by
  rw [readCell]
  · exact hcomma
  · exact hquote

/-- The first cell of a line is that of its first piece, and the other pieces are those of what
follows its comma.

**Proof sketch.** By the recursion of `readCell`, for every first piece. Whether `readCell` is
inside quotes is the flag with which `piecesFrom` goes on, so the line is cut at the same comma by
both. Two quotes in a row are two characters of the piece, and turn its flag twice. A quote that
closes needs what follows it: the piece goes on as the line does, by `isPrefix_of_piecesFrom`, so a
quote does not follow in the piece where none follows in the line. -/
theorem readCell_of_piecesFrom {quoted : Bool} {cs piece : List Char} {later : List (List Char)}
    (h : piecesFrom quoted cs = piece :: later) :
    (readCell quoted cs).1 = (readCell quoted piece).1 ∧
      later = (readCell quoted cs).2.elim [] (piecesFrom false) := by
  fun_induction readCell quoted cs generalizing piece with
  | case1 quoted =>
    obtain ⟨rfl, rfl⟩ := List.cons.inj h
    exact ⟨by rw [readCell], rfl⟩
  | case2 rest ih =>
    obtain ⟨_, rfl, hsecond⟩ := piecesFrom_cons_eq_cons (by simp) h
    obtain ⟨first, rfl, hfirst⟩ := piecesFrom_cons_eq_cons (by simp) hsecond
    obtain ⟨htext, hlater⟩ := ih hfirst
    refine ⟨?_, hlater⟩
    rw [readCell, Prod.map_fst, Prod.map_fst, htext]
  | case3 rest hnot ih =>
    obtain ⟨first, rfl, hfirst⟩ := piecesFrom_cons_eq_cons (by simp) h
    obtain ⟨htext, hlater⟩ := ih hfirst
    -- the piece goes on as the line does, so its quote closes what is quoted, too
    have hclosed : ∀ tail, first ≠ '"' :: tail := by
      rintro tail rfl
      obtain ⟨behind, hbehind⟩ := isPrefix_of_piecesFrom hfirst
      exact hnot _ hbehind.symm
    exact ⟨by rw [readCell_true_quote hclosed, htext], hlater⟩
  | case4 c rest _ hquote ih =>
    obtain ⟨first, rfl, hfirst⟩ := piecesFrom_cons_eq_cons (by simp) h
    rw [beq_eq_false_iff_ne.2 hquote] at hfirst
    obtain ⟨htext, hlater⟩ := ih hfirst
    exact ⟨by rw [readCell_true_cons hquote, Prod.map_fst, Prod.map_fst, htext], hlater⟩
  | case5 rest =>
    rw [piecesFrom, if_pos ⟨rfl, rfl⟩] at h
    obtain ⟨rfl, rfl⟩ := List.cons.inj h
    exact ⟨by rw [readCell], rfl⟩
  | case6 rest ih =>
    obtain ⟨first, rfl, hfirst⟩ := piecesFrom_cons_eq_cons (by simp) h
    obtain ⟨htext, hlater⟩ := ih hfirst
    exact ⟨by rw [readCell, htext], hlater⟩
  | case7 c rest hcomma hquote ih =>
    obtain ⟨first, rfl, hfirst⟩ := piecesFrom_cons_eq_cons (fun hcut => hcomma hcut.1) h
    rw [beq_eq_false_iff_ne.2 hquote] at hfirst
    obtain ⟨htext, hlater⟩ := ih hfirst
    exact ⟨by rw [readCell_false_cons hcomma hquote, Prod.map_fst, Prod.map_fst, htext], hlater⟩

/-- The cells of a line are those of its pieces.

**Proof sketch.** Induction on the limit. The first cell is that of the first piece, and the other
pieces are those of what follows its comma, by `readCell_of_piecesFrom`. -/
theorem readCells_eq_map (limit : Nat) (cs : List Char) :
    readCells limit cs = ((piecesFrom false cs).take limit).map fun piece =>
      (readCell false piece).1 := by
  induction limit generalizing cs with
  | zero => rfl
  | succ limit ih =>
    obtain ⟨piece, later, hpieces⟩ := exists_piecesFrom_eq_cons false cs
    obtain ⟨htext, hlater⟩ := readCell_of_piecesFrom hpieces
    rw [hpieces, List.take_succ_cons, List.map_cons, ← htext, hlater]
    rcases hcell : readCell false cs with ⟨text, _ | rest⟩
    · simp [readCells, hcell]
    · simp [readCells, hcell, ih]

/-- The first column of a line is its first cell. -/
theorem ofLine_cells_zero (line : List Char) :
    (ofLine line).cells[0] = String.ofList (readCell false line).1 := by
  rcases hcell : readCell false line with ⟨text, _ | rest⟩ <;>
    simp [ofLine, columnCount, readCells, hcell]

/-- A column is the first column of its piece.

**Proof sketch.** The cells are read piece by piece, by `readCells_eq_map`, and the first seventeen
pieces are the columns. A column without a piece is empty. -/
theorem ofLine_cells (line : List Char) (k : Fin 17) :
    (ofLine line).cells[k] =
      ((pieces line)[k.val]?).elim "" fun piece => (ofLine piece).cells[0] := by
  have hcell : (ofLine line).cells[k] =
      String.ofList (((readCells columnCount line)[k.val]?).getD []) := by
    simp [ofLine]
  have hk : k.val < columnCount := k.isLt
  rw [hcell, readCells_eq_map, List.getElem?_map, List.getElem?_take_of_lt hk,
    ← pieces_eq_piecesFrom]
  cases (pieces line)[k.val]? with
  | none => rfl
  | some piece => exact (ofLine_cells_zero piece).symm

/-! ## Lines that go on -/

/-- A comma behind an even number of quotes ends a piece.

**Proof sketch.** Induction on the text before the comma, with the flag generalized. A cut in that
text leaves the flag down; any other character joins the first piece, on both sides of the equation.
-/
theorem piecesFrom_append_comma {inside : Bool} {before : List Char} (h : opens before = inside)
    (rest : List Char) :
    piecesFrom inside (before ++ ',' :: rest) =
      piecesFrom inside before ++ piecesFrom false rest := by
  induction before generalizing inside with
  | nil =>
    obtain rfl : false = inside := h
    rfl
  | cons c before ih =>
    have hbefore : opens before = (inside ^^ c == '"') := opens_cons_eq_iff.1 h
    by_cases hcut : c = ',' ∧ inside = false
    · obtain ⟨rfl, rfl⟩ := hcut
      rw [List.cons_append, piecesFrom, piecesFrom, if_pos ⟨rfl, rfl⟩, if_pos ⟨rfl, rfl⟩,
        ih (show opens before = false from hbefore), List.cons_append]
    · obtain ⟨first, later, hfirst⟩ := exists_piecesFrom_eq_cons (inside ^^ c == '"') before
      rw [List.cons_append, piecesFrom, piecesFrom, if_neg hcut, if_neg hcut, ih hbefore, hfirst,
        List.cons_append, List.modifyHead_cons, List.modifyHead_cons, List.cons_append]

/-- What stands behind an open quote, its own quotes written twice, is never cut.

**Proof sketch.** Induction on the text. A quote is written twice and turns the flag twice, so the
flag is up again behind it; no other character turns it, and behind a flag that is up no comma cuts.
-/
theorem piecesFrom_true_double (text : List Char) :
    piecesFrom true (double text) = [double text] := by
  induction text with
  | nil => rfl
  | cons c text ih =>
    by_cases hc : c = '"'
    · subst hc
      have hdouble : double ('"' :: text) = '"' :: '"' :: double text := rfl
      simp [hdouble, piecesFrom, ih]
    · have hdouble : double (c :: text) = c :: double text := by simp [double, hc]
      rw [hdouble, piecesFrom, if_neg (by simp), beq_eq_false_iff_ne.2 hc, Bool.xor_false, ih,
        List.modifyHead_cons]

/-- A piece that goes on behind a quote that is never closed is still one piece.

**Proof sketch.** Induction on the piece. It has no cut, so each character joins the one piece. At
its end the flag is down, and the quote puts it up: of the text behind, with its quotes doubled,
nothing is cut off, by `piecesFrom_true_double`. -/
theorem piecesFrom_append_quote {inside : Bool} {piece : List Char} (h : opens piece = inside)
    (hpiece : piecesFrom inside piece = [piece]) (text : List Char) :
    piecesFrom inside (piece ++ '"' :: double text) = [piece ++ '"' :: double text] := by
  induction piece generalizing inside with
  | nil =>
    obtain rfl : false = inside := h
    simp [piecesFrom, piecesFrom_true_double]
  | cons c piece ih =>
    have hcut : ¬ (c = ',' ∧ inside = false) := by
      intro hcut
      rw [piecesFrom, if_pos hcut] at hpiece
      cases hpiece
    have hbefore : opens piece = (inside ^^ c == '"') := opens_cons_eq_iff.1 h
    obtain ⟨first, hfirst, hrest⟩ := piecesFrom_cons_eq_cons hcut hpiece
    obtain ⟨-, rfl⟩ := List.cons.inj hfirst
    rw [List.cons_append, piecesFrom, if_neg hcut, ih hbefore hrest, List.modifyHead_cons]

/-- A line is one piece, or there is a place where it is cut for the last time.

**Proof sketch.** Induction on the line. If what follows a character has a last cut, so has the
line; if it is one piece, then the line is cut at that character or nowhere. -/
theorem exists_last_cut (inside : Bool) (line : List Char) :
    piecesFrom inside line = [line] ∨
      ∃ front last, line = front ++ ',' :: last ∧ opens front = inside ∧
        piecesFrom false last = [last] := by
  induction line generalizing inside with
  | nil => exact .inl rfl
  | cons c line ih =>
    by_cases hcut : c = ',' ∧ inside = false
    · obtain ⟨rfl, rfl⟩ := hcut
      rcases ih false with hone | ⟨front, last, rfl, hfront, hlast⟩
      · exact .inr ⟨[], line, rfl, rfl, hone⟩
      · exact .inr ⟨',' :: front, last, rfl, by simpa using hfront, hlast⟩
    · rcases ih (inside ^^ c == '"') with hone | ⟨front, last, rfl, hfront, hlast⟩
      · left
        rw [piecesFrom, if_neg hcut, hone, List.modifyHead_cons]
      · exact .inr ⟨c :: front, last, rfl, opens_cons_eq_iff.2 hfront, hlast⟩

/-- The last piece of a line without an open quote is the one that goes on when a quote is opened
and never closed.

**Proof sketch.** Take the last cut of the line, by `exists_last_cut`. What stands before it is cut
as it was, by `piecesFrom_append_comma`, and what stands behind it stays in one piece, by
`piecesFrom_append_quote`. -/
theorem exists_last_piece {line : List Char} (h : opens line = false) :
    ∃ first last, pieces line = first ++ [last] ∧ opens last = false ∧
      piecesFrom false last = [last] ∧
      ∀ text, pieces (line ++ '"' :: double text) = first ++ [last ++ '"' :: double text] := by
  simp only [pieces_eq_piecesFrom]
  rcases exists_last_cut false line with hone | ⟨front, last, rfl, hfront, hlast⟩
  · exact ⟨[], line, hone, h, hone, piecesFrom_append_quote h hone⟩
  · have hopens : opens last = false := by simpa [hfront] using h
    refine ⟨piecesFrom false front, last, ?_, hopens, hlast, fun text => ?_⟩
    · rw [piecesFrom_append_comma hfront, hlast]
    · rw [List.append_assoc, List.cons_append, piecesFrom_append_comma hfront,
        piecesFrom_append_quote hopens hlast]

/-- A cell behind which a quote is opened and never closed takes in all that follows.

**Proof sketch.** By the recursion of `readCell` on the cell, which has no comma outside quotes and
leaves no quotation open. At its end the new quote begins a quotation, and in it the doubled text is
read as it is. The one subtle case is a quote that closes at the very end: it makes a pair with the
new one, and the quotation goes on. -/
theorem readCell_append_quote {quoted : Bool} {cell : List Char} (h : opens cell = quoted)
    (hnone : (readCell quoted cell).2 = none) (text : List Char) :
    (readCell quoted (cell ++ '"' :: double text)).1 =
      (readCell quoted (cell ++ ['"'])).1 ++ text := by
  have hdouble : readCell true (double text) = (text, none) := by
    simpa [readCell] using readCell_true_append text []
  fun_induction readCell quoted cell with
  | case1 quoted =>
    obtain rfl : false = quoted := h
    simp [readCell, hdouble]
  | case2 rest ih =>
    have hopens : opens rest = true := by simpa using h
    simp only [List.cons_append, readCell, Prod.map_fst]
    rw [ih hopens hnone]
  | case3 rest hnot ih =>
    cases rest with
    | nil =>
      -- the quote that is opened makes a pair with the one that would have closed the cell
      simp [readCell, hdouble]
    | cons c rest =>
      have hclosed : ∀ more tail, c :: (rest ++ more) ≠ '"' :: tail := by
        intro more tail heq
        obtain ⟨rfl, -⟩ := List.cons.inj heq
        exact hnot rest rfl
      have hopens : opens (c :: rest) = false := by simpa using h
      have hread := ih hopens hnone
      rw [List.cons_append, List.cons_append] at hread ⊢
      rw [List.cons_append, List.cons_append, readCell_true_quote (hclosed _),
        readCell_true_quote (hclosed _), hread]
  | case4 c rest _ hquote ih =>
    rw [List.cons_append, List.cons_append, readCell_true_cons hquote, readCell_true_cons hquote,
      Prod.map_fst, Prod.map_fst, ih (by rwa [opens_cons_of_ne hquote] at h) hnone,
      List.cons_append]
  | case5 rest => cases hnone
  | case6 rest ih =>
    rw [List.cons_append, List.cons_append, readCell, readCell, ih (by simpa using h) hnone]
  | case7 c rest hcomma hquote ih =>
    rw [List.cons_append, List.cons_append, readCell_false_cons hcomma hquote,
      readCell_false_cons hcomma hquote, Prod.map_fst, Prod.map_fst,
      ih (by rwa [opens_cons_of_ne hquote] at h) hnone, List.cons_append]

/-- No comma ends a cell that is a piece by itself.

**Proof sketch.** If a comma ended the cell, there would be a piece behind it, by
`readCell_of_piecesFrom`. -/
theorem readCell_snd_of_piece {quoted : Bool} {piece : List Char}
    (h : piecesFrom quoted piece = [piece]) : (readCell quoted piece).2 = none := by
  obtain ⟨-, hlater⟩ := readCell_of_piecesFrom h
  cases hcell : (readCell quoted piece).2 with
  | none => rfl
  | some rest =>
    obtain ⟨first, later, hrest⟩ := exists_piecesFrom_eq_cons false rest
    rw [hcell, Option.elim_some, hrest] at hlater
    cases hlater

/-! ## The columns of a line -/

/-- A column is the same in two lines when its piece is. -/
theorem ofLine_cells_congr {line other : List Char} {k : Fin 17}
    (h : (pieces line)[k.val]? = (pieces other)[k.val]?) :
    (ofLine line).cells[k] = (ofLine other).cells[k] := by
  rw [ofLine_cells, ofLine_cells, h]

/-- Rows are equal when their columns are. -/
theorem eq_of_cells {r q : Row} (h : ∀ k : Fin 17, r.cells[k] = q.cells[k]) : r = q := by
  have hcells : r.cells = q.cells := Vector.ext fun k hk => h ⟨k, hk⟩
  cases r
  cases q
  exact congrArg Row.mk hcells

/-- A quote that is opened behind a line and never closed changes the column of the last piece
alone.

**Proof sketch.** The line is its first pieces and a last one, and by `exists_last_piece` the new
quote with all that follows it joins the last. So the column of the last piece reads that piece with
the quote behind it, which is `readCell_append_quote`, and each other column reads the piece that it
read before, or none. -/
theorem ofLine_cells_append_quote {line : List Char} (h : Even (line.count '"')) (text : List Char)
    (k : Fin 17) :
    (ofLine (line ++ '"' :: double text)).cells[k] =
      if k.val + 1 = (pieces line).length then
        (ofLine (line ++ ['"'])).cells[k] ++ String.ofList text
      else (ofLine line).cells[k] := by
  obtain ⟨first, last, hpieces, hopens, hone, hmore⟩ :=
    exists_last_piece (opens_eq_false_iff.2 h)
  have hlength : (pieces line).length = first.length + 1 := by
    rw [hpieces, List.length_append, List.length_singleton]
  split
  case isTrue hk =>
    have hplace : k.val = first.length := by omega
    -- For every text, because the empty one says what the column is with the quote alone.
    have hread : ∀ text, (ofLine (line ++ '"' :: double text)).cells[k] =
        String.ofList (readCell false (last ++ '"' :: double text)).1 := by
      intro text
      rw [ofLine_cells, hmore, hplace, List.getElem?_concat_length]
      exact ofLine_cells_zero _
    have hopen := hread []
    rw [double, List.flatMap_nil] at hopen
    rw [hread, hopen, readCell_append_quote hopens (readCell_snd_of_piece hone),
      String.ofList_append]
  case isFalse hk =>
    have hplace : k.val ≠ first.length := by omega
    apply ofLine_cells_congr
    rw [hmore, hpieces]
    rcases Nat.lt_or_gt_of_ne hplace with hlt | hgt
    · rw [List.getElem?_append_left hlt, List.getElem?_append_left hlt]
    · have hbehind : ∀ piece, (first ++ [piece])[k.val]? = none := by
        intro piece
        apply List.getElem?_eq_none
        rw [List.length_append, List.length_singleton]
        omega
      rw [hbehind, hbehind]

/-- The row of the line `line` is read from the pieces of the line. -/
structure ReadByPieces (line : List Char) : Prop where
  /-- A column is the first column of its piece, and empty when there is none. -/
  cell_eq : ∀ k : Fin 17, (ofLine line).cells[k] =
    ((pieces line)[k.val]?).elim "" fun piece => (ofLine piece).cells[0]
  /-- A column does not hang on the pieces of the other columns. -/
  cell_congr : ∀ (other : List Char) (k : Fin 17), (pieces line)[k.val]? = (pieces other)[k.val]? →
    (ofLine line).cells[k] = (ofLine other).cells[k]
  /-- A quote that is opened behind the line and never closed takes in all that follows. -/
  swallows : Even (line.count '"') → ∀ (text : List Char) (k : Fin 17),
    k.val + 1 = (pieces line).length →
      (ofLine (line ++ '"' :: double text)).cells[k] =
        (ofLine (line ++ ['"'])).cells[k] ++ String.ofList text
  /-- It takes in nothing else. -/
  spares : Even (line.count '"') → ∀ (text : List Char) (k : Fin 17),
    k.val + 1 ≠ (pieces line).length →
      (ofLine (line ++ '"' :: double text)).cells[k] = (ofLine line).cells[k]
  /-- What follows the comma behind the last column does not count. -/
  ignores : Even (line.count '"') → columnCount ≤ (pieces line).length →
    ∀ rest, ofLine (line ++ ',' :: rest) = ofLine line

/-- **Every line is read from its pieces.** The parity of the quotes before a comma alone decides
whether a line is cut there. So a column is read as if its piece were all of the line; a quote that
is never closed takes in what follows it and spares what stands before it; and what stands behind
the last column is ignored.

**Proof sketch.** Between quotes the number of quotes before a character is odd, outside it is even,
and a pair of quotes changes neither. So a cell ends where the line is cut, and its piece is read in
the same way when it stands alone. -/
theorem readByPieces_ofLine (line : List Char) : ReadByPieces line := by
  constructor
  case cell_eq => exact ofLine_cells line
  case cell_congr => exact fun _ _ => ofLine_cells_congr
  case swallows =>
    intro heven text k hk
    rw [ofLine_cells_append_quote heven, if_pos hk]
  case spares =>
    intro heven text k hk
    rw [ofLine_cells_append_quote heven, if_neg hk]
  case ignores =>
    intro heven hfull rest
    apply eq_of_cells
    intro k
    apply ofLine_cells_congr
    have hk : k.val < (pieces line).length := Nat.lt_of_lt_of_le k.isLt hfull
    rw [pieces_eq_piecesFrom] at hk
    rw [pieces_eq_piecesFrom, pieces_eq_piecesFrom,
      piecesFrom_append_comma (opens_eq_false_iff.2 heven), List.getElem?_append_left hk]

/-- Quotes in the middle of a column keep its comma, and the last one is never closed. -/
example : pieces "a\"b,c\"d,\"e,f".toList = ["a\"b,c\"d".toList, "\"e,f".toList] := by
  decide +kernel

end StoryGraph.Row
