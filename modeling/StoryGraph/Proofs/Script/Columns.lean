import Mathlib.Data.List.Basic
import StoryGraph.Script.Row

set_option relaxedAutoImplicit false
set_option autoImplicit false

/-!
# Rows filled column by column

A row can be read in one pass over the characters of its line: what has been read of a cell is kept
until a comma or the end of the line, and is then written into the place of its column. No such
write misses the row, however many commas the line has.

## Main definitions

* `Row.put?` — a row after a write into one place, which must be a place of the row.
* `Row.fill?` — the pass over the characters of a line.

## Main results

* `Row.fill?_eq` — the pass comes to the end of a cell where `Row.readCell` does.
* `Row.fill?_blank` — the pass fills in the row that the line holds, and never misses it.
-/

namespace StoryGraph.Row

/-- The row without a text in any cell. -/
def blank : Row := ⟨Vector.replicate 17 ""⟩

/-- The row after a text was written into the cell at a place, if the row has such a place. -/
def put? (r : Row) (place : Nat) (text : List Char) : Option Row :=
  if h : place < columnCount then some ⟨r.cells.set place (String.ofList text) h⟩ else none

/-- The row after texts were written into the cells from a place on. -/
def putAll? (r : Row) (place : Nat) : List (List Char) → Option Row
  | [] => some r
  | text :: texts => (r.put? place text).bind fun r => r.putAll? (place + 1) texts

/-- The row after the characters of a line were read from some cell on. `place` is the column of
this cell and `text` what has been read of it. At a comma the cell is written without a look at the
number of columns; only afterwards the pass stops if this was the last one. -/
def fill? : (quoted : Bool) → (place : Nat) → (text : List Char) → Row → List Char → Option Row
  | _, place, text, r, [] => if place < columnCount then r.put? place text else some r
  | true, place, text, r, '"' :: '"' :: rest => fill? true place (text ++ ['"']) r rest
  | true, place, text, r, '"' :: rest => fill? false place text r rest
  | true, place, text, r, c :: rest => fill? true place (text ++ [c]) r rest
  | false, place, text, r, ',' :: rest =>
    (r.put? place text).bind fun r =>
      if columnCount ≤ place + 1 then some r else fill? false (place + 1) [] r rest
  | false, place, text, r, '"' :: rest => fill? true place text r rest
  | false, place, text, r, c :: rest => fill? false place (text ++ [c]) r rest

/-- What the pass does at the end of a cell whose text is `text`, with what follows the comma that
ends it, if one does. -/
def close? (place : Nat) (text : List Char) (r : Row) : Option (List Char) → Option Row
  | none => if place < columnCount then r.put? place text else some r
  | some rest =>
    (r.put? place text).bind fun r =>
      if columnCount ≤ place + 1 then some r else fill? false (place + 1) [] r rest

/-! ## The end of a cell -/

/-- The pass comes to the end of a cell where `readCell` does, with the text that `readCell`
reads.

**Proof sketch.** By the recursion of `readCell`, with the text that the pass has read so far
generalized: a character that goes to the cell stands behind that text. -/
theorem fill?_eq (quoted : Bool) (place : Nat) (text : List Char) (r : Row) (cs : List Char) :
    fill? quoted place text r cs =
      close? place (text ++ (readCell quoted cs).1) r (readCell quoted cs).2 := by
  fun_induction readCell quoted cs generalizing text with
  | case1 quoted => simp [fill?, close?]
  | case2 rest ih =>
    rw [fill?, ih, List.append_assoc]
    rfl
  | case3 rest hrest ih =>
    rw [fill?, ih]
    exact hrest
  | case4 c rest hquote hc ih =>
    rw [fill?, ih, List.append_assoc]
    · rfl
    · exact hquote
    · exact hc
  | case5 rest => simp [fill?, close?]
  | case6 rest ih => rw [fill?, ih]
  | case7 c rest hcomma hquote ih =>
    rw [fill?, ih, List.append_assoc]
    · rfl
    · exact hcomma
    · exact hquote

/-- The pass writes the texts of the cells that are left, one after the other.

**Proof sketch.** Induction on the number of cells that may still be read. The pass reads one cell
as `readCell` does, by `fill?_eq`, and closes it. At the end of the line or of the columns it stops
there; else it goes on in the next place. -/
theorem fill?_eq_putAll? {place limit : Nat} (hlimit : place + limit = columnCount)
    (hsome : 0 < limit) (r : Row) (cs : List Char) :
    fill? false place [] r cs = r.putAll? place (readCells limit cs) := by
  induction limit generalizing place r cs with
  | zero => contradiction
  | succ limit ih =>
    rw [fill?_eq, List.nil_append]
    rcases hcell : readCell false cs with ⟨text, _ | rest⟩
    · have hplace : place < columnCount := by omega
      simp only [close?, if_pos hplace, readCells, hcell, putAll?]
      exact (Option.bind_fun_some _).symm
    · simp only [close?, readCells, hcell, putAll?]
      congr 1
      funext r
      split
      case isTrue hlast =>
        obtain rfl : limit = 0 := by omega
        rfl
      case isFalse hmore => exact ih (by omega) (by omega) r rest

/-! ## The cells of the row -/

/-- A write into a place of the row changes the cell there, and no other. -/
theorem put?_eq {place : Nat} (hplace : place < columnCount) (r : Row) (text : List Char) :
    ∃ written, r.put? place text = some written ∧ ∀ (i : Nat) (hi : i < 17),
      written.cells[i] = if place = i then String.ofList text else r.cells[i] :=
  ⟨_, dif_pos hplace, fun _ hi => Vector.getElem_set hplace hi⟩

/-- The texts that are written from a place on fill the cells there, if there are enough of them.

**Proof sketch.** Induction on the texts. The first one is written in its place, by `put?_eq`; the
others are written behind it, and there the text for place `i` has a number smaller by one. -/
theorem putAll?_eq {place : Nat} {texts : List (List Char)}
    (hroom : place + texts.length ≤ columnCount) (r : Row) :
    ∃ filled, r.putAll? place texts = some filled ∧ ∀ (i : Nat) (hi : i < 17),
      filled.cells[i] =
        if i < place then r.cells[i] else ((texts[i - place]?).map String.ofList).getD r.cells[i] := by
  induction texts generalizing place r with
  | nil => exact ⟨r, rfl, fun i hi => by simp⟩
  | cons text texts ih =>
    rw [List.length_cons] at hroom
    have hplace : place < columnCount := by omega
    have hmore : place + 1 + texts.length ≤ columnCount := by omega
    obtain ⟨written, hput, hwritten⟩ := put?_eq hplace r text
    obtain ⟨filled, hfilled, hcells⟩ := ih hmore written
    refine ⟨filled, by rw [putAll?, hput, Option.bind_some, hfilled], fun i hi => ?_⟩
    rw [hcells i hi, hwritten i hi]
    -- the cells before the place stay, the one there has been written, and the others are to come
    rcases Nat.lt_trichotomy i place with hlt | rfl | hgt
    · rw [if_pos (by omega), if_neg (by omega), if_pos hlt]
    · simp
    · obtain ⟨k, hk⟩ : ∃ k, i - place = k + 1 := ⟨i - place - 1, by omega⟩
      have hk' : i - (place + 1) = k := by omega
      rw [if_neg (by omega), if_neg (by omega), if_neg (by omega), hk, hk',
        List.getElem?_cons_succ]

/-- **Reading a line never writes beside the row.** The pass over its characters writes the cells of
the row that the line holds, each in the place of its column.

**Proof sketch.** The pass writes the cells of the line from the first place on, by
`fill?_eq_putAll?`, and they are no more than the columns, so `putAll?_eq` says what each place
holds: the text of its cell, or the blank that it had. -/
theorem fill?_blank (line : List Char) : fill? false 0 [] blank line = some (ofLine line) := by
  have hlimit : 0 + columnCount = columnCount := Nat.zero_add _
  have hroom : 0 + (readCells columnCount line).length ≤ columnCount := by
    rw [Nat.zero_add]
    exact length_readCells_le columnCount line
  obtain ⟨filled, hfilled, hcells⟩ := putAll?_eq hroom blank
  rw [fill?_eq_putAll? hlimit (by decide), hfilled]
  have hfull : filled.cells = (ofLine line).cells := Vector.ext fun i hi => by
    rw [hcells i hi]
    cases hcell : (readCells columnCount line)[i]? <;> simp [ofLine, blank, hcell]
  cases filled
  exact congrArg (fun cells => some (mk cells)) hfull

end StoryGraph.Row
