import StoryGraph.Text.Blank

set_option relaxedAutoImplicit false
set_option autoImplicit false

/-!
# Rows of a script

A script is a table with seventeen columns, one row to a line. Commas separate the cells; between
double quotes a comma is text, and a double quote is written twice.

## Main definitions

* `Column` — the columns of the table, with `Column.title` and `Column.place`.
* `Row` — the cells of one row, and `Row.cell`, the cell of a column.
* `Row.readCell` — the text of the first cell of a line, and what follows its comma.
* `Row.ofLine` — the row that a line holds.
* `Row.isChoice` — whether a row declares a choice rather than a node.

## Implementation notes

Every line is a row. Quotes may open and close anywhere in a cell; an open quote runs to the end of
the line. A short row is filled up with empty cells, and what follows the last column is dropped.
-/

namespace StoryGraph

/-- The columns of a script. -/
inductive Column where
  | indexKey
  | nodeId
  | rowType
  | speaker
  | text
  | actors
  | bgm
  | sfx
  | cg
  | transition
  | advancePolicy
  | nextNodeId
  | choiceLabel
  | choiceGoto
  | choiceSet
  | flagsSet
  | flagsReq
deriving DecidableEq, Repr

namespace Column

/-- The columns in the order in which they stand. -/
def all : List Column :=
  [indexKey, nodeId, rowType, speaker, text, actors, bgm, sfx, cg, transition, advancePolicy,
    nextNodeId, choiceLabel, choiceGoto, choiceSet, flagsSet, flagsReq]

/-- The place of a column, counted from the left. -/
def place : Column → Fin 17
  | indexKey => 0
  | nodeId => 1
  | rowType => 2
  | speaker => 3
  | text => 4
  | actors => 5
  | bgm => 6
  | sfx => 7
  | cg => 8
  | transition => 9
  | advancePolicy => 10
  | nextNodeId => 11
  | choiceLabel => 12
  | choiceGoto => 13
  | choiceSet => 14
  | flagsSet => 15
  | flagsReq => 16

/-- The title of a column in the header. -/
def title : Column → String
  | indexKey => "Index"
  | nodeId => "nodeId"
  | rowType => "rowType"
  | speaker => "speaker"
  | text => "text"
  | actors => "actors"
  | bgm => "bgm"
  | sfx => "sfx"
  | cg => "cg"
  | transition => "transition"
  | advancePolicy => "advancePolicy"
  | nextNodeId => "nextNodeId"
  | choiceLabel => "choiceLabel"
  | choiceGoto => "choiceGoto"
  | choiceSet => "choiceSet"
  | flagsSet => "flagsSet"
  | flagsReq => "flagsReq"

end Column

/-- The number of columns. -/
def columnCount : Nat := 17

/-- The header that authors put above a script. Its line is never read. -/
def header : String := ",".intercalate (Column.all.map Column.title)

/-- The cells of one row. -/
structure Row where
  cells : Vector String 17
deriving DecidableEq

namespace Row

/-- The cell of a column. -/
def cell (r : Row) (c : Column) : String := r.cells[c.place]

/-- The text of the first cell of `cs`, and what follows the comma that ends it, if one does. The
flag `quoted` says whether a quote is open. -/
def readCell : (quoted : Bool) → List Char → List Char × Option (List Char)
  | _, [] => ([], none)
  | true, '"' :: '"' :: rest => (readCell true rest).map ('"' :: ·) id
  | true, '"' :: rest => readCell false rest
  | true, c :: rest => (readCell true rest).map (c :: ·) id
  | false, ',' :: rest => ([], some rest)
  | false, '"' :: rest => readCell true rest
  | false, c :: rest => (readCell false rest).map (c :: ·) id

/-- The texts of the first cells of a line, at most `limit` of them. -/
def readCells : (limit : Nat) → List Char → List (List Char)
  | 0, _ => []
  | limit + 1, cs =>
    match readCell false cs with
    | (text, none) => [text]
    | (text, some rest) => text :: readCells limit rest

/-- No line has more cells than the limit.

**Proof sketch.** Induction on the limit, which each cell makes smaller by one. -/
theorem length_readCells_le (limit : Nat) (cs : List Char) :
    (readCells limit cs).length ≤ limit := by
  induction limit generalizing cs with
  | zero => exact Nat.le_refl 0
  | succ limit ih =>
    rcases h : readCell false cs with ⟨text, _ | rest⟩
    · simp [readCells, h]
    · simpa [readCells, h] using ih rest

/-- Neither a cell nor what follows it is longer than the line.

**Proof sketch.** By the recursion of `readCell`: each character that is read goes to the cell or is
dropped, and two quotes that stand for one make the cell longer by one. -/
theorem length_readCell_le (quoted : Bool) (cs : List Char) :
    (readCell quoted cs).1.length ≤ cs.length ∧
      ∀ rest ∈ (readCell quoted cs).2, rest.length ≤ cs.length := by
  fun_induction readCell quoted cs with
  | case1 quoted => simp
  | case5 rest => simp
  | case3 rest hrest ih | case6 rest ih =>
    exact ⟨Nat.le_succ_of_le ih.1, fun later hlater => Nat.le_succ_of_le (ih.2 later hlater)⟩
  | case4 c rest hquote hc ih | case7 c rest hcomma hquote ih =>
    exact ⟨Nat.succ_le_succ ih.1, fun later hlater => Nat.le_succ_of_le (ih.2 later hlater)⟩
  | case2 rest ih =>
    refine ⟨Nat.le_succ_of_le (Nat.succ_le_succ ih.1), fun later hlater => ?_⟩
    exact Nat.le_succ_of_le (Nat.le_succ_of_le (ih.2 later hlater))

/-- No cell of a line is longer than the line.

**Proof sketch.** Induction on the number of cells that may be read. The first one is bounded by
`length_readCell_le`, and so is what is left for the others. -/
theorem length_le_of_mem_readCells {limit : Nat} {cs text : List Char}
    (h : text ∈ readCells limit cs) : text.length ≤ cs.length := by
  induction limit generalizing cs with
  | zero => cases h
  | succ limit ih =>
    have hcell := length_readCell_le false cs
    rw [readCells] at h
    split at h
    case h_1 first hread =>
      rw [hread] at hcell
      rw [List.mem_singleton.1 h]
      exact hcell.1
    case h_2 first rest hread =>
      rw [hread] at hcell
      rcases List.mem_cons.1 h with rfl | hlater
      · exact hcell.1
      · exact Nat.le_trans (ih hlater) (hcell.2 rest rfl)

/-- The row that a line holds. -/
def ofLine (line : List Char) : Row :=
  let texts := readCells columnCount line
  ⟨Vector.ofFn fun place => String.ofList ((texts[place.val]?).getD [])⟩

/-- A row declares a choice when its type is the word `choice`, in whatever case. -/
def isChoice (r : Row) : Bool :=
  Text.lowerAscii (r.cell .rowType).toList == "choice".toList

end Row

end StoryGraph
