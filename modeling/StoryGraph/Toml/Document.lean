import StoryGraph.Toml.Reader

set_option relaxedAutoImplicit false
set_option autoImplicit false

/-!
# TOML documents

A document is a sequence of definitions under headers. It is read in two steps: from text to
statements, and from statements to one table, where a second definition of anything is refused.

## Main definitions

* `Toml.Statement` — what one line of a document says.
* `Toml.Table.addSection` — a table with what stands under one more header.
* `Toml.parse?` — the table that a document spells.
* `Toml.Value.fields?` — what a value says of the fields of a record.

## Implementation notes

A document may start with a byte order mark. A table that the header of another table has passed
through may still get a header of its own; a table that dotted keys have made may not.
-/

namespace StoryGraph.Toml

/-! ## Statements -/

/-- What one line of a document says. -/
inductive Statement where
  /-- A header, single or double bracketed. -/
  | header (repeated : Bool) (key : Key)
  | pair (key : Key) (value : Value)

/-- What follows the end of a line: a comment may stand before the line break, or the end of the
text. -/
def readLineEnd (cs : List Char) : Option (List Char) :=
  let afterComment :=
    match skip cs with
    | '#' :: rest => rest.dropWhile isPlain
    | rest => rest
  if afterComment.isEmpty then some [] else lineBreak? afterComment

/-- A header behind its opening brackets, and what follows its line. -/
def readHeader (repeated : Bool) (cs : List Char) : Option (Statement × List Char) := do
  let (key, rest) ← readKey cs
  let rest ← readMark ']' rest
  let rest ← if repeated then readMark ']' rest else some rest
  return (.header repeated key, ← readLineEnd rest)

/-- A statement, and what follows its line. -/
def readStatement : List Char → Option (Statement × List Char)
  | '[' :: '[' :: rest => readHeader true rest
  | '[' :: rest => readHeader false rest
  | cs => do
    let ((key, value), rest) ← readPair (readValue (nestingLimit - 1)) cs
    return (.pair key value, ← readLineEnd rest)

/-- The statements of a text. A line may be empty but for a comment. The number of lines is bounded
by `limit`. -/
def readStatements : (limit : Nat) → List Char → Option (List Statement)
  | 0, _ => none
  | limit + 1, cs =>
    match skip cs with
    | [] => some []
    | '#' :: rest => do readStatements limit (← readLineEnd ('#' :: rest))
    | '\n' :: rest => readStatements limit rest
    | '\r' :: '\n' :: rest => readStatements limit rest
    | cs => do
      let (statement, rest) ← readStatement cs
      return statement :: (← readStatements limit rest)

/-! ## Documents -/

/-- What stands under one header. -/
structure Section where
  repeated : Bool
  key : Key
  pairs : List (Key × Value) := []

/-- The definitions above the first header, and the sections below. -/
def sections : List Statement → List (Key × Value) × List Section
  | [] => ([], [])
  | .pair key value :: later =>
    let (pairs, rest) := sections later
    ((key, value) :: pairs, rest)
  | .header repeated key :: later =>
    let (pairs, rest) := sections later
    ([], { repeated, key, pairs } :: rest)

/-- The table with what stands under one more header. A single bracketed header may name a table
that so far was only passed through; a double bracketed one adds a table to an array. -/
def Table.addSection (t : Table) (s : Section) : Option Table :=
  Table.update false (fun parent => do
    match s.repeated, Table.get? parent s.key.name with
    | false, none =>
      let own ← Table.defineAll { origin := .header } s.pairs
      return Table.put parent s.key.name (.table own)
    | false, some (.table before) =>
      guard (before.origin = .passing)
      let own ← Table.defineAll { before with origin := .header } s.pairs
      return Table.put parent s.key.name (.table own)
    | true, none =>
      let own ← Table.defineAll { origin := .header } s.pairs
      return Table.put parent s.key.name (.tables [] own)
    | true, some (.tables earlier last) =>
      let own ← Table.defineAll { origin := .header } s.pairs
      return Table.put parent s.key.name (.tables (earlier ++ [last]) own)
    | _, some _ => none) s.key.path t

/-- The text without the byte order mark at its start. -/
def dropByteOrderMark : List Char → List Char
  | '\ufeff' :: rest => rest
  | cs => cs

/-- The table that a document spells, if it spells one. -/
def parse? (text : String) : Option Table := do
  let cs := dropByteOrderMark text.toList
  let statements ← readStatements (cs.length + 1) cs
  let (pairs, later) := sections statements
  later.foldlM Table.addSection (← Table.defineAll { origin := .header } pairs)

/-! ## Records -/

/-- What a value says of the fields with the given names: a table by name, an array by position. A
point in time is a value with parts too, but none of them is such a field. -/
def Value.fields? (names : List String) : Value → Option (List (Option Value))
  | .table t => some (names.map fun name => Table.get? t name)
  | .array items => some (items.map some)
  | .tables earlier last => some ((earlier ++ [last]).map fun t => some (.table t))
  | .dateTime _ => some []
  | _ => none

end StoryGraph.Toml
