import StoryGraph.Toml.DateTime

set_option relaxedAutoImplicit false
set_option autoImplicit false

/-!
# Keys and values of TOML

The parts of a TOML document: keys, which name a place in nested tables, and the values that stand
there.

## Main definitions

* `Toml.readKey` — a key, dotted or not.
* `Toml.readScalar` — a value without parts.
* `Toml.readValue` — any value.

## Implementation notes

A reader takes its part off the front of a text and answers with the rest. Where several readings
are possible, a point in time comes first, then a float, then an integer. Arrays and tables in
braces nest less than eighty deep, and a dotted key has fewer than eighty parts.
-/

namespace StoryGraph.Toml

/-- Values nest, and keys have parts, fewer times than this. -/
def nestingLimit : Nat := 80

/-! ## Keys -/

/-- A character of a key without quotes. -/
def isBare (c : Char) : Bool := c.isAlphanum || c == '-' || c == '_'

/-- One part of a key, and what follows it. -/
def readKeyPart : List Char → Option (String × List Char)
  | '"' :: rest => (readBasic rest).map fun (text, rest) => (String.ofList text, rest)
  | '\'' :: rest => (readLiteral rest).map fun (text, rest) => (String.ofList text, rest)
  | cs =>
    match cs.takeWhile isBare with
    | [] => none
    | text => some (String.ofList text, cs.dropWhile isBare)

/-- At most `limit` parts of a key, with points between them and blanks around them, and what
follows them. -/
def readKeyParts : (limit : Nat) → List Char → Option (List String × List Char)
  | 0, _ => none
  | limit + 1, cs => do
    let (part, rest) ← readKeyPart (skip cs)
    match skip rest with
    | '.' :: rest =>
      let (parts, rest) ← readKeyParts limit rest
      return (part :: parts, rest)
    | rest => return ([part], rest)

/-- A key, with the names of the tables on its way. -/
structure Key where
  path : List String
  name : String

/-- A key, and what follows it. -/
def readKey (cs : List Char) : Option (Key × List Char) := do
  let (parts, rest) ← readKeyParts (nestingLimit - 1) cs
  match parts.getLast? with
  | some name => return (⟨parts.dropLast, name⟩, rest)
  | none => none

/-! ## Values -/

/-- A value without parts, and what follows it. -/
def readScalar (cs : List Char) : Option (Value × List Char) :=
  match cs with
  | 't' :: 'r' :: 'u' :: 'e' :: rest => some (.boolean true, rest)
  | 'f' :: 'a' :: 'l' :: 's' :: 'e' :: rest => some (.boolean false, rest)
  | '"' :: _ | '\'' :: _ =>
    (readString cs).map fun (text, rest) => (.string (String.ofList text), rest)
  | _ => readDateTime cs <|> readFloat cs <|> readInteger cs

/-- The text without the blanks, line breaks and comments at its start. -/
def skipLines : (inComment : Bool) → List Char → List Char
  | _, [] => []
  | _, '\n' :: rest => skipLines false rest
  | _, '\r' :: '\n' :: rest => skipLines false rest
  | true, c :: rest => if isPlain c then skipLines true rest else c :: rest
  | false, '#' :: rest => skipLines true rest
  | false, c :: rest => if isBlank c then skipLines false rest else c :: rest

/-- The items of an array up to its closing bracket, and what follows that. The number of items is
bounded by `limit`. -/
def readItems (readItem : List Char → Option (Value × List Char)) :
    (limit : Nat) → List Char → Option (List Value × List Char)
  | 0, _ => none
  | limit + 1, cs =>
    match skipLines false cs with
    | ']' :: rest => some ([], rest)
    | cs => do
      let (item, rest) ← readItem cs
      match skipLines false rest with
      | ']' :: rest => return ([item], rest)
      | ',' :: rest =>
        let (items, rest) ← readItems readItem limit rest
        return (item :: items, rest)
      | _ => none

/-- A key, an equals sign and a value, and what follows them. -/
def readPair (readItem : List Char → Option (Value × List Char)) (cs : List Char) :
    Option ((Key × Value) × List Char) := do
  let (key, rest) ← readKey cs
  let rest ← readMark '=' rest
  let (value, rest) ← readItem (skip rest)
  return ((key, value), rest)

/-- The definitions of a table in braces with at least one, and what follows the closing brace. The
number of definitions is bounded by `limit`. -/
def readPairs (readItem : List Char → Option (Value × List Char)) :
    (limit : Nat) → List Char → Option (List (Key × Value) × List Char)
  | 0, _ => none
  | limit + 1, cs => do
    let (pair, rest) ← readPair readItem cs
    match skip rest with
    | '\x7d' :: rest => return ([pair], rest)
    | ',' :: rest =>
      let (pairs, rest) ← readPairs readItem limit rest
      return (pair :: pairs, rest)
    | _ => none

/-- The table with definitions made in order. -/
def Table.defineAll (t : Table) (pairs : List (Key × Value)) : Option Table :=
  pairs.foldlM (fun t (key, value) => Table.define t key.path key.name value) t

/-- A value that nests at most `depth` deep, and what follows it. -/
def readValue : (depth : Nat) → List Char → Option (Value × List Char)
  | depth + 1, '[' :: rest =>
    (readItems (readValue depth) (rest.length + 1) rest).map fun (items, rest) =>
      (.array items, rest)
  | depth + 1, '\x7b' :: rest =>
    match skip rest with
    | '\x7d' :: rest => some (.table { origin := .braces }, rest)
    | cs => do
      let (pairs, rest) ← readPairs (readValue depth) (cs.length + 1) cs
      let t ← Table.defineAll { origin := .braces } pairs
      return (.table t, rest)
  | _, cs => readScalar cs

end StoryGraph.Toml
