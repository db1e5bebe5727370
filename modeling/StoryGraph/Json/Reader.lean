import StoryGraph.Json.Value
import StoryGraph.Text.Digit

set_option relaxedAutoImplicit false
set_option autoImplicit false

/-!
# Reading JSON

Which value a text spells, by the grammar of JSON and nothing beyond it: one value, with blanks
around its parts.

## Main definitions

* `Json.readString` — the text of a string, behind its opening quote.
* `Json.readNumber` — a number.
* `Json.readValue` — a value, with the text that follows it.
* `Json.parse?` — the value that a whole text spells.

## Implementation notes

A reader takes a value off the front of a text and answers with the rest. The depth to which values
nest is bounded by the length of the text, and `Json.parse?` allows for as much; so the bound
refuses nothing.
-/

namespace StoryGraph.Json

/-- A blank between the parts of a value. -/
def isBlank (c : Char) : Bool := c == ' ' || c == '\t' || c == '\n' || c == '\r'

/-- The text without the blanks at its start. -/
def skip (cs : List Char) : List Char := cs.dropWhile isBlank

/-! ## Strings -/

/-- The character that an escape of one letter stands for. -/
def shortEscape? : Char → Option Char
  | '"' => some '"'
  | '\\' => some '\\'
  | '/' => some '/'
  | 'b' => some '\x08'
  | 'f' => some '\x0c'
  | 'n' => some '\n'
  | 'r' => some '\r'
  | 't' => some '\t'
  | _ => none

/-- The code points that a string spells up to its closing quote, and what follows the quote. An
escape may name half of a surrogate pair. -/
def readCodes : List Char → Option (List Nat × List Char)
  | [] => none
  | '"' :: rest => some ([], rest)
  | '\\' :: 'u' :: a :: b :: c :: d :: rest => do
    let code ← Text.hexNumber? [a, b, c, d]
    let (codes, rest) ← readCodes rest
    return (code :: codes, rest)
  | '\\' :: letter :: rest => do
    let c ← shortEscape? letter
    let (codes, rest) ← readCodes rest
    return (c.toNat :: codes, rest)
  | c :: rest =>
    if c.toNat < 0x20 ∨ c = '\\' then none
    else do
      let (codes, rest) ← readCodes rest
      return (c.toNat :: codes, rest)

/-- The first half of a surrogate pair. -/
def isHighHalf (code : Nat) : Bool := 0xD800 ≤ code && code < 0xDC00

/-- The second half of a surrogate pair. -/
def isLowHalf (code : Nat) : Bool := 0xDC00 ≤ code && code < 0xE000

/-- The code point that a surrogate pair names. -/
def pairCode (high low : Nat) : Nat := 0x10000 + (high - 0xD800) * 0x400 + (low - 0xDC00)

/-- The text that code points spell; none when half of a surrogate pair stands alone. -/
def spell : List Nat → Option (List Char)
  | [] => some []
  | code :: rest =>
    if isHighHalf code then
      match rest with
      | low :: rest =>
        if isLowHalf low then (spell rest).map (Char.ofNat (pairCode code low) :: ·) else none
      | [] => none
    else if isLowHalf code then none
    else (spell rest).map (Char.ofNat code :: ·)

/-- The text of a string, behind its opening quote, and what follows its closing quote. -/
def readString (cs : List Char) : Option (Option String × List Char) :=
  (readCodes cs).map fun (codes, rest) => ((spell codes).map String.ofList, rest)

/-! ## Numbers -/

/-- The digits at the start of a text, and what follows them. -/
def spanDigits (cs : List Char) : List Char × List Char :=
  (cs.takeWhile Char.isDigit, cs.dropWhile Char.isDigit)

/-- The number that decimal digits spell. -/
def natOf (digits : List Char) : Nat := Nat.ofDigitChars 10 digits 0

/-- Digits spell the whole part of a number when there are some, and the first of several is not
zero. -/
def isWhole : List Char → Bool
  | [] => false
  | ['0'] => true
  | c :: _ => c != '0'

/-- The digits after the point of a number, if there is a point, and what follows them. -/
def readFraction : List Char → Option (Option (List Char) × List Char)
  | '.' :: rest =>
    match spanDigits rest with
    | ([], _) => none
    | (digits, rest) => some (some digits, rest)
  | cs => some (none, cs)

/-- The exponent of a number, if it has one, and what follows it. -/
def readExponent : List Char → Option (Option Int × List Char)
  | c :: rest =>
    if c = 'e' ∨ c = 'E' then
      let (negative, rest) := Text.readSign rest
      match spanDigits rest with
      | ([], _) => none
      | (digits, rest) => some (some (Text.signed negative (natOf digits)), rest)
    else some (none, c :: rest)
  | [] => some (none, [])

/-- A number behind its sign, and what follows it. -/
def readUnsigned (negative : Bool) (cs : List Char) : Option (Json × List Char) := do
  let (whole, cs) := spanDigits cs
  guard (isWhole whole)
  let (fraction, cs) ← readFraction cs
  let (exponent, cs) ← readExponent cs
  match fraction, exponent with
  | none, none =>
    if negative && whole == ['0'] then return (.decimal 0 0, cs)
    else return (.int (Text.signed negative (natOf whole)), cs)
  | fraction, exponent =>
    let digits := fraction.getD []
    return (.decimal (Text.signed negative (natOf (whole ++ digits)))
      (exponent.getD 0 - digits.length), cs)

/-- A number, and what follows it. -/
def readNumber : List Char → Option (Json × List Char)
  | '-' :: rest => readUnsigned true rest
  | cs => readUnsigned false cs

/-! ## Values -/

mutual

/-- A value that nests no deeper than `depth` allows, and what follows it. -/
def readValue : (depth : Nat) → List Char → Option (Json × List Char)
  | 0, _ => none
  | depth + 1, cs =>
    match skip cs with
    | 'n' :: 'u' :: 'l' :: 'l' :: rest => some (.null, rest)
    | 't' :: 'r' :: 'u' :: 'e' :: rest => some (.bool true, rest)
    | 'f' :: 'a' :: 'l' :: 's' :: 'e' :: rest => some (.bool false, rest)
    | '"' :: rest => do
      let (text, rest) ← readString rest
      return (.str text, rest)
    | '[' :: rest =>
      match skip rest with
      | ']' :: rest => some (.arr [], rest)
      | rest => do
        let (items, rest) ← readItems depth rest
        return (.arr items, rest)
    | '{' :: rest =>
      match skip rest with
      | '}' :: rest => some (.obj [], rest)
      | rest => do
        let (members, rest) ← readMembers depth rest
        return (.obj members, rest)
    | cs => readNumber cs

/-- The items of an array with at least one, and what follows its closing bracket. -/
def readItems : (depth : Nat) → List Char → Option (List Json × List Char)
  | 0, _ => none
  | depth + 1, cs => do
    let (item, rest) ← readValue depth cs
    match skip rest with
    | ']' :: rest => return ([item], rest)
    | ',' :: rest =>
      let (items, rest) ← readItems depth rest
      return (item :: items, rest)
    | _ => none

/-- The members of an object with at least one, and what follows its closing bracket. -/
def readMembers : (depth : Nat) → List Char → Option (List (Option String × Json) × List Char)
  | 0, _ => none
  | depth + 1, cs =>
    match skip cs with
    | '"' :: rest => do
      let (key, rest) ← readString rest
      match skip rest with
      | ':' :: rest =>
        let (value, rest) ← readValue depth rest
        match skip rest with
        | '}' :: rest => return ([(key, value)], rest)
        | ',' :: rest =>
          let (members, rest) ← readMembers depth rest
          return ((key, value) :: members, rest)
        | _ => none
      | _ => none
    | _ => none

end

/-- A value nests no deeper than this in a text of the given length. -/
def depthBound (length : Nat) : Nat := 2 * length + 2

/-- The value that a whole text spells, if it spells one. -/
def parse? (text : String) : Option Json := do
  let (value, rest) ← readValue (depthBound text.toList.length) text.toList
  guard (skip rest).isEmpty
  return value

end StoryGraph.Json
