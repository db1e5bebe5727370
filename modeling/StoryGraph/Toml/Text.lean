import StoryGraph.Text.Digit

set_option relaxedAutoImplicit false
set_option autoImplicit false

/-!
# Characters and strings of TOML

The characters that a TOML document is made of, and the four spellings of a string: on one line or
on several, with escapes or without.

## Main definitions

* `Toml.isPlain` — the characters that comments and strings may hold as they are.
* `Toml.lineBreak?` — what follows a line break.
* `Toml.readString` — the text of a string, and what follows it.
-/

namespace StoryGraph.Toml

/-! ## Characters -/

/-- A blank inside a line. -/
def isBlank (c : Char) : Bool := c == ' ' || c == '\t'

/-- The text without the blanks at its start. -/
def skip (cs : List Char) : List Char := cs.dropWhile isBlank

/-- A character that comments and strings may hold as it is: any but the control characters of
ASCII, the tab excepted. -/
def isPlain (c : Char) : Bool := c == '\t' || (0x20 ≤ c.toNat && c.toNat != 0x7F)

/-- What follows the line break at the start of a text. -/
def lineBreak? : List Char → Option (List Char)
  | '\n' :: rest => some rest
  | '\r' :: '\n' :: rest => some rest
  | _ => none

/-- What follows the character `c` at the start of a text. -/
def readMark (c : Char) : List Char → Option (List Char)
  | d :: rest => if d = c then some rest else none
  | [] => none

/-- What stands between the start of a text and a later part of it. -/
def textBefore (cs rest : List Char) : String := String.ofList (cs.take (cs.length - rest.length))

/-! ## Strings -/

/-- The character with a code point given in hexadecimal. -/
def charOf? (digits : List Char) : Option Char := do
  let code ← Text.hexNumber? digits
  if code.isValidChar then return Char.ofNat code else none

/-- The character that an escape of one letter stands for. -/
def shortEscape? : Char → Option Char
  | 'b' => some '\x08'
  | 'f' => some '\x0c'
  | 'n' => some '\n'
  | 'r' => some '\r'
  | 't' => some '\t'
  | '"' => some '"'
  | '\\' => some '\\'
  | _ => none

/-- Puts a character before the text that a reader has found. -/
def consText (c : Char) (found : Option (List Char × List Char)) :
    Option (List Char × List Char) :=
  found.map fun (text, rest) => (c :: text, rest)

/-- The text of a string on one line, behind its opening quote, and what follows its closing one. -/
def readBasic : List Char → Option (List Char × List Char)
  | [] => none
  | '"' :: rest => some ([], rest)
  | '\\' :: 'u' :: a :: b :: c :: d :: rest => do
    consText (← charOf? [a, b, c, d]) (readBasic rest)
  | '\\' :: 'U' :: a :: b :: c :: d :: e :: f :: g :: h :: rest => do
    consText (← charOf? [a, b, c, d, e, f, g, h]) (readBasic rest)
  | '\\' :: letter :: rest => do
    consText (← shortEscape? letter) (readBasic rest)
  | c :: rest => if isPlain c && c != '\\' then consText c (readBasic rest) else none

/-- The text of a string without escapes on one line, behind its opening quote, and what follows
its closing one. -/
def readLiteral : List Char → Option (List Char × List Char)
  | [] => none
  | '\'' :: rest => some ([], rest)
  | c :: rest => if isPlain c then consText c (readLiteral rest) else none

/-- The text of a string of several lines, and what follows its closing quotes. After a backslash
at the end of a line, `folding`, blanks and line breaks are left out. Up to two quotes may stand
before the closing ones. -/
def readLongBasic : (folding : Bool) → List Char → Option (List Char × List Char)
  | _, [] => none
  | true, '\n' :: rest => readLongBasic true rest
  | true, '\r' :: '\n' :: rest => readLongBasic true rest
  | true, ' ' :: rest => readLongBasic true rest
  | true, '\t' :: rest => readLongBasic true rest
  | _, '"' :: '"' :: '"' :: '"' :: '"' :: rest => some (['"', '"'], rest)
  | _, '"' :: '"' :: '"' :: '"' :: rest => some (['"'], rest)
  | _, '"' :: '"' :: '"' :: rest => some ([], rest)
  | _, '\n' :: rest => consText '\n' (readLongBasic false rest)
  | _, '\r' :: '\n' :: rest => consText '\n' (readLongBasic false rest)
  | _, '\\' :: 'u' :: a :: b :: c :: d :: rest => do
    consText (← charOf? [a, b, c, d]) (readLongBasic false rest)
  | _, '\\' :: 'U' :: a :: b :: c :: d :: e :: f :: g :: h :: rest => do
    consText (← charOf? [a, b, c, d, e, f, g, h]) (readLongBasic false rest)
  | _, '\\' :: letter :: rest =>
    if (lineBreak? (skip (letter :: rest))).isSome then
      match letter, rest with
      | '\r', '\n' :: rest => readLongBasic true rest
      | _, rest => readLongBasic true rest
    else do
      consText (← shortEscape? letter) (readLongBasic false rest)
  | _, c :: rest => if isPlain c && c != '\\' then consText c (readLongBasic false rest) else none

/-- The text of a string of several lines without escapes, and what follows its closing quotes. -/
def readLongLiteral : List Char → Option (List Char × List Char)
  | [] => none
  | '\'' :: '\'' :: '\'' :: '\'' :: '\'' :: rest => some (['\'', '\''], rest)
  | '\'' :: '\'' :: '\'' :: '\'' :: rest => some (['\''], rest)
  | '\'' :: '\'' :: '\'' :: rest => some ([], rest)
  | '\n' :: rest => consText '\n' (readLongLiteral rest)
  | '\r' :: '\n' :: rest => consText '\n' (readLongLiteral rest)
  | c :: rest => if isPlain c then consText c (readLongLiteral rest) else none

/-- The text without the line break at its start, if there is one. -/
def dropLineBreak (cs : List Char) : List Char := (lineBreak? cs).getD cs

/-- A string, and what follows it. -/
def readString : List Char → Option (List Char × List Char)
  | '"' :: '"' :: '"' :: rest => readLongBasic false (dropLineBreak rest)
  | '"' :: rest => readBasic rest
  | '\'' :: '\'' :: '\'' :: rest => readLongLiteral (dropLineBreak rest)
  | '\'' :: rest => readLiteral rest
  | _ => none

end StoryGraph.Toml
