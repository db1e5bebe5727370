import StoryGraph.Json.Value

set_option relaxedAutoImplicit false
set_option autoImplicit false

/-!
# Writing JSON

The compact written form of a JSON value: no blank stands between its parts, members keep their
order, and a string escapes only what it has to.

## Main definitions

* `Json.escape` — how a character is written inside a string.
* `Json.write` — the written form of a value.
* `Json.compress` — the written form as a `String`.
-/

namespace StoryGraph.Json

/-- How a character is written inside a string: a quote, a backslash and the control characters
are escaped, all others stand for themselves. -/
def escape (c : Char) : List Char :=
  match c with
  | '"' => ['\\', '"']
  | '\\' => ['\\', '\\']
  | '\x08' => ['\\', 'b']
  | '\x0c' => ['\\', 'f']
  | '\n' => ['\\', 'n']
  | '\r' => ['\\', 'r']
  | '\t' => ['\\', 't']
  | c =>
    if c.toNat < 0x20 then
      ['\\', 'u', '0', '0', Nat.digitChar (c.toNat / 16), Nat.digitChar (c.toNat % 16)]
    else [c]

/-- The written form of a string; one without a text is written as half of a surrogate pair. -/
def writeStr : Option String → List Char
  | some s => '"' :: s.toList.flatMap escape ++ ['"']
  | none => ['"', '\\', 'u', 'd', '8', '0', '0', '"']

/-- The written form of an integer. -/
def writeInt : Int → List Char
  | .ofNat n => Nat.toDigits 10 n
  | .negSucc n => '-' :: Nat.toDigits 10 (n + 1)

mutual

/-- The written form of a value. -/
def write : Json → List Char
  | .null => ['n', 'u', 'l', 'l']
  | .bool true => ['t', 'r', 'u', 'e']
  | .bool false => ['f', 'a', 'l', 's', 'e']
  | .int n => writeInt n
  | .decimal mantissa exponent => writeInt mantissa ++ 'e' :: writeInt exponent
  | .str text => writeStr text
  | .arr items => '[' :: writeItems items
  | .obj members => '{' :: writeMembers members

/-- The written form of the items of an array, with the bracket that closes it. -/
def writeItems : List Json → List Char
  | [] => [']']
  | [item] => write item ++ [']']
  | item :: next :: later => write item ++ ',' :: writeItems (next :: later)

/-- The written form of the members of an object, with the bracket that closes it. -/
def writeMembers : List (Option String × Json) → List Char
  | [] => ['}']
  | [member] => writeMember member ++ ['}']
  | member :: next :: later => writeMember member ++ ',' :: writeMembers (next :: later)

/-- The written form of a member of an object. -/
def writeMember : Option String × Json → List Char
  | (key, value) => writeStr key ++ ':' :: write value

end

/-- The written form of a value as a `String`. -/
def compress (j : Json) : String := String.ofList j.write

end StoryGraph.Json
