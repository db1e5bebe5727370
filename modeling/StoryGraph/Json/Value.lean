set_option relaxedAutoImplicit false
set_option autoImplicit false

/-!
# JSON values

The values that a JSON text can spell, as exactly as this library needs to tell them apart.

## Main definitions

* `Json` — a JSON value.
* `Json.text`, `Json.record` — a string, and an object with given keys.

## Implementation notes

A number is an integer when it is written as one: without fraction and exponent, and not as `-0`.
Every other number is kept as a decimal, and no integer is read from it. A string literal whose
escapes name half of a surrogate pair spells no text; JSON allows it, so such a string is a value,
but one without a text.
-/

namespace StoryGraph

/-- A JSON value. -/
inductive Json where
  | null
  | bool (b : Bool)
  /-- A number written as an integer. -/
  | int (n : Int)
  /-- A number written otherwise: `mantissa * 10 ^ exponent`. -/
  | decimal (mantissa exponent : Int)
  /-- A string; it has no text when it is spelled with half of a surrogate pair. -/
  | str (text : Option String)
  | arr (items : List Json)
  /-- An object, its members in the order in which they are written. -/
  | obj (members : List (Option String × Json))
deriving Inhabited

namespace Json

/-- The string with a given text. -/
def text (s : String) : Json := .str (some s)

/-- The object with given keys. -/
def record (members : List (String × Json)) : Json :=
  .obj (members.map fun (key, value) => (some key, value))

end Json

end StoryGraph
