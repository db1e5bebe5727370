set_option relaxedAutoImplicit false
set_option autoImplicit false

/-!
# Digits and signs

The parts of which the written numbers of every format are made.

## Main definitions

* `Text.hexValue?`, `Text.hexNumber?` — the value of a hexadecimal digit, and of several.
* `Text.readSign`, `Text.signed` — a sign before a number, and the number with it.
-/

namespace StoryGraph.Text

/-- The value of a hexadecimal digit, in either case. -/
def hexValue? (c : Char) : Option Nat :=
  if '0' ≤ c ∧ c ≤ '9' then some (c.toNat - '0'.toNat)
  else if 'a' ≤ c ∧ c ≤ 'f' then some (c.toNat - 'a'.toNat + 10)
  else if 'A' ≤ c ∧ c ≤ 'F' then some (c.toNat - 'A'.toNat + 10)
  else none

/-- The number that hexadecimal digits spell. -/
def hexNumber? (digits : List Char) : Option Nat :=
  digits.foldlM (fun n c => (hexValue? c).map (16 * n + ·)) 0

/-- Whether a minus stands at the start of a text, and what follows the sign there, if there is
one. -/
def readSign : List Char → Bool × List Char
  | '-' :: rest => (true, rest)
  | '+' :: rest => (false, rest)
  | cs => (false, cs)

/-- The integer with a sign and a magnitude. -/
def signed (negative : Bool) (magnitude : Nat) : Int :=
  if negative then -magnitude else magnitude

end StoryGraph.Text
