import StoryGraph.Toml.Text
import StoryGraph.Toml.Value

set_option relaxedAutoImplicit false
set_option autoImplicit false

/-!
# Numbers of TOML

Integers in four bases, and floats. An underscore may stand between two digits.

## Main definitions

* `Toml.readInteger` — an integer, and what follows it.
* `Toml.readFloat` — a float, and what follows it.

## Implementation notes

An integer has at most 64 bits. A float that is larger than every finite number of double precision
is refused, but its negative is not.
-/

namespace StoryGraph.Toml

/-- Digits after the first, an underscore before any of them left out, and what follows them.
An underscore that no digit follows is refused. -/
def readMoreDigits (isDigit : Char → Bool) : List Char → Option (List Char × List Char)
  | [] => some ([], [])
  | ['_'] => none
  | '_' :: c :: rest =>
    if isDigit c then consText c (readMoreDigits isDigit rest) else none
  | c :: rest =>
    if isDigit c then consText c (readMoreDigits isDigit rest) else some ([], c :: rest)

/-- At least one digit, underscores between digits left out, and what follows them. -/
def readDigits (isDigit : Char → Bool) : List Char → Option (List Char × List Char)
  | c :: rest => if isDigit c then consText c (readMoreDigits isDigit rest) else none
  | [] => none

/-- The digits of a whole number: more than one only where the first is not zero. -/
def readWhole : List Char → Option (List Char × List Char)
  | '0' :: rest => some (['0'], rest)
  | cs => readDigits Char.isDigit cs

/-- The number that digits spell in a base. -/
def numberIn (base : Nat) (digits : List Char) : Nat :=
  digits.foldl (fun n c => base * n + (Text.hexValue? c).getD 0) 0

/-- An integer, if it has no more than 64 bits. -/
def integer? (n : Int) : Option Value :=
  if Int64.minValue.toInt ≤ n ∧ n ≤ Int64.maxValue.toInt then some (.integer n) else none

/-- A digit in a base up to sixteen. -/
def isDigitIn (base : Nat) (c : Char) : Bool :=
  match Text.hexValue? c with
  | some n => n < base
  | none => false

/-- The digits of an integer that names its base, and what follows them. -/
def readInBase (base : Nat) (cs : List Char) : Option (Value × List Char) := do
  let (digits, rest) ← readDigits (isDigitIn base) cs
  return (← integer? (numberIn base digits), rest)

/-- An integer, and what follows it. -/
def readInteger : List Char → Option (Value × List Char)
  | '0' :: 'x' :: rest => readInBase 16 rest
  | '0' :: 'o' :: rest => readInBase 8 rest
  | '0' :: 'b' :: rest => readInBase 2 rest
  | cs => do
    let (negative, cs) := Text.readSign cs
    let (digits, rest) ← readWhole cs
    return (← integer? (Text.signed negative (numberIn 10 digits)), rest)

/-- The digits of a fraction, if there is one, and what follows it. -/
def readFraction : List Char → Option (Option (List Char) × List Char)
  | '.' :: rest => (readDigits Char.isDigit rest).map fun (digits, rest) => (some digits, rest)
  | cs => some (none, cs)

/-- The exponent of a float, if it has one, and what follows it. -/
def readExponent : List Char → Option (Option Int × List Char)
  | c :: rest =>
    if c = 'e' ∨ c = 'E' then
      let (negative, rest) := Text.readSign rest
      (readDigits Char.isDigit rest).map fun (digits, rest) =>
        (some (Text.signed negative (numberIn 10 digits)), rest)
    else some (none, c :: rest)
  | [] => some (none, [])

/-- The number half way between the largest finite number of double precision and the next power
of two: the least that rounds to infinity. -/
def overflowBound : Nat := Nat.pow 2 1024 - Nat.pow 2 970

/-- The decimal `mantissa * 10 ^ exponent` is so large that it rounds to infinity. Only where the
number of digits leaves it open the numbers themselves are compared. -/
def overflows (mantissa : Nat) (exponent : Int) : Bool :=
  if mantissa = 0 then false
  else
    let digits : Int := (Nat.toDigits 10 mantissa).length
    if digits + exponent ≤ 308 then false
    else if digits + exponent > 309 then true
    else if 0 ≤ exponent then overflowBound ≤ mantissa * Nat.pow 10 exponent.toNat
    else overflowBound * Nat.pow 10 (-exponent).toNat ≤ mantissa

/-- A float with a fraction or an exponent, and what follows it. -/
def readDecimal (cs : List Char) : Option (Value × List Char) := do
  let (negative, unsigned) := Text.readSign cs
  let (whole, rest) ← readWhole unsigned
  let (fraction, rest) ← readFraction rest
  let (exponent, rest) ← readExponent rest
  guard (fraction.isSome || exponent.isSome)
  let digits := fraction.getD []
  guard (negative || !overflows (numberIn 10 (whole ++ digits)) (exponent.getD 0 - digits.length))
  return (.float (textBefore cs rest), rest)

/-- An infinity or a number that is none, and what follows it. -/
def readSpecial (cs : List Char) : Option (Value × List Char) :=
  match (Text.readSign cs).2 with
  | 'i' :: 'n' :: 'f' :: rest => some (.float (textBefore cs rest), rest)
  | 'n' :: 'a' :: 'n' :: rest => some (.float (textBefore cs rest), rest)
  | _ => none

/-- A float, and what follows it. -/
def readFloat (cs : List Char) : Option (Value × List Char) :=
  readDecimal cs <|> readSpecial cs

end StoryGraph.Toml
