import StoryGraph.Toml.Number

set_option relaxedAutoImplicit false
set_option autoImplicit false

/-!
# Dates and times of TOML

Points in time: a date, a time of day, or both, the last with or without the offset of a time zone.

## Main definitions

* `Toml.readDate`, `Toml.readTime`, `Toml.readOffset` — the parts of a point in time.
* `Toml.readDateTime` — a point in time, and what follows it.

## Implementation notes

A date has to be one of the calendar. A minute may have a sixty-first second, for the sake of leap
seconds.
-/

namespace StoryGraph.Toml

/-- A number of so many digits within bounds, and what follows it. -/
def readField (width least greatest : Nat) (cs : List Char) : Option (Nat × List Char) :=
  let digits := cs.take width
  let n := numberIn 10 digits
  if digits.length = width ∧ digits.all Char.isDigit ∧ least ≤ n ∧ n ≤ greatest then
    some (n, cs.drop width)
  else none

/-- The number of days in a month. -/
def daysInMonth (year month : Nat) : Nat :=
  if month = 2 then
    if year % 4 = 0 ∧ (year % 100 ≠ 0 ∨ year % 400 = 0) then 29 else 28
  else if month = 4 ∨ month = 6 ∨ month = 9 ∨ month = 11 then 30
  else 31

/-- What follows a date. -/
def readDate (cs : List Char) : Option (List Char) := do
  let (year, cs) ← readField 4 0 9999 cs
  let cs ← readMark '-' cs
  let (month, cs) ← readField 2 1 12 cs
  let cs ← readMark '-' cs
  let (_, cs) ← readField 2 1 (daysInMonth year month) cs
  return cs

/-- What follows the fraction of a second, if there is one. -/
def readSecondFraction : List Char → List Char
  | '.' :: c :: rest => if c.isDigit then rest.dropWhile Char.isDigit else '.' :: c :: rest
  | cs => cs

/-- What follows a time of day. -/
def readTime (cs : List Char) : Option (List Char) := do
  let (_, cs) ← readField 2 0 23 cs
  let cs ← readMark ':' cs
  let (_, cs) ← readField 2 0 59 cs
  let cs ← readMark ':' cs
  let (_, cs) ← readField 2 0 60 cs
  return readSecondFraction cs

/-- What follows the offset of a time zone, if there is one. -/
def readOffset : List Char → Option (List Char)
  | 'Z' :: rest | 'z' :: rest => some rest
  | '+' :: rest | '-' :: rest => do
    let (_, cs) ← readField 2 0 23 rest
    let cs ← readMark ':' cs
    let (_, cs) ← readField 2 0 59 cs
    return cs
  | cs => some cs

/-- What follows a time of day behind a date, if there is one. -/
def readTimeAfterDate : List Char → Option (List Char)
  | c :: rest => do
    guard (c = 'T' ∨ c = 't' ∨ c = ' ')
    readOffset (← readTime rest)
  | [] => none

/-- A date, a time or both, and what follows it. -/
def readDateTime (cs : List Char) : Option (Value × List Char) := do
  let rest ← (readDate cs).map (fun rest => (readTimeAfterDate rest).getD rest) <|> readTime cs
  return (.dateTime (textBefore cs rest), rest)

end StoryGraph.Toml
