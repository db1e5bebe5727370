import StoryGraph.Json.Reader
import StoryGraph.Json.Writer

set_option relaxedAutoImplicit false
set_option autoImplicit false

/-!
# Values stored as JSON

How the values of other types are kept as JSON: numbers as integers in their range, a missing value
as `null`, lists as arrays, and records as objects.

## Main definitions

* `Stored` — a type whose values are kept as JSON.
* `Stored.write`, `Stored.read?` — the text of a value, and the value of a text.
* `Fields` — what a JSON value says of the fields of a record.
* `Json.fields?` — the fields by name from an object, by position from an array.

## Implementation notes

An object may have members that the record does not know, which are ignored, but none that it
knows twice. An array may be shorter than the record only by fields that have a default, and may
not be longer.
-/

namespace StoryGraph

/-- A type whose values are kept as JSON. -/
class Stored (α : Type) where
  toJson : α → Json
  ofJson? : Json → Option α

namespace Stored

variable {α : Type} [Stored α]

/-- The text that keeps a value. -/
def write (a : α) : String := (toJson a).compress

/-- The value that a text keeps. -/
def read? (text : String) : Option α := (Json.parse? text).bind ofJson?

instance : Stored Bool where
  toJson := .bool
  ofJson?
    | .bool b => some b
    | _ => none

instance : Stored String where
  toJson := .text
  ofJson?
    | .str text => text
    | _ => none

instance : Stored UInt32 where
  toJson n := .int n.toNat
  ofJson?
    | .int n => if 0 ≤ n ∧ n < UInt32.size then some (UInt32.ofNat n.toNat) else none
    | _ => none

instance : Stored UInt64 where
  toJson n := .int n.toNat
  ofJson?
    | .int n => if 0 ≤ n ∧ n < UInt64.size then some (UInt64.ofNat n.toNat) else none
    | _ => none

instance : Stored Int32 where
  toJson n := .int n.toInt
  ofJson?
    | .int n =>
      if Int32.minValue.toInt ≤ n ∧ n ≤ Int32.maxValue.toInt then some (Int32.ofInt n) else none
    | _ => none

instance : Stored (Option α) where
  toJson
    | some a => toJson a
    | none => .null
  ofJson?
    | .null => some none
    | j => (ofJson? j).map some

instance : Stored (List α) where
  toJson as := .arr (as.map toJson)
  ofJson?
    | .arr items => items.mapM ofJson?
    | _ => none

instance {n : Nat} : Stored (Vector α n) where
  toJson as := toJson as.toList
  ofJson? j := do
    let as ← (ofJson? j : Option (List α))
    if h : as.length = n then some ⟨as.toArray, by simpa using h⟩ else none

end Stored

/-- What a JSON value says of the fields of a record. -/
structure Fields where
  /-- Whether the fields are given by name, rather than by position. -/
  named : Bool
  /-- What is said of each field, in the order of the record. -/
  said : List (Option Json)

/-- What the members of an object say of a field: nothing, or one thing. -/
def Json.member? (members : List (Option String × Json)) (name : String) : Option (Option Json) :=
  match members.filter fun member => member.1 == some name with
  | [] => some none
  | [member] => some (some member.2)
  | _ => none

/-- What a JSON value says of the fields with the given names. -/
def Json.fields? (names : List String) : Json → Option Fields
  | .obj members => do
    guard (members.all fun member => member.1.isSome)
    let said ← names.mapM (Json.member? members)
    return ⟨true, said⟩
  | .arr items => do
    guard (items.length ≤ names.length)
    return ⟨false, items.map some⟩
  | _ => none

namespace Fields

variable {α : Type} [Stored α]

/-- What is said of the field at a place. -/
def at? (f : Fields) (place : Nat) : Option Json := (f.said[place]?).join

/-- A field that has to be there. -/
def required (f : Fields) (place : Nat) : Option α := (f.at? place).bind Stored.ofJson?

/-- A field that may be left out where the fields have names. -/
def optional (f : Fields) (place : Nat) : Option (Option α) :=
  match f.at? place with
  | some j => Stored.ofJson? j
  | none => if f.named then some none else none

/-- A field that has a default. -/
def withDefault (f : Fields) (place : Nat) (fallback : α) : Option α :=
  match f.at? place with
  | some j => Stored.ofJson? j
  | none => some fallback

end Fields

end StoryGraph
