set_option relaxedAutoImplicit false
set_option autoImplicit false

/-!
# TOML values

The values of a TOML document, with what the format remembers of each table in order to refuse a
second definition.

## Main definitions

* `Toml.Origin` — how a table came to be.
* `Toml.Value`, `Toml.Table` — a value, and a table of values under distinct keys.
* `Toml.Table.update` — a change to the table at the end of a path.
* `Toml.Table.define` — a new value at the end of a dotted key.

## Implementation notes

A path goes through the last element of an array of tables. Dotted keys may go on only through
tables that no header and no braces have defined, and may end only in a table that dotted keys have
made.
-/

namespace StoryGraph.Toml

/-- How a table came to be. -/
inductive Origin where
  /-- The table is the document's own, or has a header. -/
  | header
  /-- The header of a table inside it mentions the table. -/
  | passing
  /-- A dotted key mentions the table. -/
  | dotted
  /-- The table is written in braces, and complete. -/
  | braces
deriving DecidableEq, Repr

/-- Values under keys, in the order of their definition. -/
structure TableOf (α : Type) where
  origin : Origin
  entries : List (String × α) := []

/-- A TOML value. -/
inductive Value where
  | string (text : String)
  | integer (n : Int)
  /-- A float, as it is written. -/
  | float (literal : String)
  | boolean (b : Bool)
  /-- A date, a time or both, as it is written. -/
  | dateTime (literal : String)
  | array (items : List Value)
  | table (t : TableOf Value)
  /-- An array of tables, which has a last one. -/
  | tables (earlier : List (TableOf Value)) (last : TableOf Value)

/-- A table of values. -/
abbrev Table := TableOf Value

namespace Table

/-- The value under a key. -/
def get? (t : Table) (key : String) : Option Value := t.entries.lookup key

/-- The table with a value under a key, in the place of the one before if there is one. -/
def put (t : Table) (key : String) (value : Value) : Table :=
  if (t.get? key).isSome then
    { t with entries := t.entries.map fun e => if e.1 == key then (key, value) else e }
  else { t with entries := t.entries ++ [(key, value)] }

/-- A path may go through a table unless braces have completed it; a dotted key may not go through
one that has a header either. -/
def isPassable (dotted : Bool) : Origin → Bool
  | .header => !dotted
  | .passing | .dotted => true
  | .braces => false

/-- The table that a path makes where there is none. -/
def made (dotted : Bool) : Table := { origin := if dotted then .dotted else .passing }

/-- Changes the table at the end of a path by `change`, if the path can be followed there. -/
def update (dotted : Bool) (change : Table → Option Table) : List String → Table → Option Table
  | [], t => change t
  | key :: path, t =>
    match t.get? key with
    | none => (update dotted change path (made dotted)).map fun inner => t.put key (.table inner)
    | some (.table inner) =>
      if isPassable dotted inner.origin then
        (update dotted change path inner).map fun inner => t.put key (.table inner)
      else none
    | some (.tables earlier last) =>
      (update dotted change path last).map fun last => t.put key (.tables earlier last)
    | some _ => none

/-- Puts a value under a key that must be new. -/
def add (key : String) (value : Value) (t : Table) : Option Table :=
  if (t.get? key).isSome then none else some (t.put key value)

/-- Defines the value of a dotted key: the keys of the tables on the way, and the last key. -/
def define (t : Table) (path : List String) (key : String) (value : Value) : Option Table :=
  if path.isEmpty then add key value t
  else
    update true (fun inner => if inner.origin = .dotted then add key value inner else none) path t

end Table

end StoryGraph.Toml
