import StoryGraph.Graph.Building
import StoryGraph.Script.Entry
import StoryGraph.Text.Quoted

set_option relaxedAutoImplicit false
set_option autoImplicit false

/-!
# Compiling a script

A script is compiled entry by entry into a pool. A node may be declared by several rows, each of
which patches it; a choice may come before the row of its node, which is then a placeholder.

## Main definitions

* `Fault` — why a script does not compile.
* `Entry.enact` — the work that one entry asks for.
* `Script.build` — the work that a script asks for, on a pool that may have been used before.
* `Script.compile` — the pool of a script, with the journal of its making.
-/

namespace StoryGraph

/-- Why a script does not compile. -/
inductive Fault where
  /-- The script has not even a header. -/
  | empty
  /-- The entry on a line needs room in a part of the pool that is full. -/
  | full (line : Nat) (overflow : Overflow)
  /-- The entry on a line names a node by a number that is none. -/
  | unaddressed (line : Nat) (cell : String)
deriving DecidableEq, Repr

/-- The message for a script that does not compile. -/
def Fault.message : Fault → String
  | empty => "script is empty"
  | full line overflow => s!"line {line}: " ++ overflow.message
  | unaddressed line cell =>
    s!"line {line}: node id out of range: " ++ String.ofList (Text.quoted cell.toList)

/-- The draft that a declaration makes, once its flag lists are in the pool. -/
def Declaration.draft (said : Declaration) (effects requires : Span) : Draft :=
  { said.toContent with effects, requires }

/-- Work on behalf of a line: if a part of the pool is full, that is the fault of the line. -/
def Building.onLine {α : Type} (line : Nat) (work : Building Overflow α) : Building Fault α :=
  EStateM.adaptExcept (.full line) work

/-- The work that the entry on a line asks for. A node's flag lists go into the pool before the
node does; the node of a choice comes first, then the choice's flags, then the choice. -/
def Entry.enact (line : Nat) : Entry → Building Fault Unit
  | .node id said => Building.onLine line do
    let effects ← Building.pushFlags said.effects
    let requires ← Building.pushFlags said.requires
    let declared ← Building.upsert id (said.draft effects requires)
    unless declared.inserted do
      Building.note (.redeclared id line)
  | .choice parent label goto flags => Building.onLine line do
    let slot ← Building.ensure parent
    let effects ← Building.pushFlags flags
    Building.attach slot { label, goto, effects }
  | .unlabelled => Building.note (.unlabelledChoice line)
  | .unaddressed cell => throw (.unaddressed line cell)

namespace Script

/-- The work that numbered entries ask for, in order, up to the first fault. -/
def enactAll : List (Nat × Entry) → Building Fault Unit
  | [] => pure ()
  | (line, e) :: later => do
    e.enact line
    enactAll later

/-- The work that a script asks for. The pool is emptied first and keeps its limits; after a fault
it holds what the entries before it made. -/
def build (text : String) : Building Fault Unit := do
  Building.reset
  match entries? text with
  | none => throw .empty
  | some entries =>
    enactAll entries
    let p := (← get).pool
    Building.note (.compiled p.nodes.size p.choices.size p.flagRefs.size)

/-- What a script makes of a build: the fault, if there is one, and the build afterwards. -/
def rebuild (text : String) (b : Build) : Except Fault Unit × Build :=
  match (build text).run b with
  | .ok a b => (.ok a, b)
  | .error e b => (.error e, b)

/-- The pool of a script under the given limits, with the journal of its making. -/
def compile (limits : Limits) (text : String) : Except Fault Pool × Array Notice :=
  match rebuild text { pool := .empty limits } with
  | (.ok _, b) => (.ok b.pool, b.journal)
  | (.error e, b) => (.error e, b.journal)

end Script

end StoryGraph
