set_option relaxedAutoImplicit false
set_option autoImplicit false

/-!
# Gates

Something outside the story may hold it back: a transition that still plays, a menu that is open.
The runner asks a gate before it moves, and every question may get another answer.

## Main definitions

* `Gate` — the answers that a gate has in store.
* `Gate.ask` — the next answer.
-/

namespace StoryGraph

/-- The answers of a gate, `true` for busy. -/
structure Gate where
  /-- The answers to the next questions, in order. -/
  upcoming : List Bool := []
  /-- The answer to every question after them. -/
  settled : Bool := false
deriving DecidableEq, Repr, Inhabited

namespace Gate

/-- The gate that is never busy. -/
def alwaysOpen : Gate := {}

/-- The next answer of a gate, and the gate that has given it. -/
def ask (g : Gate) : Bool × Gate :=
  match g.upcoming with
  | [] => (g.settled, g)
  | answer :: later => (answer, { g with upcoming := later })

end Gate

end StoryGraph
