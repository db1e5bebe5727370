set_option relaxedAutoImplicit false
set_option autoImplicit false

/-!
# Limits of a story

A compiled story has three parts, and each of them may grow up to a limit.

## Main definitions

* `Part` — the parts of a compiled story.
* `Limits` — the largest size of each part.
* `Limits.addressable` — the limits lowered to what a `Span` can address.
* `Overflow` — a part that is full.
-/

namespace StoryGraph

/-- The parts of a compiled story. -/
inductive Part where
  | nodes
  | choices
  | flagRefs
deriving DecidableEq, Repr

/-- The word that messages use for a part. -/
def Part.word : Part → String
  | .nodes => "node"
  | .choices => "choice"
  | .flagRefs => "flag reference"

/-- The largest size of each part of a compiled story. -/
structure Limits where
  maxNodes : UInt64 := 100000
  maxChoices : UInt64 := 300000
  maxFlagRefs : UInt64 := 1000000
deriving DecidableEq, Repr, Inhabited

/-- The largest place that a span can name. -/
def Limits.largestPlace : UInt64 := 0xFFFFFFFF

/-- The limits lowered to what the places of a span can address. -/
def Limits.addressable (l : Limits) : Limits where
  maxNodes := min l.maxNodes largestPlace
  maxChoices := min l.maxChoices largestPlace
  maxFlagRefs := min l.maxFlagRefs largestPlace

/-- The limit of one part. -/
def Limits.of (l : Limits) : Part → UInt64
  | .nodes => l.maxNodes
  | .choices => l.maxChoices
  | .flagRefs => l.maxFlagRefs

/-- A part of a story was to grow beyond its limit. -/
structure Overflow where
  part : Part
  limit : UInt64
deriving DecidableEq, Repr

/-- The message for a full part. -/
def Overflow.message (o : Overflow) : String :=
  s!"{o.part.word} pool exceeded its capacity of {o.limit.toNat}"

end StoryGraph
