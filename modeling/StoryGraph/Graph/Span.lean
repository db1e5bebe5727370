set_option relaxedAutoImplicit false
set_option autoImplicit false

/-!
# Spans

Every list in a compiled story is a run of places in one long array. A span names such a run by
its first place and its length.

## Main definitions

* `Span` — a run of places.
* `Span.stop` — the place after the last one.
* `Span.slice` — what an array holds in a run.

## Implementation notes

A run that leaves the array holds nothing at all, rather than the part of it that is inside.
-/

namespace StoryGraph

/-- A run of places in an array. -/
structure Span where
  /-- The first place. -/
  offset : UInt32 := 0
  /-- The number of places. -/
  count : UInt32 := 0
deriving DecidableEq, Repr, Inhabited

namespace Span

/-- A span is empty when it has no place. -/
def isEmpty (s : Span) : Bool := s.count == 0

/-- The place after the last one. -/
def stop (s : Span) : Nat := s.offset.toNat + s.count.toNat

/-- What `backing` holds in the run `s`: nothing when the run leaves the array. -/
def slice {α : Type} (s : Span) (backing : Array α) : List α :=
  if s.stop ≤ backing.size then (backing.toList.drop s.offset.toNat).take s.count.toNat else []

/-- A run inside the array holds as many elements as it has places. -/
theorem length_slice {α : Type} (s : Span) (backing : Array α) (h : s.stop ≤ backing.size) :
    (s.slice backing).length = s.count.toNat := by
  simp only [stop] at h
  simp only [slice, stop, h, if_true, List.length_take, List.length_drop, Array.length_toList]
  omega

end Span

end StoryGraph
