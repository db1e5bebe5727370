import StoryGraph.Proofs.Check.Paths

set_option relaxedAutoImplicit false
set_option autoImplicit false

/-!
# Guarded search

The search for the nodes that can be reached, where looking up whether a slot has been met has no
result for a slot that is not one of the pool's. In a well-formed pool no link leads to such a slot,
so the guarded search comes to its end as the search does.

## Main definitions

* `Search.guardedMeet`, `Search.guardedRun` — one slot is met, and the search is carried to its end.
* `Pool.guardedReached` — the slots to which a path of links leads.

## Main results

* `Search.guardedRun_eq` — a search among the slots of the pool is never held up.
* `Pool.WellFormed.guardedReached_eq` — no search in a well-formed pool is held up.
-/

namespace StoryGraph

namespace Search

/-- Meets a slot, which must be one of those that can be met. -/
def guardedMeet (s : Search) (slot : Nat) : Option Search := do
  let met ← s.met[slot]?
  if met then return s
  return { met := s.met.setIfInBounds slot true, waiting := s.waiting ++ [slot] }

/-- Meets the slots of a list in order. -/
def guardedMeetAll (s : Search) (slots : List Nat) : Option Search := slots.foldlM guardedMeet s

variable {p : Pool} {s : Search}

/-- A slot that can be met is met as it would be without a guard. -/
theorem guardedMeet_of_lt {slot : Nat} (h : slot < s.met.size) :
    s.guardedMeet slot = some (s.meet slot) := by
  unfold guardedMeet meet
  rw [Array.getElem?_eq_getElem h, dif_pos h, Array.setIfInBounds, dif_pos h]
  cases s.met[slot] <;> rfl

/-- A slot that cannot be met holds the search up. -/
theorem guardedMeet_of_ge {slot : Nat} (h : s.met.size ≤ slot) : s.guardedMeet slot = none := by
  unfold guardedMeet
  rw [Array.getElem?_eq_none h]
  rfl

/-- Slots that can be met are met as they would be without a guard. -/
theorem guardedMeetAll_of_lt {slots : List Nat} (h : ∀ slot ∈ slots, slot < s.met.size) :
    s.guardedMeetAll slots = some (s.meetAll slots) := by
  induction slots generalizing s with
  | nil => rfl
  | cons slot slots ih =>
    rw [List.forall_mem_cons] at h
    rw [guardedMeetAll, List.foldlM_cons, guardedMeet_of_lt h.1]
    exact ih (by simpa using h.2)

/-- What comes of meeting slots, if anything does, is what would come of it without guards.

**Proof sketch.** Induction on the slots. A guarded meeting of a slot in bounds is the plain one,
and one out of bounds would have ended in nothing. -/
theorem eq_of_guardedMeetAll {slots : List Nat} {t : Search} (h : s.guardedMeetAll slots = some t) :
    t = s.meetAll slots := by
  induction slots generalizing s with
  | nil => exact (Option.some.inj h).symm
  | cons slot slots ih =>
    rw [guardedMeetAll, List.foldlM_cons] at h
    by_cases hlt : slot < s.met.size
    · rw [guardedMeet_of_lt hlt] at h
      exact ih h
    · rw [guardedMeet_of_ge (Nat.le_of_not_lt hlt)] at h
      cases h

/-- Follows the links of every waiting slot until none waits. -/
def guardedRun (p : Pool) (s : Search) : Option Search :=
  match _h : s.waiting with
  | [] => some s
  | slot :: later =>
    match _ht : guardedMeetAll { s with waiting := later } (p.links slot) with
    | some t => guardedRun p t
    | none => none
termination_by (s.unmet, s.waiting.length)
decreasing_by
  -- the search goes on, if it does, as it would without guards, and that comes to an end
  rw [eq_of_guardedMeetAll _ht]
  rcases unmet_meetAll { s with waiting := later } (p.links slot) with hsame | hless
  · rw [hsame]
    exact Prod.Lex.right _ (by simp [_h])
  · exact Prod.Lex.left _ _ hless

/-- A search among the slots of the pool is never held up.

**Proof sketch.** By the recursion of `run`. The marks are as many as the slots of the pool, and
links lead to slots of the pool, so `guardedMeetAll` succeeds; what it gives is the plain search, by
`eq_of_guardedMeetAll`, and the marks keep their number. -/
theorem guardedRun_eq (hp : p.WellFormed) (hs : s.met.size = p.nodes.size) :
    guardedRun p s = some (run p s) := by
  induction s using run.induct p with
  | case1 s hnil =>
    rw [run_of_nil hnil, guardedRun]
    split
    case h_1 => rfl
    case h_2 slot later hcons => rw [hnil] at hcons; contradiction
  | case2 s slot later hcons ih =>
    have hlinks : ∀ next ∈ p.links slot, next < Array.size { s with waiting := later }.met :=
      fun next hnext => hs ▸ hp.lt_of_mem_links hnext
    have hmeet := guardedMeetAll_of_lt hlinks
    rw [run_of_cons hcons, guardedRun]
    split
    case h_1 hnil => rw [hnil] at hcons; contradiction
    case h_2 slot' later' hcons' =>
      obtain ⟨rfl, rfl⟩ := List.cons.inj (hcons.symm.trans hcons')
      split
      case h_1 t ht =>
        rw [eq_of_guardedMeetAll ht]
        exact ih (by simpa using hs)
      case h_2 hnone => rw [hmeet] at hnone; cases hnone

/-- The search that has met the slot of one node, if that node is there. -/
def guardedStart (p : Pool) (id : NodeId) : Option Search :=
  guardedMeetAll { met := Array.replicate p.nodes.size false, waiting := [] } (p.slotOf? id).toList

end Search

namespace Pool

variable {p : Pool}

/-- Which slots a path of links from a node leads to. -/
def guardedReached (p : Pool) (start : NodeId) : Option (Array Bool) := do
  let s ← Search.guardedStart p start
  let s ← Search.guardedRun p s
  return s.met

/-- No search in a well-formed pool is held up, wherever it starts.

**Proof sketch.** The start has a slot of the pool, or none, so the search begins as without guards.
From there it is `guardedRun_eq`. -/
theorem WellFormed.guardedReached_eq (hp : p.WellFormed) (start : NodeId) :
    p.guardedReached start = some (p.reached start) := by
  have hstart : Search.guardedStart p start = some (Search.start p start) :=
    Search.guardedMeetAll_of_lt fun slot hslot => by
      simpa using hp.slot_lt (Option.mem_toList.1 hslot)
  have hrun := Search.guardedRun_eq hp (Search.size_met_start p start)
  rw [guardedReached, hstart, Option.bind_eq_bind, Option.bind_some, hrun]
  rfl

end Pool

end StoryGraph
