import StoryGraph.Check.Reach
import StoryGraph.Proofs.Graph.Growth

set_option relaxedAutoImplicit false
set_option autoImplicit false

/-!
# What a search meets

When a search in breadth ends, it has met the slot at which it started, and with every slot all
those to which a link leads from there. So what it has met cannot be left by following links.

## Main definitions

* `Search.Met` — a search has met a slot.
* `Search.Followed` — the links of every slot that was met have been followed, or still wait.

## Main results

* `Search.met_meetAll`, `Search.mem_waiting_meetAll` — what meeting slots adds to a search.
* `Search.run_keeps` — what one step of a search keeps true is true at its end.
* `Search.followed_run` — at the end of a search all links have been followed.
* `Pool.reached_start`, `Pool.reached_of_mem_targets` — the start is reached, and so are the targets
  of every node that is reached.
* `Pool.reached_within` — no slot is reached but by links from the start.
-/

namespace StoryGraph

namespace Search

variable {p : Pool} {s : Search}

/-- The search `s` has met a slot. -/
def Met (s : Search) (slot : Nat) : Prop := s.met[slot]? = some true

/-! ## Meeting slots -/

/-- Meeting a slot leaves the number of slots as it is. -/
@[simp] theorem size_meet (s : Search) (slot : Nat) : (s.meet slot).met.size = s.met.size := by
  unfold meet
  split
  · split <;> simp
  · rfl

/-- Meeting a slot adds that slot alone, if there is such a slot.

**Proof sketch.** Follow the two tests of `meet`. If the slot is no slot of the search, or is met,
nothing changes and the right side says no more than the left. Otherwise one mark is written, and it
is that of the slot. -/
theorem met_meet {slot other : Nat} :
    (s.meet slot).Met other ↔ s.Met other ∨ slot = other ∧ slot < s.met.size := by
  unfold meet
  split
  case isTrue hlt =>
    split
    case isTrue hmet =>
      have hold : s.met[slot]? = some true := by rw [Array.getElem?_eq_getElem hlt, hmet]
      constructor
      · exact .inl
      · rintro (h | ⟨rfl, -⟩)
        · exact h
        · exact hold
    case isFalse =>
      by_cases h : slot = other
      · subst h
        simp [Met, hlt]
      · simp [Met, h]
  case isFalse hge => simp [hge]

/-- A slot that is met has to wait, unless it was met before. -/
theorem mem_waiting_meet {slot other : Nat} :
    other ∈ (s.meet slot).waiting ↔
      other ∈ s.waiting ∨ slot = other ∧ slot < s.met.size ∧ ¬ s.Met slot := by
  unfold meet
  split
  case isTrue hlt =>
    have hmet : s.Met slot ↔ s.met[slot] = true := by
      rw [Met, Array.getElem?_eq_getElem hlt, Option.some.injEq]
    split
    case isTrue h => simp [hmet.2 h]
    case isFalse h => simp [hmet, h, hlt, eq_comm]
  case isFalse hge => simp [hge]

/-- Meeting slots leaves the number of slots as it is. -/
@[simp] theorem size_meetAll (s : Search) (slots : List Nat) :
    (s.meetAll slots).met.size = s.met.size := by
  induction slots generalizing s with
  | nil => rfl
  | cons slot slots ih => exact (ih (s.meet slot)).trans (size_meet s slot)

/-- Meeting slots adds those of them that there are.

**Proof sketch.** Induction on the slots, for every search; the number of slots stays the same while
they are met. -/
theorem met_meetAll {slots : List Nat} {other : Nat} :
    (s.meetAll slots).Met other ↔ s.Met other ∨ other ∈ slots ∧ other < s.met.size := by
  induction slots generalizing s with
  | nil => simp [meetAll]
  | cons slot slots ih =>
    have hcons : s.meetAll (slot :: slots) = (s.meet slot).meetAll slots := rfl
    rw [hcons, ih, met_meet, size_meet, List.mem_cons]
    grind

/-- Slots that are met have to wait, unless they were met before.

**Proof sketch.** Induction on the slots, for every search. A slot that stands twice in the list
waits once, because it has been met when it comes again. -/
theorem mem_waiting_meetAll {slots : List Nat} {other : Nat} :
    other ∈ (s.meetAll slots).waiting ↔
      other ∈ s.waiting ∨ other ∈ slots ∧ other < s.met.size ∧ ¬ s.Met other := by
  induction slots generalizing s with
  | nil => simp [meetAll]
  | cons slot slots ih =>
    have hcons : s.meetAll (slot :: slots) = (s.meet slot).meetAll slots := rfl
    rw [hcons, ih, mem_waiting_meet, met_meet, size_meet, List.mem_cons]
    grind

/-! ## Following links -/

/-- Every slot that the search has met still waits, or all slots to which it leads have been met,
too. -/
def Followed (p : Pool) (s : Search) : Prop :=
  ∀ slot, s.Met slot → slot ∈ s.waiting ∨ ∀ next ∈ p.links slot, next < s.met.size → s.Met next

/-- The links of a slot that waits may be followed.

**Proof sketch.** By whether the other slot had been met before. If it had, it waits still, or it is
the one that is followed now, whose links are being met, or its links were met before. If it had
not, it has been met just now, and waits. -/
theorem Followed.meetAll (hs : s.Followed p) {slot : Nat} {later : List Nat}
    (hwaiting : s.waiting = slot :: later) :
    Followed p ({ s with waiting := later }.meetAll (p.links slot)) := by
  intro other hother
  rw [met_meetAll] at hother
  rw [mem_waiting_meetAll, size_meetAll]
  by_cases hold : s.Met other
  · rcases hs other hold with hwait | hall
    · rw [hwaiting, List.mem_cons] at hwait
      rcases hwait with rfl | hlater
      · exact .inr fun next hnext hlt => met_meetAll.2 (.inr ⟨hnext, hlt⟩)
      · exact .inl (.inl hlater)
    · exact .inr fun next hnext hlt => met_meetAll.2 (.inl (hall next hnext hlt))
  · rcases hother with h | ⟨hmem, hlt⟩
    · exact absurd h hold
    · exact .inl (.inr ⟨hmem, hlt, hold⟩)

/-- A search in which no slot waits is at its end. -/
theorem run_of_nil (h : s.waiting = []) : run p s = s := by
  rw [run]
  split
  case h_1 => rfl
  case h_2 slot later hcons => rw [h] at hcons; contradiction

/-- A search in which a slot waits goes on with the links of that slot. -/
theorem run_of_cons {slot : Nat} {later : List Nat} (h : s.waiting = slot :: later) :
    run p s = run p ({ s with waiting := later }.meetAll (p.links slot)) := by
  rw [run]
  split
  case h_1 hnil => rw [h] at hnil; contradiction
  case h_2 slot' later' hcons =>
    obtain ⟨rfl, rfl⟩ := List.cons.inj (h.symm.trans hcons)
    rfl

/-- What following the links of one slot keeps true is true at the end of a search, and then no
slot waits any more.

**Proof sketch.** By the recursion of `run`, which ends when no slot waits and otherwise follows the
links of the first one. -/
theorem run_keeps {P : Search → Prop}
    (hstep : ∀ s slot later, s.waiting = slot :: later → P s →
      P ({ s with waiting := later }.meetAll (p.links slot)))
    (hs : P s) : P (run p s) ∧ (run p s).waiting = [] := by
  induction s using run.induct p with
  | case1 s hnil =>
    rw [run_of_nil hnil]
    exact ⟨hs, hnil⟩
  | case2 s slot later hcons ih =>
    rw [run_of_cons hcons]
    exact ih (hstep s slot later hcons hs)

/-- A search carried to its end leaves the number of slots as it is. -/
theorem size_run (p : Pool) (s : Search) : (run p s).met.size = s.met.size :=
  (run_keeps (P := fun t => t.met.size = s.met.size)
    (fun _ _ _ _ ht => (size_meetAll _ _).trans ht) rfl).1

/-- A search carried to its end has met what it had met before. -/
theorem met_run {slot : Nat} (h : s.Met slot) : (run p s).Met slot :=
  (run_keeps (P := (Met · slot)) (fun _ _ _ _ ht => met_meetAll.2 (.inl ht)) h).1

/-- A search carried to its end has followed the links of all slots that it has met.

**Proof sketch.** That the links of all met slots are met or going to be is kept by
`Followed.meetAll` up to the end of the search, by `run_keeps`, and at the end no slot waits. -/
theorem followed_run (hs : s.Followed p) {slot next : Nat} (h : (run p s).Met slot)
    (hnext : next ∈ p.links slot) (hlt : next < s.met.size) : (run p s).Met next := by
  obtain ⟨hfollowed, hnone⟩ :=
    run_keeps (P := Followed p) (fun _ _ _ hcons ht => ht.meetAll hcons) hs
  rcases hfollowed slot h with hwaiting | hall
  · rw [hnone] at hwaiting
    contradiction
  · exact hall next hnext (by rwa [size_run])

/-- A search carried to its end has met no other slots than those to which links lead from the slots
that waited.

**Proof sketch.** The invariant of the run is that the class `C` holds of all met and of all waiting
slots. One step moves a waiting slot out and meets its links, which are in `C` as the slot is. -/
theorem met_run_within {C : Nat → Prop} (hlinks : ∀ slot, C slot → ∀ next ∈ p.links slot, C next)
    (hmet : ∀ slot, s.Met slot → C slot) (hwaiting : ∀ slot ∈ s.waiting, C slot) {slot : Nat}
    (h : (run p s).Met slot) : C slot := by
  refine (run_keeps (P := fun t => (∀ slot, t.Met slot → C slot) ∧ ∀ slot ∈ t.waiting, C slot) ?_
    ⟨hmet, hwaiting⟩).1.1 slot h
  intro t first later hcons ⟨hmet, hwaiting⟩
  rw [hcons, List.forall_mem_cons] at hwaiting
  have hnew : ∀ next ∈ p.links first, C next := hlinks first hwaiting.1
  constructor
  · intro next hnext
    rcases met_meetAll.1 hnext with hold | ⟨hmem, -⟩
    · exact hmet next hold
    · exact hnew next hmem
  · intro next hnext
    rcases mem_waiting_meetAll.1 hnext with hold | ⟨hmem, -⟩
    · exact hwaiting.2 next hold
    · exact hnew next hmem

/-- A search that has just started has met the slot of its start alone. -/
theorem met_start {start : NodeId} {slot : Nat} :
    (Search.start p start).Met slot ↔ p.slotOf? start = some slot ∧ slot < p.nodes.size := by
  rw [Search.start, met_meetAll]
  simp [Met, Array.getElem?_replicate]

/-- A search that has just started has a mark for each slot of the pool. -/
theorem size_met_start (p : Pool) (start : NodeId) :
    (Search.start p start).met.size = p.nodes.size := by
  simp [Search.start]

/-- In a search that has just started every slot that was met waits. -/
theorem followed_start (start : NodeId) : Followed p (Search.start p start) := by
  intro slot h
  obtain ⟨hslot, hlt⟩ := met_start.1 h
  refine .inl (mem_waiting_meetAll.2 (.inr ⟨by simp [hslot], by simpa using hlt, ?_⟩))
  simp [Met, Array.getElem?_replicate]

end Search

namespace Pool

variable {p : Pool}

/-- A slot that is found by an id is one of the pool's. -/
theorem WellFormed.slot_lt (hp : p.WellFormed) {id : NodeId} {slot : Nat}
    (h : p.slotOf? id = some slot) : slot < p.nodes.size := by
  obtain ⟨n, hn, -⟩ := Option.map_eq_some_iff.1 ((hp.slotOf?_eq_some_iff id slot).1 h)
  exact (Array.getElem?_eq_some_iff.1 hn).1

/-- The slot of the start is reached. -/
theorem reached_start (hp : p.WellFormed) {start : NodeId} {slot : Nat}
    (h : p.slotOf? start = some slot) : (p.reached start)[slot]? = some true :=
  Search.met_run (Search.met_start.2 ⟨h, hp.slot_lt h⟩)

/-- The targets of a node in a slot that is reached are reached, as far as they are in the pool.

**Proof sketch.** The slot of the target is a link of the slot of the node, and lies within the
search. At its end every link of a slot that was met has been met, by `followed_run`. -/
theorem reached_of_mem_targets (hp : p.WellFormed) {start target : NodeId} {slot next : Nat}
    {n : Node} (h : (p.reached start)[slot]? = some true) (hn : p.node? slot = some n)
    (htarget : target ∈ p.targets n) (hnext : p.slotOf? target = some next) :
    (p.reached start)[next]? = some true := by
  have hlink : next ∈ p.links slot := by
    rw [links, hn]
    exact List.mem_filterMap.2 ⟨target, htarget, hnext⟩
  have hlt : next < (Search.start p start).met.size := by
    rw [Search.size_met_start]
    exact hp.slot_lt hnext
  exact Search.followed_run (Search.followed_start start) h hlink hlt

/-- Only slots to which links lead from the slot of the start are reached.

**Proof sketch.** The search begins with the slot of the start, if that is in the pool, as the one
that is met and waits. From there it is `met_run_within`. -/
theorem reached_within {C : Nat → Prop} {start : NodeId}
    (hstart : ∀ slot, p.slotOf? start = some slot → C slot)
    (hlinks : ∀ slot, C slot → ∀ next ∈ p.links slot, C next) {slot : Nat}
    (h : (p.reached start)[slot]? = some true) : C slot := by
  refine Search.met_run_within hlinks (fun slot hmet => ?_) ?_ h
  · exact hstart slot (Search.met_start.1 hmet).1
  · intro slot hwaiting
    rcases Search.mem_waiting_meetAll.1 hwaiting with h | ⟨h, -⟩
    · cases h
    · exact hstart slot (by simpa using h)

/-- As many slots are reached or not as there are. -/
theorem size_reached (p : Pool) (start : NodeId) : (p.reached start).size = p.nodes.size := by
  rw [reached, Search.size_run, Search.size_met_start]

/-- Every slot of the pool is reached or not. -/
theorem reached_eq_false_iff {start : NodeId} {slot : Nat} :
    (p.reached start)[slot]? = some false ↔
      slot < p.nodes.size ∧ (p.reached start)[slot]? ≠ some true := by
  rw [← size_reached p start]
  cases h : (p.reached start)[slot]? with
  | none => simpa using Array.getElem?_eq_none_iff.1 h
  | some b =>
    have hlt := (Array.getElem?_eq_some_iff.1 h).1
    cases b <;> simp [hlt]

end Pool

end StoryGraph
