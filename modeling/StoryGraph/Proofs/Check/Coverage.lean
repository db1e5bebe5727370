import Mathlib.Data.List.Nodup
import Mathlib.Data.List.Perm.Subperm
import StoryGraph.Proofs.Check.Issue
import StoryGraph.Proofs.Script.BrokenRun
import StoryGraph.Proofs.Script.Retelling

set_option relaxedAutoImplicit false
set_option autoImplicit false

/-!
# Choices that a check does not see

A check looks at the choices that lie in the run of some node. A choice that stands apart from the
other choices of its node may lie in no run, and then it is not reported, wherever it leads. As long
as the choices of every node stand together, none is overlooked; and some choice lies in no run just
when the journal warns of a broken one.

## Main definitions

* `Script.Covered` — a choice of a script lies in the run of some node.
* `Span.places` — the places of a run.
* `Pool.Vouches` — what a report without dangling choices says of a compiled story.

## Main results

* `Pool.danglingChoice_notMem_check_iff` — a report is without dangling choices when no choice in a
  run leads out of the story.
* `Runs.Laid.covered_iff` — runs are laid without a break just when they cover all places.
* `Pool.Retells.covers_iff` — which choices lie in runs, told of the rows.
* `Script.vouches_compile` — what the report on a compiled story vouches for.
-/

namespace StoryGraph

namespace Span

variable {α : Type} {s : Span} {backing : Array α}

/-- A run inside an array holds what stands behind its first place. -/
theorem getElem?_slice (h : s.stop ≤ backing.size) (i : Nat) :
    (s.slice backing)[i]? = if i < s.count.toNat then backing[s.offset.toNat + i]? else none := by
  simp [slice, if_pos h, List.getElem?_take]

end Span

/-! ## Choices in runs -/

namespace Pool

variable {p : Pool}

/-- The choices of a node are those in the places of its run.

**Proof sketch.** The run of a node lies within the choices, so the slice has in place `i` what the
pool has in place `offset + i`. Each direction translates the place by the offset. -/
theorem WellFormed.mem_choicesOf_iff (hp : p.WellFormed) {n : Node} (hn : n ∈ p.nodes)
    {c : Choice} :
    c ∈ p.choicesOf n ↔ ∃ place, n.choices.Covers place ∧ p.choices[place]? = some c := by
  have hget := Span.getElem?_slice (hp.stop_le n hn)
  rw [choicesOf, List.mem_iff_getElem?]
  constructor
  · rintro ⟨i, hi⟩
    rw [hget] at hi
    split at hi
    case isTrue hlt =>
      refine ⟨n.choices.offset.toNat + i, ⟨Nat.le_add_right _ _, ?_⟩, hi⟩
      rw [Span.stop]
      omega
    case isFalse => cases hi
  · rintro ⟨place, ⟨hfirst, hstop⟩, hplace⟩
    rw [Span.stop] at hstop
    refine ⟨place - n.choices.offset.toNat, ?_⟩
    rw [hget, if_pos (by omega), Nat.add_sub_cancel' hfirst, hplace]

/-- **A report is without dangling choices when no choice in a run leads out of the story.**

**Proof sketch.** The report has an issue for each choice of a node that leads out of the story, and
by `WellFormed.mem_choicesOf_iff` those choices are the ones that the run of the node covers.
Forward, a covered choice that led out would be such an issue; backward, an issue names a choice
that is covered and leads out. -/
theorem danglingChoice_notMem_check_iff (hp : p.WellFormed) :
    (∀ source place target, .danglingChoice source place target ∉ p.check.issues) ↔
      ∀ place c target, (∃ slot, Runs.Covers p.runs slot place) → p.choices[place]? = some c →
        c.goto = some target → p.contains target = true := by
  constructor
  · rintro h place c target ⟨slot, s, hs, hcovers⟩ hc hgoto
    rw [getElem?_runs, Option.map_eq_some_iff] at hs
    obtain ⟨n, hn, rfl⟩ := hs
    have hmem : n ∈ p.nodes := Array.mem_of_getElem? hn
    obtain ⟨i, hi⟩ := List.mem_iff_getElem?.1 ((hp.mem_choicesOf_iff hmem).2 ⟨place, hcovers, hc⟩)
    cases hin : p.contains target with
    | true => rfl
    | false =>
      exact absurd (danglingChoice_mem_check_iff.2 ⟨n, hmem, rfl, c, hi, hgoto, hin⟩)
        (h n.id i target)
  · intro h source i target hissue
    obtain ⟨n, hmem, -, c, hi, hgoto, hout⟩ := danglingChoice_mem_check_iff.1 hissue
    obtain ⟨slot, hn⟩ := Array.mem_iff_getElem?.1 hmem
    obtain ⟨place, hcovers, hc⟩ := (hp.mem_choicesOf_iff hmem).1 (List.mem_of_getElem? hi)
    have hrun : p.runs[slot]? = some n.choices := by
      rw [getElem?_runs, node?, hn]
      rfl
    rw [h place c target ⟨slot, n.choices, hrun, hcovers⟩ hc hgoto] at hout
    cases hout

end Pool

/-! ## Choices that stand together -/

namespace Script

/-- The choice in the place `place` lies in the run of some node: not before its first choice, and
not behind as many choices as the node has. -/
def Covered (rows : List Row) (place : Nat) : Prop :=
  ∃ id, (branches rows).findIdx (·.names id) ≤ place ∧
    place < (branches rows).findIdx (·.names id) + (branchesOf id rows).length

/-- Elements that stand together have the places that follow the first of them.

**Proof sketch.** Otherwise the element stands behind the block of those that `take_drop_findIdx`
finds together. Cut the list before and after that block: the block has as many elements with the
property as the whole list, and the part behind has one more. -/
theorem lt_findIdx_add_length {α : Type} {P : α → Bool} {l : List α} (h : l.filter P <:+: l)
    {place : Nat} {a : α} (hplace : l[place]? = some a) (ha : P a = true) :
    place < l.findIdx P + (l.filter P).length := by
  have htogether := take_drop_findIdx h
  refine Nat.lt_of_not_le fun hbehind => ?_
  -- behind the first elements with the property there would be one more
  have hsplit : l.take (l.findIdx P) ++
      (l.filter P ++ l.drop (l.findIdx P + (l.filter P).length)) = l := by
    calc l.take (l.findIdx P) ++ (l.filter P ++ l.drop (l.findIdx P + (l.filter P).length))
      _ = l.take (l.findIdx P) ++ ((l.drop (l.findIdx P)).take (l.filter P).length ++
            (l.drop (l.findIdx P)).drop (l.filter P).length) := by
          rw [htogether, List.drop_drop]
      _ = l := by rw [List.take_append_drop, List.take_append_drop]
  have hrest : a ∈ l.drop (l.findIdx P + (l.filter P).length) := by
    refine List.mem_iff_getElem?.2 ⟨place - (l.findIdx P + (l.filter P).length), ?_⟩
    rw [List.getElem?_drop, Nat.add_sub_cancel' (by omega), hplace]
  have hlength := congrArg (fun xs => (xs.filter P).length) hsplit
  have hself : (l.filter P).filter P = l.filter P := by simp
  have hpos := List.length_pos_of_mem (List.mem_filter.2 ⟨hrest, ha⟩)
  simp only [List.filter_append, List.length_append, hself] at hlength
  omega

/-- When the choices of every node stand together, each of them lies in the run of its node.

**Proof sketch.** The place is not before the first choice of the node, as that is the first whose
row names it. It is not behind the last either, by `lt_findIdx_add_length`, since they stand
together. -/
theorem covered_of_together {rows : List Row} {place : Nat} {r : Row} {id : NodeId}
    (h : branchesOf id rows <:+: branches rows) (hr : (branches rows)[place]? = some r)
    (hid : r.named? = some id) : Covered rows place := by
  have hnames : r.names id = true := by simp [Row.names, hid]
  refine ⟨id, Nat.le_of_not_lt fun hbefore => ?_, lt_findIdx_add_length h hr hnames⟩
  obtain ⟨hlt, rfl⟩ := List.getElem?_eq_some_iff.1 hr
  rw [List.not_of_lt_findIdx hbefore] at hnames
  cases hnames

end Script

/-! ## Runs that cover every choice -/

namespace Span

/-- The places of a run, in order. -/
def places (s : Span) : List Nat := List.range' s.offset.toNat s.count.toNat

/-- A run has the places that it lists. -/
theorem mem_places {s : Span} {place : Nat} : place ∈ s.places ↔ s.Covers place := by
  rw [places, List.mem_range'_1, Covers, stop]

end Span

namespace Runs

variable {runs : List Span} {size : Nat}

/-- The places of all runs are as many as are counted run by run. -/
theorem length_flatMap_places (runs : List Span) :
    (runs.flatMap Span.places).length = count runs := by
  induction runs with
  | nil => rfl
  | cons s runs ih => simp [count, Span.places, ih]

/-- Runs that have no place twice are not tangled.

**Proof sketch.** A place that two runs share would stand in the parts of the list that belong to
the two, and those have nothing in common. -/
theorem not_tangled_of_nodup (h : (runs.flatMap Span.places).Nodup) : ¬ Tangled runs := by
  rintro ⟨slot, other, place, hne, ⟨s, hs, hplace⟩, ⟨t, ht, hother⟩⟩
  have hapart := List.pairwise_iff_getElem.1 (List.nodup_flatMap.1 h).2
  obtain ⟨hslotlt, rfl⟩ := List.getElem?_eq_some_iff.1 hs
  obtain ⟨hotherlt, rfl⟩ := List.getElem?_eq_some_iff.1 ht
  rcases Nat.lt_or_gt_of_ne hne with hlt | hgt
  · exact hapart _ _ hslotlt hotherlt hlt (Span.mem_places.2 hplace) (Span.mem_places.2 hother)
  · exact hapart _ _ hotherlt hslotlt hgt (Span.mem_places.2 hother) (Span.mem_places.2 hplace)

/-- Runs with as many places as there are cover all of them only when they are not tangled: a place
that two runs share is missed elsewhere.

**Proof sketch.** List the places of all runs, one run after the other. As every place up to `size`
is among them, and they are no more than `size`, they are these places in another order, so none is
listed twice. Runs that shared a place would list it twice. -/
theorem not_tangled_of_covered (hcount : count runs = size)
    (hcovered : ∀ place < size, ∃ slot, Covers runs slot place) : ¬ Tangled runs := by
  have hsub : List.range size ⊆ runs.flatMap Span.places := by
    intro place hplace
    obtain ⟨slot, s, hs, hcovers⟩ := hcovered place (List.mem_range.1 hplace)
    exact List.mem_flatMap.2 ⟨s, List.mem_of_getElem? hs, Span.mem_places.2 hcovers⟩
  have hlength : (runs.flatMap Span.places).length ≤ (List.range size).length :=
    Nat.le_of_eq (by rw [length_flatMap_places, hcount, List.length_range])
  have hperm := (List.nodup_range.subperm hsub).perm_of_length_le hlength
  exact not_tangled_of_nodup (hperm.nodup_iff.1 List.nodup_range)

/-- Runs are laid without a break just when they cover all places.

**Proof sketch.** Runs with a break are tangled, and tangled runs leave a place uncovered, by
`not_tangled_of_covered`. Runs without one tile all places. -/
theorem Laid.covered_iff {broken : Bool} (h : Laid runs size broken) :
    (∀ place < size, ∃ slot, Covers runs slot place) ↔ broken = false := by
  constructor
  · intro hcovered
    cases hb : broken with
    | true => exact absurd (h.tangled hb) (not_tangled_of_covered h.total hcovered)
    | false => rfl
  · exact fun hb => (h.tiled hb).covered

end Runs

/-! ## What a report vouches for -/

namespace Pool

/-- The runs of a story cover the choices that its rows say.

**Proof sketch.** The span of each node is known by `Holds.count` and `Holds.offset`, so both sides
speak of the same places. A node of the pool is found by its id; an id that is not in the pool has
no choice rows, and covers nothing. -/
theorem Retells.covers_iff {p : Pool} {rows : List Row} (hp : p.Retells rows) {place : Nat} :
    (∃ slot, Runs.Covers p.runs slot place) ↔ Script.Covered rows place := by
  constructor
  · rintro ⟨slot, s, hs, hfirst, hstop⟩
    rw [getElem?_runs, Option.map_eq_some_iff] at hs
    obtain ⟨n, hn, rfl⟩ := hs
    have hcount := hp.count n.id
    have hoffset := hp.offset n.id
    rw [hp.wellFormed.nodeOf_of_node? hn] at hcount hoffset
    rw [Span.stop] at hstop
    refine ⟨n.id, ?_, ?_⟩
    · rw [← hoffset (by omega)]
      exact hfirst
    · rw [← hoffset (by omega), ← hcount]
      exact hstop
  · rintro ⟨id, hfirst, hstop⟩
    have hcount := hp.count id
    have hoffset := hp.offset id
    by_cases hid : id ∈ p.ids
    · obtain ⟨slot, hfound⟩ := hp.wellFormed.find?_of_mem_ids hid
      obtain ⟨hslot, -⟩ := hp.wellFormed.find?_eq_some_iff.1 hfound
      refine ⟨slot, (p.nodeOf id).choices, by rw [getElem?_runs, hslot]; rfl, ?_, ?_⟩
      · rw [hoffset (by omega)]
        exact hfirst
      · rw [Span.stop, hoffset (by omega), hcount]
        exact hstop
    · -- a node that is not in the story has no choices
      rw [nodeOf_of_slotOf?_eq_none (hp.wellFormed.slotOf?_eq_none_iff.2 hid)] at hcount
      have hzero : (Node.placeholder id).choices.count.toNat = 0 := rfl
      omega

/-- What a report without dangling choices says of the pool `p`, made of the rows `rows` with the
journal `journal`. -/
structure Vouches (p : Pool) (rows : List Row) (journal : Array Notice) : Prop where
  /-- The choices that lie in runs stay inside the story just when none is reported. -/
  unreported_iff :
    (∀ source place target, .danglingChoice source place target ∉ p.check.issues) ↔
      ∀ place c target, Script.Covered rows place → p.choices[place]? = some c →
        c.goto = some target → p.contains target = true
  /-- Every choice lies in a run just when the journal has no warning of a broken one. -/
  covered_iff :
    (∀ place < p.choices.size, Script.Covered rows place) ↔ ∀ n ∈ journal, n.isBrokenRun = false
  /-- Every choice lies in a run when the choices of each node stand together. -/
  covered_of_together : (∀ id, Script.branchesOf id rows <:+: Script.branches rows) →
    ∀ place < p.choices.size, Script.Covered rows place
  /-- When all choices lie in runs, none at all leads out of the story unless one is reported. -/
  stays_of_covered : (∀ place < p.choices.size, Script.Covered rows place) →
    (∀ source place target, .danglingChoice source place target ∉ p.check.issues) →
    ∀ c ∈ p.choices, ∀ target, c.goto = some target → p.contains target = true

end Pool

namespace Script

/-- A script that compiles leaves a journal as well. -/
theorem exists_journal {limits : Limits} {text : String} {p : Pool}
    (h : (compile limits text).1 = .ok p) : ∃ journal, compile limits text = (.ok p, journal) :=
  ⟨_, Prod.ext h rfl⟩

/-- The journal of a script that compiles tells how the runs of its pool lie.

**Proof sketch.** `Build.lasting_laidSince` holds of every step of the work, so `rebuild_of_lasting`
gives it for the whole work from an empty journal. The notices since then are all notices. -/
theorem laid_compile {limits : Limits} {text : String} {p : Pool} {journal : Array Notice}
    (h : compile limits text = (.ok p, journal)) :
    Runs.Laid p.runs p.choices.size (journal.toList.any (·.isBrokenRun)) := by
  have hempty : ({ pool := .empty limits } : Build).pool.Made := .empty limits
  obtain ⟨since, hjournal, hlaid⟩ := (rebuild_of_lasting (Build.lasting_laidSince #[]) text
    (Build.laidSince_reset hempty)).laid
  unfold compile at h
  split at h
  case h_1 b hb =>
    obtain ⟨rfl, rfl⟩ : b.pool = p ∧ b.journal = journal := by simpa using h
    rw [hb] at hjournal hlaid
    have hsince : b.journal.toList = since := by
      rw [hjournal]
      simp
    rwa [hsince]
  case h_2 => cases (Prod.mk.inj h).1

/-- **A report vouches for the choices that lie in runs.** If a script compiles and the check of its
pool reports no dangling choice, then no choice in the run of a node leads out of the story. These
are all choices just when the journal has no warning of a broken run, and they are whenever the
choices of each node stand together.

**Proof sketch.** A check walks the runs of the nodes, and the rows say where these start and how
long they are. All runs together have as many places as there are choices. So they cover all of them
just when no two overlap, and this is what the warnings tell. -/
theorem vouches_compile {limits : Limits} {text : String} {p : Pool} {journal : Array Notice}
    (h : compile limits text = (.ok p, journal)) : p.Vouches (rows text) journal := by
  have hp : p.Retells (rows text) := retells_compile (by rw [h])
  have hunreported := Pool.danglingChoice_notMem_check_iff hp.wellFormed
  simp only [hp.covers_iff] at hunreported
  constructor
  case unreported_iff => exact hunreported
  case covered_iff =>
    have hcovered := (laid_compile h).covered_iff
    simp only [hp.covers_iff] at hcovered
    rw [hcovered]
    simp only [List.any_eq_false, Array.mem_toList_iff, Bool.not_eq_true]
  case covered_of_together =>
    intro htogether place hplace
    have hlt : place < (branches (rows text)).length := by rwa [← hp.size_choices]
    have hr := List.getElem?_eq_getElem hlt
    obtain ⟨hmem, hlabel⟩ := List.mem_filter.1 (List.mem_of_getElem? hr)
    obtain ⟨id, hid⟩ := hp.addressed _ hmem (by simp [Row.isEffective, hlabel])
    exact covered_of_together (htogether id) hr hid
  case stays_of_covered =>
    intro hcovered hnone c hc target hgoto
    obtain ⟨place, hplace⟩ := Array.mem_iff_getElem?.1 hc
    have hlt : place < p.choices.size := (Array.getElem?_eq_some_iff.1 hplace).1
    exact hunreported.1 hnone place c target (hcovered place hlt) hplace hgoto

/-- A script with two nodes whose choices take turns. The last choice leads out of the story. -/
def lostChoice : String :=
  "\n,1\n,4\n,1,choice,,,,,,,,,,a,4\n,4,choice,,,,,,,,,,b,1\n,1,choice,,,,,,,,,,c,9"

/-- The last choice of the script lies in no run: the run of its node takes in the second choice in
its place. -/
theorem vouches_lostChoice :
    ∃ p journal, compile {} lostChoice = (.ok p, journal) ∧
      p.Vouches (rows lostChoice) journal := by
  have hok : (rebuild lostChoice { pool := .empty {} }).1 = .ok () :=
    eq_ok_of_isOk (by decide +kernel)
  obtain ⟨p, hp⟩ := exists_compile_eq_ok hok
  obtain ⟨journal, hcompile⟩ := exists_journal hp
  exact ⟨p, journal, hcompile, vouches_compile hcompile⟩

/-- A report without issues does not vouch for every choice.

**Proof sketch.** All four facts are read off the finished pool. The choice that no run covers is
the third one: it belongs to the node 1, whose run ends before it. -/
theorem overlooked_lostChoice :
    ∃ p, (compile {} lostChoice).1 = .ok p ∧ p.check.issues = [] ∧
      ∃ c ∈ p.choices, c.goto = some ⟨9⟩ ∧ p.contains ⟨9⟩ = false := by
  have hok : (rebuild lostChoice { pool := .empty {} }).1 = .ok () :=
    eq_ok_of_isOk (by decide +kernel)
  obtain ⟨p, hp⟩ := exists_compile_eq_ok hok
  obtain ⟨-, hpool⟩ := compile_eq_ok hp
  have hissues : (rebuild lostChoice { pool := .empty {} }).2.pool.check.issues = [] := by
    decide +kernel
  have hlost : ∃ c ∈ (rebuild lostChoice { pool := .empty {} }).2.pool.choices.toList,
      c.goto = some ⟨9⟩ := by
    decide +kernel
  have hout : (rebuild lostChoice { pool := .empty {} }).2.pool.contains ⟨9⟩ = false := by
    decide +kernel
  rw [hpool] at hissues hlost hout
  obtain ⟨c, hc, hgoto⟩ := hlost
  exact ⟨p, hp, hissues, c, Array.mem_toList_iff.1 hc, hgoto, hout⟩

end Script

end StoryGraph
