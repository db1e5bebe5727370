import Mathlib.Data.List.Nodup
import Mathlib.Data.List.Perm.Subperm
import Mathlib.Logic.Relation
import StoryGraph.Proofs.Check.Issue
import StoryGraph.Proofs.Script.Editing

set_option relaxedAutoImplicit false
set_option autoImplicit false

/-!
# Paths of links

A node is reached just when a path of links leads to it, and these are the paths that a reader of
the story can see: from a node to its successor and to the goals of its choices, as far as they are
in the story. The search that looks for them lets every slot wait once at most, so that it ends
whatever the links are.

## Main definitions

* `Pool.Link`, `Pool.Leads` — one link of a story, and a path of links.
* `Pool.lost` — the nodes to which no path leads.
* `Search.Follows` — a search has followed the links of some slots, one after the other.
* `Search.Listed` — the slots that were met are those followed and those that wait, each once.
* `Pool.ChecksPaths` — what a check from a start reports, and how the search for it goes.

## Main results

* `Pool.reached_iff_leads` — a slot is reached just when a path leads to its node.
* `Search.Follows.listed` — no slot waits twice.
* `Build.checksPaths_edited` — whatever is done to a build, a check of its pool reports the nodes to
  which no path leads.
-/

namespace StoryGraph

namespace Pool

variable {p : Pool}

/-- A node leads to its successor and to the goal of each of its choices, if these are in the
story. -/
inductive Link (p : Pool) : NodeId → NodeId → Prop
  | next {n : Node} {target : NodeId} (hn : n ∈ p.nodes) (hnext : n.next = some target)
      (hin : p.contains target = true) : Link p n.id target
  | choice {n : Node} {c : Choice} {target : NodeId} (hn : n ∈ p.nodes) (hc : c ∈ p.choicesOf n)
      (hgoto : c.goto = some target) (hin : p.contains target = true) : Link p n.id target

/-- A path of links leads from a node of the story to another. -/
def Leads (p : Pool) (start id : NodeId) : Prop :=
  p.contains start = true ∧ Relation.ReflTransGen p.Link start id

/-- The nodes to which no path leads from the start, in the order of their slots. -/
noncomputable def lost (p : Pool) (start : NodeId) : List Node :=
  open Classical in p.nodes.toList.filter fun n => ¬ p.Leads start n.id

/-! ## Paths and slots -/

/-- The targets of a node are its successor and the goals of its choices. -/
theorem mem_targets_iff {n : Node} {target : NodeId} :
    target ∈ p.targets n ↔
      n.next = some target ∨ ∃ c ∈ p.choicesOf n, c.goto = some target := by
  rw [targets, List.mem_append, Option.mem_toList, List.mem_filterMap]

/-- A link leads to a target that is in the story. -/
theorem link_iff {source target : NodeId} :
    p.Link source target ↔
      ∃ n ∈ p.nodes, n.id = source ∧ target ∈ p.targets n ∧ p.contains target = true := by
  constructor
  · rintro (⟨hn, hnext, hin⟩ | ⟨hn, hc, hgoto, hin⟩)
    · exact ⟨_, hn, rfl, mem_targets_iff.2 (.inl hnext), hin⟩
    · exact ⟨_, hn, rfl, mem_targets_iff.2 (.inr ⟨_, hc, hgoto⟩), hin⟩
  · rintro ⟨n, hn, rfl, htarget, hin⟩
    rcases mem_targets_iff.1 htarget with hnext | ⟨c, hc, hgoto⟩
    · exact .next hn hnext hin
    · exact .choice hn hc hgoto hin

/-- The links of a slot lead to the slots of nodes to which its node leads.

**Proof sketch.** The links are the targets of the node that have a slot, and a target has a slot
exactly when it is in the story. Backward, the node of the link has the id of `n`, and ids are
unique in the pool. -/
theorem WellFormed.mem_links_iff (hp : p.WellFormed) {slot next : Nat} {n : Node}
    (hn : p.node? slot = some n) :
    next ∈ p.links slot ↔ ∃ target, p.Link n.id target ∧ p.slotOf? target = some next := by
  have hmem : n ∈ p.nodes := Array.mem_of_getElem? hn
  rw [links, hn, List.mem_filterMap]
  constructor
  · rintro ⟨target, htarget, hslot⟩
    have hin : p.contains target = true := by
      rw [WellFormed.contains_iff, hslot, Option.isSome_some]
    exact ⟨target, link_iff.2 ⟨n, hmem, rfl, htarget, hin⟩, hslot⟩
  · rintro ⟨target, hlink, hslot⟩
    obtain ⟨m, hm, hid, htarget, -⟩ := link_iff.1 hlink
    obtain rfl := hp.eq_of_id_eq hm hmem hid
    exact ⟨target, htarget, hslot⟩

/-- **A slot is reached just when a path of links leads to its node.**

**Proof sketch.** Forward by `reached_within`: the slots to whose nodes a path leads include the
start and are closed under links. Backward by induction on the path: the start is reached, and the
slot behind a link is reached when the one before it is, by `reached_of_mem_targets`. -/
theorem reached_iff_leads (hp : p.WellFormed) {start : NodeId} {slot : Nat} {n : Node}
    (hn : p.node? slot = some n) :
    (p.reached start)[slot]? = some true ↔ p.Leads start n.id := by
  constructor
  · intro hreached
    have hfound : ∃ m, p.node? slot = some m ∧ p.Leads start m.id := by
      refine reached_within (C := fun slot => ∃ m, p.node? slot = some m ∧ p.Leads start m.id)
        ?_ ?_ hreached
      · intro first hfirst
        obtain ⟨m, hm, rfl⟩ := Option.map_eq_some_iff.1 ((hp.slotOf?_eq_some_iff _ _).1 hfirst)
        exact ⟨m, hm, by rw [WellFormed.contains_iff, hfirst, Option.isSome_some], .refl⟩
      · rintro first ⟨m, hm, hin, hpath⟩ next hnext
        obtain ⟨target, hlink, hslot⟩ := (hp.mem_links_iff hm).1 hnext
        obtain ⟨q, hq, rfl⟩ := Option.map_eq_some_iff.1 ((hp.slotOf?_eq_some_iff _ _).1 hslot)
        exact ⟨q, hq, hin, hpath.tail hlink⟩
    obtain ⟨m, hm, hleads⟩ := hfound
    rw [hn, Option.some.injEq] at hm
    rwa [hm]
  · rintro ⟨-, hpath⟩
    -- A link leads to an id, so the induction speaks of ids and of whatever slots they have.
    have hall : ∀ id, Relation.ReflTransGen p.Link start id →
        ∀ slot, p.slotOf? id = some slot → (p.reached start)[slot]? = some true := by
      intro id hpath
      induction hpath with
      | refl => exact fun slot hslot => reached_start hp hslot
      | tail _ hlink ih =>
        intro next hnext
        obtain ⟨m, hm, rfl, htarget, -⟩ := link_iff.1 hlink
        obtain ⟨before, hbefore⟩ := Array.mem_iff_getElem?.1 hm
        have hmet := ih before (hp.slotOf?_of_node? hbefore)
        exact reached_of_mem_targets hp hmet hbefore htarget hnext
    exact hall n.id hpath slot (hp.slotOf?_of_node? hn)

/-! ## The report -/

/-- Elements that are marked are left out, and each of the others is told, in their order.

**Proof sketch.** Induction on the elements. Each of them stands beside its own mark. -/
theorem filterMap_zip_map {α β : Type} (marked : α → Bool) (tell : α → β) (as : List α) :
    ((as.zip (as.map marked)).filterMap fun (a, m) => if m then none else some (tell a)) =
      (as.filter fun a => !marked a).map tell := by
  induction as with
  | nil => rfl
  | cons a as ih =>
    rw [List.map_cons, List.zip_cons_cons, List.filterMap_cons, ih, List.filter_cons]
    cases marked a <;> rfl

/-- The nodes that are reported as unreachable are those to which no path leads.

**Proof sketch.** By `reached_iff_leads` the marks of the search are, slot by slot, whether a path
leads to the node. So the nodes zipped with their marks and filtered are the nodes filtered by that.
-/
theorem unreachableIssues_eq (hp : p.WellFormed) (start : NodeId) :
    p.unreachableIssues start = (p.lost start).map fun n => .unreachable n.id := by
  classical
  have hreached : (p.reached start).toList =
      p.nodes.toList.map fun n => decide (p.Leads start n.id) := by
    refine List.ext_getElem? fun slot => ?_
    rw [List.getElem?_map, Array.getElem?_toList, Array.getElem?_toList]
    cases hn : p.nodes[slot]? with
    | none =>
      rw [Array.getElem?_eq_none_iff] at hn
      rw [Option.map_none, Array.getElem?_eq_none_iff, size_reached]
      exact hn
    | some n =>
      have hiff : (p.reached start)[slot]? = some true ↔ p.Leads start n.id :=
        reached_iff_leads hp hn
      rw [Option.map_some]
      by_cases hleads : p.Leads start n.id
      · rw [hiff.2 hleads, decide_eq_true hleads]
      · rw [decide_eq_false hleads, reached_eq_false_iff, ne_eq, hiff]
        exact ⟨(Array.getElem?_eq_some_iff.1 hn).1, hleads⟩
  have htold := filterMap_zip_map (fun n => decide (p.Leads start n.id))
    (fun n => Issue.unreachable n.id) p.nodes.toList
  rw [unreachableIssues, hreached]
  refine htold.trans (congrArg _ (List.filter_congr fun n _ => ?_))
  rw [decide_not]

end Pool

namespace Search

variable {p : Pool} {s t : Search} {done : List Nat}

/-! ## How a search goes -/

/-- From `s` a search comes to `t` when it follows the links of the slots `done`, each as it is
the first that waits. -/
inductive Follows (p : Pool) (s : Search) : List Nat → Search → Prop
  | start : Follows p s [] s
  | next {done later : List Nat} {slot : Nat} {t : Search} (h : Follows p s done t)
      (hwaiting : t.waiting = slot :: later) :
      Follows p s (done ++ [slot]) ({ t with waiting := later }.meetAll (p.links slot))

/-- The slots that were met are those in `done` and those that wait, each of them once. -/
structure Listed (done : List Nat) (s : Search) : Prop where
  nodup : (done ++ s.waiting).Nodup
  mem_iff : ∀ slot, slot ∈ done ++ s.waiting ↔ s.Met slot

/-- A slot that is met is listed, unless it is listed already.

**Proof sketch.** A slot that is not in the search or is met already changes nothing. Any other is
appended to those that wait and gets its mark. It was not listed before, as exactly the met slots
are, so no slot is listed twice. -/
theorem Listed.meet (h : Listed done s) (slot : Nat) : Listed done (s.meet slot) := by
  by_cases hnew : slot < s.met.size ∧ ¬ s.Met slot
  · have hwaiting : (s.meet slot).waiting = s.waiting ++ [slot] := by
      have hfalse : s.met[slot] = false := by
        have := hnew.2
        rw [Met, Array.getElem?_eq_getElem hnew.1, Option.some.injEq] at this
        exact Bool.eq_false_iff.2 this
      simp [Search.meet, hnew.1, hfalse]
    constructor
    · rw [hwaiting, ← List.append_assoc]
      apply List.Nodup.append h.nodup (List.nodup_singleton slot)
      rw [List.disjoint_singleton, h.mem_iff]
      exact hnew.2
    · intro other
      rw [hwaiting, ← List.append_assoc, List.mem_append, h.mem_iff, met_meet, List.mem_singleton]
      grind
  · have hsame : s.meet slot = s := by
      unfold Search.meet
      split
      case isTrue hlt =>
        split
        case isTrue => rfl
        case isFalse hmet =>
          refine absurd ⟨hlt, fun h => hmet ?_⟩ hnew
          rwa [Met, Array.getElem?_eq_getElem hlt, Option.some.injEq] at h
      case isFalse => rfl
    rwa [hsame]

/-- Slots that are met are listed, those that were listed before but once. -/
theorem Listed.meetAll (h : Listed done s) (slots : List Nat) :
    Listed done (s.meetAll slots) := by
  induction slots generalizing s with
  | nil => exact h
  | cons slot slots ih => exact ih (h.meet slot)

/-- In a search that has just started only the slot of the start is listed, if there is one. -/
theorem listed_start (p : Pool) (start : NodeId) : Listed [] (Search.start p start) := by
  refine Listed.meetAll ?_ _
  constructor
  · exact List.nodup_nil
  · simp [Met, Array.getElem?_replicate]

/-- As long as a search goes on, no slot waits twice.

**Proof sketch.** Induction on how far the search has come. The slot that is followed goes from
those that wait to those that are done, so the same slots are listed, and its links are met by
`Listed.meetAll`. -/
theorem Follows.listed (h : Follows p s done t) (hs : Listed [] s) : Listed done t := by
  induction h with
  | start => exact hs
  | @next done later slot t _ hwaiting ih =>
    -- the slot that is followed goes from the front of those that wait to the end of those done
    have hmove : done ++ [slot] ++ later = done ++ t.waiting := by
      rw [hwaiting, List.append_assoc, List.singleton_append]
    refine Listed.meetAll ⟨?_, fun other => ?_⟩ _
    · rw [hmove]
      exact ih.nodup
    · rw [hmove]
      exact ih.mem_iff other

/-- As long as a search goes on, the number of slots stays the same. -/
theorem Follows.size_met (h : Follows p s done t) : t.met.size = s.met.size := by
  induction h with
  | start => rfl
  | next _ _ ih => rw [size_meetAll, ← ih]

/-- A search carried to its end has followed the links of slots one after the other. -/
theorem exists_follows_run (p : Pool) (s : Search) :
    ∃ done, Follows p s done (run p s) ∧ (run p s).waiting = [] := by
  obtain ⟨⟨done, hdone⟩, hnone⟩ := run_keeps (p := p) (P := fun t => ∃ done, Follows p s done t)
    (fun t slot later hwaiting ⟨done, hdone⟩ => ⟨done ++ [slot], hdone.next hwaiting⟩)
    ⟨[], .start⟩
  exact ⟨done, hdone, hnone⟩

/-- No more slots are listed than there are. -/
theorem Listed.length_le (h : Listed done s) : (done ++ s.waiting).length ≤ s.met.size := by
  have hsub : done ++ s.waiting ⊆ List.range s.met.size := by
    intro slot hslot
    have hmet : s.met[slot]? = some true := (h.mem_iff slot).1 hslot
    exact List.mem_range.2 (Array.getElem?_eq_some_iff.1 hmet).1
  simpa using (h.nodup.subperm hsub).length_le

end Search

/-! ## Checks of any build -/

namespace Pool

variable {p : Pool}

/-- Links lead to slots of the pool. -/
theorem WellFormed.lt_of_mem_links (hp : p.WellFormed) {slot next : Nat}
    (h : next ∈ p.links slot) : next < p.nodes.size := by
  unfold links at h
  split at h
  · obtain ⟨target, -, hslot⟩ := List.mem_filterMap.1 h
    exact hp.slot_lt hslot
  · cases h

/-- What a check of the pool `p` from the node `start` reports beyond the issues that nodes show by
themselves, and how the search for it goes. -/
structure ChecksPaths (p : Pool) (start : NodeId) : Prop where
  /-- The nodes to which no path leads are reported last, in the order of their slots. -/
  issues_eq : (p.checkFrom start).issues =
    p.check.issues ++ (p.lost start).map fun n => .unreachable n.id
  /-- Each of them is reported once. -/
  nodup_lost : ((p.lost start).map (·.id)).Nodup
  /-- From a start that is not in the story no path leads anywhere. -/
  lost_of_absent : p.contains start = false → p.lost start = p.nodes.toList
  /-- The search comes to an end, where no slot waits. -/
  ends : ∃ done, Search.Follows p (.start p start) done (.run p (.start p start)) ∧
    (Search.run p (.start p start)).waiting = []
  /-- However far it goes, no slot comes to wait twice. -/
  nodup_listed : ∀ done t, Search.Follows p (.start p start) done t → (done ++ t.waiting).Nodup
  /-- It does not go further than there are slots. -/
  length_le : ∀ done t, Search.Follows p (.start p start) done t →
    (done ++ t.waiting).length ≤ p.nodes.size
  /-- It starts at a slot of the pool. -/
  start_lt : ∀ slot, p.slotOf? start = some slot → slot < (Search.start p start).met.size
  /-- It looks up and marks no slots but those of the pool. -/
  inside : ∀ done t, Search.Follows p (.start p start) done t → t.met.size = p.nodes.size ∧
    ∀ slot ∈ t.waiting, slot < t.met.size ∧ ∀ next ∈ p.links slot, next < t.met.size

end Pool

/-- **A check from a start reports the nodes to which no path of links leads.** Whatever is done to
a build, a check of its pool reports each of them once, behind all other issues and in the order of
their slots. The search for them lets every slot wait once at most and comes to an end.

**Proof sketch.** What a search has met when it ends cannot be left by links, and only links lead
there. Until then a slot that is met is one whose links were followed or one that waits, but not
both, and a slot that was met is never met again. -/
theorem Build.checksPaths_edited (limits : Limits) (es : List Edit) (start : NodeId) :
    (edited limits es).pool.ChecksPaths start := by
  have hp := (made_edited limits es).wellFormed
  generalize (edited limits es).pool = p at hp
  have hsize := Search.size_met_start p start
  constructor
  case issues_eq => rw [Pool.checkFrom, Pool.unreachableIssues_eq hp]
  case nodup_lost => exact hp.ids_nodup.sublist (List.filter_sublist.map _)
  case lost_of_absent =>
    classical
    intro habsent
    apply List.filter_eq_self.2
    intro n _
    rw [decide_eq_true_iff]
    rintro ⟨hin, -⟩
    rw [habsent] at hin
    cases hin
  case ends => exact Search.exists_follows_run p _
  case nodup_listed => exact fun _ _ h => (h.listed (Search.listed_start p start)).nodup
  case length_le =>
    intro done t h
    rw [← hsize, ← h.size_met]
    exact (h.listed (Search.listed_start p start)).length_le
  case start_lt =>
    intro slot hslot
    rw [hsize]
    exact hp.slot_lt hslot
  case inside =>
    intro done t h
    have htsize : t.met.size = p.nodes.size := h.size_met.trans hsize
    refine ⟨htsize, fun slot hslot => ⟨?_, fun next hnext => ?_⟩⟩
    · have hmet : t.met[slot]? = some true :=
        ((h.listed (Search.listed_start p start)).mem_iff slot).1 (List.mem_append_right _ hslot)
      exact (Array.getElem?_eq_some_iff.1 hmet).1
    · rw [htsize]
      exact hp.lt_of_mem_links hnext

end StoryGraph
