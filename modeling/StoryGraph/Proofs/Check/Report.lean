import Mathlib.Data.Prod.Lex
import StoryGraph.Proofs.Check.Issue
import StoryGraph.Proofs.Script.Editing

set_option relaxedAutoImplicit false
set_option autoImplicit false

/-!
# What a report says

A report has each fault of a story once and nothing else. Its issues stand node by node in the order
of the slots, and those of one node in the order of their kinds, choices by their places and flags
in ascending order.

## Main definitions

* `Issue.node`, `Issue.rank` — the node that an issue is about, and its place among the issues of
  that node.
* `Pool.Precedes` — one issue of a story stands before another.
* `Pool.Mentions` — a node or one of its choices names a flag.
* `Pool.Reports` — what the issues of a report say of a story.

## Main results

* `pairwise_ascending`, `mem_ascending_iff` — a list of flags put in ascending order.
* `Pool.mem_check_iff_mem_nodeIssues` — the issues about a node are those that it shows.
* `Pool.pairwise_precedes_check` — the issues of a report stand in order.
* `Build.reports_check_edited` — whatever is done to a build, the check of its pool reports each
  fault of it once.
-/

namespace StoryGraph

/-! ## Flags in ascending order -/

/-- A flag that is put in its place is added, and no other.

**Proof sketch.** Induction on the list, along the three cases of `insertAscending`: in front of the
first element, equal to it, or further down. -/
theorem mem_insertAscending_iff {f g : FlagId} {fs : List FlagId} :
    g ∈ insertAscending f fs ↔ g = f ∨ g ∈ fs := by
  induction fs with
  | nil => simp [insertAscending]
  | cons first fs ih =>
    rw [insertAscending]
    split
    case isTrue => rw [List.mem_cons]
    case isFalse =>
      split
      case isTrue h => simp [h]
      case isFalse =>
        rw [List.mem_cons, ih, List.mem_cons]
        exact or_left_comm

/-- A flag that is put in its place leaves the flags in strictly ascending order.

**Proof sketch.** Induction on the list. A flag in front is less than the first one and so than all.
An equal flag changes nothing. A greater one goes further down, and what stands there afterwards is
that flag or an old one, both greater than the first. -/
theorem pairwise_insertAscending (f : FlagId) {fs : List FlagId}
    (h : fs.Pairwise fun i j => i.toInt < j.toInt) :
    (insertAscending f fs).Pairwise fun i j => i.toInt < j.toInt := by
  induction fs with
  | nil => exact List.pairwise_singleton _ f
  | cons first fs ih =>
    rw [List.pairwise_cons] at h
    rw [insertAscending]
    split
    case isTrue hlt =>
      rw [Int32.lt_iff_toInt_lt] at hlt
      refine List.pairwise_cons.2 ⟨fun g hg => ?_, List.pairwise_cons.2 h⟩
      rcases List.mem_cons.1 hg with rfl | hg
      · exact hlt
      · exact Int.lt_trans hlt (h.1 g hg)
    case isFalse hge =>
      split
      case isTrue => exact List.pairwise_cons.2 h
      case isFalse hne =>
        refine List.pairwise_cons.2 ⟨fun g hg => ?_, ih h.2⟩
        rcases mem_insertAscending_iff.1 hg with rfl | hg
        · rw [Int32.lt_iff_toInt_lt] at hge
          rw [← Int32.toInt_inj] at hne
          omega
        · exact h.1 g hg

/-- Putting flags in order neither adds any nor drops any. -/
theorem mem_ascending_iff {f : FlagId} {fs : List FlagId} : f ∈ ascending fs ↔ f ∈ fs := by
  induction fs with
  | nil => rfl
  | cons first fs ih =>
    have hcons : ascending (first :: fs) = insertAscending first (ascending fs) := rfl
    rw [hcons, mem_insertAscending_iff, ih, List.mem_cons]

/-- Flags that are put in order ascend strictly, so that none is there twice. -/
theorem pairwise_ascending (fs : List FlagId) :
    (ascending fs).Pairwise fun i j => i.toInt < j.toInt := by
  induction fs with
  | nil => exact List.Pairwise.nil
  | cons first fs ih => exact pairwise_insertAscending first ih

/-! ## The order of issues -/

namespace Issue

/-- The node that an issue is about. -/
def node : Issue → NodeId
  | danglingNext source _ => source
  | danglingChoice source _ _ => source
  | placeholderOnly node => node
  | flagOutOfRange node _ => node
  | unreachable node => node

/-- The place of an issue among those of its node: by its kind, then by the place of a choice or by
a flag. -/
def rank : Issue → Nat ×ₗ Int
  | placeholderOnly _ => toLex (0, 0)
  | danglingNext _ _ => toLex (1, 0)
  | danglingChoice _ choice _ => toLex (2, choice)
  | flagOutOfRange _ flag => toLex (3, flag.toInt)
  | unreachable _ => toLex (4, 0)

/-- An issue of an earlier kind has the lower rank. -/
theorem rank_lt_of_fst_lt {a b : Issue} (h : a.rank.1 < b.rank.1) : a.rank < b.rank :=
  Prod.Lex.lt_iff.2 (.inl h)

end Issue

namespace Pool

variable {p : Pool} {n : Node} {issue : Issue}

/-- The issue `a` of a story stands before the issue `b`: its node has an earlier slot, or the two
are about one node and `a` has the lower rank. -/
def Precedes (p : Pool) (a b : Issue) : Prop :=
  ∃ slot other, p.slotOf? a.node = some slot ∧ p.slotOf? b.node = some other ∧
    (slot < other ∨ slot = other ∧ a.rank < b.rank)

/-- No issue stands before itself. -/
theorem Precedes.ne {a b : Issue} (h : p.Precedes a b) : a ≠ b := by
  rintro rfl
  obtain ⟨slot, other, hslot, hother, hlt | ⟨-, hrank⟩⟩ := h
  · rw [hslot, Option.some.injEq] at hother
    omega
  · exact lt_irrefl _ hrank

/-- The issues of a node are the four kinds of them. -/
theorem mem_nodeIssues_iff :
    issue ∈ p.nodeIssues n ↔ issue ∈ placeholderIssues n ∨ issue ∈ p.nextIssues n ∨
      issue ∈ p.choiceIssues n ∨ issue ∈ p.flagIssues n := by
  simp [nodeIssues]

/-- A node shows issues about itself alone. -/
theorem node_of_mem_nodeIssues (h : issue ∈ p.nodeIssues n) : issue.node = n.id := by
  rw [mem_nodeIssues_iff, mem_placeholderIssues_iff, mem_nextIssues_iff, mem_choiceIssues_iff,
    mem_flagIssues_iff] at h
  obtain ⟨-, rfl⟩ | ⟨_, -, -, rfl⟩ | ⟨_, _, _, -, -, -, rfl⟩ | ⟨_, -, rfl⟩ := h <;> rfl

/-- The issues about a node are those that it shows.

**Proof sketch.** An issue of the report is shown by some node, which it names. The node with that
id is the only one. -/
theorem mem_check_iff_mem_nodeIssues (hp : p.WellFormed) (hn : n ∈ p.nodes)
    (hnode : issue.node = n.id) : issue ∈ p.check.issues ↔ issue ∈ p.nodeIssues n := by
  simp only [mem_check_iff, ← mem_nodeIssues_iff]
  constructor
  · rintro ⟨m, hm, hissue⟩
    have hid : m.id = n.id := (node_of_mem_nodeIssues hissue).symm.trans hnode
    rwa [hp.eq_of_id_eq hm hn hid] at hissue
  · exact fun hissue => ⟨n, hn, hissue⟩

/-- The choices that lead out of the story are shown in the order of their places.

**Proof sketch.** The places of the choices ascend, and filtering keeps the order. An issue of a
choice has the place of that choice in its rank. -/
theorem pairwise_choiceIssues (p : Pool) (n : Node) :
    (p.choiceIssues n).Pairwise fun a b => a.rank < b.rank := by
  have hplaces : ((p.choicesOf n).zipIdx.map Prod.snd).Pairwise (· < ·) := by
    rw [List.zipIdx_map_snd]
    exact List.pairwise_lt_range'
  rw [List.pairwise_map] at hplaces
  refine hplaces.filterMap _ ?_
  rintro ⟨c, place⟩ ⟨d, later⟩ hlt a ha b hb
  -- a place shows its own issue or none
  have hrank : a.rank = toLex (2, (place : Int)) ∧ b.rank = toLex (2, (later : Int)) := by
    constructor
    · cases hgoto : c.goto <;> grind [Issue.rank]
    · cases hgoto : d.goto <;> grind [Issue.rank]
  rw [hrank.1, hrank.2, Prod.Lex.toLex_lt_toLex]
  exact .inr ⟨rfl, Int.ofNat_lt.2 hlt⟩

/-- The issues of a node stand in the order of their kinds, choices by their places and flags in
ascending order.

**Proof sketch.** Four lists stand behind each other, one for each kind, and the kind comes first in
the rank. So each list has to be in order by itself, and any issue of an earlier list has a smaller
kind than one of a later. -/
theorem pairwise_nodeIssues (p : Pool) (n : Node) :
    (p.nodeIssues n).Pairwise fun a b => a.rank < b.rank := by
  have hplaceholder : (placeholderIssues n).Pairwise fun a b => a.rank < b.rank := by
    unfold placeholderIssues
    split
    case isTrue => exact List.Pairwise.nil
    case isFalse => exact List.pairwise_singleton _ _
  have hnext : (p.nextIssues n).Pairwise fun a b => a.rank < b.rank := by
    unfold nextIssues
    split
    case h_1 target _ =>
      split
      case isTrue => exact List.Pairwise.nil
      case isFalse => exact List.pairwise_singleton _ _
    case h_2 => exact List.Pairwise.nil
  have hflags : (p.flagIssues n).Pairwise fun a b => a.rank < b.rank := by
    rw [flagIssues, List.pairwise_map]
    refine (pairwise_ascending _).imp fun h => ?_
    rw [Issue.rank, Issue.rank, Prod.Lex.toLex_lt_toLex]
    exact .inr ⟨rfl, h⟩
  simp only [nodeIssues, List.pairwise_append, List.mem_append, mem_placeholderIssues_iff,
    mem_nextIssues_iff, mem_choiceIssues_iff, mem_flagIssues_iff]
  refine ⟨⟨⟨hplaceholder, hnext, ?_⟩, pairwise_choiceIssues p n, ?_⟩, hflags, ?_⟩
  · rintro _ ⟨-, rfl⟩ _ ⟨_, -, -, rfl⟩
    exact Issue.rank_lt_of_fst_lt (by decide : 0 < 1)
  · rintro _ (⟨-, rfl⟩ | ⟨_, -, -, rfl⟩) _ ⟨_, _, _, -, -, -, rfl⟩
    · exact Issue.rank_lt_of_fst_lt (by decide : 0 < 2)
    · exact Issue.rank_lt_of_fst_lt (by decide : 1 < 2)
  · rintro _ ((⟨-, rfl⟩ | ⟨_, -, -, rfl⟩) | ⟨_, _, _, -, -, -, rfl⟩) _ ⟨_, -, rfl⟩
    · exact Issue.rank_lt_of_fst_lt (by decide : 0 < 3)
    · exact Issue.rank_lt_of_fst_lt (by decide : 1 < 3)
    · exact Issue.rank_lt_of_fst_lt (by decide : 2 < 3)

/-- The issues of a report stand node by node in the order of the slots, those of one node in their
own order.

**Proof sketch.** The report is the lists of the nodes behind each other. Issues of one list come in
the order of `pairwise_nodeIssues`. Issues of two lists name the nodes of two slots, and the slots
ascend. -/
theorem pairwise_precedes_check (hp : p.WellFormed) : p.check.issues.Pairwise p.Precedes := by
  have hslot : ∀ {slot : Nat} {n : Node}, p.nodes.toList[slot]? = some n →
      p.slotOf? n.id = some slot := by
    intro slot n hn
    rw [Array.getElem?_toList] at hn
    exact hp.slotOf?_of_node? hn
  rw [check, List.pairwise_flatMap]
  constructor
  · intro n hn
    obtain ⟨slot, hn⟩ := List.mem_iff_getElem?.1 hn
    refine (pairwise_nodeIssues p n).imp_of_mem fun ha hb hrank => ?_
    refine ⟨slot, slot, ?_, ?_, .inr ⟨rfl, hrank⟩⟩
    · rw [node_of_mem_nodeIssues ha, hslot hn]
    · rw [node_of_mem_nodeIssues hb, hslot hn]
  · rw [List.pairwise_iff_getElem]
    intro slot other hlt hlt' hless a ha b hb
    refine ⟨slot, other, ?_, ?_, .inl hless⟩
    · rw [node_of_mem_nodeIssues ha, hslot (List.getElem?_eq_getElem hlt)]
    · rw [node_of_mem_nodeIssues hb, hslot (List.getElem?_eq_getElem hlt')]

/-! ## Reports of any build -/

/-- A node or one of its choices names a flag. -/
def Mentions (p : Pool) (n : Node) (flag : FlagId) : Prop :=
  flag ∈ p.requiredBy n ∨ flag ∈ p.effectsOf n ∨ ∃ c ∈ p.choicesOf n, flag ∈ p.effectsOfChoice c

/-- The flags that are looked at are those that a node or one of its choices names. -/
theorem mem_flagsNamedBy_iff {flag : FlagId} : flag ∈ p.flagsNamedBy n ↔ p.Mentions n flag := by
  rw [flagsNamedBy, List.mem_append, List.mem_append, List.mem_flatMap, Mentions, or_assoc]

/-- A node shows that no row declares it. -/
theorem placeholderOnly_mem_nodeIssues_iff :
    .placeholderOnly n.id ∈ p.nodeIssues n ↔ n.authored = false := by
  simp [mem_nodeIssues_iff, mem_placeholderIssues_iff, mem_nextIssues_iff, mem_choiceIssues_iff,
    mem_flagIssues_iff]

/-- A node shows its successor when that is not in the story, and no other. -/
theorem danglingNext_mem_nodeIssues_iff {target : NodeId} :
    .danglingNext n.id target ∈ p.nodeIssues n ↔
      n.next = some target ∧ p.contains target = false := by
  simp [mem_nodeIssues_iff, mem_placeholderIssues_iff, mem_nextIssues_iff, mem_choiceIssues_iff,
    mem_flagIssues_iff]

/-- A node shows the choices at their places that lead out of the story. -/
theorem danglingChoice_mem_nodeIssues_iff {place : Nat} {target : NodeId} :
    .danglingChoice n.id place target ∈ p.nodeIssues n ↔
      ∃ c, (p.choicesOf n)[place]? = some c ∧ c.goto = some target ∧
        p.contains target = false := by
  simp only [mem_nodeIssues_iff, mem_placeholderIssues_iff, mem_nextIssues_iff,
    mem_choiceIssues_iff, mem_flagIssues_iff, Issue.danglingChoice.injEq, reduceCtorEq, and_false,
    exists_false, false_or, or_false, true_and]
  constructor
  · rintro ⟨_, c, _, hc, hgoto, hin, rfl, rfl⟩
    exact ⟨c, hc, hgoto, hin⟩
  · rintro ⟨c, hc, hgoto, hin⟩
    exact ⟨place, c, target, hc, hgoto, hin, rfl, rfl⟩

/-- A node shows the flags out of range that it or one of its choices names. -/
theorem flagOutOfRange_mem_nodeIssues_iff {flag : FlagId} :
    .flagOutOfRange n.id flag ∈ p.nodeIssues n ↔
      ¬ FlagSet.InRange flag ∧ p.Mentions n flag := by
  simp [mem_nodeIssues_iff, mem_placeholderIssues_iff, mem_nextIssues_iff, mem_choiceIssues_iff,
    mem_flagIssues_iff, mem_ascending_iff, mem_flagsNamedBy_iff, and_comm]

/-- What the issues of the report `r` say of the pool `p`. -/
structure Reports (p : Pool) (r : Report) : Prop where
  /-- Every issue is about a node of the pool. -/
  about_node : ∀ issue ∈ r.issues, ∃ n ∈ p.nodes, n.id = issue.node
  placeholderOnly_iff : ∀ n ∈ p.nodes, .placeholderOnly n.id ∈ r.issues ↔ n.authored = false
  danglingNext_iff : ∀ n ∈ p.nodes, ∀ target, .danglingNext n.id target ∈ r.issues ↔
    n.next = some target ∧ p.contains target = false
  danglingChoice_iff : ∀ n ∈ p.nodes, ∀ place target,
    .danglingChoice n.id place target ∈ r.issues ↔
      ∃ c, (p.choicesOf n)[place]? = some c ∧ c.goto = some target ∧ p.contains target = false
  flagOutOfRange_iff : ∀ n ∈ p.nodes, ∀ flag : FlagId, .flagOutOfRange n.id flag ∈ r.issues ↔
    ¬ (0 ≤ flag.toInt ∧ flag.toInt < 1024) ∧ p.Mentions n flag
  unreachable_notMem : ∀ id, .unreachable id ∉ r.issues
  /-- No issue is there twice. -/
  nodup : r.issues.Nodup
  /-- The issues stand node by node in the order of the slots. -/
  grouped : r.issues.Pairwise fun a b =>
    ∃ slot other, p.slotOf? a.node = some slot ∧ p.slotOf? b.node = some other ∧ slot ≤ other
  /-- The flags that one node names stand in ascending order. -/
  ascending : r.issues.Pairwise fun a b => ∀ id flag other,
    a = .flagOutOfRange id flag → b = .flagOutOfRange id other → flag.toInt < other.toInt
  /-- A flag set holds whatever flag a story with a clean report names. -/
  clean : r.isClean = true → ∀ n ∈ p.nodes, ∀ flag, p.Mentions n flag →
    ∀ s : FlagSet, (s.set flag).has flag = true

end Pool

/-- **A report has each fault of a story once and nothing else.** Whatever is done to a build, the
check of its pool reports the nodes that no row declares, the links that lead out of the story and
the flags that no flag set can hold, each once. The issues stand in the order of the slots, and the
flags of one node in ascending order.

**Proof sketch.** The issues of a report ascend strictly, by the slots of their nodes first and by
their ranks then; so none is there twice. Only the node with the id that an issue names can show it,
and it does so just when it has the fault. -/
theorem Build.reports_check_edited (limits : Limits) (es : List Edit) :
    (edited limits es).pool.Reports (edited limits es).pool.check := by
  have hp := (made_edited limits es).wellFormed
  generalize (edited limits es).pool = p at hp
  have horder := Pool.pairwise_precedes_check hp
  have hflag : ∀ n ∈ p.nodes, ∀ flag, .flagOutOfRange n.id flag ∈ p.check.issues ↔
      ¬ FlagSet.InRange flag ∧ p.Mentions n flag := by
    intro n hn flag
    rw [Pool.mem_check_iff_mem_nodeIssues hp hn rfl, Pool.flagOutOfRange_mem_nodeIssues_iff]
  constructor
  case about_node =>
    intro issue hissue
    obtain ⟨n, hn, hshown⟩ := Pool.mem_check_iff.1 hissue
    rw [← Pool.mem_nodeIssues_iff] at hshown
    exact ⟨n, hn, (Pool.node_of_mem_nodeIssues hshown).symm⟩
  case placeholderOnly_iff =>
    intro n hn
    rw [Pool.mem_check_iff_mem_nodeIssues hp hn rfl, Pool.placeholderOnly_mem_nodeIssues_iff]
  case danglingNext_iff =>
    intro n hn target
    rw [Pool.mem_check_iff_mem_nodeIssues hp hn rfl, Pool.danglingNext_mem_nodeIssues_iff]
  case danglingChoice_iff =>
    intro n hn place target
    rw [Pool.mem_check_iff_mem_nodeIssues hp hn rfl, Pool.danglingChoice_mem_nodeIssues_iff]
  case flagOutOfRange_iff => exact hflag
  case unreachable_notMem => exact fun _ => Pool.unreachable_notMem_check
  case nodup => exact horder.imp Pool.Precedes.ne
  case grouped =>
    refine horder.imp ?_
    rintro a b ⟨slot, other, hslot, hother, hle⟩
    exact ⟨slot, other, hslot, hother, by omega⟩
  case ascending =>
    refine horder.imp ?_
    rintro _ _ ⟨slot, other, hslot, hother, hlt | ⟨-, hrank⟩⟩ id flag later rfl rfl
    · have hsame : slot = other := Option.some.inj (hslot.symm.trans hother)
      omega
    · rcases Prod.Lex.toLex_lt_toLex.1 hrank with hkind | ⟨-, hlt⟩
      · exact absurd hkind (lt_irrefl 3)
      · exact hlt
  case clean =>
    intro hclean n hn flag hnames s
    have hin : FlagSet.InRange flag := by
      by_contra hout
      have hmem := (hflag n hn flag).2 ⟨hout, hnames⟩
      rw [Report.isClean, List.isEmpty_iff] at hclean
      rw [hclean] at hmem
      exact List.not_mem_nil hmem
    rw [FlagSet.has_set, decide_eq_true ⟨hin, rfl⟩, Bool.or_true]

end StoryGraph
