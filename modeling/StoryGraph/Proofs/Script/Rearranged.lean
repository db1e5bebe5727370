import Mathlib.Data.List.Induction
import Mathlib.Data.List.Infix
import StoryGraph.Proofs.Script.Compiled
import StoryGraph.Proofs.Script.Totals

set_option relaxedAutoImplicit false
set_option autoImplicit false

/-!
# Rows in another order

The rows of a script may be put in another order, as long as those that name one node keep theirs:
the script takes no more room, and says the same of every node. Where the choices of each node stand
together, a compiled story shows at each node just what the rows say of it, whatever slots and runs
it keeps this in.

## Main definitions

* `Script.naming` — the rows that take effect and name a node.
* `Script.Rearranges` — rows are those of another script in another order.
* `Scene` — a node with all its lists in full.
* `Script.scene`, `Pool.scene` — what rows say of a node, and what a story has there.

## Main results

* `Script.Rearranges.fits` — rows that fit under some limits do so in another order.
* `Script.Rearranges.scene_eq` — rows in another order say the same of every node.
* `Pool.Retells.scene_nodeOf` — a compiled story has at each node what its rows say of it.
-/

namespace StoryGraph

namespace Script

/-! ## Rearrangements -/

/-- The rows that name the node `id`, among those that take effect. -/
def naming (id : NodeId) (rows : List Row) : List Row :=
  rows.filter fun r => r.isEffective && r.names id

/-- The rows `other` are the rows `rows` in another order, as far as they take effect. Those that
name one node keep their order, and in both the choices of every node stand together. -/
structure Rearranges (rows other : List Row) : Prop where
  perm : (rows.filter Row.isEffective).Perm (other.filter Row.isEffective)
  naming_eq : ∀ id, naming id rows = naming id other
  together : ∀ id, branchesOf id rows <:+: branches rows
  together_other : ∀ id, branchesOf id other <:+: branches other

/-- The rows that declare a node are among those that name it. -/
theorem declaring_eq_filter (id : NodeId) (rows : List Row) :
    declaring id rows = (naming id rows).filter fun r => !r.isChoice := by
  rw [declaring, naming, List.filter_filter]
  refine List.filter_congr fun r _ => ?_
  cases hchoice : r.isChoice <;> simp [Row.isEffective, hchoice]

/-- The choices are among the rows that take effect. -/
theorem branches_eq_filter (rows : List Row) :
    branches rows = (rows.filter Row.isEffective).filter Row.isLabelled := by
  rw [branches, List.filter_filter]
  refine List.filter_congr fun r _ => ?_
  cases hlabel : r.isLabelled <;> simp [Row.isEffective, hlabel]

/-- The choices of a node are among the rows that name it. -/
theorem branchesOf_eq_filter (id : NodeId) (rows : List Row) :
    branchesOf id rows = (naming id rows).filter Row.isLabelled := by
  rw [branchesOf, branches, naming, List.filter_filter, List.filter_filter]
  refine List.filter_congr fun r _ => ?_
  cases hlabel : r.isLabelled <;> simp [Row.isEffective, hlabel]

/-- Rows that do not mention a node do not name it. -/
theorem naming_eq_nil {id : NodeId} {rows : List Row} (h : id ∉ mentions rows) :
    naming id rows = [] := by
  rw [naming, List.filter_eq_nil_iff]
  intro r hr hnames
  rw [Bool.and_eq_true, Row.names, beq_iff_eq] at hnames
  exact h (List.mem_filterMap.2 ⟨r, List.mem_filter.2 ⟨hr, hnames.1⟩, hnames.2⟩)

/-- Whether rows are those of another script in another order shows at the nodes that they
mention.

**Proof sketch.** The rows mention the same nodes in both orders. At a node that is not mentioned
there are no rows, and so nothing is out of order. -/
theorem rearranges_iff {rows other : List Row} :
    Rearranges rows other ↔
      (rows.filter Row.isEffective).Perm (other.filter Row.isEffective) ∧
        ∀ id ∈ mentions rows, naming id rows = naming id other ∧
          branchesOf id rows <:+: branches rows ∧ branchesOf id other <:+: branches other := by
  constructor
  · exact fun h => ⟨h.perm, fun id _ => ⟨h.naming_eq id, h.together id, h.together_other id⟩⟩
  · rintro ⟨hperm, hall⟩
    have hmentions : (mentions rows).Perm (mentions other) := hperm.filterMap _
    have hevery (id : NodeId) : naming id rows = naming id other ∧
        branchesOf id rows <:+: branches rows ∧ branchesOf id other <:+: branches other := by
      by_cases hid : id ∈ mentions rows
      · exact hall id hid
      · have hother : id ∉ mentions other := mt hmentions.mem_iff.2 hid
        simp [branchesOf_eq_filter, naming_eq_nil hid, naming_eq_nil hother]
    exact ⟨hperm, fun id => (hevery id).1, fun id => (hevery id).2.1, fun id => (hevery id).2.2⟩

instance (rows other : List Row) : Decidable (Rearranges rows other) :=
  decidable_of_iff _ rearranges_iff.symm

/-- Rows that take no effect name no flags that count.

**Proof sketch.** Induction on the rows: a choice without a label names flags in vain, and
`Row.flags` leaves them out. -/
theorem flatMap_flags_eq (rows : List Row) :
    rows.flatMap Row.flags = (rows.filter Row.isEffective).flatMap Row.flags := by
  induction rows with
  | nil => rfl
  | cons r rows ih =>
    by_cases heffect : r.isEffective = true
    · rw [List.filter_cons_of_pos heffect, List.flatMap_cons, List.flatMap_cons, ih]
    · have hnone : r.flags = [] := by
        cases hchoice : r.isChoice <;> simp_all [Row.isEffective, Row.flags]
      rw [List.filter_cons_of_neg heffect, List.flatMap_cons, hnone, ih, List.nil_append]

/-- Ids of which none is kept twice are different.

**Proof sketch.** Induction on the ids, from their end: the last one is kept only if it is not among
the others. -/
theorem nodup_eraseDups (ids : List NodeId) : ids.eraseDups.Nodup := by
  induction ids using List.reverseRecOn with
  | nil => simp
  | append_singleton ids id ih =>
    rw [eraseDups_snoc]
    split
    case isTrue => exact ih
    case isFalse hnew =>
      rw [List.nodup_append]
      refine ⟨ih, by simp, ?_⟩
      rintro a ha b hb rfl
      rw [List.mem_singleton] at hb
      exact hnew (List.mem_eraseDups.1 (hb ▸ ha))

namespace Rearranges

variable {rows other : List Row}

/-- Each node is declared by the same rows in the same order. -/
theorem declaring_eq (h : Rearranges rows other) (id : NodeId) :
    declaring id rows = declaring id other := by
  rw [declaring_eq_filter, declaring_eq_filter, h.naming_eq]

/-- On each node the same choice rows hang in the same order. -/
theorem branchesOf_eq (h : Rearranges rows other) (id : NodeId) :
    branchesOf id rows = branchesOf id other := by
  rw [branchesOf_eq_filter, branchesOf_eq_filter, h.naming_eq]

/-- In another order the rows mention the same nodes, as often. -/
theorem mentions_perm (h : Rearranges rows other) : (mentions rows).Perm (mentions other) :=
  h.perm.filterMap _

/-- In another order the rows take as much of each part.

**Proof sketch.** One case for each part. The nodes are counted by the different ids that are
mentioned, and those are the same; the choices and the flags are counted row by row. -/
theorem total_eq (h : Rearranges rows other) (part : Part) :
    total rows part = total other part := by
  cases part with
  | nodes =>
    have hperm : (mentions rows).eraseDups.Perm (mentions other).eraseDups := by
      rw [List.perm_ext_iff_of_nodup (nodup_eraseDups _) (nodup_eraseDups _)]
      intro id
      rw [List.mem_eraseDups, List.mem_eraseDups, h.mentions_perm.mem_iff]
    exact hperm.length_eq
  | choices =>
    rw [total, total, branches_eq_filter, branches_eq_filter]
    exact (h.perm.filter _).length_eq
  | flagRefs =>
    rw [total, total, flatMap_flags_eq, flatMap_flags_eq other]
    exact (h.perm.flatMap_right _).length_eq

/-- Rows that fit under some limits do so in another order.

**Proof sketch.** The rows that take effect are the same in both orders, so the same nodes are
named, and the totals are equal by `total_eq`. -/
theorem fits (h : Rearranges rows other) {limits : Limits} (hfit : Fits limits rows) :
    Fits limits other where
  addressed r hr heffect := by
    have hmem : r ∈ rows.filter Row.isEffective :=
      h.perm.mem_iff.2 (List.mem_filter.2 ⟨hr, heffect⟩)
    exact hfit.addressed r (List.mem_filter.1 hmem).1 heffect
  total_le part := by
    rw [← h.total_eq]
    exact hfit.total_le part

end Rearranges

end Script

/-! ## Scenes -/

/-- A node with all its lists in full, wherever they are kept. -/
structure Scene extends Declaration where
  id : NodeId
  /-- Whether a row declares the node. -/
  authored : Bool
  offers : List Offer
deriving DecidableEq, Repr

namespace Script

/-- What rows that declare one node say of it: the last one counts, and an index key is kept until
there is another. -/
def said (declared : List Row) : Declaration :=
  match declared.getLast? with
  | some r => { Entry.declarationOf r with indexKey := lastKey declared }
  | none => {}

/-- What rows say of the node `id`. -/
def scene (rows : List Row) (id : NodeId) : Scene :=
  { said (declaring id rows) with
    id
    authored := !(declaring id rows).isEmpty
    offers := (branchesOf id rows).map Row.offer }

/-- Rows in another order say the same of every node. -/
theorem Rearranges.scene_eq {rows other : List Row} (h : Rearranges rows other) (id : NodeId) :
    scene rows id = scene other id := by
  rw [scene, scene, h.declaring_eq, h.branchesOf_eq]

end Script

namespace Pool

/-- What a story has at a node. -/
def scene (p : Pool) (n : Node) : Scene :=
  { n.toContent with
    id := n.id
    effects := p.effectsOf n
    requires := p.requiredBy n
    authored := n.authored
    offers := (p.choicesOf n).map p.offer }

variable {p : Pool} {n : Node} {declared : List Row} {rows : List Row}

/-- A node has the content of the row that declares it, and the last index key. -/
theorem Told.toContent_eq {r : Row} (h : p.Told n declared r) :
    n.toContent =
      { (Entry.declarationOf r).toContent with indexKey := Script.lastKey declared } := by
  calc n.toContent
    _ = ⟨n.indexKey, n.rowType, n.speaker, n.text, n.actors, n.bgm, n.sfx, n.cg, n.transition,
          n.advancePolicy, n.next⟩ := rfl
    _ = { (Entry.declarationOf r).toContent with indexKey := Script.lastKey declared } := by
        rw [h.indexKey, h.rowType, h.speaker, h.text, h.actors, h.bgm, h.sfx, h.cg, h.transition,
          h.advancePolicy, h.next]
        rfl

/-- A node has the content and the flags that the rows say which declare it.

**Proof sketch.** By the last of the rows. Without any, the node is as empty as a placeholder, with
no flags. With one, `Told` says each field. -/
theorem Shows.said_eq (h : p.Shows n declared) :
    ({ n.toContent with effects := p.effectsOf n, requires := p.requiredBy n } : Declaration) =
        Script.said declared ∧
      n.authored = !declared.isEmpty := by
  cases hlast : declared.getLast? with
  | none =>
    obtain rfl : declared = [] := List.getLast?_eq_none_iff.1 hlast
    obtain ⟨hdraft, hauthored⟩ := h.untold rfl
    have hnone : p.flags {} = [] := by simp [flags, Span.slice]
    refine ⟨?_, hauthored⟩
    rw [effectsOf, requiredBy, hdraft, hnone]
    rfl
  | some r =>
    have htold := h.told r hlast
    constructor
    · rw [Script.said, hlast, htold.effects, htold.requires, htold.toContent_eq]
      rfl
    · have hne : declared ≠ [] := by
        rintro rfl
        cases hlast
      simp [htold.authored, hne]

/-- A compiled story has at each node what its rows say of it, where its choices stand together.

**Proof sketch.** The content and the flags are `Shows.said_eq`. The offers of the node are its
choice rows, as these stand together. -/
theorem Retells.scene_nodeOf (hp : p.Retells rows) {id : NodeId} {slot : Nat}
    (hn : p.find? id = some (slot, n))
    (htogether : Script.branchesOf id rows <:+: Script.branches rows) :
    p.scene n = Script.scene rows id := by
  have hshows := hp.shows id
  rw [nodeOf_of_find? hn] at hshows
  obtain ⟨hsaid, hauthored⟩ := hshows.said_eq
  obtain ⟨-, hid⟩ := hp.wellFormed.find?_eq_some_iff.1 hn
  rw [Script.scene, ← hsaid, ← hauthored, ← hp.map_choicesOf hn htogether, ← hid]
  rfl

end Pool

end StoryGraph
