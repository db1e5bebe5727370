import StoryGraph.Proofs.Graph.Lookup
import StoryGraph.Proofs.Script.Rows
import StoryGraph.Proofs.Script.Work

set_option relaxedAutoImplicit false
set_option autoImplicit false

/-!
# A compiled story retells its script

The pool of a script that compiles says what the rows of the script say: each node shows the last
row that declares it, each choice hangs on the node that its row names, and the nodes lie in the
order in which the rows mention them.

## Main definitions

* `Pool.Told` — a node is as a row declares it.
* `Pool.Shows` — a node is as the rows declare it, or a placeholder if none does.
* `Pool.Retells` — a pool is what rows make of it.

## Main results

* `Pool.Retells.enact` — a pool that retells some rows retells one more after its entry.
* `Script.retells_rebuild` — a script that compiles leaves a pool that retells its rows.

## Implementation notes

The invariant speaks of `Pool.nodeOf`, so it needs no case for the first mention of a node. The
lists of a node are spans of one growing array; that they stay what they were is the monotonicity of
`Pool.Shows` in the flag references.
-/

namespace StoryGraph

namespace Pool

/-- The choice `c` with its flags in full. -/
def offer (p : Pool) (c : Choice) : Offer := ⟨c.label, c.goto, p.effectsOfChoice c⟩

/-- The node `n` is as the row `r` declares it, the last of the rows `declared`. -/
structure Told (p : Pool) (n : Node) (declared : List Row) (r : Row) : Prop where
  rowType : n.rowType = r.cell .rowType
  speaker : n.speaker = r.cell .speaker
  text : n.text = r.cell .text
  actors : n.actors = Cell.actors? (r.cell .actors)
  bgm : n.bgm = r.cell .bgm
  sfx : n.sfx = r.cell .sfx
  cg : n.cg = r.cell .cg
  transition : n.transition = r.cell .transition
  advancePolicy : n.advancePolicy = r.cell .advancePolicy
  next : n.next = Cell.target? (r.cell .nextNodeId)
  effects : p.effectsOf n = Cell.flagList (r.cell .flagsSet)
  requires : p.requiredBy n = Cell.flagList (r.cell .flagsReq)
  /-- A row without an index key keeps the one before. -/
  indexKey : n.indexKey = Script.lastKey declared
  authored : n.authored = true

/-- The node `n` is as the rows `declared` declare it; if there are none, it is a placeholder. Its
flag lists are in the pool. -/
structure Shows (p : Pool) (n : Node) (declared : List Row) : Prop where
  told : ∀ r, declared.getLast? = some r → p.Told n declared r
  untold : declared = [] → n.toDraft = {} ∧ n.authored = false
  effects_le : n.effects.stop ≤ p.flagRefs.size
  requires_le : n.requires.stop ≤ p.flagRefs.size

/-- The nodes and the choices of the pool `p` are what the rows `rows` make of an empty one. -/
structure Holds (p : Pool) (rows : List Row) : Prop where
  wellFormed : p.WellFormed
  shows : ∀ id, p.Shows (p.nodeOf id) (Script.declaring id rows)
  choices : p.choices.toList.map p.offer = (Script.branches rows).map Row.offer
  effects_le : ∀ c ∈ p.choices, c.effects.stop ≤ p.flagRefs.size
  count : ∀ id, (p.nodeOf id).choices.count.toNat = (Script.branchesOf id rows).length
  offset : ∀ id, 0 < (p.nodeOf id).choices.count.toNat →
    (p.nodeOf id).choices.offset.toNat = (Script.branches rows).findIdx (·.names id)

/-- The pool `p` is what the rows `rows` make of an empty one, and its nodes lie in the order in
which the rows mention them. -/
structure Retells (p : Pool) (rows : List Row) : Prop extends p.Holds rows where
  addressed : ∀ r ∈ rows, r.isEffective = true → ∃ id, r.named? = some id
  ids : p.ids = (Script.mentions rows).eraseDups

variable {p q : Pool}

/-! ## Choices that are attached -/

/-- A choice goes behind the others, and touches no flag. -/
theorem parts_attach (hp : p.WellFormed) {id : NodeId} {slot : Nat} {c : Choice}
    (hslot : p.slotOf? id = some slot) (h : p.attach slot c = .ok q) :
    q.flagRefs = p.flagRefs ∧ q.choices = p.choices.push c := by
  obtain ⟨-, ⟨-, rfl⟩ | ⟨hge, -⟩⟩ := attach_eq_ok h
  · exact ⟨rfl, rfl⟩
  · have := (hp.slotOf?_eq_some_iff id slot).1 hslot
    simp [node?, hge] at this

/-- A pool that a choice was attached to had room for it. -/
theorem room_attach (hp : p.WellFormed) {id : NodeId} {slot : Nat} {c : Choice}
    (hslot : p.slotOf? id = some slot) (h : p.attach slot c = .ok q) :
    p.choices.size + 1 < UInt32.size := by
  have := (hp.attach h).size_lt .choices
  simpa [size, (parts_attach hp hslot h).2] using this

/-! ## Nodes -/

namespace Shows

variable {n : Node} {declared : List Row} {r : Row}

/-- A node shows the last index key that rows gave it.

**Proof sketch.** By the last of the rows. If there is one, `Told` says it; if there is none, the
node is a placeholder, and its index key is empty. -/
theorem indexKey (hn : p.Shows n declared) : n.indexKey = Script.lastKey declared := by
  cases hlast : declared.getLast? with
  | none =>
    have hnil : declared = [] := List.getLast?_eq_none_iff.1 hlast
    have hkey : n.toDraft.indexKey = "" := by rw [(hn.untold hnil).1]
    rw [hkey, hnil]
    rfl
  | some r => exact (hn.told r hlast).indexKey

/-- A node is what it was when flags are appended. -/
theorem pushFlags (hn : p.Shows n declared) {ids : List FlagId} {s : Span}
    (h : p.pushFlags ids = .ok (s, q)) : q.Shows n declared where
  told r hr :=
    { hn.told r hr with
      effects := by
        rw [effectsOf, flags_pushFlags h hn.effects_le]
        exact (hn.told r hr).effects
      requires := by
        rw [requiredBy, flags_pushFlags h hn.requires_le]
        exact (hn.told r hr).requires }
  untold := hn.untold
  effects_le := Nat.le_trans hn.effects_le (size_flagRefs_pushFlags h)
  requires_le := Nat.le_trans hn.requires_le (size_flagRefs_pushFlags h)

/-- A node shows the same in every pool with the same flag references. -/
theorem congr (hn : p.Shows n declared) (hflags : q.flagRefs = p.flagRefs) :
    q.Shows n declared where
  told r hr :=
    { hn.told r hr with
      effects := by
        rw [effectsOf, flags, hflags]
        exact (hn.told r hr).effects
      requires := by
        rw [requiredBy, flags, hflags]
        exact (hn.told r hr).requires }
  untold := hn.untold
  effects_le := by rw [hflags]; exact hn.effects_le
  requires_le := by rw [hflags]; exact hn.requires_le

/-- One more choice does not change what a node shows. -/
theorem withChoice (hn : p.Shows n declared) (position : UInt32) :
    p.Shows (n.withChoice position) declared where
  told r hr := { hn.told r hr with }
  untold := hn.untold
  effects_le := hn.effects_le
  requires_le := hn.requires_le

/-- One more row declares a node, and keeps of it no more than the index key.

**Proof sketch.** The last row is the new one, and each field of the draft comes from it. The index
key comes from it, too, or is the one that the node had before, by `Script.lastKey_snoc`. -/
theorem apply (hn : p.Shows n declared) {effects requires : Span}
    (heffects : p.flags effects = Cell.flagList (r.cell .flagsSet))
    (heffects_le : effects.stop ≤ p.flagRefs.size)
    (hrequires : p.flags requires = Cell.flagList (r.cell .flagsReq))
    (hrequires_le : requires.stop ≤ p.flagRefs.size) :
    p.Shows (n.apply ((Entry.declarationOf r).draft effects requires)) (declared ++ [r]) where
  told r' hr' := by
    obtain rfl : r = r' := by simpa using hr'
    exact {
      rowType := rfl, speaker := rfl, text := rfl, actors := rfl, bgm := rfl, sfx := rfl,
      cg := rfl, transition := rfl, advancePolicy := rfl, next := rfl, authored := rfl
      effects := heffects
      requires := hrequires
      indexKey := by rw [Script.lastKey_snoc, ← hn.indexKey]; rfl }
  untold h := by simp at h
  effects_le := heffects_le
  requires_le := hrequires_le

end Shows

/-! ## Pools -/

namespace Holds

variable {rows : List Row} {r : Row}

/-- The choices are what they were in every pool with the same flag references. -/
theorem offer_congr (hflags : q.flagRefs = p.flagRefs) : q.offer = p.offer := by
  funext c
  rw [offer, offer, effectsOfChoice, effectsOfChoice, flags, flags, hflags]

/-- Flags that belong to nothing yet change nothing.

**Proof sketch.** The nodes and the choices stay as they are. Their lists lie within the flag
references, and appending changes nothing there, by `flags_pushFlags`. -/
theorem pushFlags (hp : p.Holds rows) {ids : List FlagId} {s : Span}
    (h : p.pushFlags ids = .ok (s, q)) : q.Holds rows := by
  have hchoices : q.choices = p.choices := by
    obtain ⟨-, -, rfl⟩ := pushFlags_eq_ok h
    rfl
  have hoffer : ∀ c ∈ p.choices.toList, q.offer c = p.offer c := by
    intro c hc
    rw [offer, offer, effectsOfChoice, effectsOfChoice,
      flags_pushFlags h (hp.effects_le c (Array.mem_toList_iff.1 hc))]
  refine ⟨hp.wellFormed.pushFlags h, fun id => ?_, ?_, fun c hc => ?_, fun id => ?_, fun id => ?_⟩
  · rw [nodeOf_pushFlags h]
    exact (hp.shows id).pushFlags h
  · rw [hchoices, List.map_congr_left hoffer, hp.choices]
  · rw [hchoices] at hc
    exact Nat.le_trans (hp.effects_le c hc) (size_flagRefs_pushFlags h)
  · rw [nodeOf_pushFlags h, hp.count]
  · rw [nodeOf_pushFlags h]
    exact hp.offset id

/-- Asking for a node changes nothing.

**Proof sketch.** The flag references and the choices stay, and `nodeOf_ensure` says that each id
still leads to the same node. -/
theorem ensure (hp : p.Holds rows) {id : NodeId} {slot : Nat} (h : p.ensure id = .ok (slot, q)) :
    q.Holds rows := by
  obtain ⟨hflags, hchoices⟩ := parts_ensure h
  refine ⟨hp.wellFormed.ensure h, fun id => ?_, ?_, fun c hc => ?_, fun id => ?_, fun id => ?_⟩
  · rw [nodeOf_ensure hp.wellFormed h]
    exact (hp.shows id).congr hflags
  · rw [hchoices, offer_congr hflags, hp.choices]
  · rw [hchoices] at hc
    rw [hflags]
    exact hp.effects_le c hc
  · rw [nodeOf_ensure hp.wellFormed h, hp.count]
  · rw [nodeOf_ensure hp.wellFormed h]
    exact hp.offset id

/-- A declaration with its flag lists in the pool is one more row.

**Proof sketch.** The flag references and the choices stay, and so do the spans of all nodes, so the
two lists say what they said. The node of `id` shows one declaration more, by `Shows.apply`, and the
other nodes what they showed. -/
theorem upsert (hp : p.Holds rows) {id : NodeId} {effects requires : Span} {declared : Declared}
    (hchoice : r.isChoice = false) (hid : r.named? = some id)
    (heffects : p.flags effects = Cell.flagList (r.cell .flagsSet))
    (heffects_le : effects.stop ≤ p.flagRefs.size)
    (hrequires : p.flags requires = Cell.flagList (r.cell .flagsReq))
    (hrequires_le : requires.stop ≤ p.flagRefs.size)
    (h : p.upsert id ((Entry.declarationOf r).draft effects requires) = .ok (declared, q)) :
    q.Holds (rows ++ [r]) := by
  obtain ⟨hflags, hchoices⟩ := parts_upsert h
  obtain ⟨-, hdeclaring, hbranches⟩ := Script.snoc_node rows hchoice hid
  have hspan : ∀ other, (q.nodeOf other).choices = (p.nodeOf other).choices := by
    intro other
    rw [nodeOf_upsert hp.wellFormed h]
    split <;> rfl
  refine ⟨hp.wellFormed.upsert h, fun other => ?_, ?_, fun c hc => ?_, fun other => ?_,
    fun other => ?_⟩
  · rw [nodeOf_upsert hp.wellFormed h, hdeclaring]
    split
    · exact ((hp.shows other).apply heffects heffects_le hrequires hrequires_le).congr hflags
    · exact (hp.shows other).congr hflags
  · rw [hchoices, offer_congr hflags, hp.choices, hbranches]
  · rw [hchoices] at hc
    rw [hflags]
    exact hp.effects_le c hc
  · rw [hspan, Script.branchesOf, hbranches]
    exact hp.count other
  · rw [hspan, hbranches]
    exact hp.offset other

/-- There are as many choices as rows that declare one. -/
theorem size_choices (hp : p.Holds rows) : p.choices.size = (Script.branches rows).length := by
  simpa using congrArg List.length hp.choices

/-- A node with a choice stands on some row that declares one. -/
theorem branchesOf_ne_nil (hp : p.Holds rows) {id : NodeId}
    (h : 0 < (p.nodeOf id).choices.count.toNat) : Script.branchesOf id rows ≠ [] := by
  rw [← List.length_pos_iff, ← hp.count]
  exact h

/-- A choice that is attached to its node is counted at that node, as its row is, and at no other.

**Proof sketch.** The row `r` is one more of the choice rows of `id`, and of no other node. The span
of `id` grows by one. It holds no more choices than the pool, and the pool had room for one more, so
the count does not wrap around. -/
theorem count_attach (hp : p.Holds rows) {id : NodeId} {slot : Nat} {c : Choice}
    (hlabel : r.isLabelled = true) (hid : r.named? = some id) (hslot : p.slotOf? id = some slot)
    (h : p.attach slot c = .ok q) (other : NodeId) :
    (q.nodeOf other).choices.count.toNat = (Script.branchesOf other (rows ++ [r])).length := by
  have hroom := room_attach hp.wellFormed hslot h
  have hle : (p.nodeOf id).choices.count.toNat ≤ p.choices.size := by
    rw [hp.count, hp.size_choices]
    exact List.length_filter_le _ _
  rw [nodeOf_attach hp.wellFormed hslot h, Script.branchesOf_snoc rows hlabel hid]
  split
  case isTrue hsame =>
    subst hsame
    have hplaces : UInt32.size = 4294967296 := rfl
    rw [List.length_append, ← hp.count, Node.withChoice, UInt32.toNat_add]
    simp
    omega
  case isFalse => exact hp.count other

/-- After a choice is attached, the choices of each node still begin where the first choice row of
that node stands among the choice rows.

**Proof sketch.** A node that had a choice row keeps it as its first, by
`Script.findIdx_snoc_of_filter_ne_nil`, and keeps its offset. The only other node with a choice is
then `id`, and `r` is its first choice row. That row is the last of all, and the offset is the
number of choices that stand before it. -/
theorem offset_attach (hp : p.Holds rows) {id : NodeId} {slot : Nat} {c : Choice}
    (hlabel : r.isLabelled = true) (hid : r.named? = some id) (hslot : p.slotOf? id = some slot)
    (h : p.attach slot c = .ok q) (other : NodeId)
    (hcount : 0 < (q.nodeOf other).choices.count.toNat) :
    (q.nodeOf other).choices.offset.toNat =
      (Script.branches (rows ++ [r])).findIdx (·.names other) := by
  rw [nodeOf_attach hp.wellFormed hslot h] at hcount ⊢
  rw [(Script.snoc_choice rows hlabel hid).2.2]
  by_cases hbefore : 0 < (p.nodeOf other).choices.count.toNat
  · have hne : (p.nodeOf other).choices.isEmpty = false := by
      simpa [Span.isEmpty, ← UInt32.toNat_inj] using Nat.pos_iff_ne_zero.1 hbefore
    rw [Script.findIdx_snoc_of_filter_ne_nil r (hp.branchesOf_ne_nil hbefore),
      ← hp.offset other hbefore]
    split <;> simp [Node.withChoice, hne]
  · have hzero : (p.nodeOf other).choices.count.toNat = 0 := Nat.eq_zero_of_not_pos hbefore
    split at hcount
    case isTrue hsame =>
      subst hsame
      have hnone : Script.branchesOf id rows = [] := by
        rw [← List.length_eq_zero_iff, ← hp.count, hzero]
      have hempty : (p.nodeOf id).choices.isEmpty = true := by
        simpa [Span.isEmpty, ← UInt32.toNat_inj] using hzero
      have hnames : r.names id = true := by simp [Row.names, hid]
      have hroom := room_attach hp.wellFormed hslot h
      rw [Script.findIdx_snoc_of_filter_eq_nil hnone hnames, ← hp.size_choices]
      simpa [Node.withChoice, hempty] using Nat.mod_eq_of_lt (Nat.lt_of_succ_lt hroom)
    case isFalse => exact absurd hcount hbefore

/-- A choice with its flags in the pool, attached to its node, is one more row.

**Proof sketch.** The pool keeps its flag references and gets the choice `c` at the end, so what the
nodes show and what the old choices offer stays, and the new choice offers what `r` says. The lists
of the nodes are `count_attach` and `offset_attach`. -/
theorem attach (hp : p.Holds rows) {id : NodeId} {slot : Nat} {c : Choice}
    (hlabel : r.isLabelled = true) (hid : r.named? = some id) (hslot : p.slotOf? id = some slot)
    (hc : p.offer c = r.offer) (hc_le : c.effects.stop ≤ p.flagRefs.size)
    (h : p.attach slot c = .ok q) : q.Holds (rows ++ [r]) := by
  obtain ⟨hflags, hchoices⟩ := parts_attach hp.wellFormed hslot h
  obtain ⟨-, hdeclaring, hbranches⟩ := Script.snoc_choice rows hlabel hid
  refine ⟨hp.wellFormed.attach h, fun other => ?_, ?_, fun c' hc' => ?_,
    hp.count_attach hlabel hid hslot h, hp.offset_attach hlabel hid hslot h⟩
  · rw [nodeOf_attach hp.wellFormed hslot h, hdeclaring]
    split
    · exact ((hp.shows other).withChoice _).congr hflags
    · exact (hp.shows other).congr hflags
  · rw [hchoices, offer_congr hflags, hbranches]
    simp [hp.choices, hc]
  · rw [hflags]
    rw [hchoices] at hc'
    rcases Array.mem_push.1 hc' with hc' | rfl
    · exact hp.effects_le c' hc'
    · exact hc_le

end Holds

namespace Retells

variable {rows : List Row} {r : Row}

/-- The empty pool retells a script without rows.

**Proof sketch.** Every id leads to a placeholder, which shows no declaration and has no choices. -/
theorem nil (hp : p.WellFormed) (hnodes : p.nodes = #[]) (hchoices : p.choices = #[]) :
    p.Retells [] := by
  have hids : p.ids = [] := by simp [Pool.ids, hnodes]
  have hnode : ∀ id, p.nodeOf id = .placeholder id := by
    intro id
    refine nodeOf_of_slotOf?_eq_none (hp.slotOf?_eq_none_iff.2 ?_)
    simp [hids]
  refine ⟨⟨hp, fun id => ?_, by simp [hchoices, Script.branches], by simp [hchoices], fun id => ?_,
    fun id => ?_⟩, by simp, hids⟩
  · rw [hnode]
    exact ⟨fun r hr => by simp [Script.declaring] at hr, fun _ => ⟨rfl, rfl⟩, Nat.zero_le _,
      Nat.zero_le _⟩
  · rw [hnode]
    rfl
  · rw [hnode]
    exact fun h => absurd h (Nat.lt_irrefl 0)

/-- A pool lists a node when a row mentions it. -/
theorem mem_ids_iff (hp : p.Retells rows) {id : NodeId} :
    id ∈ p.ids ↔ id ∈ Script.mentions rows := by
  rw [hp.ids, List.mem_eraseDups]

/-- A node that a row mentions for the first time comes last. -/
theorem ids_snoc (hp : p.Retells rows) {id : NodeId}
    (hq : q.ids = if id ∈ p.ids then p.ids else p.ids ++ [id])
    (hrow : Script.mentions (rows ++ [r]) = Script.mentions rows ++ [id]) :
    q.ids = (Script.mentions (rows ++ [r])).eraseDups := by
  rw [hq, hrow, Script.eraseDups_snoc, hp.ids]
  simp only [List.mem_eraseDups]

/-- If each row that took effect so far named a node, and so does one more, then all do. -/
theorem addressed_snoc (hp : p.Retells rows)
    (hr : r.isEffective = true → ∃ id, r.named? = some id) :
    ∀ r' ∈ rows ++ [r], r'.isEffective = true → ∃ id, r'.named? = some id := by
  intro r' hr'
  rcases List.mem_append.1 hr' with hold | hnew
  · exact hp.addressed r' hold
  · obtain rfl := List.mem_singleton.1 hnew
    exact hr

/-- A pool that retells some rows retells one more when its entry has been enacted.

**Proof sketch.** By what the row says. A declaration appends two lists of flags, which change no
node, and then declares its node. A choice asks for its node, which changes no node either, appends
its flags and then itself. A choice without a label does nothing, and it is no part of any list of
rows. A row that names no node is not enacted. -/
theorem enact {b b' : Build} {line : Nat} (hp : b.pool.Retells rows)
    (h : (Entry.ofRow r).enact line b = .ok () b') : b'.pool.Retells (rows ++ [r]) := by
  rcases r.entry_cases with ⟨id, hchoice, hid, he⟩ | ⟨id, -, hlabel, hid, he⟩ |
    ⟨hchoice, hlabel, he⟩ | ⟨-, -, he⟩
  · rw [he] at h
    obtain ⟨effects, p₁, requires, p₂, declared, h₁, h₂, h₃⟩ := Entry.enact_node_eq_ok h
    have hp₁ := hp.toHolds.pushFlags h₁
    have hp₂ := hp₁.pushFlags h₂
    obtain ⟨heffects, heffects_le⟩ := flags_pushFlags_new hp.wellFormed h₁
    obtain ⟨hrequires, hrequires_le⟩ := flags_pushFlags_new hp₁.wellFormed h₂
    have hids : b'.pool.ids = if id ∈ b.pool.ids then b.pool.ids else b.pool.ids ++ [id] := by
      rw [ids_upsert hp₂.wellFormed h₃, ids_pushFlags h₂, ids_pushFlags h₁]
    exact ⟨hp₂.upsert hchoice hid ((flags_pushFlags h₂ heffects_le).trans heffects)
        (Nat.le_trans heffects_le (size_flagRefs_pushFlags h₂)) hrequires hrequires_le h₃,
      hp.addressed_snoc fun _ => ⟨id, hid⟩,
      hp.ids_snoc hids (Script.snoc_node rows hchoice hid).1⟩
  · rw [he] at h
    obtain ⟨slot, p₁, effects, p₂, h₁, h₂, h₃⟩ := Entry.enact_choice_eq_ok h
    have hp₁ := hp.toHolds.ensure h₁
    have hp₂ := hp₁.pushFlags h₂
    obtain ⟨heffects, heffects_le⟩ := flags_pushFlags_new hp₁.wellFormed h₂
    -- The flags are appended between the look-up of the node and its use; its slot stays.
    have hslot : p₂.slotOf? id = some slot := by
      have hslot₁ := slotOf?_ensure h₁
      rw [hp₁.wellFormed.slotOf?_eq_some_iff_ids, ← ids_pushFlags h₂] at hslot₁
      exact hp₂.wellFormed.slotOf?_eq_some_iff_ids.2 hslot₁
    have hids : b'.pool.ids = if id ∈ b.pool.ids then b.pool.ids else b.pool.ids ++ [id] := by
      rw [ids_attach h₃, ids_pushFlags h₂, ids_ensure hp.wellFormed h₁]
    have hoffer : p₂.offer { label := r.offer.label, goto := r.offer.goto, effects } = r.offer := by
      simp only [offer, effectsOfChoice, heffects]
    exact ⟨hp₂.attach hlabel hid hslot hoffer heffects_le h₃,
      hp.addressed_snoc fun _ => ⟨id, hid⟩,
      hp.ids_snoc hids (Script.snoc_choice rows hlabel hid).1⟩
  · rw [he] at h
    rw [Entry.enact_unlabelled_eq_ok h]
    obtain ⟨hmentions, hdeclaring, hbranches⟩ := Script.snoc_unlabelled rows hchoice hlabel
    have heffect : r.isEffective = true → ∃ id, r.named? = some id := by
      simp [Row.isEffective, hchoice, hlabel]
    refine ⟨⟨hp.wellFormed, fun id => ?_, ?_, hp.effects_le, fun id => ?_, fun id => ?_⟩,
      hp.addressed_snoc heffect, ?_⟩
    · rw [hdeclaring]
      exact hp.shows id
    · rw [hbranches]
      exact hp.choices
    · rw [Script.branchesOf, hbranches]
      exact hp.count id
    · rw [hbranches]
      exact hp.offset id
    · rw [hmentions]
      exact hp.ids
  · rw [he] at h
    cases h

/-- A pool that retells some rows retells more when their entries have been enacted.

**Proof sketch.** Induction on the rows that are left. The first entry is enacted by `enact`, and
its row joins those that the pool retells. -/
theorem enactAll {entries : List (Nat × Entry)} {later : List Row} {b b' : Build}
    (hp : b.pool.Retells rows) (hentries : entries.map (·.2) = later.map Entry.ofRow)
    (h : Script.enactAll entries b = .ok () b') : b'.pool.Retells (rows ++ later) := by
  induction later generalizing rows entries b with
  | nil =>
    obtain rfl : entries = [] := by simpa using hentries
    cases h
    simpa using hp
  | cons r later ih =>
    obtain ⟨⟨line, e⟩, entries, rfl⟩ : ∃ entry rest, entries = entry :: rest :=
      List.exists_cons_of_length_pos (by have := congrArg List.length hentries; simp at this; omega)
    simp only [List.map_cons, List.cons.injEq] at hentries
    obtain ⟨_, b₁, h₁, h₂⟩ := Building.bind_eq_ok.1 h
    have hp₁ : b₁.pool.Retells (rows ++ [r]) := hp.enact (by rw [← hentries.1]; exact h₁)
    have := ih hp₁ hentries.2 h₂
    simpa using this

end Retells

end Pool

namespace Script

/-- A script that compiles leaves a pool that retells its rows, whatever the pool held before. -/
theorem retells_rebuild {text : String} {b : Build} (hb : b.pool.Made)
    (h : (rebuild text b).1 = .ok ()) : (rebuild text b).2.pool.Retells (rows text) := by
  obtain ⟨entries, b₁, hentries, henact, hpool⟩ := rebuild_eq_ok h
  rw [hpool]
  have hempty : b.pool.reset.Retells [] := .nil hb.reset.wellFormed rfl rfl
  exact hempty.enactAll (b := { b with pool := b.pool.reset }) (map_entries? hentries) henact

/-- The pool of a script retells its rows. -/
theorem retells_compile {text : String} {limits : Limits} {p : Pool}
    (h : (compile limits text).1 = .ok p) : p.Retells (rows text) := by
  obtain ⟨hok, hpool⟩ := compile_eq_ok h
  rw [← hpool]
  exact retells_rebuild (.empty limits) hok

end Script

end StoryGraph
