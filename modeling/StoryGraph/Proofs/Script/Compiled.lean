import StoryGraph.Proofs.Script.Retelling

set_option relaxedAutoImplicit false
set_option autoImplicit false

/-!
# What a compiled story says

The two halves of a compiled story, read off its script: its nodes and its choices. Both hold for a
pool that was compiled afresh and for one that was used before, even by a script that failed.

## Main definitions

* `Pool.NodesFrom` — the nodes of a pool are those that rows declare and mention.
* `Pool.ChoicesFrom` — the choices of a pool are those that rows declare, each on its node.

## Main results

* `Script.nodesFrom_of_compiles` — a script that compiles leaves the nodes that its rows say.
* `Script.choicesFrom_of_compiles` — a script that compiles leaves the choices that its rows say.
-/

namespace StoryGraph

namespace Pool

/-- The nodes of the pool `p` are those that the rows `rows` mention, in the order of their first
mention, and each is as the last row that declares it says. -/
structure NodesFrom (p : Pool) (rows : List Row) : Prop where
  /-- Every row that takes effect names a node. -/
  addressed : ∀ r ∈ rows, r.isEffective = true → ∃ id, r.named? = some id
  ids : p.nodes.toList.map (·.id) = (Script.mentions rows).eraseDups
  slotOf : ∀ id slot, p.slotOf? id = some slot ↔ (Script.mentions rows).eraseDups[slot]? = some id
  contains : ∀ id, p.contains id = true ↔ id ∈ Script.mentions rows
  find : ∀ id slot n, p.find? id = some (slot, n) ↔ p.node? slot = some n ∧ n.id = id
  declared : ∀ id r, (Script.declaring id rows).getLast? = some r →
    ∃ slot n, p.find? id = some (slot, n) ∧ p.Told n (Script.declaring id rows) r
  /-- A node that no row declares has nothing but its id and its choices. -/
  undeclared : ∀ id ∈ Script.mentions rows, Script.declaring id rows = [] →
    ∃ slot n, p.find? id = some (slot, n) ∧ n.toDraft = {} ∧ n.authored = false

/-- The choices of the pool `p` are those that the rows `rows` declare, in their order, and each
node has a run for as many as name it. -/
structure ChoicesFrom (p : Pool) (rows : List Row) : Prop where
  choices : p.choices.toList.map p.offer = (Script.branches rows).map Row.offer
  parent : ∀ r ∈ Script.branches rows, ∃ id, r.named? = some id ∧ p.contains id = true
  count : ∀ id slot n, p.find? id = some (slot, n) →
    n.choices.count.toNat = (Script.branchesOf id rows).length
  offset : ∀ id slot n, p.find? id = some (slot, n) → 0 < n.choices.count.toNat →
    n.choices.offset.toNat = (Script.branches rows).findIdx (·.names id)
  /-- Choices that no choice of another node parts are found at their node. -/
  together : ∀ id slot n, p.find? id = some (slot, n) →
    Script.branchesOf id rows <:+: Script.branches rows →
    (p.choicesOf n).map p.offer = (Script.branchesOf id rows).map Row.offer

namespace Retells

variable {p : Pool} {rows : List Row}

/-- A row that declares a node mentions it. -/
private theorem mem_mentions_of_declaring {id : NodeId} {r : Row}
    (h : r ∈ Script.declaring id rows) : id ∈ Script.mentions rows := by
  simp only [Script.declaring, Row.names, List.mem_filter, Bool.and_eq_true, Bool.not_eq_true',
    beq_iff_eq] at h
  obtain ⟨hr, hchoice, hid⟩ := h
  exact List.mem_filterMap.2 ⟨r, List.mem_filter.2 ⟨hr, by simp [Row.isEffective, hchoice]⟩, hid⟩

/-- A choice mentions its node. -/
private theorem mem_mentions_of_branches {id : NodeId} {r : Row} (h : r ∈ Script.branches rows)
    (hid : r.named? = some id) : id ∈ Script.mentions rows := by
  obtain ⟨hr, hlabel⟩ := List.mem_filter.1 h
  exact List.mem_filterMap.2 ⟨r, List.mem_filter.2 ⟨hr, by simp [Row.isEffective, hlabel]⟩, hid⟩

/-- A pool that retells rows has the nodes that the rows say.

**Proof sketch.** The ids and the index come from `Retells.ids`, as an index in a well-formed pool
gives the place among the ids. A node that a row mentions is found in the pool, and `Holds.shows`
says what it shows. -/
theorem nodesFrom (hp : p.Retells rows) : p.NodesFrom rows where
  addressed := hp.addressed
  ids := hp.ids
  slotOf id slot := by rw [hp.wellFormed.slotOf?_eq_some_iff_ids, hp.ids]
  contains id := by rw [hp.wellFormed.contains_iff_mem_ids, hp.mem_ids_iff]
  find id slot n := hp.wellFormed.find?_eq_some_iff
  declared id r hr := by
    have hmem := mem_mentions_of_declaring (List.mem_of_getLast? hr)
    obtain ⟨slot, hslot⟩ := hp.wellFormed.find?_of_mem_ids (hp.mem_ids_iff.2 hmem)
    exact ⟨slot, p.nodeOf id, hslot, (hp.shows id).told r hr⟩
  undeclared id hid hnone := by
    obtain ⟨slot, hslot⟩ := hp.wellFormed.find?_of_mem_ids (hp.mem_ids_iff.2 hid)
    exact ⟨slot, p.nodeOf id, hslot, (hp.shows id).untold hnone⟩

/-- The run of a node leads to its choices when they stand together.

**Proof sketch.** The run lies inside the choices, so it is what it takes of them. The choices are
those of the rows, so the run takes the rows from the first that names the node, as many as name
it; these are all of them. -/
theorem map_choicesOf (hp : p.Retells rows) {id : NodeId} {slot : Nat} {n : Node}
    (hn : p.find? id = some (slot, n))
    (htogether : Script.branchesOf id rows <:+: Script.branches rows) :
    (p.choicesOf n).map p.offer = (Script.branchesOf id rows).map Row.offer := by
  obtain ⟨hslot, -⟩ := hp.wellFormed.find?_eq_some_iff.1 hn
  have hstop := hp.wellFormed.stop_le n (Array.mem_of_getElem? hslot)
  have hcount := hp.count id
  have hoffset := hp.offset id
  rw [nodeOf_of_find? hn] at hcount hoffset
  rw [choicesOf, Span.slice, if_pos hstop, List.map_take, List.map_drop, hp.choices, hcount]
  rcases Nat.eq_zero_or_pos n.choices.count.toNat with hzero | hpos
  · have hnone : Script.branchesOf id rows = [] := by
      rw [← List.length_eq_zero_iff, ← hcount, hzero]
    simp [hnone]
  · rw [hoffset hpos, ← List.map_drop, ← List.map_take]
    exact congrArg (List.map Row.offer) (Script.take_drop_findIdx htogether)

/-- A pool that retells rows has the choices that the rows say.

**Proof sketch.** The list of all choices is `Holds.choices`. A row with a label names a node, which
is in the pool as the row mentions it. The runs of a node are read off `Holds.count` and
`Holds.offset` with the node that was found. -/
theorem choicesFrom (hp : p.Retells rows) : p.ChoicesFrom rows where
  choices := hp.choices
  parent r hr := by
    obtain ⟨hmem, hlabel⟩ := List.mem_filter.1 hr
    obtain ⟨id, hid⟩ := hp.addressed r hmem (by simp [Row.isEffective, hlabel])
    refine ⟨id, hid, ?_⟩
    rw [hp.wellFormed.contains_iff_mem_ids, hp.mem_ids_iff]
    exact mem_mentions_of_branches hr hid
  count id slot n hn := by
    rw [← nodeOf_of_find? hn]
    exact hp.count id
  offset id slot n hn := by
    rw [← nodeOf_of_find? hn]
    exact hp.offset id
  together id slot n hn := hp.map_choicesOf hn

end Retells

end Pool

namespace Script

/-- **A script that compiles leaves the nodes that its rows say**, whatever the limits are, and
whatever the pool held before.

**Proof sketch.** The pool of a script retells its rows, by `retells_compile` and `retells_rebuild`,
and a pool that does has these nodes, by `Pool.Retells.nodesFrom`. -/
theorem nodesFrom_of_compiles (text : String) :
    (∀ limits p, (compile limits text).1 = .ok p → p.NodesFrom (rows text)) ∧
    (∀ b : Build, b.pool.Made → (rebuild text b).1 = .ok () →
      (rebuild text b).2.pool.NodesFrom (rows text)) :=
  ⟨fun _ _ hp => (retells_compile hp).nodesFrom, fun _ hb hok => (retells_rebuild hb hok).nodesFrom⟩

/-- A script with a choice before the row of its node. -/
def choiceBeforeNode : String := "\n,7,choice,,,,,,,,,,a,8,1\nk,7,,Ann"

/-- A script that fails at its second row. -/
def failing : String := "\n,5\n,-1"

/-- A placeholder that is declared afterwards: compiled afresh, and into the pool that a script
left when it failed. -/
theorem nodesFrom_of_choiceBeforeNode :
    (∃ p, (compile {} choiceBeforeNode).1 = .ok p ∧ p.NodesFrom (rows choiceBeforeNode)) ∧
    (rebuild choiceBeforeNode (rebuild failing { pool := .empty {} }).2).1 = .ok () ∧
    (rebuild choiceBeforeNode (rebuild failing { pool := .empty {} }).2).2.pool.NodesFrom
      (rows choiceBeforeNode) := by
  have hfresh : (rebuild choiceBeforeNode { pool := .empty {} }).1 = .ok () :=
    eq_ok_of_isOk (by decide +kernel)
  have hused : (rebuild choiceBeforeNode (rebuild failing { pool := .empty {} }).2).1 = .ok () :=
    eq_ok_of_isOk (by decide +kernel)
  obtain ⟨p, hp⟩ := exists_compile_eq_ok hfresh
  exact ⟨⟨p, hp, (nodesFrom_of_compiles _).1 {} p hp⟩, hused,
    (nodesFrom_of_compiles _).2 _ (made_rebuild _ (.empty {})) hused⟩

/-- **A script that compiles leaves the choices that its rows say**, whatever the limits are, and
whatever the pool held before.

**Proof sketch.** The pool of a script retells its rows, by `retells_compile` and `retells_rebuild`,
and a pool that does has these choices, by `Pool.Retells.choicesFrom`. -/
theorem choicesFrom_of_compiles (text : String) :
    (∀ limits p, (compile limits text).1 = .ok p → p.ChoicesFrom (rows text)) ∧
    (∀ b : Build, b.pool.Made → (rebuild text b).1 = .ok () →
      (rebuild text b).2.pool.ChoicesFrom (rows text)) :=
  ⟨fun _ _ hp => (retells_compile hp).choicesFrom,
    fun _ hb hok => (retells_rebuild hb hok).choicesFrom⟩

/-- A script with two choices of one node and another node between them. -/
def partedChoices : String := "\n,7,choice,,,,,,,,,,a,8\n,8\n,7,Choice,,,,,,,,,,b"

/-- Two choices of a placeholder: compiled afresh, and into the pool that a script left when it
failed. -/
theorem choicesFrom_of_partedChoices :
    (∃ p, (compile {} partedChoices).1 = .ok p ∧ p.ChoicesFrom (rows partedChoices)) ∧
    (rebuild partedChoices (rebuild failing { pool := .empty {} }).2).1 = .ok () ∧
    (rebuild partedChoices (rebuild failing { pool := .empty {} }).2).2.pool.ChoicesFrom
      (rows partedChoices) := by
  have hfresh : (rebuild partedChoices { pool := .empty {} }).1 = .ok () :=
    eq_ok_of_isOk (by decide +kernel)
  have hused : (rebuild partedChoices (rebuild failing { pool := .empty {} }).2).1 = .ok () :=
    eq_ok_of_isOk (by decide +kernel)
  obtain ⟨p, hp⟩ := exists_compile_eq_ok hfresh
  exact ⟨⟨p, hp, (choicesFrom_of_compiles _).1 {} p hp⟩, hused,
    (choicesFrom_of_compiles _).2 _ (made_rebuild _ (.empty {})) hused⟩

end Script

end StoryGraph
