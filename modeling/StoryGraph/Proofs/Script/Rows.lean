import StoryGraph.Script.Entry

set_option relaxedAutoImplicit false
set_option autoImplicit false

/-!
# What the rows of a script say

The reading of a script that needs no pool: which rows take effect, which nodes they mention, which
rows declare a node and which choices hang on it. A compiled story is measured against this reading.

## Main definitions

* `Script.rows` — the rows of a script.
* `Row.isEffective`, `Row.isLabelled`, `Row.named?` — whether a row takes effect, whether it is a
  choice with a label, and the node that it names.
* `Script.mentions`, `Script.declaring`, `Script.branches`, `Script.branchesOf` — the ids that rows
  mention, the rows that declare a node, all choices, and the choices of a node.
* `Offer` — a choice with its flags in full.

## Main results

* `Script.map_entries?` — the entries of a script are the meanings of its rows.
* `Row.entry_cases` — the four things that a row can say.
* `Script.snoc_node`, `Script.snoc_choice`, `Script.snoc_unlabelled` — what one more row says.
* `Script.take_drop_findIdx` — elements that stand together are a run that starts at the first.
-/

namespace StoryGraph

/-- A choice as a player meets it, its flags in full. -/
structure Offer where
  label : String
  goto : Option NodeId
  effects : List FlagId
deriving DecidableEq, Repr

namespace Row

/-- A row is a choice with a label, and not only with blanks for one. -/
def isLabelled (r : Row) : Bool :=
  r.isChoice && !(Text.trim (r.cell .choiceLabel).toList).isEmpty

/-- What has a label is a choice. -/
theorem isChoice_of_isLabelled {r : Row} (h : r.isLabelled = true) : r.isChoice = true := by
  rw [isLabelled, Bool.and_eq_true] at h
  exact h.1

/-- A row takes effect when it declares a node, or a choice with a label. -/
def isEffective (r : Row) : Bool := !r.isChoice || r.isLabelled

/-- The node that a row names, if its cell can name one. -/
def named? (r : Row) : Option NodeId :=
  if r.isChoice then Cell.parentId? (r.cell .nodeId) else Cell.nodeId? (r.cell .nodeId)

/-- A row names a node. -/
def names (id : NodeId) (r : Row) : Bool := r.named? == some id

/-- The choice that a row declares. -/
def offer (r : Row) : Offer where
  label := String.ofList (Text.trim (r.cell .choiceLabel).toList)
  goto := Cell.target? (r.cell .choiceGoto)
  effects := Cell.flagList (r.cell .choiceSet)

end Row

namespace Script

/-- The rows of a script: its lines after the header, but for the blank ones. -/
def rows (text : String) : List Row :=
  ((Text.lines text.toList).tail.filter fun line => !line.all Text.isBlank).map Row.ofLine

/-- The ids that rows mention, as often as they do. -/
def mentions (rows : List Row) : List NodeId := (rows.filter Row.isEffective).filterMap Row.named?

/-- The rows that declare a node. -/
def declaring (id : NodeId) (rows : List Row) : List Row :=
  rows.filter fun r => !r.isChoice && r.names id

/-- The choices that rows declare. -/
def branches (rows : List Row) : List Row := rows.filter Row.isLabelled

/-- The choices that rows hang on a node. -/
def branchesOf (id : NodeId) (rows : List Row) : List Row := (branches rows).filter (·.names id)

/-- The last index key that rows give, empty if they give none. -/
def lastKey (rows : List Row) : String :=
  ((rows.map fun r => r.cell .indexKey).filter fun key => !key.isEmpty).getLast?.getD ""

/-! ## Rows and entries -/

/-- The entries behind a line are the meanings of the rows behind it.

**Proof sketch.** Induction on the lines, for every number: a blank line has no entry and is no row,
and any other is both. -/
theorem map_entriesFrom (number : Nat) (lines : List (List Char)) :
    (entriesFrom number lines).map (·.2) =
      ((lines.filter fun line => !line.all Text.isBlank).map Row.ofLine).map Entry.ofRow := by
  induction lines generalizing number with
  | nil => rfl
  | cons line lines ih =>
    unfold entriesFrom
    by_cases hblank : line.all Text.isBlank
    · rw [if_pos hblank, ih]
      simp [hblank]
    · rw [if_neg hblank, List.map_cons, ih]
      simp [hblank]

/-- The entries behind a line come before those of later lines.

**Proof sketch.** Induction on the lines, for every number, which grows by one at each line, blank
or not. -/
theorem entriesFrom_append (number : Nat) (lines later : List (List Char)) :
    entriesFrom number (lines ++ later) =
      entriesFrom number lines ++ entriesFrom (number + lines.length) later := by
  induction lines generalizing number with
  | nil => simp [entriesFrom]
  | cons line lines ih =>
    have hnumber : number + (line :: lines).length = number + 1 + lines.length := by
      rw [List.length_cons]
      omega
    rw [List.cons_append, entriesFrom, entriesFrom, ih, hnumber]
    split <;> simp

/-- The entries of a script are the meanings of its rows. -/
theorem map_entries? {text : String} {entries : List (Nat × Entry)}
    (h : entries? text = some entries) : entries.map (·.2) = (rows text).map Entry.ofRow := by
  unfold entries? at h
  split at h
  case h_1 => cases h
  case h_2 _ lines hlines =>
    obtain rfl := Option.some.inj h
    rw [map_entriesFrom, rows, hlines, List.tail_cons]

end Script

namespace Row

/-- A row declares a node, or it hangs a choice on one, or it is a choice without a label, or it
should name a node and names none.

**Proof sketch.** By the tests that an entry is made by: whether the row is a choice, whether it has
a label, and whether its cell names a node. -/
theorem entry_cases (r : Row) :
    (∃ id, r.isChoice = false ∧ r.named? = some id ∧
      Entry.ofRow r = .node id (Entry.declarationOf r)) ∨
    (∃ id, r.isChoice = true ∧ r.isLabelled = true ∧ r.named? = some id ∧
      Entry.ofRow r = .choice id r.offer.label r.offer.goto r.offer.effects) ∨
    (r.isChoice = true ∧ r.isLabelled = false ∧ Entry.ofRow r = .unlabelled) ∨
    (r.isEffective = true ∧ r.named? = none ∧
      Entry.ofRow r = .unaddressed (r.cell .nodeId)) := by
  unfold Entry.ofRow Entry.ofNodeRow Entry.ofChoiceRow isEffective isLabelled named?
  cases hchoice : r.isChoice
  · cases hid : Cell.nodeId? (r.cell .nodeId) <;> simp
  · by_cases hlabel : (Text.trim (r.cell .choiceLabel).toList).isEmpty
    · simp [hlabel]
    · cases hid : Cell.parentId? (r.cell .nodeId) <;> simp [hlabel, offer]

end Row

namespace Script

/-! ## One more row -/

variable (rows : List Row) {r : Row} {id : NodeId}

/-- A row that declares a node mentions it and declares it, and is no choice. -/
theorem snoc_node (hchoice : r.isChoice = false) (hid : r.named? = some id) :
    mentions (rows ++ [r]) = mentions rows ++ [id] ∧
      (∀ other, declaring other (rows ++ [r]) =
        if id = other then declaring other rows ++ [r] else declaring other rows) ∧
      branches (rows ++ [r]) = branches rows := by
  refine ⟨?_, fun other => ?_, ?_⟩
  · simp [mentions, Row.isEffective, hchoice, hid]
  · by_cases h : id = other <;> simp [declaring, Row.names, hchoice, hid, h]
  · simp [branches, Row.isLabelled, hchoice]

/-- A choice mentions its node and declares none. -/
theorem snoc_choice (hlabel : r.isLabelled = true) (hid : r.named? = some id) :
    mentions (rows ++ [r]) = mentions rows ++ [id] ∧
      (∀ other, declaring other (rows ++ [r]) = declaring other rows) ∧
      branches (rows ++ [r]) = branches rows ++ [r] := by
  have hchoice := Row.isChoice_of_isLabelled hlabel
  refine ⟨?_, fun other => ?_, ?_⟩
  · simp [mentions, Row.isEffective, hlabel, hid]
  · simp [declaring, hchoice]
  · simp [branches, hlabel]

/-- A choice without a label says nothing. -/
theorem snoc_unlabelled (hchoice : r.isChoice = true) (hlabel : r.isLabelled = false) :
    mentions (rows ++ [r]) = mentions rows ∧
      (∀ other, declaring other (rows ++ [r]) = declaring other rows) ∧
      branches (rows ++ [r]) = branches rows := by
  refine ⟨?_, fun other => ?_, ?_⟩
  · simp [mentions, Row.isEffective, hchoice, hlabel]
  · simp [declaring, hchoice]
  · simp [branches, hlabel]

/-- The index key of one more row counts if it is not empty. -/
theorem lastKey_snoc :
    lastKey (rows ++ [r]) =
      if (r.cell .indexKey).isEmpty then lastKey rows else r.cell .indexKey := by
  by_cases h : (r.cell .indexKey).isEmpty <;> simp [lastKey, h]

/-- One more id counts if it is new. -/
theorem eraseDups_snoc (ids : List NodeId) (id : NodeId) :
    (ids ++ [id]).eraseDups = if id ∈ ids then ids.eraseDups else ids.eraseDups ++ [id] := by
  rw [List.eraseDups_append]
  by_cases h : id ∈ ids <;> simp [List.removeAll, h, List.eraseDups_cons]

/-- One more choice counts for its node. -/
theorem branchesOf_snoc (hlabel : r.isLabelled = true) (hid : r.named? = some id)
    (other : NodeId) :
    branchesOf other (rows ++ [r]) =
      if id = other then branchesOf other rows ++ [r] else branchesOf other rows := by
  by_cases h : id = other <;> simp [branchesOf, branches, Row.names, hlabel, hid, h]

/-! ## Choices that stand together -/

/-- The first of some elements stays the first when one more is added. -/
theorem findIdx_snoc_of_filter_ne_nil {α : Type} {P : α → Bool} {l : List α} (a : α)
    (h : l.filter P ≠ []) : (l ++ [a]).findIdx P = l.findIdx P := by
  obtain ⟨b, hb⟩ := List.exists_mem_of_ne_nil _ h
  obtain ⟨hmem, hP⟩ := List.mem_filter.1 hb
  rw [List.findIdx_append, if_pos (List.findIdx_lt_length_of_exists ⟨b, hmem, hP⟩)]

/-- An element that is the first of its kind is found where it was added.

**Proof sketch.** No element before it has the property, so the search goes through all of them. -/
theorem findIdx_snoc_of_filter_eq_nil {α : Type} {P : α → Bool} {l : List α} {a : α}
    (h : l.filter P = []) (ha : P a = true) : (l ++ [a]).findIdx P = l.length := by
  have hmiss : l.findIdx P = l.length := by
    rw [List.findIdx_eq_length]
    intro b hb
    simpa using List.filter_eq_nil_iff.1 h b hb
  rw [List.findIdx_append, hmiss]
  simp [List.findIdx_cons, ha]

/-- The elements with a property that stand together in a list form a run in it that starts at the
first of them.

**Proof sketch.** The list is what stands before them, the elements with the property, and what
stands behind. None with the property stands before, as all are in the middle. So the first of them
is found behind `before`, and from there on they are taken. -/
theorem take_drop_findIdx {α : Type} {P : α → Bool} {l : List α} (h : l.filter P <:+: l) :
    (l.drop (l.findIdx P)).take (l.filter P).length = l.filter P := by
  obtain ⟨before, after, hl⟩ := h
  generalize hown : l.filter P = own at hl
  have hall : ∀ a ∈ own, P a = true := by
    intro a ha
    rw [← hown] at ha
    exact (List.mem_filter.1 ha).2
  have hself : own.filter P = own := List.filter_eq_self.2 hall
  -- all elements with the property stand in the middle, so none stands before it
  have hnone : before.filter P = [] := by
    have hlen := congrArg (fun xs => (xs.filter P).length) hl
    simp only [List.filter_append, List.length_append, hself, hown] at hlen
    exact List.length_eq_zero_iff.1 (by omega)
  cases own with
  | nil => simp
  | cons a own =>
    have hidx : l.findIdx P = before.length := by
      have hfirst := findIdx_snoc_of_filter_eq_nil hnone (hall a (by simp))
      have hsplit : l = (before ++ [a]) ++ (own ++ after) := by simp [← hl]
      rw [hsplit, List.findIdx_append, hfirst, if_pos (by simp)]
    rw [hidx, ← hl]
    simp

end Script

end StoryGraph
