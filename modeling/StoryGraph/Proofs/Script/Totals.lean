import StoryGraph.Proofs.Script.Rows
import StoryGraph.Script.Compile

set_option relaxedAutoImplicit false
set_option autoImplicit false

/-!
# What a script needs room for

How much the rows of a script take of each part of a pool, counted without a pool: a node when it is
mentioned for the first time, a choice for each choice with a label, and a flag reference for each
item of the flag lists, also of those that a later row replaces. The totals tell whether the rows
fit under some limits and, when one row is too many, what is wrong with it.

## Main definitions

* `Row.idNumber`, `Row.IsAddressed` — the number by which a row names its node, and whether it is
  that of a node.
* `Script.total` — how much rows take of a part.
* `Script.Fits` — rows keep to limits, and those that take effect name nodes.
* `Row.fault?` — what is wrong with a row that is one too many.

## Main results

* `Script.total_le_append`, `Script.Fits.of_append` — with more rows, no total falls, so rows that
  fit do so from the first on.
* `Script.Fits.fault?_eq_none` — nothing is wrong with a row that fits.
-/

namespace StoryGraph

namespace Row

/-- The number by which a row names its node, zero if there is none. In the row of a choice a dash
and a name for the choice may follow it. -/
def idNumber (r : Row) : Int :=
  let cell := (r.cell .nodeId).toList
  (Cell.leadingInt? (if r.isChoice then Cell.beforeDash (Text.trim cell) else cell)).getD 0

/-- The number of a row is that of a node: it is not negative, and 32 bits hold it. -/
def IsAddressed (r : Row) : Prop := 0 ≤ r.idNumber ∧ r.idNumber < UInt32.size

instance (r : Row) : Decidable r.IsAddressed := inferInstanceAs (Decidable (_ ∧ _))

/-- The node that a row names is the one with its number. -/
theorem named?_eq (r : Row) : r.named? = NodeId.ofInt? r.idNumber := by
  unfold named? idNumber Cell.parentId? Cell.nodeId?
  split <;> simp

/-- A row names a node when its number is that of one. -/
theorem exists_named?_iff (r : Row) : (∃ id, r.named? = some id) ↔ r.IsAddressed := by
  rw [named?_eq, NodeId.ofInt?, IsAddressed]
  split <;> simp_all

/-- A row that names no node has a number that is none. -/
theorem not_isAddressed_of_named? {r : Row} (h : r.named? = none) : ¬ r.IsAddressed := by
  rw [← exists_named?_iff, h]
  simp

/-- The flags that a row names in the cells that it is read for. -/
def flags (r : Row) : List FlagId :=
  if r.isChoice then if r.isLabelled then Cell.flagList (r.cell .choiceSet) else []
  else Cell.flagList (r.cell .flagsSet) ++ Cell.flagList (r.cell .flagsReq)

end Row

namespace Script

/-- The rows of the lines behind a header. -/
def rowsFrom (lines : List (List Char)) : List Row :=
  (lines.filter fun line => !line.all Text.isBlank).map Row.ofLine

section

variable {line : List Char} {lines : List (List Char)}

/-- Without lines there are no rows. -/
theorem rowsFrom_nil : rowsFrom [] = [] := rfl

/-- A blank line is no row. -/
theorem rowsFrom_blank (h : line.all Text.isBlank) : rowsFrom (line :: lines) = rowsFrom lines := by
  simp [rowsFrom, h]

/-- Any other line is one. -/
theorem rowsFrom_cons (h : ¬ line.all Text.isBlank) :
    rowsFrom (line :: lines) = Row.ofLine line :: rowsFrom lines := by
  simp [rowsFrom, h]

/-- The rows of some lines come before those of later ones. -/
theorem rowsFrom_append (lines later : List (List Char)) :
    rowsFrom (lines ++ later) = rowsFrom lines ++ rowsFrom later := by
  simp [rowsFrom]

end

/-- A text that is not empty has a header.

**Proof sketch.** By the definition of `Text.lines`: any character starts a line. -/
theorem exists_header {text : String} (h : text ≠ "") :
    ∃ header lines, Text.lines text.toList = header :: lines := by
  have hchars : text.toList ≠ [] := by rwa [ne_eq, String.toList_eq_nil_iff]
  refine List.exists_cons_of_ne_nil ?_
  unfold Text.lines
  split
  · contradiction
  · simp
  · simp
  · split <;> simp

section

variable {text : String} {header : List Char} {lines : List (List Char)}

/-- The rows of a script are those of the lines behind its header. -/
theorem rows_of_lines (h : Text.lines text.toList = header :: lines) :
    rows text = rowsFrom lines := by
  rw [rows, h]
  rfl

/-- The entries of a script are those of the lines behind its header, the first of which is line
two. -/
theorem entries?_of_lines (h : Text.lines text.toList = header :: lines) :
    entries? text = some (entriesFrom 2 lines) := by
  rw [entries?, h]

end

/-- How much rows take of a part: as many nodes as they mention, as many choices as they declare,
and as many flag references as they name flags. -/
def total (rows : List Row) : Part → Nat
  | .nodes => (mentions rows).eraseDups.length
  | .choices => (branches rows).length
  | .flagRefs => (rows.flatMap Row.flags).length

/-- With more rows, no total falls. -/
theorem total_le_append (rows later : List Row) (part : Part) :
    total rows part ≤ total (rows ++ later) part := by
  cases part with
  | nodes => simp [total, mentions, List.eraseDups_append]
  | choices => simp [total, branches]
  | flagRefs => simp [total]

/-! ## One more row -/

section

variable (rows : List Row) {r : Row} {id : NodeId}

/-- One more mention counts if it is the first of its node. -/
theorem total_nodes_snoc (h : mentions (rows ++ [r]) = mentions rows ++ [id]) :
    total (rows ++ [r]) .nodes =
      if id ∈ mentions rows then total rows .nodes else total rows .nodes + 1 := by
  rw [total, h, eraseDups_snoc]
  split <;> simp [total]

/-- The flags of one more row count. -/
theorem total_flagRefs_snoc :
    total (rows ++ [r]) .flagRefs = total rows .flagRefs + r.flags.length := by
  simp [total]

/-- One more choice counts. -/
theorem total_choices_snoc (h : branches (rows ++ [r]) = branches rows ++ [r]) :
    total (rows ++ [r]) .choices = total rows .choices + 1 := by
  simp [total, h]

end

/-! ## Rows that fit -/

/-- The rows `rows` keep to the limits `limits`, and those that take effect name nodes. -/
structure Fits (limits : Limits) (rows : List Row) : Prop where
  addressed : ∀ r ∈ rows, r.isEffective = true → r.IsAddressed
  total_le : ∀ part, total rows part ≤ (limits.of part).toNat

variable {limits : Limits} {rows later : List Row}

/-- No rows at all fit. -/
theorem fits_nil (limits : Limits) : Fits limits [] where
  addressed r hr := by simp at hr
  total_le part := by cases part <;> exact Nat.zero_le _

/-- Rows that fit do so from the first on. -/
theorem Fits.of_append (h : Fits limits (rows ++ later)) : Fits limits rows where
  addressed r hr := h.addressed r (List.mem_append_left _ hr)
  total_le part := Nat.le_trans (total_le_append rows later part) (h.total_le part)

end Script

namespace Row

/-- The parts that a row takes something of, in the order in which it does. -/
def asks (r : Row) : List Part :=
  if r.isChoice then [.nodes, .flagRefs, .choices] else [.flagRefs, .nodes]

/-- What is wrong with the row `r` on the line `line`, behind the rows `before`: that its number is
no node's, or else the first of the parts that it asks for whose total is beyond its limit. -/
def fault? (limits : Limits) (before : List Row) (line : Nat) (r : Row) : Option Fault :=
  if r.isEffective = true ∧ ¬ r.IsAddressed then some (.unaddressed line (r.cell .nodeId))
  else
    (r.asks.find? fun part => (limits.of part).toNat < Script.total (before ++ [r]) part).map
      fun part => .full line ⟨part, limits.of part⟩

/-- A row that is one too many is at fault for the first part it asks for that overflows.

**Proof sketch.** The parts are searched in the order in which the row asks for them. Those before
`part` fit, so it is the first that does not. -/
theorem fault?_eq_full {limits : Limits} {before : List Row} {r : Row} {part : Part}
    {later : List Part} (line : Nat) (earlier : List Part) (hr : r.IsAddressed)
    (hasks : r.asks = earlier ++ part :: later)
    (hearlier : ∀ q ∈ earlier, Script.total (before ++ [r]) q ≤ (limits.of q).toNat)
    (hpart : (limits.of part).toNat < Script.total (before ++ [r]) part) :
    r.fault? limits before line = some (.full line ⟨part, limits.of part⟩) := by
  rw [fault?, if_neg fun h => h.2 hr, Option.map_eq_some_iff]
  refine ⟨part, List.find?_eq_some_iff_append.2 ⟨by simpa using hpart, earlier, later, hasks, ?_⟩,
    rfl⟩
  intro q hq
  simpa using hearlier q hq

/-- A node that is one too many is at fault for its flags when these are too many as well. -/
example :
    (Row.ofLine ",2,,,,,,,,,,,,,,3".toList).fault? { maxNodes := 1, maxFlagRefs := 2 }
        [Row.ofLine ",1,,,,,,,,,,,,,,1&2".toList] 4 =
      some (.full 4 ⟨.flagRefs, 2⟩) := by
  decide +kernel

/-- A row that should name a node and names none is at fault for that. -/
theorem fault?_eq_unaddressed {limits : Limits} {before : List Row} {r : Row} (line : Nat)
    (heffect : r.isEffective = true) (hr : ¬ r.IsAddressed) :
    r.fault? limits before line = some (.unaddressed line (r.cell .nodeId)) :=
  if_pos ⟨heffect, hr⟩

end Row

/-- Nothing is wrong with a row that fits. -/
theorem Script.Fits.fault?_eq_none {limits : Limits} {before : List Row} {r : Row}
    (h : Fits limits (before ++ [r])) (line : Nat) : r.fault? limits before line = none := by
  have hr := h.addressed r (by simp)
  rw [Row.fault?, if_neg (by simpa using hr), Option.map_eq_none_iff, List.find?_eq_none]
  intro part _
  simpa using h.total_le part

end StoryGraph
