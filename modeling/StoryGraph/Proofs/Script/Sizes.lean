import StoryGraph.Proofs.Script.Rows
import StoryGraph.Proofs.Text.Lines

set_option relaxedAutoImplicit false
set_option autoImplicit false

/-!
# The sizes of what is read

Reading makes nothing longer: no line is longer than the script, no cell than its line, and no list
of flags than its cell. So whoever can hold a script in memory can hold what it says.

## Main definitions

* `Entry.flagLists` — the lists of flags that an entry names.

## Main results

* `Cell.length_flagList_le` — no list of flags is longer than its cell.
* `Row.length_cell_le` — no cell is longer than its line.
* `Script.length_le_of_mem_flagLists` — no list of flags is longer than the script.
-/

namespace StoryGraph

namespace Cell

/-- There are no more pieces between ampersands than characters, but for the empty ones.

**Proof sketch.** Induction on the text. An ampersand begins an empty piece, which is not counted.
Any other character makes the first piece longer, and at most one piece more is counted than before.
-/
theorem length_filter_splitOn_le (cs : List Char) :
    ((cs.splitOn '&').filter (!·.isEmpty)).length ≤ cs.length := by
  rw [List.splitOn_eq_splitOnP]
  induction cs with
  | nil => simp
  | cons c cs ih =>
    rw [List.splitOnP_cons_eq_if_modifyHead, List.length_cons]
    split
    case isTrue =>
      rw [List.filter_cons_of_neg (by simp)]
      omega
    case isFalse =>
      obtain ⟨piece, pieces, hpieces⟩ :=
        List.exists_cons_of_ne_nil (List.splitOnP_ne_nil (· == '&') cs)
      rw [hpieces] at ih ⊢
      have hsub := ((List.sublist_cons_self piece pieces).filter (!·.isEmpty)).length_le
      rw [List.modifyHead_cons, List.filter_cons_of_pos (by simp), List.length_cons]
      omega

/-- A list of flags is not longer than its cell. -/
theorem length_flagList_le (text : String) : (flagList text).length ≤ text.length := by
  have hpieces := length_filter_splitOn_le (text.toList.filter (!Text.isBlank ·))
  have hblanks := List.length_filter_le (!Text.isBlank ·) text.toList
  rw [flagList, List.length_map, ← String.length_toList]
  omega

end Cell

namespace Row

/-- The cell of a column is not longer than the line. -/
theorem length_cell_le (line : List Char) (c : Column) :
    ((ofLine line).cell c).length ≤ line.length := by
  rw [← String.length_toList]
  simp only [cell, ofLine, Fin.getElem_fin, Vector.getElem_ofFn, String.toList_ofList]
  cases htext : (readCells columnCount line)[c.place.val]? with
  | none => exact Nat.zero_le _
  | some text => exact length_le_of_mem_readCells (List.mem_of_getElem? htext)

end Row

/-- The lists of flags that an entry names. -/
def Entry.flagLists : Entry → List (List FlagId)
  | node _ said => [said.effects, said.requires]
  | choice _ _ _ effects => [effects]
  | unlabelled | unaddressed _ => []

/-- The lists of flags that a row names are those of its cells.

**Proof sketch.** By `entry_cases`: a declaration has the lists of two cells, a choice that of one,
and the other entries have none. -/
theorem Entry.exists_cell_of_mem_flagLists {r : Row} {ids : List FlagId}
    (h : ids ∈ (Entry.ofRow r).flagLists) : ∃ c, ids = Cell.flagList (r.cell c) := by
  rcases r.entry_cases with ⟨_, -, -, heq⟩ | ⟨_, -, -, -, heq⟩ | ⟨-, -, heq⟩ | ⟨-, -, heq⟩
  · rw [heq, flagLists, List.mem_cons, List.mem_singleton] at h
    rcases h with rfl | rfl
    · exact ⟨.flagsSet, rfl⟩
    · exact ⟨.flagsReq, rfl⟩
  · rw [heq, flagLists, List.mem_singleton] at h
    exact ⟨.choiceSet, h⟩
  all_goals
    rw [heq, flagLists] at h
    cases h

namespace Script

variable {text : String}

/-- A row is that of a line which is not longer than the script. -/
theorem exists_line_of_mem_rows {r : Row} (h : r ∈ rows text) :
    ∃ line, line.length ≤ text.length ∧ Row.ofLine line = r := by
  obtain ⟨line, hline, rfl⟩ := List.mem_map.1 h
  refine ⟨line, ?_, rfl⟩
  rw [← String.length_toList]
  exact Text.length_le_of_mem_lines (List.mem_of_mem_tail (List.mem_filter.1 hline).1)

/-- No list of flags that a script names is longer than the script.

**Proof sketch.** The list stands in a cell of a row, and the row in a line of the text. A list is
not longer than its cell, a cell not longer than its line, and a line not longer than the text. -/
theorem length_le_of_mem_flagLists {entries : List (Nat × Entry)}
    (hentries : entries? text = some entries) {numbered : Nat × Entry} (hmem : numbered ∈ entries)
    {ids : List FlagId} (hids : ids ∈ numbered.2.flagLists) : ids.length ≤ text.length := by
  have hrow : numbered.2 ∈ (rows text).map Entry.ofRow := by
    rw [← map_entries? hentries]
    exact List.mem_map_of_mem hmem
  obtain ⟨r, hr, hentry⟩ := List.mem_map.1 hrow
  obtain ⟨line, hline, hofLine⟩ := exists_line_of_mem_rows hr
  rw [← hentry] at hids
  obtain ⟨c, rfl⟩ := Entry.exists_cell_of_mem_flagLists hids
  rw [← hofLine]
  calc (Cell.flagList ((Row.ofLine line).cell c)).length
    _ ≤ ((Row.ofLine line).cell c).length := Cell.length_flagList_le _
    _ ≤ line.length := Row.length_cell_le line c
    _ ≤ text.length := hline

end Script

end StoryGraph
