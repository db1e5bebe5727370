import Mathlib.Data.List.DropRight
import Mathlib.Data.List.TakeWhile
import StoryGraph.Text.Blank

set_option relaxedAutoImplicit false
set_option autoImplicit false

/-!
# Trimmed texts

Trimming takes the blanks off both ends of a text and nothing else. What is read off the front of a
text, and stops at a blank, is the same before the end is trimmed and afterwards.

## Main results

* `Text.trim_eq_nil_iff` — nothing is left of a text when all of it is blank.
* `Text.trim_eq_self` — a text without blanks is left as it is.
* `Text.trim_eq_trimEnd` — a text that does not start with a blank loses none at its front.
* `Text.takeWhile_trimEnd` — the end does not matter to what stops at a blank.
-/

namespace StoryGraph.Text

variable {cs rest : List Char} {c : Char}

/-- A digit is not blank. -/
theorem not_isBlank_of_isDigit (h : c.isDigit = true) : isBlank c = false := by
  have hrange : 48 ≤ c.toNat ∧ c.toNat ≤ 57 := Char.isDigit_iff_toNat.1 h
  have hnone : ∀ n ≤ 57, 48 ≤ n →
      (blankRanges.any fun range => range.1 ≤ n && n ≤ range.2) = false := by decide
  exact hnone c.toNat hrange.2 hrange.1

/-- A blank is not a digit. -/
theorem not_isDigit_of_isBlank (h : isBlank c = true) : c.isDigit = false := by
  rw [Bool.eq_false_iff]
  intro hdigit
  rw [not_isBlank_of_isDigit hdigit] at h
  cases h

/-- Trimming the end is what the library knows as `rdropWhile`, so its lemmas apply. -/
theorem trimEnd_eq_rdropWhile (cs : List Char) : trimEnd cs = cs.rdropWhile isBlank := rfl

/-- Nothing is left of a text when all of it is blank. -/
theorem trim_eq_nil_iff : trim cs = [] ↔ cs.all isBlank = true := by
  have hfront : ∀ c ∈ cs.takeWhile isBlank, isBlank c = true := fun _ => List.mem_takeWhile_imp
  rw [trim, trimEnd_eq_rdropWhile, List.rdropWhile_eq_nil_iff]
  conv_rhs => rw [← List.takeWhile_append_dropWhile (p := isBlank) (l := cs)]
  rw [List.all_append, List.all_eq_true.2 hfront, Bool.true_and, List.all_eq_true]

/-- A trimmed text does not start with a blank. -/
theorem not_isBlank_of_trim_eq_cons (h : trim cs = c :: rest) : isBlank c = false := by
  obtain ⟨more, hmore⟩ : trim cs <+: cs.dropWhile isBlank := List.rdropWhile_prefix ..
  rw [h, List.cons_append] at hmore
  have hne : cs.dropWhile isBlank ≠ [] := by simp [← hmore]
  have hhead := List.head_dropWhile_not isBlank hne
  simpa only [← hmore, List.head_cons] using hhead

/-- A text that does not start with a blank loses none at its front. -/
theorem trim_eq_trimEnd (h : isBlank c = false) (rest : List Char) :
    trim (c :: rest) = trimEnd (c :: rest) := by
  rw [trim, List.dropWhile_cons_of_neg (by simp [h])]

/-- A character that is not blank stays where it is. -/
theorem trimEnd_cons (h : isBlank c = false) (rest : List Char) :
    trimEnd (c :: rest) = c :: trimEnd rest := by
  rw [trimEnd, trimEnd, List.reverse_cons, List.dropWhile_append]
  split
  case isTrue hnil => simp [List.isEmpty_iff.1 hnil, h]
  case isFalse => simp

/-- A text without blanks loses none.

**Proof sketch.** Nothing is dropped from the front, as the first character is no blank, and nothing
from the end, as the last one is none. -/
theorem trim_eq_self (h : ∀ c ∈ cs, isBlank c = false) : trim cs = cs := by
  have hfront : cs.dropWhile isBlank = cs := by
    cases cs with
    | nil => rfl
    | cons c rest => exact List.dropWhile_cons_of_neg (by simp [h c])
  have hend : ∀ hne : cs ≠ [], ¬ isBlank (cs.getLast hne) = true := fun hne => by
    simp [h _ (List.getLast_mem hne)]
  rw [trim, hfront, trimEnd_eq_rdropWhile, List.rdropWhile_eq_self_iff]
  exact hend

/-- A trimmed text has no more blanks to lose. -/
theorem trim_trim (cs : List Char) : trim (trim cs) = trim cs := by
  cases htrim : trim cs with
  | nil => rfl
  | cons c rest =>
    have hblank := not_isBlank_of_trim_eq_cons htrim
    rw [trim_eq_trimEnd hblank, ← htrim, trim]
    exact List.rdropWhile_idempotent ..

/-- What is taken off the front of a text, and stops at a blank, does not hang on its end.

**Proof sketch.** The text is its trimmed form with blanks behind, and of blanks nothing is taken.
So what is taken from the whole text is taken from the trimmed form, even if all of that is taken.
-/
theorem takeWhile_trimEnd {p : Char → Bool} (hp : ∀ c, isBlank c = true → p c = false)
    (cs : List Char) : (trimEnd cs).takeWhile p = cs.takeWhile p := by
  have hblanks : (cs.rtakeWhile isBlank).takeWhile p = [] := by
    cases hend : cs.rtakeWhile isBlank with
    | nil => rfl
    | cons c blanks =>
      have hc : isBlank c = true := List.mem_rtakeWhile_imp (l := cs) (by rw [hend]; simp)
      rw [List.takeWhile_cons_of_neg (by simp [hp c hc])]
  have hcs : trimEnd cs ++ cs.rtakeWhile isBlank = cs := List.rdropWhile_append_rtakeWhile
  conv_rhs => rw [← hcs, List.takeWhile_append, hblanks]
  split
  case isTrue hall =>
    rw [List.append_nil]
    exact (List.takeWhile_prefix p).eq_of_length hall
  case isFalse => rfl

end StoryGraph.Text
