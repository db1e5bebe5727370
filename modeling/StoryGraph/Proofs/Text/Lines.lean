import Mathlib.Data.List.Basic
import StoryGraph.Text.Line

set_option relaxedAutoImplicit false
set_option autoImplicit false

/-!
# How lines are written

A text holds the lines that are written in it one after the other, each with a line break behind it;
only the last one can do without. There are two line breaks, and a text may mix them. Reading the
lines of a text is finding the lines that it holds, and it holds no others.

## Main definitions

* `Text.Holds` — a text holds some lines.
* `Text.withCrLf` — a text with a carriage return before each of its line feeds.

## Main results

* `Text.holds_iff` — the lines that a text holds are the ones that are read.
* `Text.length_le_of_mem_lines` — no line is longer than the text.
* `Text.Holds.withCrLf` — carriage returns before the line feeds change no line.
* `Text.Holds.addBreak` — one more line break at the end ends the last line, or adds an empty one.
-/

namespace StoryGraph.Text

/-- The text holds the lines: it is made of them and of the line breaks between them. -/
inductive Holds : List (List Char) → List Char → Prop
  | nil : Holds [] []
  /-- The last line may stand without a line break, unless it is empty. -/
  | last {line : List Char} (hline : '\n' ∉ line) (hne : line ≠ []) : Holds [line] line
  /-- A line feed ends a line. A carriage return before it would not belong to the line. -/
  | lf {line cs : List Char} {lines : List (List Char)} (hline : '\n' ∉ line)
      (hcr : line.getLast? ≠ some '\r') (later : Holds lines cs) :
      Holds (line :: lines) (line ++ '\n' :: cs)
  /-- So does a line feed behind a carriage return. -/
  | crlf {line cs : List Char} {lines : List (List Char)} (hline : '\n' ∉ line)
      (later : Holds lines cs) : Holds (line :: lines) (line ++ '\r' :: '\n' :: cs)

/-- A text with a carriage return before each of its line feeds. -/
def withCrLf (cs : List Char) : List Char :=
  cs.flatMap fun c => if c = '\n' then ['\r', '\n'] else [c]

variable {cs line : List Char} {lines : List (List Char)} {c : Char}

/-! ## Reading lines -/

/-- A line feed ends an empty line. -/
theorem lines_lf (cs : List Char) : Text.lines ('\n' :: cs) = [] :: Text.lines cs := by
  rw [Text.lines]

/-- A carriage return with a line feed ends an empty line, too. -/
theorem lines_crlf (cs : List Char) : Text.lines ('\r' :: '\n' :: cs) = [] :: Text.lines cs := by
  rw [Text.lines]

/-- A character that starts no line break belongs to the first line. -/
theorem lines_cons (hlf : c ≠ '\n') (hcr : ∀ rest, c = '\r' → cs ≠ '\n' :: rest) :
    Text.lines (c :: cs) =
      match Text.lines cs with
      | [] => [[c]]
      | line :: later => (c :: line) :: later := Text.lines.eq_4 c cs hlf hcr

/-- A line is not longer than the text.

**Proof sketch.** By the recursion of `Text.lines`. A break starts an empty line and leaves shorter
text; any other character makes the first line longer by one, as it does the text. -/
theorem length_le_of_mem_lines (h : line ∈ Text.lines cs) : line.length ≤ cs.length := by
  fun_induction Text.lines cs generalizing line with
  | case1 => cases h
  | case2 rest ih | case3 rest ih =>
    rcases List.mem_cons.1 h with rfl | hlater
    · exact Nat.zero_le _
    · have hle := ih hlater
      simp only [List.length_cons]
      omega
  | case4 c rest _ _ hnil ih =>
    rw [List.mem_singleton.1 h]
    simp
  | case5 c rest _ _ first later hlines ih =>
    rw [hlines] at ih
    rw [List.length_cons]
    rcases List.mem_cons.1 h with rfl | hlater
    · exact Nat.succ_le_succ (ih (List.mem_cons_self ..))
    · exact Nat.le_succ_of_le (ih (List.mem_cons_of_mem _ hlater))

/-- What stands before a line break, and starts with none, is the first line.

**Proof sketch.** Induction on the line. No character of it is a line feed, and a carriage return in
it has no line feed behind it: within the line there is none, and at its end `hcr` forbids it. So
each character goes to the front of the first line, by `lines_cons`. -/
theorem lines_append (brk : List Char) (hline : '\n' ∉ line)
    (hbrk : Text.lines (brk ++ cs) = [] :: lines)
    (hcr : line.getLast? = some '\r' → ∀ rest, brk ++ cs ≠ '\n' :: rest) :
    Text.lines (line ++ (brk ++ cs)) = line :: lines := by
  induction line with
  | nil => rw [List.nil_append, hbrk]
  | cons c line ih =>
    have hlf : c ≠ '\n' := fun h => hline (by simp [h])
    have hrest := ih (fun h => hline (List.mem_cons_of_mem _ h)) fun h => hcr (by
      cases line with
      | nil => simp at h
      | cons d line => rwa [List.getLast?_cons_cons])
    have hstart : ∀ rest, c = '\r' → line ++ (brk ++ cs) ≠ '\n' :: rest := by
      rintro rest rfl h
      cases line with
      | nil => exact hcr rfl rest h
      | cons d line =>
        obtain rfl : d = '\n' := (List.cons.inj h).1
        exact hline (by simp)
    rw [List.cons_append, lines_cons hlf hstart, hrest]

/-- A text without a line break is one line.

**Proof sketch.** Induction on the text, down to its last character, which is a line by itself. -/
theorem lines_of_not_mem (hline : '\n' ∉ line) (hne : line ≠ []) : Text.lines line = [line] := by
  induction line with
  | nil => contradiction
  | cons c line ih =>
    have hlf : c ≠ '\n' := fun h => hline (by simp [h])
    have hrest : '\n' ∉ line := fun h => hline (List.mem_cons_of_mem _ h)
    rw [lines_cons hlf]
    · cases line with
      | nil => rfl
      | cons d line => rw [ih hrest (List.cons_ne_nil _ _)]
    · rintro rest - rfl
      exact hrest (by simp)

/-! ## The lines of a text -/

/-- The lines that a text holds are read.

**Proof sketch.** Induction on how the text holds its lines. The last line is `lines_of_not_mem`. A
line before a break is read up to it, by `lines_append`: the break is not taken apart, since before
a bare line feed the line does not end in a carriage return. -/
theorem Holds.lines_eq (h : Holds lines cs) : Text.lines cs = lines := by
  induction h with
  | nil => rfl
  | last hline hne => exact lines_of_not_mem hline hne
  | @lf line cs lines hline hcr later ih =>
    refine lines_append ['\n'] hline ?_ fun h => absurd h hcr
    rw [List.singleton_append, lines_lf, ih]
  | @crlf line cs lines hline later ih =>
    refine lines_append ['\r', '\n'] hline ?_ fun _ rest h => ?_
    · rw [List.cons_append, List.singleton_append, lines_crlf, ih]
    · simp at h

/-- A character that starts no line break joins the first line of the text behind it.

**Proof sketch.** By how the first line ends. The character is no line feed, so the line has none
afterwards either. Where a bare line feed ends the line, the line must not end in a carriage return;
it could only if it was empty before, and that `hcr` excludes. -/
theorem Holds.cons (hlf : c ≠ '\n') (hcr : ∀ rest, c = '\r' → cs ≠ '\n' :: rest)
    (h : Holds (line :: lines) cs) : Holds ((c :: line) :: lines) (c :: cs) := by
  have hjoin : ∀ {line : List Char}, '\n' ∉ line → '\n' ∉ c :: line := by
    intro line hline hmem
    rcases List.mem_cons.1 hmem with rfl | hmem
    · exact hlf rfl
    · exact hline hmem
  cases h with
  | last hline hne => exact .last (hjoin hline) (List.cons_ne_nil _ _)
  | lf hline hend later =>
    refine .lf (hjoin hline) ?_ later
    cases line with
    | nil => exact fun h => hcr _ (by simpa using h) rfl
    | cons d line => rwa [List.getLast?_cons_cons]
  | crlf hline later => exact .crlf (hjoin hline) later

/-- A text holds the lines that are read.

**Proof sketch.** By the recursion of `Text.lines`. A break ends an empty line there, and a
character in front joins the first line, by `Holds.cons`. -/
theorem holds_lines (cs : List Char) : Holds (Text.lines cs) cs := by
  fun_induction Text.lines cs with
  | case1 => exact .nil
  | case2 rest ih => exact .lf (List.not_mem_nil) (by simp) ih
  | case3 rest ih => exact .crlf (List.not_mem_nil) ih
  | case4 c rest hlf hcr hnil ih =>
    rw [hnil] at ih
    cases ih
    exact .last (by simpa using Ne.symm hlf) (List.cons_ne_nil _ _)
  | case5 c rest hlf hcr line later hlines ih =>
    rw [hlines] at ih
    exact ih.cons hlf hcr

/-- **A text holds the lines that are read from it, and no others.** -/
theorem holds_iff : Holds lines cs ↔ Text.lines cs = lines := by
  constructor
  · exact Holds.lines_eq
  · rintro rfl
    exact holds_lines cs

/-! ## Other line breaks -/

/-- Without a line feed there is nothing to put a carriage return before. -/
theorem withCrLf_of_not_mem (h : '\n' ∉ cs) : withCrLf cs = cs := by
  induction cs with
  | nil => rfl
  | cons c cs ih =>
    obtain ⟨hc, hcs⟩ := not_or.1 (fun hmem => h (List.mem_cons.2 hmem))
    rw [withCrLf, List.flatMap_cons, if_neg (Ne.symm hc), ← withCrLf, ih hcs,
      List.singleton_append]

/-- Carriage returns before the line feeds change no line.

**Proof sketch.** Induction on how the text holds its lines. Without carriage returns each break is
a bare line feed, which becomes a carriage return with a line feed and ends the same line. -/
theorem Holds.withCrLf (h : Holds lines cs) (hcr : '\r' ∉ cs) :
    Holds lines (Text.withCrLf cs) := by
  induction h with
  | nil => exact .nil
  | last hline hne =>
    rw [withCrLf_of_not_mem hline]
    exact .last hline hne
  | @lf line cs lines hline hend later ih =>
    have hsplit : Text.withCrLf (line ++ '\n' :: cs) =
        line ++ '\r' :: '\n' :: Text.withCrLf cs := by
      conv_rhs => rw [← withCrLf_of_not_mem hline]
      simp [Text.withCrLf]
    rw [hsplit]
    exact .crlf hline (ih fun h => hcr (by simp [h]))
  | crlf hline later ih => simp at hcr

/-- One more line break at the end ends the last line, or adds an empty one.

**Proof sketch.** Induction on how the text holds its lines, down to its end. There the break ends
the last line if that has none, and else it begins and ends an empty one. A break with a carriage
return is excluded. -/
theorem Holds.addBreak (h : Holds lines cs) (hcr : '\r' ∉ cs) :
    Holds lines (cs ++ ['\n']) ∨ Holds (lines ++ [[]]) (cs ++ ['\n']) := by
  induction h with
  | nil => exact .inr (.lf List.not_mem_nil (by simp) .nil)
  | last hline hne =>
    exact .inl (.lf hline (fun h => hcr (List.mem_of_getLast? h)) .nil)
  | @lf line cs lines hline hend later ih =>
    rw [List.append_assoc, List.cons_append, List.cons_append]
    exact (ih fun h => hcr (by simp [h])).imp (.lf hline hend) (.lf hline hend)
  | crlf hline later ih => simp at hcr

end StoryGraph.Text
