import Mathlib.Algebra.BigOperators.Group.Finset.Basic
import StoryGraph.Proofs.Script.Totals
import StoryGraph.Proofs.Script.Work
import StoryGraph.Proofs.Text.Lines
import StoryGraph.Proofs.Text.Trimmed

set_option relaxedAutoImplicit false
set_option autoImplicit false

/-!
# The layout of a script

Which line breaks a script has, whether there is one at its end, where blank lines stand in it and
where choices without labels: none of this makes a difference to its pool. It makes one to the lines
of faults, which move with the row that is at fault; and to the journal, which tells of the choices.

## Main definitions

* `Building.Alike` — two pieces of work on equal pools come to the same, but for the line of a
  fault.
* `Script.pad`, `Script.insertedBefore` — lines with others put between them, and how many of these
  come before a line.
* `Script.IsIdle` — a line that makes no difference to a pool.
* `Script.SameButLines` — two scripts come to the same, but for the line of a fault.
* `Script.IgnoresLayout` — what makes no difference to a script.

## Main results

* `Entry.alike_enact` — an entry does the same on another line.
* `Script.alike_enactAll_pad` — lines that are idle make no difference to the ones between them.
* `Script.ignoresLayout` — the layout of a script makes no difference.
-/

namespace StoryGraph

/-- The fault of the line that another line has become. -/
def Fault.moveLine (move : Nat → Nat) : Fault → Fault
  | .empty => .empty
  | .full line overflow => .full (move line) overflow
  | .unaddressed line cell => .unaddressed (move line) cell

/-! ## Work that comes to the same -/

namespace Building

variable {ε α β : Type} {f : ε → ε}

/-- The second result is the first with another journal, and with its fault changed by `f`. -/
inductive Moved (f : ε → ε) : EStateM.Result ε Build α → EStateM.Result ε Build α → Prop
  | ok {a : α} {b c : Build} (hpool : c.pool = b.pool) : Moved f (.ok a b) (.ok a c)
  | error {e : ε} {b c : Build} (hpool : c.pool = b.pool) : Moved f (.error e b) (.error (f e) c)

/-- Whatever the journals are, the two pieces of work come to the same on equal pools, but for their
faults, which `f` changes. -/
def Alike (f : ε → ε) (w v : Building ε α) : Prop :=
  ∀ b c : Build, c.pool = b.pool → Moved f (w b) (v c)

/-- Giving a value back goes alike in every two builds. -/
theorem alike_pure (a : α) : Alike f (pure a) (pure a) := fun _ _ hpool => .ok hpool

/-- Failing goes alike in every two builds, up to the change of the error. -/
theorem alike_throw (e : ε) : Alike (α := α) f (throw e) (throw (f e)) :=
  fun _ _ hpool => .error hpool

/-- Notices make no difference, whatever they say. -/
theorem alike_note (n m : Notice) : Alike f (note n) (note m) := fun _ _ hpool => .ok hpool

/-- Starting over goes alike in builds with equal pools. -/
theorem alike_reset : Alike f reset reset :=
  fun _ _ hpool => .ok (congrArg Pool.reset hpool)

/-- Steps that are alike one after the other are alike together.

**Proof sketch.** By how the first steps end, which is alike. If they succeed, the second steps go
on from equal pools; if they fail, both work ends there. -/
theorem Alike.bind {w v : Building ε α} {x y : α → Building ε β} (h : Alike f w v)
    (hxy : ∀ a, Alike f (x a) (y a)) : Alike f (w >>= x) (v >>= y) := by
  intro b c hpool
  have hmoved := h b c hpool
  change Moved f (EStateM.bind w x b) (EStateM.bind v y c)
  unfold EStateM.bind
  generalize w b = r, v c = s at hmoved
  cases hmoved with
  | ok hpool' => exact hxy _ _ _ hpool'
  | error hpool' => exact .error hpool'

/-- A notice more makes no difference. -/
theorem Alike.note_bind {w v : Building ε α} (h : Alike f w v) (n : Notice) :
    Alike f w (note n >>= fun _ => v) := fun b _ hpool => h b _ hpool

/-- Equal pools grow the same way. -/
theorem alike_grow (g : Pool → Except Overflow (α × Pool)) : Alike id (grow g) (grow g) := by
  intro b c hpool
  unfold grow
  rw [hpool]
  cases g b.pool with
  | ok grown => exact .ok rfl
  | error o => exact .error hpool

/-- Asking for a node goes alike in builds with equal pools. -/
theorem alike_ensure (parent : NodeId) : Alike id (ensure parent) (ensure parent) := by
  intro b c hpool
  unfold ensure
  rw [← hpool]
  split
  · exact alike_grow _ _ _ hpool
  · exact alike_grow _ _ _ rfl

/-- Attaching a choice goes alike in builds with equal pools. -/
theorem alike_attach (slot : Nat) (c : Choice) : Alike id (attach slot c) (attach slot c) := by
  intro b b' hpool
  unfold attach
  rw [hpool]
  cases b.pool.attach slot c with
  | ok q => exact .ok rfl
  | error o => exact .error hpool

/-- Work on behalf of another line comes to the same, but for the line of its fault. -/
theorem Alike.onLine {w v : Building Overflow α} (h : Alike id w v) (move : Nat → Nat)
    (line : Nat) :
    Alike (Fault.moveLine move) (Building.onLine line w) (Building.onLine (move line) v) := by
  intro b c hpool
  have hmoved := h b c hpool
  unfold Building.onLine EStateM.adaptExcept
  generalize w b = r, v c = s at hmoved
  cases hmoved with
  | ok hpool' => exact .ok hpool'
  | error hpool' => exact .error hpool'

end Building

open Building

/-- An entry does the same on another line.

**Proof sketch.** By the entry. Its work is a sequence of growths and a notice, each of which goes
alike in builds with equal pools, and the line is only written into the fault. -/
theorem Entry.alike_enact (move : Nat → Nat) (line : Nat) (e : Entry) :
    Alike (Fault.moveLine move) (e.enact line) (e.enact (move line)) := by
  cases e with
  | node id said =>
    refine Alike.onLine ?_ move line
    refine (alike_grow _).bind fun effects => ?_
    refine (alike_grow _).bind fun requires => ?_
    refine (alike_grow _).bind fun declared => ?_
    cases declared.inserted
    · exact alike_note _ _
    · exact alike_pure _
  | choice parent label goto flags =>
    refine Alike.onLine ?_ move line
    refine (alike_ensure parent).bind fun slot => ?_
    exact (alike_grow _).bind fun effects => alike_attach slot _
  | unlabelled => exact alike_note _ _
  | unaddressed cell => exact alike_throw (Fault.unaddressed line cell)

namespace Script

/-! ## Lines between lines -/

/-- The lines `lines` with the lines `gaps k` put before the one at place `k`; the last gap is
behind them all. -/
def pad (gaps : Nat → List (List Char)) : List (List Char) → List (List Char)
  | [] => gaps 0
  | line :: lines => gaps 0 ++ line :: pad (fun k => gaps (k + 1)) lines

/-- How many lines are put before the one with the number `number`, which has `number - 1` gaps
before it: line two is the first behind the header. -/
def insertedBefore (gaps : Nat → List (List Char)) (number : Nat) : Nat :=
  ∑ k ∈ Finset.range (number - 1), (gaps k).length

/-- A line makes no difference: it is blank, or it holds a choice with a blank label. -/
def IsIdle (line : List Char) : Prop :=
  line.all Text.isBlank = true ∨ (Row.ofLine line).isChoice = true ∧
    ((Row.ofLine line).cell .choiceLabel).toList.all Text.isBlank = true

instance : DecidablePred IsIdle := fun _ => inferInstanceAs (Decidable (_ ∨ _))

variable {gaps : Nat → List (List Char)} {move : Nat → Nat} {line : List Char}

/-- Behind the first line, there are the lines put before it and those of the other gaps. -/
theorem insertedBefore_succ (gaps : Nat → List (List Char)) (number : Nat) (h : 1 < number) :
    insertedBefore gaps number =
      (gaps 0).length + insertedBefore (fun k => gaps (k + 1)) (number - 1) := by
  obtain ⟨n, rfl⟩ : ∃ n, number = n + 2 := ⟨number - 2, by omega⟩
  rw [insertedBefore, insertedBefore, Nat.add_comm (gaps 0).length]
  exact Finset.sum_range_succ' _ n

/-- Lines with nothing between them and one line more at the end. -/
theorem pad_last (added : List Char) (lines : List (List Char)) :
    pad (fun k => if k = lines.length then [added] else []) lines = lines ++ [added] := by
  induction lines with
  | nil => rfl
  | cons line lines ih => simp [pad, ih]

/-- A line more at the end is before none of the others. -/
theorem insertedBefore_last (added : List Char) {place k : Nat} (h : k < place) :
    insertedBefore (fun j => if j = place then [added] else []) (k + 2) = 0 := by
  refine Finset.sum_eq_zero fun j hj => ?_
  have hj : j < k + 1 := Finset.mem_range.1 hj
  dsimp only
  rw [if_neg (by omega), List.length_nil]

/-- Lines with nothing between them are the same lines. -/
theorem pad_nil (lines : List (List Char)) : pad (fun _ => []) lines = lines := by
  induction lines with
  | nil => rfl
  | cons line lines ih => rw [pad, ih, List.nil_append]

/-- The entry of a line that is not blank but idle is a choice without a label. -/
theorem IsIdle.ofRow_eq (h : IsIdle line) (hblank : ¬ line.all Text.isBlank = true) :
    Entry.ofRow (Row.ofLine line) = .unlabelled := by
  obtain ⟨hchoice, hlabel⟩ := h.resolve_left hblank
  rw [Entry.ofRow, if_pos hchoice, Entry.ofChoiceRow]
  simp [Text.trim_eq_nil_iff.2 hlabel]

variable {w : Building Fault Unit}

/-- Work that is like that of some lines is like that of the same lines behind idle ones.

**Proof sketch.** Induction on the idle lines. A blank one has no entry, and any other adds a
notice, which changes no pool; either way the lines behind have a number greater by one. -/
theorem alike_enactAll_idle {idle : List (List Char)} (hidle : ∀ line ∈ idle, IsIdle line)
    (later : List (List Char)) (number : Nat) (h : Alike (Fault.moveLine move) w
      (enactAll (entriesFrom (number + idle.length) later))) :
    Alike (Fault.moveLine move) w (enactAll (entriesFrom number (idle ++ later))) := by
  induction idle generalizing number with
  | nil => exact h
  | cons line idle ih =>
    have hlater := ih (fun line hline => hidle line (List.mem_cons_of_mem _ hline)) (number + 1)
      (by rwa [List.length_cons, Nat.add_comm idle.length, ← Nat.add_assoc] at h)
    rw [List.cons_append, entriesFrom]
    split
    case isTrue => exact hlater
    case isFalse hblank =>
      rw [(hidle line List.mem_cons_self).ofRow_eq hblank]
      exact hlater.note_bind _

/-- **Idle lines make no difference to the lines between them.** Of the lines that `gaps` puts
between others, `number` is the number of the first without them and `number'` with them; `move`
tells what becomes of each of these others.

**Proof sketch.** Induction on the lines. The idle lines of the first gap go by, by
`alike_enactAll_idle`. Then comes the first line, on the line that `move` says, and enacts the same,
by `Entry.alike_enact`. The later lines have the later gaps, so the hypothesis is used with the gaps
shifted by one. -/
theorem alike_enactAll_pad (hgaps : ∀ k, ∀ line ∈ gaps k, IsIdle line) (lines : List (List Char))
    (number number' : Nat) (hmove : ∀ k < lines.length,
      move (number + k) = number' + k + insertedBefore gaps (k + 2)) :
    Alike (Fault.moveLine move) (enactAll (entriesFrom number lines))
      (enactAll (entriesFrom number' (pad gaps lines))) := by
  induction lines generalizing number number' gaps with
  | nil =>
    have hend := alike_enactAll_idle (hgaps 0) [] number'
      (alike_pure (f := Fault.moveLine move) ())
    rwa [List.append_nil] at hend
  | cons line lines ih =>
    rw [pad]
    refine alike_enactAll_idle (hgaps 0) _ number' ?_
    have hfirst : move number = number' + (gaps 0).length := by
      have h := hmove 0 (by simp)
      simpa [insertedBefore] using h
    -- the gaps between the later lines are the same ones, counted from one place further on
    have hrest : ∀ k < lines.length, move (number + 1 + k) =
        number' + (gaps 0).length + 1 + k + insertedBefore (fun k => gaps (k + 1)) (k + 2) := by
      intro k hk
      have h := hmove (k + 1) (by simpa using hk)
      have hplace : number + 1 + k = number + (k + 1) := by omega
      have hgap : k + 1 + 2 - 1 = k + 2 := by omega
      rw [insertedBefore_succ _ _ (by omega), hgap] at h
      rw [hplace, h]
      omega
    have hlater := ih (fun k => hgaps (k + 1)) (number + 1) (number' + (gaps 0).length + 1) hrest
    rw [entriesFrom, entriesFrom]
    split
    case isTrue => exact hlater
    case isFalse =>
      refine Alike.bind ?_ fun _ => hlater
      have henact := Entry.alike_enact move number (.ofRow (Row.ofLine line))
      rwa [hfirst] at henact

/-! ## Scripts that come to the same -/

/-- On every pool, and under all limits, the script `other` comes to what the script `text` does,
but for the line of a fault, which is moved. -/
structure SameButLines (move : Nat → Nat) (text other : String) : Prop where
  compile : ∀ limits, (compile limits other).1 =
    (compile limits text).1.mapError (Fault.moveLine move)
  rebuild : ∀ b, (rebuild other b).1 = (rebuild text b).1.mapError (Fault.moveLine move)
  pool : ∀ b, (Script.rebuild other b).2.pool = (Script.rebuild text b).2.pool

variable {text other : String} {header : List Char} {lines : List (List Char)}

/-- Scripts whose work is alike come to the same.

**Proof sketch.** Work that is alike ends in equal pools, with a success on both sides or with a
fault on moved lines. A compilation is that work on an empty pool, and gives the pool or the fault.
-/
theorem sameButLines_of_alike (h : Alike (Fault.moveLine move) (build text) (build other)) :
    SameButLines move text other := by
  have hrebuild : ∀ b, (rebuild other b).1 = (rebuild text b).1.mapError (Fault.moveLine move) ∧
      (rebuild other b).2.pool = (rebuild text b).2.pool := by
    intro b
    have hmoved := h b b rfl
    unfold rebuild EStateM.run
    generalize build text b = r, build other b = s at hmoved
    cases hmoved with
    | ok hpool => exact ⟨rfl, hpool⟩
    | error hpool => exact ⟨rfl, hpool⟩
  refine ⟨fun limits => ?_, fun b => (hrebuild b).1, fun b => (hrebuild b).2⟩
  obtain ⟨hresult, hpool⟩ := hrebuild { pool := .empty limits }
  unfold compile
  generalize rebuild text _ = r, rebuild other _ = s at hresult hpool
  obtain ⟨result, b⟩ := r
  obtain ⟨result', b'⟩ := s
  cases result with
  | ok u =>
    obtain rfl : result' = .ok u := hresult
    exact congrArg Except.ok hpool
  | error e =>
    obtain rfl : result' = .error (e.moveLine move) := hresult
    rfl

/-- Scripts come to the same when their entries do.

**Proof sketch.** Both scripts empty the pool, enact their entries and note what came of it. The
first and the last go alike, and the entries do by assumption. -/
theorem sameButLines_of_entries {entries entries' : List (Nat × Entry)}
    (htext : entries? text = some entries) (hother : entries? other = some entries')
    (h : Alike (Fault.moveLine move) (enactAll entries) (enactAll entries')) :
    SameButLines move text other := by
  refine sameButLines_of_alike ?_
  unfold build
  rw [htext, hother]
  exact alike_reset.bind fun _ => h.bind fun _ => fun _ _ hpool => .ok hpool

/-- Scripts come to the same when one holds the lines of the other with idle ones between them. -/
theorem sameButLines_of_pad (gaps : Nat → List (List Char))
    (htext : Text.Holds (header :: lines) text.toList)
    (hother : Text.Holds (header :: pad gaps lines) other.toList)
    (hgaps : ∀ k, ∀ line ∈ gaps k, IsIdle line)
    (hmove : ∀ k < lines.length, move (2 + k) = 2 + k + insertedBefore gaps (k + 2)) :
    SameButLines move text other :=
  sameButLines_of_entries (entries?_of_lines htext.lines_eq) (entries?_of_lines hother.lines_eq)
    (alike_enactAll_pad hgaps lines 2 2 hmove)

/-- What makes no difference to what the script `text` comes to. -/
structure IgnoresLayout (text : String) : Prop where
  /-- Carriage returns before the line feeds. -/
  crlf : SameButLines id text (String.ofList (Text.withCrLf text.toList))
  /-- A line break at the end. -/
  finalBreak : SameButLines id text (text ++ "\n")
  /-- Lines that are blank, and choices with a blank label, between the lines behind the header and
  at the end; the line of a fault moves by the number of those before it. -/
  idle : ∀ (header : List Char) (lines : List (List Char)) (gaps : Nat → List (List Char))
    (other : String), Text.Holds (header :: lines) text.toList →
    (∀ k, ∀ line ∈ gaps k, IsIdle line) → Text.Holds (header :: pad gaps lines) other.toList →
    SameButLines (fun number => number + insertedBefore gaps number) text other

/-- **The layout of a script makes no difference.** What a script without carriage returns comes to
does not hang on its line breaks, nor on the lines between its rows that are blank or hold a choice
with a blank label.

**Proof sketch.** Such a line is passed over, or leaves a notice and nothing else. Every step of the
work goes by the pool and not by the journal, so the work is alike from line to line; and another
line break changes no line. -/
theorem ignoresLayout (text : String) (hne : text ≠ "") (hcr : '\r' ∉ text.toList) :
    IgnoresLayout text := by
  obtain ⟨header, lines, hlines⟩ := exists_header hne
  have htext : Text.Holds (header :: lines) text.toList := Text.holds_iff.2 hlines
  have hnone : ∀ k, ∀ line ∈ (fun _ => [] : Nat → List (List Char)) k, IsIdle line := by simp
  have hstay : ∀ k < lines.length, id (2 + k) = 2 + k + insertedBefore (fun _ => []) (k + 2) := by
    simp [insertedBefore]
  constructor
  case crlf =>
    refine sameButLines_of_pad (fun _ => []) htext ?_ hnone hstay
    rw [pad_nil, String.toList_ofList]
    exact htext.withCrLf hcr
  case finalBreak =>
    have hbreak := htext.addBreak hcr
    have hchars : (text ++ "\n").toList = text.toList ++ ['\n'] := by simp
    rw [← hchars] at hbreak
    rcases hbreak with hother | hother
    · refine sameButLines_of_pad (fun _ => []) htext ?_ hnone hstay
      rwa [pad_nil]
    · -- the empty line stands behind all others, so it moves none of them
      refine sameButLines_of_pad (fun k => if k = lines.length then [[]] else []) htext ?_ ?_ ?_
      · rwa [pad_last]
      · intro k line hline
        split at hline
        · obtain rfl := List.mem_singleton.1 hline
          exact .inl rfl
        · simp at hline
      · intro k hk
        rw [insertedBefore_last [] hk]
        rfl
  case idle =>
    intro header lines gaps other htext hgaps hother
    refine sameButLines_of_pad gaps htext hother hgaps fun k _ => ?_
    rw [Nat.add_comm k 2]

/-- A script whose second row names no node. -/
def astray : String := "nodeId\n,1,,,Hello\n,-5"

/-- The lines that are put into it: a blank one before the first row, and before the second a choice
with a blank label and with an id that is out of range. -/
def astrayGaps : Nat → List (List Char)
  | 0 => [" \t".toList]
  | 1 => [",99999999999,CHOICE,,,,,,,,,, ,,1&2".toList]
  | _ => []

/-- The script with these lines, and with both kinds of line breaks. -/
def astrayPadded : String :=
  "nodeId\r\n \t\n,1,,,Hello\n,99999999999,CHOICE,,,,,,,,,, ,,1&2\r\n,-5\n"

/-- With two lines before it, the row at fault is on line five instead of line three.

**Proof sketch.** The fault without the idle lines is computed, and the theorem moves it behind the
two that come before its row. -/
theorem ignoresLayout_astray :
    (rebuild astray { pool := .empty {} }).1 = .error (.unaddressed 3 "-5") ∧
      (rebuild astrayPadded { pool := .empty {} }).1 = .error (.unaddressed 5 "-5") := by
  have hfault : (rebuild astray { pool := .empty {} }).1 = .error (.unaddressed 3 "-5") := by
    decide +kernel
  have hgaps : ∀ k, ∀ line ∈ astrayGaps k, IsIdle line := by
    rintro (_ | _ | k)
    · decide +kernel
    · decide +kernel
    · exact fun _ hline => absurd hline List.not_mem_nil
  have hsame := (ignoresLayout astray (by decide +kernel) (by decide +kernel)).idle
    "nodeId".toList [",1,,,Hello".toList, ",-5".toList] astrayGaps astrayPadded
    (Text.holds_iff.2 (by decide +kernel)) hgaps (Text.holds_iff.2 (by decide +kernel))
  refine ⟨hfault, ?_⟩
  rw [hsame.rebuild, hfault]
  rfl

end Script

end StoryGraph
