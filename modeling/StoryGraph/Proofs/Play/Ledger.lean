import Mathlib.Data.List.Induction
import StoryGraph.Proofs.FlagMembers
import StoryGraph.Proofs.Play.Beat
import StoryGraph.Proofs.Play.Placed

set_option relaxedAutoImplicit false
set_option autoImplicit false

/-!
# Where flags come from

A flag is set in a play just when some command gave it and no later one cleared it: it was set from
outside or restored, it belongs to a choice that was taken, or to a node that was shown. No refused
entry, no failed move and no other story gives or takes a flag.

## Main definitions

* `Command.Clears` — a command takes all flags away before it does anything else.
* `Runner.Gives` — a command gives a flag.
* `Runner.Earned` — some command gave a flag, and none has cleared it since.
* `Runner.Balanced` — what gives and takes no flag in a play.

## Main results

* `Runner.Valid.has_perform_iff` — the flags after a command.
* `Runner.accounted_performAll` — the flags after any row of commands.
-/

namespace StoryGraph

/-- The command takes all flags away before it does anything else. -/
def Command.Clears : Command → Prop
  | newGame | clearFlags => True
  | restore _ options => options.clearFlags = true
  | start _ | step | choose _ | jump _ | setFlags _ | install _ | load _ => False

namespace Runner

variable {r : Runner} {f : FlagId}

/-! ## One command -/

/-- The command `c` sets the flag `f` in the play `r`, other than by the entry of a node: it is set
from outside, it is restored, or it belongs to the choice that is taken. -/
def Sets (r : Runner) (f : FlagId) : Command → Prop
  | .setFlags ids => f ∈ ids
  | .restore saved _ => f ∈ saved.flags
  | .choose place =>
    r.gate.ask.1 = false ∧ r.phase = .awaitingChoice ∧
      ∃ n c, r.current? = some n ∧ (r.pool.choicesOf n)[place]? = some c ∧
        f ∈ r.pool.effectsOfChoice c
  | .start _ | .newGame | .step | .jump _ | .clearFlags | .install _ | .load _ => False

/-- The command `c` gives the flag `f` in the play `r`: it sets the flag itself, or it shows a node
that has the flag among its effects. -/
def Gives (r : Runner) (c : Command) (f : FlagId) : Prop :=
  r.Sets f c ∨ ∃ n flags, .entered n flags ∈ Signal.events (r.perform c).trace ∧
    f ∈ r.pool.effectsOf n

/-- A choice on offer sets its flags when the gate is open. -/
theorem sets_choose_iff {place : Nat} : r.Sets f (.choose place) ↔
    r.gate.ask.1 = false ∧ ∃ c, r.offered? place = some c ∧ f ∈ r.pool.effectsOfChoice c := by
  simp only [Sets, offered?_eq_some_iff_current?]
  constructor
  · rintro ⟨hopen, hphase, n, c, hn, hc, hf⟩
    exact ⟨hopen, c, ⟨hphase, n, hn, hc⟩, hf⟩
  · rintro ⟨hopen, c, ⟨hphase, n, hn, hc⟩, hf⟩
    exact ⟨hopen, hphase, n, c, hn, hc, hf⟩

/-- The flags with which a command begins to move.

**Proof sketch.** By the command. One that sets flags, a choice and a restored place add flags to
those that are set, and the last one may clear them first. A choice adds nothing if the gate is busy
or it is not on offer. All others leave the flags as they are, or clear them. -/
theorem has_flagsFor_iff (c : Command) : (r.flagsFor c).has f = true ↔
    (¬ c.Clears ∧ r.flags.has f = true) ∨ FlagSet.InRange f ∧ r.Sets f c := by
  cases c with
  | setFlags ids => simp [flagsFor, Command.Clears, Sets, FlagSet.has_setAll]
  | restore saved options =>
    rw [flagsFor, saved.has_flagsOver_iff, Command.Clears, Sets, Bool.not_eq_true]
  | choose place =>
    rw [sets_choose_iff, flagsFor]
    cases hgate : r.gate.ask.1 with
    | true => simp [Command.Clears]
    | false =>
      cases hoffer : r.offered? place with
      | none => simp [Command.Clears]
      | some c => simp [Command.Clears, FlagSet.has_setAll]
  | start | newGame | step | jump | clearFlags | install | load =>
    simp [flagsFor, Command.Clears, Sets]

/-- **The flags after a command** are those that it gives and, unless it clears them, those that
were set before. -/
theorem Valid.has_perform_iff (hr : r.Valid) (c : Command) :
    (r.perform c).runner.flags.has f = true ↔
      (¬ c.Clears ∧ r.flags.has f = true) ∨ FlagSet.InRange f ∧ r.Gives c f := by
  obtain ⟨goal, hshows⟩ := hr.shows_perform c
  rw [hshows.has_iff, has_flagsFor_iff, or_assoc, ← and_or_left]
  rfl

/-! ## Rows of commands -/

/-- Some command among `cs` gave the flag `f`, and none has cleared it since. -/
def Earned (r : Runner) (cs : List Command) (f : FlagId) : Prop :=
  ∃ earlier c later, cs = earlier ++ c :: later ∧ (∀ c' ∈ later, ¬ c'.Clears) ∧
    (r.performAll earlier).runner.Gives c f

/-- The last of some commands is carried out after the others. -/
theorem runner_performAll_snoc (r : Runner) (cs : List Command) (c : Command) :
    (r.performAll (cs ++ [c])).runner = ((r.performAll cs).runner.perform c).runner := by
  induction cs generalizing r with
  | nil => rfl
  | cons c' cs ih => exact ih (r.perform c').runner

/-- A flag is earned by the last command, or earlier and not cleared by the last one.

**Proof sketch.** Forward, look at what comes after the command that earned the flag: if nothing
does, that was the last command; else the last command comes after it, and does not clear. Backward,
the row of later commands gets the last one at its end, or the last command is the one that earns.
-/
theorem earned_snoc {cs : List Command} {c : Command} : r.Earned (cs ++ [c]) f ↔
    (¬ c.Clears ∧ r.Earned cs f) ∨ (r.performAll cs).runner.Gives c f := by
  constructor
  · rintro ⟨earlier, c', later, hcs, hlater, hgives⟩
    rcases List.eq_nil_or_concat later with rfl | ⟨later, last, rfl⟩
    · obtain ⟨rfl, rfl⟩ : cs = earlier ∧ c = c' := by simpa using hcs
      exact .inr hgives
    · have hsnoc : cs ++ [c] = (earlier ++ c' :: later) ++ [last] := by simpa using hcs
      obtain ⟨rfl, hlast⟩ := List.append_inj' hsnoc rfl
      obtain rfl : c = last := by simpa using hlast
      refine .inl ⟨hlater c (by simp), earlier, c', later, rfl, fun d hd => ?_, hgives⟩
      exact hlater d (by simp [hd])
  · rintro (⟨hc, earlier, c', later, rfl, hlater, hgives⟩ | hgives)
    · refine ⟨earlier, c', later ++ [c], by simp, fun d hd => ?_, hgives⟩
      rcases List.mem_append.1 hd with hd | hd
      · exact hlater d hd
      · rwa [List.mem_singleton.1 hd]
    · exact ⟨cs, c, [], rfl, by simp, hgives⟩

/-- No refused entry, no step that enters nothing, no choice that is ignored and no other story
gives or takes a flag in the play `r`, and no command takes one unless it clears all. -/
structure Balanced (r : Runner) : Prop where
  refused : ∀ id below refusal, r.admission id = .error refusal →
    (r.tryPending (id :: below)).runner.flags = (r.tryPending below).runner.flags
  /-- A command that enters no node changes no flag, but for those that it sets or clears itself. -/
  unentered : ∀ c : Command, ¬ c.Clears → (∀ f, ¬ r.Sets f c) →
    (∀ n flags, .entered n flags ∉ Signal.events (r.perform c).trace) →
    (r.perform c).runner.flags = r.flags
  step : (∀ id, r.step.answer ≠ .entered id) → r.step.runner.flags = r.flags
  ignored : ∀ place, (r.choose place).answer = .ok .ignored →
    (r.choose place).runner.flags = r.flags
  load : ∀ pool, (r.load pool).flags = r.flags
  keeps : ∀ c : Command, ¬ c.Clears → ∀ f, r.flags.has f = true →
    (r.perform c).runner.flags.has f = true

/-- Every valid play is balanced.

**Proof sketch.** The flags after a command are known by `Valid.has_perform_iff`: those that it kept
and those that it gave. Each part of the balance reads one case off it, or off `Valid.beat_step`,
where an entry alone gives flags. -/
theorem Valid.balanced (hr : r.Valid) : r.Balanced where
  refused id below refusal hrefused := by
    rw [tryPending, hrefused]
    rfl
  unentered c hc hsets hnone := by
    refine FlagSet.eq_of_has fun f => Bool.eq_iff_iff.2 ?_
    simp [hr.has_perform_iff, hc, Gives, hsets, hnone]
  step hnot := by
    cases hr.beat_step with
    | busy _ h => rw [h, opened]
    | enters n _ _ _ h => exact absurd h.answer (hnot n.id)
    | stalls h => exact h.flags
    | offers _ _ _ h => exact h.flags
    | ends _ h => exact h.flags
    | rests _ _ h => rw [h.runner, opened]
  ignored place hignored := by
    obtain ⟨hopen, hoffer⟩ := (choose_answer_eq_ignored_iff r place).1 hignored
    rw [choose_of_offered?_eq_none hopen hoffer, opened]
  load _ := rfl
  keeps c hc f hf := (hr.has_perform_iff c).2 (.inl ⟨hc, hf⟩)

/-- **A flag is set just when it was earned.** Whatever is asked of a fresh play, whatever stories
are loaded on the way and however the gates answer, the flags that are set are those in range which
some command gave and none has cleared since.

**Proof sketch.** By induction on the commands: the flags after the last of them are those that it
gives and, unless it clears them, those that were set before it. -/
theorem accounted_performAll {pool : Pool} (hpool : pool.Made) (capacity : Nat)
    (startNode : NodeId) {cs : List Command} (hcs : ∀ c ∈ cs, c.Sound) :
    (∀ f, ((fresh pool capacity startNode).performAll cs).runner.flags.has f = true ↔
        FlagSet.InRange f ∧ (fresh pool capacity startNode).Earned cs f) ∧
      ((fresh pool capacity startNode).performAll cs).runner.Balanced := by
  have hvalid : ∀ ds : List Command, (∀ d ∈ ds, d.Sound) →
      ((fresh pool capacity startNode).performAll ds).runner.Valid := fun ds hds =>
    ((Reached.fresh hpool capacity startNode).performAll hds).valid
  refine ⟨fun f => ?_, (hvalid cs hcs).balanced⟩
  induction cs using List.reverseRecOn with
  | nil => simp [performAll, fresh, Earned]
  | append_singleton cs c ih =>
    have hbefore : ∀ d ∈ cs, d.Sound := fun d hd => hcs d (by simp [hd])
    rw [runner_performAll_snoc, (hvalid cs hbefore).has_perform_iff, ih hbefore, earned_snoc,
      and_or_left, and_left_comm]

/-- A story of two nodes: the first sets a flag and offers a choice that sets another, the second
sets a third one but requires a flag that is never set. -/
def tollStory : Pool :=
  (Script.rebuild "\n,1,,,,,,,,,,,,,,5\n,1,choice,,,,,,,,,,pay,2,10&2000\n,2,,,,,,,,,,,,,,6,99"
    { pool := .empty {} }).2.pool

/-- A flag is set before a new game; then the choice is taken and stalls, another story is loaded,
and one more flag is set. -/
def payToll : List Command :=
  [.setFlags [7], .newGame, .step, .choose 0, .load loneStory, .setFlags [1023]]

/-- The play that goes this way has earned the flags of the first node, of the choice and the last
one, but neither that from before the new game nor that of the node which it could not enter.

**Proof sketch.** The run is traced, and the theorem turns each flag that is set or not into one
that was earned or not. -/
theorem accounted_performAll_payToll :
    ((fresh tollStory 4 ⟨1⟩).performAll payToll).runner.flags.ids = [5, 10, 1023] ∧
      (fresh tollStory 4 ⟨1⟩).Earned payToll 5 ∧ (fresh tollStory 4 ⟨1⟩).Earned payToll 10 ∧
      ¬ (fresh tollStory 4 ⟨1⟩).Earned payToll 7 ∧ ¬ (fresh tollStory 4 ⟨1⟩).Earned payToll 6 := by
  obtain ⟨hids, hfirst, hchoice, hcleared, hrefused⟩ :
      ((fresh tollStory 4 ⟨1⟩).performAll payToll).runner.flags.ids = [5, 10, 1023] ∧
        ((fresh tollStory 4 ⟨1⟩).performAll payToll).runner.flags.has 5 = true ∧
        ((fresh tollStory 4 ⟨1⟩).performAll payToll).runner.flags.has 10 = true ∧
        ((fresh tollStory 4 ⟨1⟩).performAll payToll).runner.flags.has 7 ≠ true ∧
        ((fresh tollStory 4 ⟨1⟩).performAll payToll).runner.flags.has 6 ≠ true := by
    decide +kernel
  have hsound : ∀ c ∈ payToll, c.Sound := by
    have hlone : loneStory.Made := Script.made_rebuild _ (.empty {})
    simpa [payToll, Command.Sound] using hlone
  have htoll : tollStory.Made := Script.made_rebuild _ (.empty {})
  obtain ⟨hflags, -⟩ := accounted_performAll htoll 4 ⟨1⟩ hsound
  refine ⟨hids, ((hflags 5).1 hfirst).2, ((hflags 10).1 hchoice).2, fun h => ?_, fun h => ?_⟩
  · exact hcleared ((hflags 7).2 ⟨by decide, h⟩)
  · exact hrefused ((hflags 6).2 ⟨by decide, h⟩)

end Runner

end StoryGraph
