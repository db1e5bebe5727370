import StoryGraph.Proofs.Play.Mirror
import StoryGraph.Script.Compile

set_option relaxedAutoImplicit false
set_option autoImplicit false

/-!
# Flags that nobody requires

Flags steer a story only where a node requires them. Two plays of one story of which the same is
asked, but that some flags which no node requires are set in the one and others in the other, cannot
be told apart: all answers are the same, and so is all that is shown.

## Main definitions

* `Pool.Requires` — some node of a story requires a flag.
* `Command.SameBut` — two rows of commands are the same but for the setting of some flags.
* `Runner.calls` — the turns of the commands in a row that do more than set flags.
* `Runner.StandsAs`, `Turn.ShowsAs` — plays and turns that cannot be told apart but by flags that no
  node requires.

## Main results

* `Runner.Mirrors.calls` — plays that mirror each other answer such rows of commands alike.
* `Runner.showsAs_of_sameBut` — flags that no node requires do not steer a story.
-/

namespace StoryGraph

/-- Some node of the story `p` requires the flag `f`. -/
def Pool.Requires (p : Pool) (f : FlagId) : Prop := ∃ n ∈ p.nodes, f ∈ p.requiredBy n

/-- The flags that nodes require are those in their lists. -/
theorem Pool.requires_iff {p : Pool} {f : FlagId} :
    p.Requires f ↔ f ∈ p.nodes.toList.flatMap p.requiredBy := by
  simp [Requires]

/-- A story is like itself, and only those flags matter that some node requires. -/
def Pool.likeItself (p : Pool) : p.Likeness p :=
  (Agrees.refl p).likeness p.Requires fun n hn _ hf => ⟨n, hn, hf⟩

/-! ## Commands that set flags -/

/-- The command does nothing but set flags. -/
def Command.isSetFlags : Command → Bool
  | setFlags _ => true
  | _ => false

/-- Two rows of commands are the same, but that in either of them flags that satisfy `free` may be
set at any time. -/
inductive Command.SameBut (free : FlagId → Prop) : List Command → List Command → Prop
  | nil : SameBut free [] []
  | both {c : Command} {cs ds : List Command} (hc : c.KeepsStory) (h : SameBut free cs ds) :
      SameBut free (c :: cs) (c :: ds)
  | left {ids : List FlagId} {cs ds : List Command} (hids : ∀ f ∈ ids, free f)
      (h : SameBut free cs ds) : SameBut free (.setFlags ids :: cs) ds
  | right {ids : List FlagId} {cs ds : List Command} (hids : ∀ f ∈ ids, free f)
      (h : SameBut free cs ds) : SameBut free cs (.setFlags ids :: ds)

namespace Runner

/-- The turns of the commands in a row that do more than set flags, one by one. -/
def calls (r : Runner) : List Command → List (Turn Reply)
  | [] => []
  | c :: later =>
    if c.isSetFlags then (r.perform c).runner.calls later
    else r.perform c :: (r.perform c).runner.calls later

/-- Plays that mirror each other answer two rows of commands alike, turn by turn, which are the same
but for flags that do not matter; and they mirror each other afterwards.

**Proof sketch.** Induction on how the rows of commands correspond. Commands on both sides give
turns that mirror each other, by `Mirrors.perform`, and are either both shown or both not. A setting
of flags on one side changes only flags that do not matter, and is no call. -/
theorem Mirrors.calls {p q : Pool} {l : p.Likeness q} {r s : Runner} (h : r.Mirrors l s)
    {cs ds : List Command} (hsame : Command.SameBut (fun f => ¬ l.matters f) cs ds) :
    List.Forall₂ (Turn.Mirrors l) (r.calls cs) (s.calls ds) ∧
      (r.performAll cs).runner.Mirrors l (s.performAll ds).runner := by
  induction hsame generalizing r s with
  | nil => exact ⟨.nil, h⟩
  | @both c cs ds hc _ ih =>
    have hturn := h.perform hc
    obtain ⟨hcalls, hrunner⟩ := ih hturn.runner
    refine ⟨?_, hrunner⟩
    unfold Runner.calls
    split
    · exact hcalls
    · exact .cons hturn hcalls
  | left hids _ ih => exact ih { h with flags := h.flags.setAll_left hids }
  | right hids _ ih => exact ih { h with flags := (h.flags.symm.setAll_left hids).symm }

end Runner

/-! ## Plays of one story -/

/-- What an event shows of the story, whatever flags are set. -/
def Event.unmarked : Event → Event
  | entered n _ => entered n .empty
  | e => e

/-- The play `s` stands where the play `r` does, and agrees with it on every flag that some node of
the story `p` requires. -/
structure Runner.StandsAs (p : Pool) (r s : Runner) : Prop where
  current : r.current? = s.current?
  phase : r.phase = s.phase
  pending : r.pending = s.pending
  flags : ∀ f, p.Requires f → r.flags.has f = s.flags.has f

/-- The turn `u` has the same answer as the turn `t`, shows the same, and leaves a play that stands
where the other does. -/
structure Turn.ShowsAs (p : Pool) (t u : Turn Reply) : Prop where
  answer : t.answer = u.answer
  /-- The nodes that are entered and the choices that are offered, in order. -/
  shown : (Signal.events t.trace).map Event.unmarked = (Signal.events u.trace).map Event.unmarked
  runner : t.runner.StandsAs p u.runner

variable {p : Pool}

/-- Plays of one story that mirror each other stand at the same place. -/
theorem Runner.Mirrors.standsAs {r s : Runner} (h : r.Mirrors p.likeItself s) :
    r.StandsAs p s where
  current := by
    have hcurrent := h.current?
    generalize r.current? = found at hcurrent ⊢
    generalize s.current? = other at hcurrent ⊢
    cases hcurrent with
    | none => rfl
    | some hnode => exact congrArg some hnode.1
  phase := h.phase_eq
  pending := h.pending
  flags := h.flags

/-- Turns of one story that mirror each other show the same. -/
theorem Turn.Mirrors.showsAs {t u : Turn Reply} (h : t.Mirrors p.likeItself u) :
    t.ShowsAs p u where
  answer := h.answer
  shown := by
    refine Signal.Mirrors.map_events (fun e e' he => ?_) h.trace
    cases he with
    | entered hnode _ => rw [Event.unmarked, Event.unmarked, hnode.1]
    | offered hchoices =>
      obtain rfl : _ = _ := List.forall₂_eq_eq_eq ▸ hchoices
      rfl
    | ended => rfl
  runner := h.runner.standsAs

namespace Runner

/-- **Flags that no node requires do not steer a story.** If the same is asked of two fresh plays of
one story, but that flags which no node requires are set in either of them at any time, then after
every command both have answered the same, have shown the same nodes and offered the same choices,
and stand at the same place with the same nodes waiting; and they agree on the flags that some node
requires.

**Proof sketch.** Setting a flag changes no other. Moves read flags only to decide whether a node
may be entered, and then only those that it requires. So the plays mirror each other, as far as the
flags matter that some node requires, and a flag that does not matter changes nothing about that. -/
theorem showsAs_of_sameBut (pool : Pool) (capacity : Nat) (startNode : NodeId)
    {cs ds : List Command} (hsame : Command.SameBut (fun f => ¬ pool.Requires f) cs ds) :
    List.Forall₂ (Turn.ShowsAs pool) ((fresh pool capacity startNode).calls cs)
        ((fresh pool capacity startNode).calls ds) ∧
      StandsAs pool ((fresh pool capacity startNode).performAll cs).runner
        ((fresh pool capacity startNode).performAll ds).runner := by
  obtain ⟨hcalls, hrunner⟩ := (mirrors_fresh pool.likeItself capacity startNode).calls hsame
  exact ⟨hcalls.imp fun _ _ h => h.showsAs, hrunner.standsAs⟩

/-- A story of two nodes: the first offers a choice that sets the flag which the second requires. -/
def keyStory : Pool :=
  (Script.rebuild "\n,1\n,1,choice,,,,,,,,,,go,2,6\n,2,,,,,,,,,,,,,,,6"
    { pool := .empty {} }).2.pool

/-- A way to the second node, with a flag set before the start. -/
def markedEarly : List Command := [.setFlags [900], .start ⟨1⟩, .step, .choose 0]

/-- The same way, with other flags set in between, one of them out of range. -/
def markedLate : List Command := [.start ⟨1⟩, .setFlags [12, -3], .step, .choose 0]

/-- Both ways enter the second node, with other flags set.

**Proof sketch.** The story requires the flag 6 and no other, as its nodes tell. So the other flags
that the two rows of commands set are free, and the theorem applies. -/
theorem showsAs_of_sameBut_keyStory :
    Command.SameBut (fun f => ¬ keyStory.Requires f) markedEarly markedLate ∧
      ((fresh keyStory 4 ⟨1⟩).performAll markedEarly).runner.flags.ids = [6, 900] ∧
      ((fresh keyStory 4 ⟨1⟩).performAll markedLate).runner.flags.ids = [6, 12] ∧
      List.Forall₂ (Turn.ShowsAs keyStory) ((fresh keyStory 4 ⟨1⟩).calls markedEarly)
        ((fresh keyStory 4 ⟨1⟩).calls markedLate) ∧
      StandsAs keyStory ((fresh keyStory 4 ⟨1⟩).performAll markedEarly).runner
        ((fresh keyStory 4 ⟨1⟩).performAll markedLate).runner := by
  obtain ⟨hrequired, hearly, hlate⟩ :
      keyStory.nodes.toList.flatMap keyStory.requiredBy = [6] ∧
        ((fresh keyStory 4 ⟨1⟩).performAll markedEarly).runner.flags.ids = [6, 900] ∧
        ((fresh keyStory 4 ⟨1⟩).performAll markedLate).runner.flags.ids = [6, 12] := by
    decide +kernel
  have hfree : ∀ f ≠ 6, ¬ keyStory.Requires f := by
    intro f hf
    rwa [Pool.requires_iff, hrequired, List.mem_singleton]
  have hids : ∀ f ∈ [900], ¬ keyStory.Requires f := by simpa using hfree 900 (by decide)
  have hids' : ∀ f ∈ [12, -3], ¬ keyStory.Requires f := by
    simpa using ⟨hfree 12 (by decide), hfree (-3) (by decide)⟩
  have hsame : Command.SameBut (fun f => ¬ keyStory.Requires f) markedEarly markedLate :=
    .left hids <| .both nofun <| .right hids' <| .both nofun <| .both nofun .nil
  exact ⟨hsame, hearly, hlate, showsAs_of_sameBut keyStory 4 ⟨1⟩ hsame⟩

end Runner

end StoryGraph
