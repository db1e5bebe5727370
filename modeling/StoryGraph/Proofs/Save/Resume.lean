import StoryGraph.Proofs.FlagMembers
import StoryGraph.Proofs.Json.Faithful
import StoryGraph.Proofs.Play.Alike
import StoryGraph.Proofs.Play.Step

set_option relaxedAutoImplicit false
set_option autoImplicit false

/-!
# Resuming a saved play

A snapshot keeps the active node and the flags of a play. Brought back, the node is entered once
more, and its effect flags are set again. They were set already, for no move that plays on takes a
flag away; so the play that is resumed goes on as the one that was saved.

## Main definitions

* `Runner.Marked` — the effect flags of the active node are set.
* `Runner.GoesOnLike` — two plays answer all commands alike from now on.
* `Runner.Resumes` — what it is to resume a play.

## Main results

* `Runner.steady_marked` — every change that a move is made of keeps a play marked.
* `Runner.restore_capture` — what restoring a snapshot of a marked play comes to.
* `Snapshot.resumes_restore` — a play that was saved, written, read and restored is resumed.
-/

namespace StoryGraph

namespace Runner

variable {r s : Runner} {n : Node}

/-! ## The flags of the active node -/

/-- The effect flags of the active node that are in range are set. -/
def Marked (r : Runner) : Prop :=
  ∀ slot n, r.cursor.slot? = some slot → r.pool.node? slot = some n →
    ∀ f ∈ r.pool.effectsOf n, FlagSet.InRange f → r.flags.has f = true

/-- Every change that a move is made of keeps a play marked.

**Proof sketch.** One field for each change. Setting flags takes none away. An arrival sets the
flags of the node that it makes active. After a halt, a new game or another story no node is active.
-/
theorem steady_marked : Steady Marked where
  ask gate hr := hr
  set ids hr slot n hslot hn f hf hin := by
    rw [FlagSet.has_setAll, hr slot n hslot hn f hf hin, Bool.true_or]
  push id hr _ := hr
  arrive {r id slot n below} _ hfind _ := by
    rintro slot' m ⟨⟩ hm f hf hin
    have hnode := (Pool.find?_eq_some_iff_slotOf?.1 hfind).2
    obtain rfl : n = m := Option.some.inj (hnode.symm.trans hm)
    rw [FlagSet.has_setAll, decide_eq_true ⟨hin, hf⟩, Bool.or_true]
  offer {r slot n} hr hslot _ _ := by
    rintro slot' m ⟨⟩
    exact hr slot m hslot
  halt _ _ := by rintro slot n ⟨⟩
  renew _ := by rintro slot n ⟨⟩
  load _ _ := by rintro slot n ⟨⟩

/-- Setting the effect flags of the active node once more changes nothing. -/
theorem Marked.setAll_effectsOf (hr : r.Marked) {slot : Nat} (hslot : r.cursor.slot? = some slot)
    (hn : r.pool.node? slot = some n) : r.flags.setAll (r.pool.effectsOf n) = r.flags :=
  FlagSet.setAll_of_has (hr slot n hslot hn)

/-- A play that went on from a fresh one is valid and marked.

**Proof sketch.** Both are steady properties, and a fresh play has them: it stands at no node. -/
theorem valid_and_marked {pool : Pool} (hpool : pool.Made) (capacity : Nat) (startNode : NodeId)
    {cs : List Command} (hcs : ∀ c ∈ cs, c.PlaysOn) :
    ((fresh pool capacity startNode).performAll cs).runner.Valid ∧
      ((fresh pool capacity startNode).performAll cs).runner.Marked := by
  constructor
  · exact steady_valid.performAll (Reached.fresh hpool capacity startNode).valid hcs
  · refine steady_marked.performAll ?_ hcs
    rintro slot n ⟨⟩

/-! ## The resumed play -/

/-- Restoring a snapshot of a marked play enters the active node again, and leaves just the flags
that the play had.

**Proof sketch.** The saved node is found in the other pool, in the same slot, as the pools hold the
same. Setting the saved flags on an empty set gives the flags of the play, and entering the node
adds none to them, because the play is marked. -/
theorem restore_capture (hvalid : r.Valid) (hmarked : r.Marked) (hpool : r.pool.Agrees s.pool)
    (hcurrent : r.current? = some n) :
    ∃ slot, r.cursor.slot? = some slot ∧ r.pool.node? slot = some n ∧
      ((Snapshot.capture r).restore s).answer = true ∧
      ((Snapshot.capture r).restore s).runner =
        { s with flags := r.flags, pending := [], cursor := .active slot } := by
  obtain ⟨slot, hslot, hn⟩ := Option.bind_eq_some_iff.1 hcurrent
  have hfind : s.pool.find? n.id = some (slot, n) := by
    rw [← hpool.find?]
    exact hvalid.wellFormed.find?_eq_some_iff.2 ⟨hn, rfl⟩
  have hflags : (FlagSet.empty.setAll r.flags.ids).setAll (s.pool.effectsOf n) = r.flags := by
    rw [FlagSet.setAll_ids, ← hpool.effectsOf, hmarked.setAll_effectsOf hslot hn]
  refine ⟨slot, hslot, hn, ?_⟩
  simp [Snapshot.restore, Snapshot.capture, hcurrent, jump, setFlags, clearFlags, hfind, Turn.map,
    arrive, hflags]

/-- Two plays answer all commands alike from now on, and show the same. -/
def GoesOnLike (r s : Runner) : Prop :=
  ∀ cs, (r.performAll cs).answer = (s.performAll cs).answer ∧
    Signal.events (r.performAll cs).trace = Signal.events (s.performAll cs).trace

/-- Plays that are alike go on alike. -/
theorem Alike.goesOnLike (h : r.Alike s) : r.GoesOnLike s := fun cs =>
  ⟨(h.performAll cs).answer, congrArg Signal.events (h.performAll cs).trace⟩

/-- The turn `t` of the play `s` resumes the play `r` at its active node `n`. -/
structure Resumes (r : Runner) (n : Node) (s : Runner) (t : Turn Bool) : Prop where
  answer : t.answer = true
  phase : t.runner.phase = .nodeActive
  current : t.runner.current? = some n
  pending : t.runner.pending = []
  flags : t.runner.flags = r.flags
  capture : Snapshot.capture t.runner = Snapshot.capture r
  /-- A play that was saved at an active node goes on as it would have gone on. -/
  goesOn : r.phase = .nodeActive → r.pending = [] → r.capacity = s.capacity →
    r.startNode = s.startNode → r.gate.Agrees s.gate → r.GoesOnLike t.runner
  /-- A play that was saved while it awaited a choice offers the same choices again. -/
  offersAgain : r.phase = .awaitingChoice → r.pending = [] → s.gate.ask.1 = false →
    t.runner.step.answer = .choicesPresented ∧
      Signal.events t.runner.step.trace = [.offered (r.pool.choicesOf n)] ∧
      t.runner.step.runner.phase = .awaitingChoice ∧
      t.runner.step.runner.current? = some n ∧
      t.runner.step.runner.flags = r.flags
  /-- After that it goes on as it would have gone on, too. -/
  goesOnFromChoices : r.phase = .awaitingChoice → r.pending = [] → s.gate.ask.1 = false →
    r.capacity = s.capacity → r.startNode = s.startNode → r.gate.Agrees s.gate.ask.2 →
    r.GoesOnLike t.runner.step.runner

/-- A step of a play that was resumed while it awaited a choice offers the choices again. -/
theorem step_of_hasChoices {slot : Nat} (hcursor : s.cursor.slot? = some slot)
    (hn : s.pool.node? slot = some n) (hchoices : n.hasChoices = true) (hpending : s.pending = [])
    (hopen : s.gate.ask.1 = false) :
    s.step =
      { answer := .choicesPresented
        runner := { s.opened with cursor := .awaitingChoice slot }
        trace := [.event (.offered (s.pool.choicesOf n))] } := by
  rw [step_of_open hopen, if_pos (by simp [hpending])]
  simp [proceed, opened, hcursor, hn, leave, hchoices]

/-- What is restored of a valid and marked play resumes it.

**Proof sketch.** The play that is restored differs from the saved one only in its stack, its gate
and whether it awaits a choice. With an empty stack and the same gate it is alike to a play at an
active node; one step brings it to the choices that the saved play awaited, and then it is alike to
that one. -/
theorem resumes_restore_capture (hvalid : r.Valid) (hmarked : r.Marked)
    (hpool : r.pool.Agrees s.pool) (hcurrent : r.current? = some n) :
    r.Resumes n s ((Snapshot.capture r).restore s) := by
  obtain ⟨slot, hslot, hn, hanswer, hrunner⟩ := restore_capture hvalid hmarked hpool hcurrent
  have hnode : s.pool.node? slot = some n := by rw [← hpool.node?, hn]
  have hstep : r.phase = .awaitingChoice → s.gate.ask.1 = false →
      ((Snapshot.capture r).restore s).runner.step =
        { answer := .choicesPresented
          runner :=
            { s.opened with flags := r.flags, pending := [], cursor := .awaitingChoice slot }
          trace := [.event (.offered (s.pool.choicesOf n))] } := by
    intro hphase hopen
    -- That the node has choices is known of the saved play only, by its cursor.
    obtain ⟨m, hm, hchoices⟩ := hvalid.offers slot (cursor_of_awaitingChoice hphase hslot)
    obtain rfl : n = m := Option.some.inj (hn.symm.trans hm)
    rw [hrunner]
    exact step_of_hasChoices rfl hnode hchoices rfl hopen
  constructor
  case answer => exact hanswer
  case phase =>
    rw [hrunner]
    rfl
  case current =>
    rw [hrunner]
    exact hnode
  case pending => rw [hrunner]
  case flags => rw [hrunner]
  case capture =>
    have hsame : current? { s with flags := r.flags, pending := [], cursor := .active slot } =
        some n := hnode
    rw [hrunner, Snapshot.capture, Snapshot.capture, hsame, hcurrent]
  case goesOn =>
    intro hphase hpending hcapacity hstart hgate
    have hcursor := cursor_of_nodeActive hphase hslot
    rw [hrunner]
    exact Alike.goesOnLike ⟨hpool, hgate, rfl, hpending, hcapacity, hcursor, hstart⟩
  case offersAgain =>
    intro hphase hpending hopen
    rw [hstep hphase hopen, hpool.choicesOf]
    exact ⟨rfl, rfl, rfl, hnode, rfl⟩
  case goesOnFromChoices =>
    intro hphase hpending hopen hcapacity hstart hgate
    have hcursor := cursor_of_awaitingChoice hphase hslot
    rw [hstep hphase hopen]
    exact Alike.goesOnLike ⟨hpool, hgate, rfl, hpending, hcapacity, hcursor, hstart⟩

end Runner

/-- **Saving and loading resumes the same game.** A play that went on from a fresh one is captured,
written and read; restored into any play of an equal story, whatever that was doing, it is
resumed.

**Proof sketch.** A play that went on from a fresh one is valid and marked, since every change of a
move keeps it so. The snapshot is read back as it was captured, by `read_write`, and restoring it is
`Runner.resumes_restore_capture`. -/
theorem Snapshot.resumes_restore {pool : Pool} (hpool : pool.Made) (capacity : Nat)
    (startNode : NodeId) {cs : List Command} (hcs : ∀ c ∈ cs, c.PlaysOn) {r s : Runner} {n : Node}
    (hr : ((Runner.fresh pool capacity startNode).performAll cs).runner = r)
    (hcurrent : r.current? = some n) (hequal : (r.pool == s.pool) = true) :
    ∃ saved, read (Stored.write (capture r)) = .ok saved ∧ r.Resumes n s (saved.restore s) := by
  subst hr
  obtain ⟨hvalid, hmarked⟩ := Runner.valid_and_marked hpool capacity startNode hcs
  exact ⟨_, read_write rfl,
    Runner.resumes_restore_capture hvalid hmarked (Pool.agrees_of_beq hequal) hcurrent⟩

/-- A story with a node that sets a flag and offers a choice. -/
def loopStory : Pool :=
  (Script.rebuild "\n,1,,,,,,,,,,,,,,5\n,1,choice,,,,,,,,,,go,1" { pool := .empty {} }).2.pool

/-- A way to the choices of this node, with one more flag set before it. -/
def towardsChoices : List Command := [.setFlags [900], .start ⟨1⟩, .step]

/-- The play that is saved when it awaits a choice. -/
def savedPlay : Runner := ((Runner.fresh loopStory 4 ⟨1⟩).performAll towardsChoices).runner

/-- Another play, in a state to which no command leads. -/
def strandedPlay : Runner :=
  { pool := loopStory, pending := [⟨9⟩, ⟨8⟩], capacity := 1, cursor := .active 7 }

/-- A play that awaits a choice is resumed in the stranded one. -/
theorem Snapshot.resumes_restore_savedPlay :
    savedPlay.phase = .awaitingChoice ∧ savedPlay.pending = [] ∧
      ∃ n, savedPlay.current? = some n ∧ (savedPlay.pool == strandedPlay.pool) = true ∧
        ∃ saved, read (Stored.write (capture savedPlay)) = .ok saved ∧
          savedPlay.Resumes n strandedPlay (saved.restore strandedPlay) := by
  have hsome : savedPlay.current?.isSome = true := by decide +kernel
  obtain ⟨n, hn⟩ := Option.isSome_iff_exists.1 hsome
  have hequal : (savedPlay.pool == strandedPlay.pool) = true := by decide +kernel
  exact ⟨by decide +kernel, by decide +kernel, n, hn, hequal,
    resumes_restore (Script.made_rebuild _ (.empty {})) 4 ⟨1⟩
      (by simp [towardsChoices, Command.PlaysOn]) rfl hn hequal⟩

end StoryGraph
