import Mathlib.Data.List.DropRight
import StoryGraph.Play.Session
import StoryGraph.Proofs.Graph.Lookup
import StoryGraph.Proofs.Play.Beat
import StoryGraph.Proofs.Play.Within

set_option relaxedAutoImplicit false
set_option autoImplicit false

/-!
# What the backlog recalls

A backlog drops its oldest line for each new one once it is full. What it holds is therefore the end
of a history that nobody keeps: all lines that were recorded since it was cleared last. When the
backlog listens to a play, this history is the line of every node that was entered, as the answers
to the commands tell it.

## Main definitions

* `Backlog.Change`, `Backlog.kept` — what can be done to a backlog, and what becomes of it.
* `Backlog.told` — the history: the lines recorded since the last time that all were dropped.
* `Backlog.Recalls` — a backlog holds the end of a history.
* `Command.enteredId?`, `Runner.entries` — the nodes that a run of commands entered, as the replies
  tell them.
* `Session.performAll` — commands carried out in order while the backlog listens.

## Main results

* `Backlog.recalls_kept` — a backlog holds the end of its history.
* `Runner.Valid.hear_perform` — what the backlog hears of a command is the node that was entered.
* `Session.recalls_entries` — a backlog that listens to a run holds the last lines of its entries.
-/

namespace StoryGraph

namespace Backlog

/-! ## The history of a backlog -/

/-- What can be done to a backlog. -/
inductive Change where
  /-- The line of a node is recorded. -/
  | record (n : Node)
  /-- All lines are dropped. -/
  | clear

/-- A backlog after a change. -/
def change (b : Backlog) : Change → Backlog
  | .record n => b.record n.spoken
  | .clear => b.clear

/-- A history after a change. -/
def Change.tell (told : List SpokenLine) : Change → List SpokenLine
  | record n => told ++ [n.spoken]
  | clear => []

/-- What becomes of a new backlog. -/
def kept (capacity : Nat) (changes : List Change) : Backlog := changes.foldl change { capacity }

/-- The lines recorded since the last time that all were dropped. -/
def told (changes : List Change) : List SpokenLine := changes.foldl Change.tell []

/-- The backlog `b` with the given capacity holds the end of the history `told`. -/
structure Recalls (b : Backlog) (capacity : Nat) (told : List SpokenLine) : Prop where
  capacity_eq : b.capacity = capacity
  latest_eq : ∀ count, b.latest count = told.rtake (min count capacity)
  length_lines : b.lines.length = min capacity told.length

variable {b : Backlog} {lines : List SpokenLine}

/-- The last elements of a list are those taken from its end. -/
theorem lastOf_eq_rtake {α : Type} (count : Nat) (xs : List α) : lastOf count xs = xs.rtake count :=
  rfl

/-- Of the last elements of a list, the last ones are its last ones. -/
theorem rtake_rtake {α : Type} (xs : List α) (m n : Nat) :
    (xs.rtake n).rtake m = xs.rtake (min m n) := by
  simp only [List.rtake_eq_reverse_take_reverse, List.reverse_reverse, List.take_take]

/-- The last elements of a list that has no more are all of them. -/
theorem rtake_of_length_le {α : Type} {xs : List α} {n : Nat} (h : xs.length ≤ n) :
    xs.rtake n = xs := by
  rw [List.rtake, Nat.sub_eq_zero_of_le h, List.drop_zero]

/-- A new line is recorded behind the last ones, as many as there is room for beside it.

**Proof sketch.** A full backlog drops its first line, which is one place too far from the end of
the history by now. One that is not full holds the whole history. -/
theorem lines_record (h : b.lines = lines.rtake b.capacity) (line : SpokenLine) :
    (b.record line).lines = (lines ++ [line]).rtake b.capacity := by
  have hlength : b.lines.length = min b.capacity lines.length := by
    rw [h, ← lastOf_eq_rtake, length_lastOf]
  unfold record
  split
  case isTrue hzero => rw [h, hzero, List.rtake_zero, List.rtake_zero]
  case isFalse hpos =>
    obtain ⟨rest, hrest⟩ := Nat.exists_eq_succ_of_ne_zero hpos
    rw [hrest, List.rtake_concat_succ]
    split
    case isTrue hfull =>
      have hstart : lines.length - rest = lines.length - (rest + 1) + 1 := by omega
      change b.lines.tail ++ [line] = _
      rw [h, hrest, List.rtake, List.tail_drop, List.rtake, hstart]
    case isFalse hroom =>
      change b.lines ++ [line] = _
      rw [h, rtake_of_length_le (by omega), rtake_of_length_le (by omega)]

/-- No change concerns the capacity. -/
theorem capacity_change (b : Backlog) (c : Change) : (b.change c).capacity = b.capacity := by
  cases c with
  | record n =>
    unfold change record
    split_ifs <;> rfl
  | clear => rfl

/-- A backlog holds the end of its history after a change, too. -/
theorem lines_change (h : b.lines = lines.rtake b.capacity) (c : Change) :
    (b.change c).lines = (c.tell lines).rtake (b.change c).capacity := by
  rw [capacity_change]
  cases c with
  | record n => exact lines_record h n.spoken
  | clear => exact (List.rtake_nil ..).symm

/-- The lines of a backlog are the end of its history.

**Proof sketch.** Induction on the changes, from their end: `lines_change` says that one change
keeps the lines the end of what was told, as long as they were that before. -/
theorem lines_kept (capacity : Nat) (changes : List Change) :
    (kept capacity changes).capacity = capacity ∧
      (kept capacity changes).lines = (told changes).rtake capacity := by
  induction changes using List.reverseRecOn with
  | nil => exact ⟨rfl, (List.rtake_nil ..).symm⟩
  | append_singleton changes c ih =>
    obtain ⟨hcapacity, hlines⟩ := ih
    have hend : (kept capacity changes).lines =
        (told changes).rtake (kept capacity changes).capacity := by rw [hcapacity, hlines]
    have hkept : kept capacity (changes ++ [c]) = (kept capacity changes).change c :=
      List.foldl_concat ..
    have htold : told (changes ++ [c]) = c.tell (told changes) := List.foldl_concat ..
    rw [hkept, htold, lines_change hend, capacity_change, hcapacity]
    exact ⟨rfl, rfl⟩

/-- **A backlog holds the end of its history**, as much of it as it has room for. -/
theorem recalls_kept (capacity : Nat) (changes : List Change) :
    (kept capacity changes).Recalls capacity (told changes) := by
  obtain ⟨hcapacity, hlines⟩ := lines_kept capacity changes
  refine ⟨hcapacity, fun count => ?_, ?_⟩
  · rw [latest, lastOf_eq_rtake, hlines, rtake_rtake]
  · rw [hlines, ← lastOf_eq_rtake, length_lastOf]

end Backlog

/-! ## The entries of a run -/

/-- The node that a command entered, as the reply to it tells. -/
def Command.enteredId? (first : NodeId) (c : Command) : Reply → Option NodeId
  | .moved (.ok (.entered id)) => some id
  | .entered true => c.goal? first
  | _ => none

/-- A reply that tells of nothing shown tells of no node. -/
theorem Command.enteredId?_eq_none {first : NodeId} {c : Command} {reply : Reply}
    (h : reply.isShown = false) : c.enteredId? first reply = none := by
  match reply, h with
  | .moved (.ok o), h => cases o <;> first | rfl | cases h
  | .moved (.error _), _ => rfl
  | .entered false, _ => rfl
  | .done, _ => rfl

namespace Runner

variable {r : Runner}

/-- The node that a command enters, as the reply to it tells. -/
def entry? (r : Runner) (c : Command) : Option Node :=
  (c.enteredId? r.startNode (r.perform c).answer).map r.pool.nodeOf

/-- The nodes that commands enter, one after the other. -/
def entries (r : Runner) : List Command → List Node
  | [] => []
  | c :: later => (r.entry? c).toList ++ (r.perform c).runner.entries later

/-- A turn that is seen shows the node that the reply tells to be entered, and no other.

**Proof sketch.** By what is seen of the turn. Only an entry is heard, and the reply names the node
that was entered: a node of the pool, so its id leads back to it. An offer, an end and a turn
without events add nothing, and their replies tell of no entry. -/
theorem Shows.hear {flags : FlagSet} {goal : Option NodeId} {c : Command}
    (h : r.Shows flags goal (r.perform c)) (hp : r.pool.WellFormed)
    (hgoal : (r.perform c).answer = .entered true → goal = c.goal? r.startNode) (b : Backlog) :
    b.hear (Signal.events (r.perform c).trace) =
      ((r.entry? c).toList.map .record).foldl Backlog.change b := by
  cases h with
  | entered n hn _ _ _ hevents hanswer =>
    have hid : c.enteredId? r.startNode (r.perform c).answer = some n.id := by
      obtain hmoved | ⟨htrue, hn⟩ := hanswer
      · rw [hmoved]
        rfl
      · rw [htrue, Command.enteredId?, ← hgoal htrue, hn]
    obtain ⟨slot, hslot⟩ := Array.mem_iff_getElem?.1 hn
    rw [hevents, entry?, hid, Option.map_some, hp.nodeOf_of_node? hslot]
    rfl
  | offered _ _ _ _ _ _ hevents hanswer =>
    rw [hevents, entry?, hanswer]
    rfl
  | ended _ _ hevents hanswer =>
    rw [hevents, entry?, hanswer]
    rfl
  | nothing _ _ hevents hanswer =>
    rw [hevents, entry?, Command.enteredId?_eq_none hanswer]
    rfl

/-- **What the backlog hears of a command** is the node that was entered, if one was.

**Proof sketch.** By the command. Each one is seen in some way, by the `shows_` lemma for it, and
`Shows.hear` says what is heard of that. The goal matters for a jump and for a restored place, where
the reply does not name the node itself. -/
theorem Valid.hear_perform (hr : r.Valid) (c : Command) (b : Backlog) :
    b.hear (Signal.events (r.perform c).trace) =
      ((r.entry? c).toList.map .record).foldl Backlog.change b := by
  cases c with
  | jump id => exact (hr.shows_jump id).hear hr.wellFormed (fun _ => rfl) b
  | restore saved options =>
    refine (hr.shows_restore saved options).hear hr.wellFormed (fun htrue => ?_) b
    obtain ⟨-, heq⟩ | ⟨id, later, hid, hjump, -⟩ := saved.restore_cases r options
    · rw [perform, heq] at htrue
      cases htrue
    · rw [Command.goal?, if_pos hjump]
  | start | newGame | step | choose | setFlags | clearFlags | install | load =>
    obtain ⟨goal, hshows⟩ := hr.shows_perform _
    exact hshows.hear hr.wellFormed (fun htrue => by simp [perform, Turn.map] at htrue) b

end Runner

namespace Session

/-- Carries out commands in order while the backlog listens. -/
def performAll (s : Session) (cs : List Command) : Session :=
  cs.foldl (fun s c => (s.perform c).session) s

/-- A session plays as its runner does, and its backlog records the entries.

**Proof sketch.** Induction on the commands. The play stays one that can be reached, so
`Valid.hear_perform` says of each command what the backlog records. -/
theorem performAll_eq {s : Session} (hs : s.runner.Reached) {cs : List Command}
    (hcs : ∀ c ∈ cs, c.Sound) :
    s.performAll cs =
      { runner := (s.runner.performAll cs).runner
        backlog := ((s.runner.entries cs).map .record).foldl Backlog.change s.backlog } := by
  induction cs generalizing s with
  | nil => rfl
  | cons c cs ih =>
    have hnext : (s.perform c).session.runner.Reached := hs.perform c (hcs c (by simp))
    have hheard : (s.perform c).session.backlog =
        ((s.runner.entry? c).toList.map .record).foldl Backlog.change s.backlog :=
      hs.valid.hear_perform c s.backlog
    have hcons : s.performAll (c :: cs) = (s.perform c).session.performAll cs := rfl
    rw [hcons, ih hnext fun c' hc' => hcs c' (by simp [hc']), hheard, ← List.foldl_append,
      ← List.map_append]
    rfl

/-- **The backlog holds the last lines of the story.** Whatever its capacity and whatever was done
to it, a backlog gives the last lines that were recorded since it was cleared, oldest first, as many
as are asked for and as it has room for. While it listens to a run of commands, it records the node
of every entry, in order, and nothing else.

**Proof sketch.** By induction on the changes, a backlog holds the end of its history. Each command
shows one node at most, and just when its reply says that this node was entered. -/
theorem recalls_entries (capacity : Nat) (changes : List Backlog.Change) :
    (Backlog.kept capacity changes).Recalls capacity (Backlog.told changes) ∧
      ∀ r : Runner, r.Reached → ∀ cs : List Command, (∀ c ∈ cs, c.Sound) →
        let s := performAll { runner := r, backlog := Backlog.kept capacity changes } cs
        s.runner = (r.performAll cs).runner ∧
          s.backlog = Backlog.kept capacity (changes ++ (r.entries cs).map .record) := by
  refine ⟨Backlog.recalls_kept capacity changes, fun r hr cs hcs => ?_⟩
  rw [performAll_eq hr hcs, Backlog.kept, Backlog.kept, List.foldl_append]
  exact ⟨rfl, rfl⟩

/-- A story of two nodes in a row, and of a third one that requires a flag. -/
def wanderStory : Pool :=
  (Script.rebuild "\n,1,,Mina,a,,,,,,,2\n,2,,Ada,b\n,3,,,c,,,,,,,,,,,,9" { pool := .empty {} }).2.pool

/-- Both nodes are shown; the third is refused and then jumped to; a jump misses its node; and of
two snapshots only the first enters the node that is saved. -/
def wander : List Command :=
  [.start ⟨1⟩, .step, .step, .start ⟨3⟩, .jump ⟨3⟩, .jump ⟨8⟩, .restore ⟨1, some ⟨2⟩, []⟩ {},
    .restore ⟨1, some ⟨1⟩, []⟩ { jump := false }]

/-- The play in which all this is done. -/
def wanderer : Runner := .fresh wanderStory 4 ⟨1⟩

/-- A backlog with room for three lines holds the last three of the four entries.

**Proof sketch.** What was told is computed. The theorem says that the backlog has heard that, and
that it holds the end of it. -/
theorem recalls_entries_wanderer :
    wanderer.Reached ∧ (∀ c ∈ wander, c.Sound) ∧
      (performAll { runner := wanderer, backlog := .kept 3 [] } wander).backlog.Recalls 3
        [⟨⟨1⟩, "Mina", "a"⟩, ⟨⟨2⟩, "Ada", "b"⟩, ⟨⟨3⟩, "", "c"⟩, ⟨⟨2⟩, "Ada", "b"⟩] := by
  have hreached : wanderer.Reached := .fresh (Script.made_rebuild _ (.empty {})) 4 ⟨1⟩
  have hsound : ∀ c ∈ wander, c.Sound := by simp [wander, Command.Sound]
  have htold : Backlog.told ([] ++ (wanderer.entries wander).map .record) =
      [⟨⟨1⟩, "Mina", "a"⟩, ⟨⟨2⟩, "Ada", "b"⟩, ⟨⟨3⟩, "", "c"⟩, ⟨⟨2⟩, "Ada", "b"⟩] := by
    decide +kernel
  obtain ⟨-, hrun⟩ := recalls_entries 3 []
  obtain ⟨hrecalls, -⟩ := recalls_entries 3 ([] ++ (wanderer.entries wander).map .record)
  rw [htold] at hrecalls
  obtain ⟨-, hbacklog⟩ := hrun wanderer hreached wander hsound
  refine ⟨hreached, hsound, ?_⟩
  rw [hbacklog]
  exact hrecalls

end Session

end StoryGraph
