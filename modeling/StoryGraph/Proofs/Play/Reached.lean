import StoryGraph.Proofs.Play.Move

set_option relaxedAutoImplicit false
set_option autoImplicit false

/-!
# Plays that can be

The plays that commands make out of a fresh one, and what is true of all of them: the active node is
in the story, choices are awaited at a node that has some, and the stack keeps to its capacity.

## Main definitions

* `Runner.fresh` — a play in which nothing has been done.
* `Runner.Reached` — the plays that can be.
* `Runner.Run` — what commands of some kind lead to, and all that happens on the way.
* `Runner.Valid` — the invariant of these plays.

## Main results

* `Runner.Run.keeps` — every run leaves a steady property true for which no flag matters.
* `Runner.steady_valid` — every change that a move is made of keeps a play valid.
* `Runner.Reached.valid`, `Runner.Run.valid` — every play that can be is valid.
-/

namespace StoryGraph

/-- A story that a command loads is one that can be. -/
def Command.Sound : Command → Prop
  | load pool => pool.Made
  | _ => True

namespace Runner

/-- A play in which nothing has been done. -/
def fresh (pool : Pool) (capacity : Nat) (startNode : NodeId) : Runner :=
  { pool, capacity, startNode }

/-- The plays that commands make out of a fresh one, while the flags may be written over at any
time. -/
inductive Reached : Runner → Prop
  | fresh {pool : Pool} (hpool : pool.Made) (capacity : Nat) (startNode : NodeId) :
      Reached (fresh pool capacity startNode)
  | perform {r : Runner} (hr : Reached r) (c : Command) (hc : c.Sound) :
      Reached (r.perform c).runner
  | overwrite {r : Runner} (hr : Reached r) (flags : FlagSet) : Reached { r with flags }

/-- Commands that `allowed` admits lead from the play `r` to another one and give off a trace, while
the flags may be written over at any time. -/
inductive Run (allowed : Command → Prop) (r : Runner) : List Signal → Runner → Prop
  | start : Run allowed r [] r
  | perform {trace : List Signal} {s : Runner} (hs : Run allowed r trace s) (c : Command)
      (hc : allowed c) : Run allowed r (trace ++ (s.perform c).trace) (s.perform c).runner
  | overwrite {trace : List Signal} {s : Runner} (hs : Run allowed r trace s) (flags : FlagSet) :
      Run allowed r trace { s with flags }

/-- The story is well formed, the active node is in it and has choices if they are awaited, and the
stack keeps to its capacity. -/
structure Valid (r : Runner) : Prop where
  wellFormed : r.pool.WellFormed
  active : ∀ slot, r.cursor.slot? = some slot → ∃ n, r.pool.node? slot = some n
  offers : ∀ slot, r.cursor = .awaitingChoice slot →
    ∃ n, r.pool.node? slot = some n ∧ n.hasChoices = true
  pending_le : r.pending.length ≤ r.capacity

variable {r : Runner}

/-- Commands in a row lead from a play that can be to another one. -/
theorem Reached.performAll (hr : r.Reached) {cs : List Command} (hcs : ∀ c ∈ cs, c.Sound) :
    (r.performAll cs).runner.Reached := by
  induction cs generalizing r with
  | nil => exact hr
  | cons c cs ih =>
    exact ih (hr.perform c (hcs c (by simp))) fun c' hc' => hcs c' (by simp [hc'])

/-- A run of commands of one kind is a run of commands of any wider kind. -/
theorem Run.mono {allowed wider : Command → Prop} {s : Runner} {trace : List Signal}
    (hs : Run allowed r trace s) (h : ∀ c, allowed c → wider c) : Run wider r trace s := by
  induction hs with
  | start => exact .start
  | perform _ c hc ih => exact ih.perform c (h c hc)
  | overwrite _ flags ih => exact ih.overwrite flags

/-- Commands in a row prolong a run.

**Proof sketch.** Induction on the commands, for every run that comes before them. -/
theorem Run.performAll {allowed : Command → Prop} {s : Runner} {trace : List Signal}
    (hs : Run allowed r trace s) {cs : List Command} (hcs : ∀ c ∈ cs, allowed c) :
    Run allowed r (trace ++ (s.performAll cs).trace) (s.performAll cs).runner := by
  induction cs generalizing s trace with
  | nil => simpa [Runner.performAll] using hs
  | cons c cs ih =>
    have hlater := ih (hs.perform c (hcs c (by simp))) fun c' hc' => hcs c' (by simp [hc'])
    simpa [Runner.performAll, Turn.map, Turn.after] using hlater

/-- Every command leaves a steady property true for which no flag matters.

**Proof sketch.** By the command. Clearing flags and restoring a snapshot, which a steady property
need not outlast, change flags, and those do not matter here. -/
theorem Steady.perform_of_sound {P : Runner → Prop} (hP : Steady P)
    (hflags : ∀ {r : Runner} (flags : FlagSet), P r → P { r with flags }) (hr : P r) {c : Command}
    (hc : c.Sound) : P (r.perform c).runner := by
  cases c with
  | clearFlags => exact hflags _ hr
  | restore saved options => exact hP.restore hflags hr saved options
  | load pool => exact hP.load hr hc
  | start | newGame | step | choose | jump | setFlags | install => exact hP.perform hr trivial

/-- Every run leaves a steady property true for which no flag matters. -/
theorem Run.keeps {P : Runner → Prop} (hP : Steady P)
    (hflags : ∀ {r : Runner} (flags : FlagSet), P r → P { r with flags }) {s : Runner}
    {trace : List Signal} (hs : Run Command.Sound r trace s) (hr : P r) : P s := by
  induction hs with
  | start => exact hr
  | perform _ c hc ih => exact hP.perform_of_sound hflags ih hc
  | overwrite _ flags ih => exact hflags flags ih

namespace Valid

/-- No flag matters to whether a play is valid. -/
theorem overwrite (hr : r.Valid) (flags : FlagSet) : Valid { r with flags } :=
  ⟨hr.wellFormed, hr.active, hr.offers, hr.pending_le⟩

/-- A play without an active node is valid when its stack is. -/
theorem idle (hpool : r.pool.WellFormed) (hcursor : r.cursor = .idle)
    (hpending : r.pending.length ≤ r.capacity) : r.Valid where
  wellFormed := hpool
  active slot h := by simp [hcursor, Cursor.slot?] at h
  offers slot h := by simp [hcursor] at h
  pending_le := hpending

/-- The active node of a play is in the story. -/
theorem exists_current? (hr : r.Valid) (hphase : r.phase ≠ .idle) : ∃ n, r.current? = some n := by
  obtain ⟨slot, hslot⟩ := Option.ne_none_iff_exists'.1 (mt phase_eq_idle_iff.2 hphase)
  obtain ⟨n, hn⟩ := hr.active slot hslot
  exact ⟨n, by simp [current?, hslot, hn]⟩

end Valid

/-- Every change that a move is made of keeps a play valid.

**Proof sketch.** One field for each change. An arrival makes a node active that was found in the
story; an offer is made at a node with choices; a halt leaves no node active; and what waits is only
ever a part of what waited, or one node more where there is room. -/
theorem steady_valid : Steady Valid where
  ask gate hr := ⟨hr.wellFormed, hr.active, hr.offers, hr.pending_le⟩
  set ids hr := hr.overwrite _
  push id hr hroom := ⟨hr.wellFormed, hr.active, hr.offers, hroom⟩
  arrive hr hfind hbelow :=
    { wellFormed := hr.wellFormed
      active := by
        rintro slot ⟨⟩
        exact ⟨_, (Pool.find?_eq_some_iff_slotOf?.1 hfind).2⟩
      offers := by rintro slot ⟨⟩
      pending_le := Nat.le_trans hbelow.length_le hr.pending_le }
  offer hr hslot hn hchoices :=
    { wellFormed := hr.wellFormed
      active := by
        rintro slot ⟨⟩
        exact ⟨_, hn⟩
      offers := by
        rintro slot ⟨⟩
        exact ⟨_, hn, hchoices⟩
      pending_le := hr.pending_le }
  halt hr hbelow := .idle hr.wellFormed rfl (Nat.le_trans hbelow.length_le hr.pending_le)
  renew hr := .idle hr.wellFormed rfl (Nat.zero_le _)
  load hr hpool := .idle hpool.wellFormed rfl (Nat.zero_le _)

/-- Every play that can be is valid. -/
theorem Reached.valid (hr : r.Reached) : r.Valid := by
  induction hr with
  | fresh hpool capacity startNode => exact .idle hpool.wellFormed rfl (Nat.zero_le _)
  | perform _ c hc ih => exact steady_valid.perform_of_sound (fun f hr => hr.overwrite f) ih hc
  | overwrite _ flags ih => exact ih.overwrite flags

/-- Every run from a valid play leads to valid plays. -/
theorem Run.valid {s : Runner} {trace : List Signal} (hs : Run Command.Sound r trace s)
    (hr : r.Valid) : s.Valid :=
  hs.keeps steady_valid (fun flags h => h.overwrite flags) hr

end Runner

end StoryGraph
