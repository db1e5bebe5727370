import StoryGraph.Proofs.FlagMembers
import StoryGraph.Proofs.Play.Mirror

set_option relaxedAutoImplicit false
set_option autoImplicit false

/-!
# Plays that are alike

Two plays of one story, in the same state and with gates that give the same answers, cannot be told
apart: whatever is asked of both, they answer the same, show the same and are alike again. They
mirror each other in every respect.

## Main definitions

* `Runner.Alike`, `Turn.Alike` — two plays, or two turns, cannot be told apart.
* `Pool.Agrees.fullLikeness` — pools that hold the same are like each other in every respect.

## Main results

* `Runner.Alike.mirrors`, `Turn.Mirrors.alike` — plays that are alike mirror each other, and turns
  that do so in every respect are alike.
* `Runner.Alike.perform` — plays that are alike answer a command alike.
* `Runner.Alike.performAll` — so do all that a row of commands leads to.

## Implementation notes

Pools are compared by what they hold, and gates by what they answer, not by how either is kept. So
plays that are alike need not be equal.
-/

namespace StoryGraph

namespace Runner

/-- Two plays cannot be told apart: their stories hold the same, their gates agree, and all else is
equal. -/
structure Alike (r s : Runner) : Prop where
  pool : r.pool.Agrees s.pool
  gate : r.gate.Agrees s.gate
  flags : r.flags = s.flags
  pending : r.pending = s.pending
  capacity : r.capacity = s.capacity
  cursor : r.cursor = s.cursor
  startNode : r.startNode = s.startNode

end Runner

/-- Two turns cannot be told apart: they answer the same, show the same, and leave plays that are
alike. -/
structure Turn.Alike {α : Type} (t u : Turn α) : Prop where
  answer : t.answer = u.answer
  runner : t.runner.Alike u.runner
  trace : t.trace = u.trace

/-! ## Likeness in every respect -/

variable {p q : Pool} {α : Type}

/-- Pools that hold the same are like each other in every respect: all flags matter. -/
def Pool.Agrees.fullLikeness (h : p.Agrees q) : p.Likeness q :=
  h.likeness (fun _ => True) fun _ _ _ _ => trivial

/-- Flag sets that agree on every flag are equal. -/
theorem FlagSet.AgreeOn.eq {s t : FlagSet} (h : s.AgreeOn (fun _ => True) t) : s = t :=
  eq_of_has fun id => h id trivial

/-- Cursors at equal slots are equal. -/
theorem Cursor.Mirrors.eq {c d : Cursor} (h : c.Mirrors Eq d) : c = d := by
  cases h with
  | idle => rfl
  | active h => rw [h]
  | awaitingChoice h => rw [h]

/-- Signals that mirror each other in every respect are equal.

**Proof sketch.** One case for each kind of signal. Under the full likeness all flags matter, nodes
and offers are their own images, and a slot is a slot. -/
theorem Signal.Mirrors.eq {h : p.Agrees q} {σ τ : Signal} (hmirrors : σ.Mirrors h.fullLikeness τ) :
    σ = τ := by
  cases hmirrors with
  | entered hnode hflags =>
    obtain rfl := FlagSet.AgreeOn.eq hflags
    obtain rfl := hnode.1
    rfl
  | offered hchoices =>
    obtain rfl : _ = _ := List.forall₂_eq_eq_eq ▸ hchoices
    rfl
  | ended => rfl
  | enteredAt id hslot =>
    obtain rfl := hslot
    rfl
  | notice => rfl

namespace Runner.Alike

variable {r s : Runner}

/-- Plays that are alike mirror each other in every respect.

**Proof sketch.** A play has the pool of its own side, and all fields but the pools are equal. The
likeness is full, so equal flags and equal slots are alike in its sense, too. -/
theorem mirrors (h : r.Alike s) : r.Mirrors h.pool.fullLikeness s where
  left := rfl
  right := rfl
  gate := h.gate
  flags := h.flags ▸ .refl _ _
  pending := h.pending
  capacity := h.capacity
  cursor := by
    rw [h.cursor]
    cases s.cursor with
    | idle => exact .idle
    | active => exact .active rfl
    | awaitingChoice => exact .awaitingChoice rfl
  startNode := h.startNode

end Runner.Alike

/-- Turns that mirror each other in every respect are alike.

**Proof sketch.** Under the full likeness every flag matters, every node is its own image and every
slot leads to itself. So what mirrors is equal, field by field and signal by signal, by
`FlagSet.AgreeOn.eq` and `Signal.Mirrors.eq`. -/
theorem Turn.Mirrors.alike {h : p.Agrees q} {t u : Turn α} (hmirrors : t.Mirrors h.fullLikeness u) :
    t.Alike u where
  answer := hmirrors.answer
  runner :=
    { pool := by
        rw [hmirrors.runner.left, hmirrors.runner.right]
        exact h
      gate := hmirrors.runner.gate
      flags := FlagSet.AgreeOn.eq hmirrors.runner.flags
      pending := hmirrors.runner.pending
      capacity := hmirrors.runner.capacity
      cursor := hmirrors.runner.cursor.eq
      startNode := hmirrors.runner.startNode }
  trace := List.forall₂_eq_eq_eq ▸ hmirrors.trace.imp fun _ _ => Signal.Mirrors.eq

/-! ## Commands -/

namespace Runner.Alike

variable {r s : Runner}

/-- Plays that are alike answer a command alike. -/
theorem perform (h : r.Alike s) (c : Command) : (r.perform c).Alike (s.perform c) := by
  by_cases hload : ∃ pool, c = .load pool
  · obtain ⟨pool, rfl⟩ := hload
    exact ⟨rfl, { h with pool := .refl pool, pending := rfl, cursor := rfl }, rfl⟩
  · exact (h.mirrors.perform fun pool hc => hload ⟨pool, hc⟩).alike

/-- Plays that are alike answer commands in a row alike.

**Proof sketch.** Induction on the commands, from the front: what the first one leaves is alike, and
the others go on from there. -/
theorem performAll (h : r.Alike s) (cs : List Command) :
    (r.performAll cs).Alike (s.performAll cs) := by
  induction cs generalizing r s with
  | nil => exact ⟨rfl, h, rfl⟩
  | cons c cs ih =>
    have hc := h.perform c
    have hcs := ih hc.runner
    exact
      { answer := by simp only [Runner.performAll, Turn.map, Turn.after, hc.answer, hcs.answer]
        runner := hcs.runner
        trace := by simp only [Runner.performAll, Turn.map, Turn.after, hc.trace, hcs.trace] }

end Runner.Alike

end StoryGraph
