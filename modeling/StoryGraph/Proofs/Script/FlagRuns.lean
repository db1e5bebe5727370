import Mathlib.Logic.Function.Basic
import StoryGraph.Proofs.Graph.Tiling
import StoryGraph.Proofs.Script.Appending

set_option relaxedAutoImplicit false
set_option autoImplicit false

/-!
# How the runs of flags lie

The flags of all lists lie in one array. A list is put behind all others before the node or the
choice that keeps it goes into the pool, and a node that is declared once more lets go of the runs
that it had. So a run never leaves the array and never shares a place with another one, also when a
script fails between two lists of one row.

## Main definitions

* `FlagKeeper` — what keeps a run of flags: a node for its effects, a node for what it requires, or
  a choice.
* `FlagKeeper.Apart` — no two keepers have a place in common.
* `Pool.flagRun?` — the run that a keeper has.
* `Pool.KeepsFlagsApart` — every list of flags lies inside the pool, in places of its own.

## Main results

* `FlagKeeper.Apart.update` — a keeper may get a run behind all others.
* `Pool.FlagsLaid.declare`, `Pool.FlagsLaid.attach` — the work of a row keeps the runs apart.
* `Script.keepsFlagsApart_rebuild` — whatever a script comes to, it leaves the runs apart.
-/

namespace StoryGraph

/-- What keeps a run of flags in a pool. -/
inductive FlagKeeper where
  /-- The node in a slot, for the flags that it sets. -/
  | effects (slot : Nat)
  /-- The node in a slot, for the flags that it requires. -/
  | requires (slot : Nat)
  /-- The choice in a place. -/
  | choice (place : Nat)
deriving DecidableEq

namespace FlagKeeper

/-! ## Runs that lie apart -/

/-- The runs that keepers have lie in the first `size` places, and no two keepers have a place in
common. -/
structure Apart (run : FlagKeeper → Option Span) (size : Nat) : Prop where
  stop_le : ∀ keeper s, run keeper = some s → s.stop ≤ size
  disjoint : ∀ keeper other s t, run keeper = some s → run other = some t → keeper ≠ other →
    ∀ place, s.Covers place → ¬ t.Covers place

namespace Apart

variable {run : FlagKeeper → Option Span} {size later : Nat} {keeper : FlagKeeper} {s : Span}

/-- Runs lie apart in more places as well. -/
theorem mono (h : Apart run size) (hle : size ≤ later) : Apart run later where
  stop_le k t ht := Nat.le_trans (h.stop_le k t ht) hle
  disjoint := h.disjoint

/-- A run behind others has no place in common with any of them.

**Proof sketch.** An empty run covers nothing. A run that starts at `size` or behind has its places
where no other run has any. -/
theorem not_covers (h : Apart run size) (hs : s.isEmpty = true ∨ size ≤ s.offset.toNat)
    {other : FlagKeeper} {t : Span} (ht : run other = some t) {place : Nat}
    (hplace : s.Covers place) : ¬ t.Covers place := by
  rcases hs with hempty | hbehind
  · exact absurd hplace (Span.not_covers_of_isEmpty hempty place)
  · have hstop := h.stop_le other t ht
    simp only [Span.Covers] at hplace ⊢
    omega

/-- A keeper may let go of the run that it had, and get one that is empty or behind all others.

**Proof sketch.** Compare two keepers, by whether one of them is the keeper that was changed. Two
others had disjoint runs before. The new run is empty or starts at `size` or behind, where no old
run has a place. -/
theorem update (h : Apart run size) (hs : s.isEmpty = true ∨ size ≤ s.offset.toNat)
    (hstop : s.stop ≤ later) (hle : size ≤ later) :
    Apart (Function.update run keeper (some s)) later where
  stop_le k t ht := by
    by_cases hk : k = keeper
    · subst hk
      obtain rfl : s = t := by simpa using ht
      exact hstop
    · rw [Function.update_of_ne hk] at ht
      exact Nat.le_trans (h.stop_le k t ht) hle
  disjoint k l t u ht hu hne place hplace := by
    by_cases hk : k = keeper
    · subst hk
      obtain rfl : s = t := by simpa using ht
      rw [Function.update_of_ne (Ne.symm hne)] at hu
      exact h.not_covers hs hu hplace
    · rw [Function.update_of_ne hk] at ht
      by_cases hl : l = keeper
      · subst hl
        obtain rfl : s = u := by simpa using hu
        exact fun hcovers => h.not_covers hs ht hcovers hplace
      · rw [Function.update_of_ne hl] at hu
        exact h.disjoint k l t u ht hu hne place hplace

end Apart

end FlagKeeper

/-! ## The runs of a pool -/

namespace Pool

open FlagKeeper

variable {p q : Pool}

/-- The run of flags that a keeper has. -/
def flagRun? (p : Pool) : FlagKeeper → Option Span
  | .effects slot => (p.node? slot).map (·.effects)
  | .requires slot => (p.node? slot).map (·.requires)
  | .choice place => p.choices[place]?.map (·.effects)

/-- Every run of flags lies inside the pool, so that it holds as many flags as it has places, and no
two of them have a place in common. -/
structure KeepsFlagsApart (p : Pool) : Prop extends Apart p.flagRun? p.flagRefs.size where
  length_flags : ∀ keeper s, p.flagRun? keeper = some s → (p.flags s).length = s.count.toNat

/-- The runs that the keepers have when the node in a slot gets two new ones. -/
def renewed (run : FlagKeeper → Option Span) (slot : Nat) (d : Draft) : FlagKeeper → Option Span :=
  Function.update (Function.update run (.effects slot) (some d.effects)) (.requires slot)
    (some d.requires)

/-- A pool in which one node has other flags than in another pool, and nothing else is different,
has the same runs but for the two of this node.

**Proof sketch.** One case for each kind of keeper. A node in another slot has the runs that it had,
the node in this slot has those of the draft, and the choices are the same. -/
theorem flagRun?_eq_renewed {slot : Nat} {n : Node} {d : Draft} (hslot : q.node? slot = some n)
    (heffects : n.effects = d.effects) (hrequires : n.requires = d.requires)
    (hother : ∀ other, other ≠ slot → q.node? other = p.node? other)
    (hchoices : q.choices = p.choices) : q.flagRun? = renewed p.flagRun? slot d := by
  funext keeper
  cases keeper with
  | effects other =>
    by_cases h : other = slot
    · simp [renewed, flagRun?, h, hslot, heffects]
    · simp [renewed, flagRun?, h, hother other h]
  | requires other =>
    by_cases h : other = slot
    · simp [renewed, flagRun?, h, hslot, hrequires]
    · simp [renewed, flagRun?, h, hother other h]
  | choice place => simp [renewed, flagRun?, hchoices]

/-- A new node gets two runs, and the others keep theirs. -/
theorem flagRun?_push (n : Node) (index : Std.TreeMap NodeId Nat) :
    flagRun? { p with nodes := p.nodes.push n, index } =
      renewed p.flagRun? p.nodes.size n.toDraft := by
  refine flagRun?_eq_renewed (n := n) Array.getElem?_push_size rfl rfl (fun other h => ?_) rfl
  simp only [node?, Array.getElem?_push, if_neg h]

/-- A node that is patched gets two new runs, and the others keep theirs. -/
theorem flagRun?_patch {slot : Nat} {n : Node} (hn : p.node? slot = some n) (d : Draft) :
    flagRun? { p with nodes := p.nodes.modify slot (·.apply d) } = renewed p.flagRun? slot d := by
  refine flagRun?_eq_renewed (n := n.apply d) ?_ rfl rfl (fun other h => ?_) rfl
  · rw [node?, Array.getElem?_modify, if_pos rfl]
    exact congrArg (Option.map _) hn
  · rw [node?, Array.getElem?_modify, if_neg (Ne.symm h), node?]

/-- A choice that is attached gets a run, and the others keep theirs.

**Proof sketch.** Attaching a choice changes the run of choices of one node, and none of its flag
runs. Among the choices there is one more, behind the others. For a slot without a node nothing
happens. -/
theorem flagRun?_attach {slot : Nat} {c : Choice} (h : p.attach slot c = .ok q) :
    q.flagRun? = p.flagRun? ∨
      q.flagRun? = Function.update p.flagRun? (.choice p.choices.size) (some c.effects) := by
  obtain ⟨-, ⟨-, rfl⟩ | ⟨-, rfl⟩⟩ := attach_eq_ok h
  · right
    have hnode : ∀ (f : Node → Span) (other : Nat),
        (∀ n : Node, f (n.withChoice p.choices.size.toUInt32) = f n) →
        ((p.nodes.modify slot (·.withChoice p.choices.size.toUInt32))[other]?).map f =
          p.nodes[other]?.map f := by
      intro f other hf
      rw [Array.getElem?_modify]
      split
      · cases p.nodes[other]? <;> simp [hf]
      · rfl
    funext keeper
    cases keeper with
    | effects other => simpa [flagRun?, node?] using hnode (·.effects) other fun _ => rfl
    | requires other => simpa [flagRun?, node?] using hnode (·.requires) other fun _ => rfl
    | choice place =>
      by_cases hplace : place = p.choices.size
      · simp [flagRun?, hplace]
      · simp [flagRun?, Array.getElem?_push, hplace]
  · exact .inl rfl

/-- Flags that are appended leave all runs where they are. -/
theorem flagRun?_pushFlags {ids : List FlagId} {s : Span} (h : p.pushFlags ids = .ok (s, q)) :
    q.flagRun? = p.flagRun? := by
  obtain ⟨-, -, rfl⟩ := pushFlags_eq_ok h
  rfl

/-- A keeper may get the run of flags that were appended. -/
theorem WellFormed.apart_update_pushFlags (hp : p.WellFormed) {ids : List FlagId} {s : Span}
    (h : p.pushFlags ids = .ok (s, q)) {run : FlagKeeper → Option Span}
    (hrun : Apart run p.flagRefs.size) (keeper : FlagKeeper) :
    Apart (Function.update run keeper (some s)) q.flagRefs.size := by
  obtain ⟨hstart, hend⟩ := run_pushFlags hp h
  exact hrun.update (.inr (Nat.le_of_eq hstart.symm)) (Nat.le_of_eq hend)
    (size_flagRefs_pushFlags h)

/-! ## Runs of a growing pool -/

/-- The pool is well formed, and its runs of flags lie apart. -/
structure FlagsLaid (p : Pool) : Prop where
  wellFormed : p.WellFormed
  apart : Apart p.flagRun? p.flagRefs.size

namespace FlagsLaid

/-- Runs that lie apart inside the pool hold as many flags as they have places. -/
theorem keepsFlagsApart (hp : p.FlagsLaid) : p.KeepsFlagsApart where
  toApart := hp.apart
  length_flags keeper s hs := Span.length_slice _ _ (hp.apart.stop_le keeper s hs)

/-- Flags that are appended leave the runs apart. -/
theorem pushFlags (hp : p.FlagsLaid) {ids : List FlagId} {s : Span}
    (h : p.pushFlags ids = .ok (s, q)) : q.FlagsLaid := by
  refine ⟨hp.wellFormed.pushFlags h, ?_⟩
  rw [flagRun?_pushFlags h]
  exact hp.apart.mono (size_flagRefs_pushFlags h)

/-- A node that is asked for has two empty runs if it is new.

**Proof sketch.** A new node keeps two runs of its own, both empty, and an empty run is apart from
all others. -/
theorem ensure (hp : p.FlagsLaid) {id : NodeId} {slot : Nat} (h : p.ensure id = .ok (slot, q)) :
    q.FlagsLaid := by
  refine ⟨hp.wellFormed.ensure h, ?_⟩
  rcases ensure_eq_ok h with ⟨-, rfl⟩ | ⟨-, -, -, rfl⟩
  · exact hp.apart
  · rw [flagRun?_push]
    exact (hp.apart.update (.inl rfl) (Nat.zero_le _) (Nat.le_refl _)).update (.inl rfl)
      (Nat.zero_le _) (Nat.le_refl _)

/-- A node gets the two runs of flags that were appended for it, one behind the other.

**Proof sketch.** All runs that are kept lie in front of the two. The first run ends where the
second starts, and this one ends with the flag references. -/
theorem declare (hp : p.FlagsLaid) {p₁ p₂ : Pool} {effects requires : List FlagId} {id : NodeId}
    {d : Draft} {r : Declared} (h₁ : p.pushFlags effects = .ok (d.effects, p₁))
    (h₂ : p₁.pushFlags requires = .ok (d.requires, p₂)) (h₃ : p₂.upsert id d = .ok (r, q)) :
    q.FlagsLaid := by
  have hwf₁ := hp.wellFormed.pushFlags h₁
  have hwf₂ := hwf₁.pushFlags h₂
  have hrenewed : ∀ slot, Apart (renewed p₂.flagRun? slot d) p₂.flagRefs.size := by
    intro slot
    rw [flagRun?_pushFlags h₂, flagRun?_pushFlags h₁]
    have hfirst := hp.wellFormed.apart_update_pushFlags h₁ hp.apart (.effects slot)
    exact hwf₁.apart_update_pushFlags h₂ hfirst (.requires slot)
  refine ⟨hwf₂.upsert h₃, ?_⟩
  rcases upsert_eq_ok h₃ with ⟨slot, hslot, -, rfl⟩ | ⟨-, -, -, rfl⟩
  · obtain ⟨n, hn, -⟩ := Option.map_eq_some_iff.1 ((hwf₂.slotOf?_eq_some_iff id slot).1 hslot)
    rw [flagRun?_patch hn]
    exact hrenewed slot
  · rw [flagRun?_push]
    exact hrenewed _

/-- A choice gets the run of flags that were appended for it.

**Proof sketch.** The flags were appended behind all others, so their run is apart from the runs
that were there. Attaching the choice makes it the keeper of that run, or does nothing for a slot
without a node. -/
theorem attach (hp : p.FlagsLaid) {p₁ : Pool} {flags : List FlagId} {slot : Nat} {c : Choice}
    (h₁ : p.pushFlags flags = .ok (c.effects, p₁)) (h₂ : p₁.attach slot c = .ok q) :
    q.FlagsLaid := by
  have hp₁ := hp.pushFlags h₁
  refine ⟨hp₁.wellFormed.attach h₂, ?_⟩
  rw [flagRefs_attach h₂]
  rcases flagRun?_attach h₂ with hsame | hnew
  · rw [hsame]
    exact hp₁.apart
  · rw [hnew, flagRun?_pushFlags h₁]
    exact hp.wellFormed.apart_update_pushFlags h₁ hp.apart _

end FlagsLaid

/-- An emptied pool keeps no flags. -/
theorem flagsLaid_reset (hp : p.reset.WellFormed) : p.reset.FlagsLaid where
  wellFormed := hp
  apart :=
    { stop_le := fun keeper s hs => by cases keeper <;> simp [flagRun?, node?, reset] at hs
      disjoint := fun keeper _ s _ hs => by cases keeper <;> simp [flagRun?, node?, reset] at hs }

end Pool

/-! ## The runs of a script -/

open Building

/-- What is true of a pool, and of the pool with the node asked for, is true after asking for it. -/
theorem Building.of_ensure {Q : Pool → Prop} {b : Build} {id : NodeId} (hb : Q b.pool)
    (hf : ∀ slot q, b.pool.ensure id = .ok (slot, q) → Q q) :
    Q (buildAfter (ensure id) b).pool := by
  cases h : ensure id b with
  | ok slot b₁ =>
    rw [buildAfter, h]
    exact hf slot b₁.pool (ensure_eq_ok h)
  | error o b₁ =>
    rw [buildAfter, h]
    exact (ensure_undone h).symm ▸ hb

/-- What is true of a pool, and of the pool with the choice, is true after attaching the choice. -/
theorem Building.of_attach {Q : Pool → Prop} {b : Build} {slot : Nat} {c : Choice} (hb : Q b.pool)
    (hf : ∀ q, b.pool.attach slot c = .ok q → Q q) : Q (buildAfter (attach slot c) b).pool := by
  cases h : attach slot c b with
  | ok a b₁ =>
    rw [buildAfter, h]
    exact hf b₁.pool (attach_eq_ok h)
  | error o b₁ =>
    rw [buildAfter, h]
    exact (attach_undone h).symm ▸ hb

/-- Whatever an entry comes to, it leaves the runs of flags apart.

**Proof sketch.** A list of flags that is in the pool but has no keeper yet takes places from
nobody, so an entry may fail at any growth. Once all its growths have succeeded, its lists have
their keeper. -/
theorem Entry.keeps_flagsLaid (line : Nat) (e : Entry) :
    Keeps (·.pool.FlagsLaid) (e.enact line) := by
  intro b hb
  let laid : Build → Prop := (·.pool.FlagsLaid)
  cases e with
  | node id said =>
    rw [Entry.enact, buildAfter_onLine]
    refine of_bind (P := laid) (of_grow hb fun _ _ h => hb.pushFlags h) fun effects b₁ h₁ => ?_
    obtain ⟨p₁, hp₁, rfl⟩ := grow_eq_ok.1 h₁
    have hb₁ : p₁.FlagsLaid := hb.pushFlags hp₁
    refine of_bind (P := laid) (of_grow hb₁ fun _ _ h => hb₁.pushFlags h) fun requires b₂ h₂ => ?_
    obtain ⟨p₂, hp₂, rfl⟩ := grow_eq_ok.1 h₂
    have hb₂ : p₂.FlagsLaid := hb₁.pushFlags hp₂
    have hdeclare : ∀ declared q, p₂.upsert id (said.draft effects requires) = .ok (declared, q) →
        q.FlagsLaid := fun _ _ h => hb.declare (d := said.draft effects requires) hp₁ hp₂ h
    refine of_bind (P := laid) (of_grow hb₂ hdeclare) fun declared b₃ h₃ => ?_
    obtain ⟨p₃, hp₃, rfl⟩ := grow_eq_ok.1 h₃
    cases declared.inserted <;> exact hdeclare declared p₃ hp₃
  | choice parent label goto flags =>
    rw [Entry.enact, buildAfter_onLine]
    refine of_bind (P := laid) (of_ensure hb fun _ _ h => hb.ensure h) fun slot b₁ h₁ => ?_
    have hb₁ : b₁.pool.FlagsLaid := hb.ensure (ensure_eq_ok h₁)
    refine of_bind (P := laid) (of_grow hb₁ fun _ _ h => hb₁.pushFlags h) fun effects b₂ h₂ => ?_
    obtain ⟨p₂, hp₂, rfl⟩ := grow_eq_ok.1 h₂
    have hb₂ : p₂.FlagsLaid := hb₁.pushFlags hp₂
    exact of_attach hb₂ fun q h => hb₁.attach (c := { label, goto, effects }) hp₂ h
  | unlabelled => exact hb
  | unaddressed cell => exact hb

namespace Script

/-- **Whatever a script comes to, it leaves the runs of flags apart.** Once a script is compiled, or
has failed at any of its entries, each list of flags of a node or of a choice lies inside the flag
references, so that none of its flags is cut off, and no two lists have a place in common.

**Proof sketch.** The emptied pool keeps no flags. An entry gives runs behind all that are kept to
one node or one choice, and a run that is let go is nobody's any more. -/
theorem keepsFlagsApart_rebuild (limits : Limits) (es : List Edit) (text : String) :
    (rebuild text (Build.edited limits es)).2.pool.KeepsFlagsApart := by
  have hreset := Pool.flagsLaid_reset (Build.made_edited limits es).reset.wellFormed
  exact (rebuild_of_keeps Entry.keeps_flagsLaid (fun _ _ _ hb => hb) text hreset).keepsFlagsApart

/-- A node that is declared once more gets a run behind the one that it lets go of. -/
example :
    let p := (rebuild "\n,1,,,,,,,,,,,,,,5&6\n,1,,,,,,,,,,,,,,7" { pool := .empty {} }).2.pool
    p.flagRefs = #[5, 6, 7] ∧ p.flagRun? (.effects 0) = some ⟨2, 1⟩ := by
  decide +kernel

end Script

end StoryGraph
