import StoryGraph.Proofs.Graph.Lookup
import StoryGraph.Proofs.Script.Work

set_option relaxedAutoImplicit false
set_option autoImplicit false

/-!
# Editing a build

All that can be done to a build, in any order: its pool grows in one of four ways, is emptied, or
has a script compiled into it. Whether there was room or not, and whether the script was faulty or
not, the next edit goes on with the build that is left.

## Main definitions

* `Growth`, `Edit` — a way in which a pool grows, and what can be done to a build.
* `Build.grow`, `Build.edit`, `Build.editAll` — the build afterwards.
* `Pool.Coherent` — look-ups agree with each other, and no part of a pool exceeds its limit.

## Main results

* `Build.Lasting.editAll` — a lasting property outlives all edits.
* `Build.coherent_edited` — whatever is done to a build, its pool is coherent.
-/

namespace StoryGraph

/-- A way in which a pool grows. -/
inductive Growth where
  | upsert (id : NodeId) (d : Draft)
  | ensure (id : NodeId)
  | pushFlags (ids : List FlagId)
  | attach (slot : Nat) (c : Choice)

/-- What can be done to a build. -/
inductive Edit where
  | grow (g : Growth)
  | reset
  | compile (text : String)

namespace Build

open Building

/-- The build after a growth of its pool, whether there was room for it or not. -/
def grow (b : Build) : Growth → Build
  | .upsert id d => buildAfter (Building.upsert id d) b
  | .ensure id => buildAfter (Building.ensure id) b
  | .pushFlags ids => buildAfter (Building.pushFlags ids) b
  | .attach slot c => buildAfter (Building.attach slot c) b

/-- The build after growths of its pool. -/
def growAll (b : Build) (gs : List Growth) : Build := gs.foldl grow b

/-- The build after an edit, whether it succeeded or failed. -/
def edit (b : Build) : Edit → Build
  | .grow g => b.grow g
  | .reset => { b with pool := b.pool.reset }
  | .compile text => (Script.rebuild text b).2

/-- The build after edits. -/
def editAll (b : Build) (es : List Edit) : Build := es.foldl edit b

/-- The build that edits make of an empty pool under the given limits. -/
def edited (limits : Limits) (es : List Edit) : Build := editAll { pool := .empty limits } es

/-! ## What outlives edits -/

namespace Lasting

variable {P : Build → Prop} {b : Build}

/-- A growth leaves a lasting property true. -/
theorem grow (hP : Lasting P) (hb : P b) (g : Growth) : P (b.grow g) := by
  cases g with
  | upsert id d => exact hP.keeps_upsert id d b hb
  | ensure id => exact hP.keeps_ensure id b hb
  | pushFlags ids => exact hP.keeps_pushFlags ids b hb
  | attach slot c => exact hP.keeps_attach slot c b hb

/-- Growths leave a lasting property true. -/
theorem growAll (hP : Lasting P) (hb : P b) (gs : List Growth) : P (b.growAll gs) := by
  induction gs generalizing b with
  | nil => exact hb
  | cons g gs ih => exact ih (hP.grow hb g)

/-- An edit leaves a lasting property true that holds of an emptied pool as well. -/
theorem edit (hP : Lasting P) (hreset : ∀ {b : Build}, P b → P { b with pool := b.pool.reset })
    (hb : P b) (e : Edit) : P (b.edit e) := by
  cases e with
  | grow g => exact hP.grow hb g
  | reset => exact hreset hb
  | compile text => exact Script.rebuild_of_lasting hP text (hreset hb)

/-- Edits leave a lasting property true that holds of an emptied pool as well. -/
theorem editAll (hP : Lasting P)
    (hreset : ∀ {b : Build}, P b → P { b with pool := b.pool.reset }) (hb : P b)
    (es : List Edit) : P (b.editAll es) := by
  induction es generalizing b with
  | nil => exact hb
  | cons e es ih => exact ih (hP.edit hreset hb e)

end Lasting

/-- Edits leave a pool that can be. -/
theorem made_edited (limits : Limits) (es : List Edit) : (edited limits es).pool.Made :=
  Script.lasting_made.editAll (fun hb => hb.reset) (.empty limits) es

/-- Edits leave a pool its limits, lowered as they were at first. -/
theorem limits_edited (limits : Limits) (es : List Edit) :
    (edited limits es).pool.limits = limits.addressable :=
  (Script.lasting_limits limits.addressable).editAll (fun hb => hb) rfl es

end Build

/-! ## Coherent pools -/

/-- Under the limits `limits` the pool `p` keeps to them, its ways of looking up a node agree, and
its nodes have the choices that their runs have places for. -/
structure Pool.Coherent (limits : Limits) (p : Pool) : Prop where
  limits_eq : p.limits = limits.addressable
  limits_lt : ∀ part, (p.limits.of part).toNat < UInt32.size
  size_le : ∀ part, p.size part ≤ (p.limits.of part).toNat
  /-- An id has the slot of the node with this id, and no other. -/
  slotOf?_eq_some_iff : ∀ id slot, p.slotOf? id = some slot ↔ ∃ n, p.node? slot = some n ∧ n.id = id
  /-- No two nodes have the same id. -/
  ids_nodup : p.ids.Nodup
  find?_eq_some_iff : ∀ id slot n, p.find? id = some (slot, n) ↔ p.node? slot = some n ∧ n.id = id
  /-- The three ways to look for a node find it or miss it together, in one slot. -/
  contains_eq : ∀ id, p.contains id = (p.slotOf? id).isSome
  map_find? : ∀ id, (p.find? id).map (·.1) = p.slotOf? id
  /-- The run of a node lies inside the choices. -/
  stop_le : ∀ n ∈ p.nodes, n.choices.stop ≤ p.choices.size
  length_choicesOf : ∀ n ∈ p.nodes, (p.choicesOf n).length = n.choices.count.toNat
  hasChoices_iff : ∀ n ∈ p.nodes, n.hasChoices = true ↔ p.choicesOf n ≠ []

namespace Pool.WellFormed

variable {p : Pool}

/-- The slot that is found with a node is the slot of its id. -/
theorem map_find? (hp : p.WellFormed) (id : NodeId) : (p.find? id).map (·.1) = p.slotOf? id := by
  refine Option.ext fun slot => ?_
  rw [Option.map_eq_some_iff, hp.slotOf?_eq_some_iff, Option.map_eq_some_iff]
  constructor
  · rintro ⟨⟨_, n⟩, hfind, rfl⟩
    exact ⟨n, hp.find?_eq_some_iff.1 hfind⟩
  · rintro ⟨n, hn⟩
    exact ⟨(slot, n), hp.find?_eq_some_iff.2 hn, rfl⟩

/-- No two nodes have the same id, as an id has but one slot. -/
theorem ids_nodup (hp : p.WellFormed) : p.ids.Nodup := by
  refine List.pairwise_iff_getElem.2 fun i j hi hj hij heq => ?_
  have hsloti := hp.slotOf?_eq_some_iff_ids.2 (List.getElem?_eq_getElem hi)
  have hslotj := hp.slotOf?_eq_some_iff_ids.2 (List.getElem?_eq_getElem hj)
  rw [heq, hslotj, Option.some.injEq] at hsloti
  omega

end Pool.WellFormed

/-- **Whatever is done to a build, its pool is coherent.** Declarations, placeholders, flags and
choices in any order and for any slot, emptying, and scripts that compile or fail half-way leave the
index and the nodes in agreement, every part within its limit and every run inside the choices.

**Proof sketch.** Each edit leaves a pool that can be made, by `made_edited`, and such a pool is
well formed. The fields of `Coherent` follow from that, one lemma each; that the limits stay is
`limits_edited`. -/
theorem Build.coherent_edited (limits : Limits) (es : List Edit) :
    (edited limits es).pool.Coherent limits := by
  have hp := (made_edited limits es).wellFormed
  constructor
  case limits_eq => exact limits_edited limits es
  case limits_lt => exact hp.limits_lt
  case size_le => exact hp.size_le
  case slotOf?_eq_some_iff =>
    intro id slot
    rw [hp.slotOf?_eq_some_iff, Option.map_eq_some_iff]
  case ids_nodup => exact hp.ids_nodup
  case find?_eq_some_iff => exact fun _ _ _ => hp.find?_eq_some_iff
  case contains_eq => exact Pool.WellFormed.contains_iff
  case map_find? => exact hp.map_find?
  case stop_le => exact hp.stop_le
  case length_choicesOf => exact fun _ => hp.length_choicesOf
  case hasChoices_iff => exact fun _ => hp.hasChoices_iff

end StoryGraph
