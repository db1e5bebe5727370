import StoryGraph.Proofs.Script.Editing

set_option relaxedAutoImplicit false
set_option autoImplicit false

/-!
# Growth appends

A pool grows at its ends. A growth for which there is no room changes nothing, and any other leaves
all that was there where it was: every slot keeps its id, and no choice and no flag moves. What a
growth has handed out, a run of flags or a slot, is therefore good until the pool is emptied.

## Main definitions

* `Growth.Lacks` — a growth needs room that there is not.
* `Growth.Touches` — a growth may change a node that is there.
* `Build.overflow?` — the part that a growth finds full.
* `Pool.Extends` — a pool goes on where another one ends.
* `Build.Appends` — what a growth of a build can do, and what lasts through all later ones.

## Main results

* `Pool.WellFormed.grow_eq_error_iff` — a growth fails just when it needs room that there is not.
* `Build.lasting_extends` — however a pool grows, it extends what it was.
* `Build.appends_edited` — whatever was done to a build, its pool grows all or nothing, and at its
  ends.
-/

namespace StoryGraph

/-! ## What a growth needs and touches -/

namespace Growth

/-- The part in which a growth may need room. -/
def part : Growth → Part
  | upsert .. | ensure _ => .nodes
  | pushFlags _ => .flagRefs
  | attach .. => .choices

/-- The growth needs room in the pool `p` and there is none: a new node when no slot is left, flags
when not all of them fit, a choice when no place is left. -/
def Lacks (p : Pool) : Growth → Prop
  | upsert id _ | ensure id =>
    p.contains id = false ∧ p.nodes.size = p.limits.maxNodes.toNat
  | pushFlags ids => ids ≠ [] ∧ p.limits.maxFlagRefs.toNat < p.flagRefs.size + ids.length
  | attach .. => p.choices.size = p.limits.maxChoices.toNat

/-- The growth may change the node `n` in the slot `slot`: it declares the node, or hangs a choice
on it. -/
def Touches (slot : Nat) (n : Node) : Growth → Prop
  | upsert id _ => n.id = id
  | attach other _ => other = slot
  | ensure _ | pushFlags _ => False

end Growth

/-- The part that a step finds full when it fails. -/
def Building.overflow? {α : Type} (w : Building Overflow α) (b : Build) : Option Overflow :=
  match w b with
  | .ok .. => none
  | .error o _ => some o

/-- The part that a growth of the build finds full when it fails. -/
def Build.overflow? (b : Build) : Growth → Option Overflow
  | .upsert id d => (Building.upsert id d).overflow? b
  | .ensure id => (Building.ensure id).overflow? b
  | .pushFlags ids => (Building.pushFlags ids).overflow? b
  | .attach slot c => (Building.attach slot c).overflow? b

/-! ## Growing pools -/

namespace Pool

variable {p q : Pool}

/-- The pool after a growth, if there is room for it. -/
def grow (p : Pool) : Growth → Except Overflow Pool
  | .upsert id d => (p.upsert id d).map (·.2)
  | .ensure id => (p.ensure id).map (·.2)
  | .pushFlags ids => (p.pushFlags ids).map (·.2)
  | .attach slot c => p.attach slot c

/-- An answer that is dropped makes no success of a failure. -/
theorem map_snd_eq_ok {α : Type} {x : Except Overflow (α × Pool)} :
    x.map (·.2) = .ok q ↔ ∃ a, x = .ok (a, q) := by
  cases x with
  | error o => simp [Except.map]
  | ok aq =>
    obtain ⟨a, q'⟩ := aq
    simp [Except.map]

/-- An answer that is dropped makes no failure of a success. -/
theorem map_snd_eq_error {α : Type} {x : Except Overflow (α × Pool)} {o : Overflow} :
    x.map (·.2) = .error o ↔ x = .error o := by
  cases x <;> simp [Except.map]

/-- A part with room for one more element or none is full when it is as large as its limit. -/
theorem WellFormed.room_one_eq_error_iff (hp : p.WellFormed) {part : Part} {o : Overflow} :
    p.room part 1 = .error o ↔
      p.size part = (p.limits.of part).toNat ∧ o = ⟨part, p.limits.of part⟩ := by
  have hle := hp.size_le part
  rw [room_eq_error_iff]
  apply and_congr_left
  intro _
  omega

/-- A growth fails just when it needs room that there is not.

**Proof sketch.** One case for each growth, by the lemma that says when it fails. Each names one
part and asks whether it is full; that an id is new is said by the index there and by `contains`
here, which agree in a well-formed pool. -/
theorem WellFormed.grow_eq_error_iff (hp : p.WellFormed) {g : Growth} {o : Overflow} :
    p.grow g = .error o ↔ g.Lacks p ∧ o = ⟨g.part, p.limits.of g.part⟩ := by
  have hnew : ∀ id, p.slotOf? id = none ↔ p.contains id = false := by
    intro id
    rw [contains_iff]
    cases p.slotOf? id <;> simp
  cases g with
  | upsert id d =>
    rw [grow, map_snd_eq_error, upsert_eq_error_iff, hnew, hp.room_one_eq_error_iff, ← and_assoc]
    rfl
  | ensure id =>
    rw [grow, map_snd_eq_error, ensure_eq_error_iff, hnew, hp.room_one_eq_error_iff, ← and_assoc]
    rfl
  | pushFlags ids =>
    rw [grow, map_snd_eq_error, pushFlags_eq_error_iff, room_eq_error_iff, ← and_assoc]
    rfl
  | attach slot c =>
    rw [grow, attach_eq_error_iff, hp.room_one_eq_error_iff]
    rfl

/-- The nodes that a growth does not touch stay what they are.

**Proof sketch.** A growth pushes a node, changes the node of one slot, or leaves the nodes as they
are. A pushed node has a slot behind all others. A slot that is changed is that of the id that was
declared, or the one that the choice was attached to, and such a slot is touched. -/
theorem node?_grow {g : Growth} (h : p.grow g = .ok q) {slot : Nat} {n : Node}
    (hp : p.WellFormed) (hn : p.node? slot = some n) (hnot : ¬ g.Touches slot n) :
    q.node? slot = some n := by
  have hlt : slot < p.nodes.size := (Array.getElem?_eq_some_iff.1 hn).1
  -- a new node has a slot behind all others
  have hpush : ∀ m, (p.nodes.push m)[slot]? = some n := by
    intro m
    rw [Array.getElem?_push, if_neg (by omega)]
    exact hn
  -- a node that is changed has another slot than this one
  have hmodify : ∀ other f, other ≠ slot → (p.nodes.modify other f)[slot]? = some n := by
    intro other f hne
    rw [Array.getElem?_modify, if_neg hne]
    exact hn
  cases g with
  | upsert id d =>
    obtain ⟨r, h⟩ := map_snd_eq_ok.1 h
    rcases upsert_eq_ok h with ⟨other, hslot, -, rfl⟩ | ⟨-, -, -, rfl⟩
    · refine hmodify other _ ?_
      rintro rfl
      have hid := (hp.slotOf?_eq_some_iff id other).1 hslot
      rw [hn] at hid
      exact hnot (Option.some.inj hid)
    · exact hpush _
  | ensure id =>
    obtain ⟨other, h⟩ := map_snd_eq_ok.1 h
    rcases ensure_eq_ok h with ⟨-, rfl⟩ | ⟨-, -, -, rfl⟩
    · exact hn
    · exact hpush _
  | pushFlags ids =>
    obtain ⟨s, h⟩ := map_snd_eq_ok.1 h
    obtain ⟨-, -, rfl⟩ := pushFlags_eq_ok h
    exact hn
  | attach other c =>
    obtain ⟨-, ⟨-, rfl⟩ | ⟨-, rfl⟩⟩ := attach_eq_ok h
    · exact hmodify other _ hnot
    · exact hn

/-! ## Pools that extend others -/

/-- The pool `q` goes on where the pool `p` ends: each slot of `p` has the same id, and the choices
and the flags of `p` come first. -/
structure Extends (p q : Pool) : Prop where
  ids : p.ids <+: q.ids
  choices : p.choices.toList <+: q.choices.toList
  flagRefs : p.flagRefs.toList <+: q.flagRefs.toList

namespace Extends

/-- A pool extends itself. -/
theorem refl (p : Pool) : p.Extends p :=
  ⟨List.prefix_rfl, List.prefix_rfl, List.prefix_rfl⟩

/-- A slot that was given away keeps its id. -/
theorem slotOf? (h : p.Extends q) (hp : p.WellFormed) (hq : q.WellFormed) {id : NodeId}
    {slot : Nat} (hslot : p.slotOf? id = some slot) : q.slotOf? id = some slot := by
  rw [hp.slotOf?_eq_some_iff_ids] at hslot
  obtain ⟨later, hlater⟩ := h.ids
  rw [hq.slotOf?_eq_some_iff_ids, ← hlater,
    List.getElem?_append_left (List.getElem?_eq_some_iff.1 hslot).1]
  exact hslot

/-- A run of flags that was inside the pool holds the same.

**Proof sketch.** The flag references of the larger pool are those of the smaller one with more
behind them, and a run inside an array holds the same when the array grows. -/
theorem flags (h : p.Extends q) {s : Span} (hs : s.stop ≤ p.flagRefs.size) :
    q.flags s = p.flags s := by
  obtain ⟨later, hlater⟩ := h.flagRefs
  have hrefs : q.flagRefs = p.flagRefs ++ later.toArray := by
    apply Array.toList_inj.1
    simp [hlater]
  rw [Pool.flags, Pool.flags, hrefs]
  exact s.slice_append _ _ hs

end Extends

end Pool

/-! ## Growths that fail -/

namespace Building

variable {α : Type} {b b' : Build} {o : Overflow}

/-- Growth that fails leaves the build as it was. -/
theorem grow_undone {f : Pool → Except Overflow (α × Pool)} (h : grow f b = .error o b') :
    b' = b := by
  unfold grow at h
  cases hf : f b.pool with
  | ok grown => simp [hf] at h
  | error o' =>
    simp only [hf, EStateM.Result.error.injEq] at h
    exact h.2.symm

/-- Asking for a node that finds no room leaves the pool as it was; only the journal tells of it. -/
theorem ensure_undone {id : NodeId} (h : ensure id b = .error o b') : b'.pool = b.pool := by
  unfold ensure at h
  split at h
  · rw [grow_undone h]
  · rw [grow_undone h]

/-- A choice that finds no room leaves the build as it was. -/
theorem attach_undone {slot : Nat} {c : Choice} (h : attach slot c b = .error o b') : b' = b := by
  unfold attach at h
  split at h
  case h_1 => cases h
  case h_2 =>
    simp only [EStateM.Result.error.injEq] at h
    exact h.2.symm

/-- What a step comes to that makes of the pool what `x` is: it finds a part full and leaves the
pool as it was, or it leaves the pool that `x` is.

**Proof sketch.** By how the step ends, with one hypothesis for each end. -/
theorem overflow?_cases {w : Building Overflow α} {x : Except Overflow Pool}
    (hok : ∀ a b', w b = .ok a b' → x = .ok b'.pool)
    (herror : ∀ o b', w b = .error o b' → x = .error o ∧ b'.pool = b.pool) :
    (∃ o, x = .error o ∧ w.overflow? b = some o ∧ (buildAfter w b).pool = b.pool) ∨
      (x = .ok (buildAfter w b).pool ∧ w.overflow? b = none) := by
  unfold overflow? buildAfter
  cases hw : w b with
  | ok a b' => exact .inr ⟨hok a b' hw, rfl⟩
  | error o b' =>
    obtain ⟨hx, hpool⟩ := herror o b' hw
    exact .inl ⟨o, hx, rfl, hpool⟩

end Building

namespace Build

open Building

variable {b : Build}

/-- What a growth comes to: it finds a part full and leaves the pool as it was, or the pool has
grown.

**Proof sketch.** By the growth, and by how the work on it ends. Where it succeeds its pool is the
grown one. Where it fails, the equation for the error gives the part that is full, and the work has
put the pool back. -/
theorem grow_cases (b : Build) (g : Growth) :
    (∃ o, b.pool.grow g = .error o ∧ b.overflow? g = some o ∧ (b.grow g).pool = b.pool) ∨
      (b.pool.grow g = .ok (b.grow g).pool ∧ b.overflow? g = none) := by
  cases g with
  | upsert id d =>
    refine overflow?_cases (fun a b' h => ?_) fun o b' h => ⟨?_, by rw [grow_undone h]⟩
    · obtain ⟨q, hq, rfl⟩ := grow_eq_ok.1 h
      exact Pool.map_snd_eq_ok.2 ⟨a, hq⟩
    · exact Pool.map_snd_eq_error.2 (grow_eq_error h)
  | ensure id =>
    refine overflow?_cases (fun a b' h => ?_) fun o b' h => ⟨?_, ensure_undone h⟩
    · exact Pool.map_snd_eq_ok.2 ⟨a, ensure_eq_ok h⟩
    · exact Pool.map_snd_eq_error.2 (ensure_eq_error h)
  | pushFlags ids =>
    refine overflow?_cases (fun a b' h => ?_) fun o b' h => ⟨?_, by rw [grow_undone h]⟩
    · obtain ⟨q, hq, rfl⟩ := grow_eq_ok.1 h
      exact Pool.map_snd_eq_ok.2 ⟨a, hq⟩
    · exact Pool.map_snd_eq_error.2 (grow_eq_error h)
  | attach slot c =>
    refine overflow?_cases (fun a b' h => ?_) fun o b' h => ⟨?_, by rw [attach_undone h]⟩
    · exact attach_eq_ok h
    · exact attach_eq_error h

/-- A growth finds a part full just when it needs room that there is not. -/
theorem overflow?_eq_some_iff (hb : b.pool.WellFormed) {g : Growth} {o : Overflow} :
    b.overflow? g = some o ↔ g.Lacks b.pool ∧ o = ⟨g.part, b.pool.limits.of g.part⟩ := by
  rw [← hb.grow_eq_error_iff]
  obtain ⟨o', hfull, hsome, -⟩ | ⟨hok, hnone⟩ := grow_cases b g
  · rw [hfull, hsome, Option.some.injEq, Except.error.injEq]
  · rw [hok, hnone]
    simp

/-! ## What lasts -/

/-- Each growth of a pool that extends `p` leaves a pool that extends `p`.

**Proof sketch.** One field for each growth. New ids come behind the old ones or do not come at all,
choices and flags come behind the old ones, and what extends a pool that extends `p` extends `p`. -/
theorem lasting_extends (p : Pool) :
    Lasting fun b => b.pool.WellFormed ∧ p.Extends b.pool where
  note hb _ := hb
  upsert {b q id d r} hb h := by
    obtain ⟨hwf, hext⟩ := hb
    obtain ⟨hrefs, hchoices⟩ := Pool.parts_upsert h
    refine ⟨hwf.upsert h, ?_, by rw [hchoices]; exact hext.choices,
      by rw [hrefs]; exact hext.flagRefs⟩
    rw [Pool.ids_upsert hwf h]
    split
    · exact hext.ids
    · exact hext.ids.trans (List.prefix_append _ _)
  ensure {b q id slot} hb h := by
    obtain ⟨hwf, hext⟩ := hb
    obtain ⟨hrefs, hchoices⟩ := Pool.parts_ensure h
    refine ⟨hwf.ensure h, ?_, by rw [hchoices]; exact hext.choices,
      by rw [hrefs]; exact hext.flagRefs⟩
    rw [Pool.ids_ensure hwf h]
    split
    · exact hext.ids
    · exact hext.ids.trans (List.prefix_append _ _)
  pushFlags {b q ids s} hb h := by
    obtain ⟨hwf, hext⟩ := hb
    refine ⟨hwf.pushFlags h, ?_⟩
    obtain ⟨-, -, rfl⟩ := Pool.pushFlags_eq_ok h
    refine ⟨hext.ids, hext.choices, hext.flagRefs.trans ?_⟩
    simp
  attach {b q slot c} hb h := by
    obtain ⟨hwf, hext⟩ := hb
    have hids := Pool.ids_attach h
    refine ⟨hwf.attach h, by rw [hids]; exact hext.ids, ?_, ?_⟩
    · obtain ⟨-, ⟨-, rfl⟩ | ⟨-, rfl⟩⟩ := Pool.attach_eq_ok h
      · exact hext.choices.trans (by simp)
      · exact hext.choices
    · rw [Pool.flagRefs_attach h]
      exact hext.flagRefs

/-- Growths of a pool leave one that extends it, and that is well formed. -/
theorem extends_growAll (hb : b.pool.WellFormed) (gs : List Growth) :
    (b.growAll gs).pool.WellFormed ∧ b.pool.Extends (b.growAll gs).pool :=
  (lasting_extends b.pool).growAll ⟨hb, .refl _⟩ gs

/-- The pool of the build `b` grows all or nothing, and at its ends. -/
structure Appends (b : Build) : Prop where
  /-- A growth fails just when it needs room that there is not. -/
  fails_iff : ∀ g o, b.overflow? g = some o ↔
    g.Lacks b.pool ∧ o = ⟨g.part, b.pool.limits.of g.part⟩
  /-- A node that is there is always patched, and no flags always fit. -/
  fits : (∀ id d, b.pool.contains id = true → b.overflow? (.upsert id d) = none) ∧
    b.overflow? (.pushFlags []) = none
  /-- A growth that fails leaves the pool as it was. -/
  undone : ∀ g o, b.overflow? g = some o → (b.grow g).pool = b.pool
  /-- A growth that succeeds keeps the id of each slot, all choices and all flags. -/
  keeps : ∀ g, b.overflow? g = none → b.pool.Extends (b.grow g).pool
  /-- It keeps all nodes but the one that it declares or hangs a choice on. -/
  spares : ∀ g, b.overflow? g = none → ∀ slot n, b.pool.node? slot = some n →
    ¬ g.Touches slot n → (b.grow g).pool.node? slot = some n
  /-- A node that is declared once more keeps its slot, its id and its run of choices. -/
  patches : ∀ id d slot n, b.pool.find? id = some (slot, n) →
    ∃ m, (b.grow (.upsert id d)).pool.find? id = some (slot, m) ∧ m.id = n.id ∧
      m.choices = n.choices
  /-- The run that was handed out for a list of flags holds this list through all later growths. -/
  flags_last : ∀ ids s b', pushFlags ids b = .ok s b' →
    ∀ gs, (b'.growAll gs).pool.flags s = ids
  /-- A slot that was given to an id is its slot through all later growths. -/
  slots_last : ∀ id slot, b.pool.slotOf? id = some slot →
    ∀ gs, (b.growAll gs).pool.slotOf? id = some slot

/-- A node that is declared once more is patched in its slot.

**Proof sketch.** A declaration fails only for a new id, and this one has a slot. It keeps that
slot, because the pool that it leaves extends the one before, and the node there is the patched one,
by `nodeOf_upsert`. -/
theorem find?_grow_upsert (hb : b.pool.WellFormed) {id : NodeId} (d : Draft) {slot : Nat} {n : Node}
    (hn : b.pool.find? id = some (slot, n)) :
    (b.grow (.upsert id d)).pool.find? id = some (slot, n.apply d) := by
  obtain ⟨hslot, hnode⟩ := Pool.find?_eq_some_iff_slotOf?.1 hn
  obtain ⟨o, hfull, -⟩ | ⟨hok, -⟩ := grow_cases b (.upsert id d)
  · obtain ⟨hnone, -⟩ := Pool.upsert_eq_error_iff.1 (Pool.map_snd_eq_error.1 hfull)
    rw [hslot] at hnone
    cases hnone
  · obtain ⟨r, hr⟩ := Pool.map_snd_eq_ok.1 hok
    have hwf := hb.upsert hr
    have hlater := ((lasting_extends b.pool).upsert ⟨hb, .refl _⟩ hr).2.slotOf? hb hwf hslot
    obtain ⟨slot', hfind⟩ := hwf.find?_of_mem_ids
      (List.mem_iff_getElem?.2 ⟨slot, hwf.slotOf?_eq_some_iff_ids.1 hlater⟩)
    rw [hfind, Pool.nodeOf_upsert hb hr, if_pos rfl, Pool.nodeOf_of_find? hn]
    have hsame := (Pool.find?_eq_some_iff_slotOf?.1 hfind).1
    rw [hlater, Option.some.injEq] at hsame
    rw [hsame]

/-- The run that was handed out for a list of flags holds this list through all later growths.

**Proof sketch.** The run holds the list when it is handed out, by `flags_pushFlags_new`. Later
growths extend the pool, by `extends_growAll`, and a run inside a pool holds the same in every pool
that extends it. -/
theorem flags_growAll (hb : b.pool.WellFormed) {ids : List FlagId} {s : Span} {b' : Build}
    (h : pushFlags ids b = .ok s b') (gs : List Growth) : (b'.growAll gs).pool.flags s = ids := by
  obtain ⟨q, hq, rfl⟩ := grow_eq_ok.1 h
  obtain ⟨hflags, hstop⟩ := Pool.flags_pushFlags_new hb hq
  have hwf : ({ b with pool := q } : Build).pool.WellFormed := hb.pushFlags hq
  obtain ⟨-, hext⟩ := extends_growAll hwf gs
  rw [hext.flags hstop]
  exact hflags

/-- A build with a well-formed pool appends.

**Proof sketch.** Each field is one lemma. When a growth fails is `overflow?_eq_some_iff`; that it
is undone and what it spares are the cases of `grow_cases`; and what lasts over later growths
follows from `extends_growAll`, as a run or a slot of a pool is one of every pool that extends it.
-/
theorem appends_of_wellFormed (hb : b.pool.WellFormed) : b.Appends where
  fails_iff g o := overflow?_eq_some_iff hb
  fits := by
    constructor
    · intro id d hid
      refine Option.eq_none_iff_forall_ne_some.2 fun o ho => ?_
      obtain ⟨⟨hnot, -⟩, -⟩ := (overflow?_eq_some_iff hb).1 ho
      rw [hid] at hnot
      cases hnot
    · refine Option.eq_none_iff_forall_ne_some.2 fun o ho => ?_
      obtain ⟨⟨hsome, -⟩, -⟩ := (overflow?_eq_some_iff hb).1 ho
      exact hsome rfl
  undone g o ho := by
    obtain ⟨-, -, -, hpool⟩ | ⟨-, hnone⟩ := grow_cases b g
    · exact hpool
    · rw [hnone] at ho
      cases ho
  keeps g _ := (extends_growAll hb [g]).2
  spares g hg slot n hn hnot := by
    obtain ⟨o, -, hsome, -⟩ | ⟨hok, -⟩ := grow_cases b g
    · rw [hsome] at hg
      cases hg
    · exact Pool.node?_grow hok hb hn hnot
  patches id d slot n hn := ⟨n.apply d, find?_grow_upsert hb d hn, rfl, rfl⟩
  flags_last ids s b' h gs := flags_growAll hb h gs
  slots_last id slot hslot gs := by
    obtain ⟨hwf, hext⟩ := extends_growAll hb gs
    exact hext.slotOf? hb hwf hslot

/-- **Whatever was done to a build, its pool grows all or nothing, and at its ends.** Declarations,
placeholders, flags and choices fail just when they need room that there is not, and change nothing
then; else they leave every slot its id, the choices and the flags where they are, and the other
nodes as they are. So runs of flags and slots that were handed out are good until the pool is
emptied.

**Proof sketch.** The pool is well formed, which says of each part when it is full. That a pool
extends an earlier one is left true by every way to grow, so it outlives any row of growths; and a
run inside the flags that come first holds the same in both. -/
theorem appends_edited (limits : Limits) (es : List Edit) : (edited limits es).Appends :=
  appends_of_wellFormed (made_edited limits es).wellFormed

end Build

end StoryGraph
