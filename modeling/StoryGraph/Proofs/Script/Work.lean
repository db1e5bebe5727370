import StoryGraph.Proofs.Graph.Growth
import StoryGraph.Script.Compile

set_option relaxedAutoImplicit false
set_option autoImplicit false

/-!
# The work of compiling

The steps of the work on a build, taken apart: which growth of the pool each of them stands for, and
what every one of them leaves true of the build, whether it succeeds or fails.

## Main definitions

* `Building.buildAfter` — the build that a step leaves behind, after a fault as well.
* `Building.Keeps` — a step leaves a property of the build true.
* `Build.Lasting` — a property that every growth of the pool leaves true.

## Main results

* `Entry.enact_node_eq_ok`, `Entry.enact_choice_eq_ok` — the growth that an entry stands for.
* `Entry.enact_node_eq_error`, `Entry.enact_choice_eq_error` — which growth fails when an entry
  does.
* `Script.rebuild_eq_ok` — a script that compiles enacts all its entries on the emptied pool.
* `Script.rebuild_of_keeps` — whatever a script comes to, it leaves true what every entry does.
* `Script.rebuild_of_lasting` — whatever a script comes to, it leaves a lasting property true.
* `Script.made_rebuild` — whatever a script comes to, it leaves a pool that can be.
* `Script.compile_of_entries` — what a script compiles to is what becomes of its entries.
-/

namespace StoryGraph

namespace Building

variable {ε α β : Type}

/-! ## Steps that succeed -/

/-- Two steps succeed when the first does and the second goes on from there. -/
theorem bind_eq_ok {x : Building ε α} {f : α → Building ε β} {b b' : Build} {c : β} :
    (x >>= f) b = .ok c b' ↔ ∃ a b₁, x b = .ok a b₁ ∧ f a b₁ = .ok c b' := by
  change EStateM.bind x f b = _ ↔ _
  unfold EStateM.bind
  cases hx : x b with
  | ok a b₁ =>
    simp only [EStateM.Result.ok.injEq]
    constructor
    · exact fun h => ⟨a, b₁, ⟨rfl, rfl⟩, h⟩
    · rintro ⟨_, _, ⟨rfl, rfl⟩, h⟩
      exact h
  | error e b₁ => simp

/-- After a step that succeeded, the next one goes on. -/
theorem bind_of_ok {x : Building ε α} {f : α → Building ε β} {b b₁ : Build} {a : α}
    (h : x b = .ok a b₁) : (x >>= f) b = f a b₁ := by
  change EStateM.bind x f b = _
  rw [EStateM.bind, h]

/-- Growth succeeds when the pool can grow so. -/
theorem grow_eq_ok {f : Pool → Except Overflow (α × Pool)} {b b' : Build} {a : α} :
    grow f b = .ok a b' ↔ ∃ pool, f b.pool = .ok (a, pool) ∧ b' = { b with pool } := by
  unfold grow
  cases hf : f b.pool with
  | ok grown =>
    simp only [EStateM.Result.ok.injEq, Except.ok.injEq]
    constructor
    · rintro ⟨rfl, rfl⟩
      exact ⟨grown.2, rfl, rfl⟩
    · rintro ⟨pool, rfl, rfl⟩
      exact ⟨rfl, rfl⟩
  | error o => simp

/-- Asking for a node succeeds when the pool can have it. -/
theorem ensure_eq_ok {id : NodeId} {b b' : Build} {slot : Nat} (h : ensure id b = .ok slot b') :
    b.pool.ensure id = .ok (slot, b'.pool) := by
  unfold ensure at h
  split at h <;> (obtain ⟨pool, hpool, rfl⟩ := grow_eq_ok.1 h; exact hpool)

/-- Attaching a choice succeeds when the pool can take it. -/
theorem attach_eq_ok {slot : Nat} {c : Choice} {b b' : Build} (h : attach slot c b = .ok () b') :
    b.pool.attach slot c = .ok b'.pool := by
  unfold attach at h
  split at h
  case h_1 pool hpool =>
    simp only [EStateM.Result.ok.injEq, true_and] at h
    rw [hpool, ← h]
  case h_2 => cases h

/-- Work on behalf of a line succeeds when the work does. -/
theorem onLine_eq_ok {line : Nat} {w : Building Overflow α} {b b' : Build} {a : α} :
    onLine line w b = .ok a b' ↔ w b = .ok a b' := by
  unfold onLine EStateM.adaptExcept
  cases w b <;> simp

/-! ## Steps that fail -/

/-- Two steps fail when the first does, or when the second fails to go on from there.

**Proof sketch.** By how the first step ends, as the second is only made when it succeeds. -/
theorem bind_eq_error {x : Building ε α} {f : α → Building ε β} {b b' : Build} {e : ε} :
    (x >>= f) b = .error e b' ↔
      x b = .error e b' ∨ ∃ a b₁, x b = .ok a b₁ ∧ f a b₁ = .error e b' := by
  change EStateM.bind x f b = _ ↔ _
  unfold EStateM.bind
  cases hx : x b with
  | ok a b₁ =>
    simp only [EStateM.Result.ok.injEq, reduceCtorEq, false_or]
    constructor
    · exact fun h => ⟨a, b₁, ⟨rfl, rfl⟩, h⟩
    · rintro ⟨_, _, ⟨rfl, rfl⟩, h⟩
      exact h
  | error e' b₁ => simp

/-- Growth fails when the pool cannot grow so. -/
theorem grow_eq_error {f : Pool → Except Overflow (α × Pool)} {b b' : Build} {o : Overflow}
    (h : grow f b = .error o b') : f b.pool = .error o := by
  unfold grow at h
  cases hf : f b.pool with
  | ok grown => simp [hf] at h
  | error o' =>
    simp only [hf, EStateM.Result.error.injEq] at h
    rw [h.1]

/-- Asking for a node fails when the pool cannot have it. -/
theorem ensure_eq_error {id : NodeId} {b b' : Build} {o : Overflow}
    (h : ensure id b = .error o b') : b.pool.ensure id = .error o := by
  unfold ensure at h
  split at h <;> exact grow_eq_error h

/-- Attaching a choice fails when the pool cannot take it. -/
theorem attach_eq_error {slot : Nat} {c : Choice} {b b' : Build} {o : Overflow}
    (h : attach slot c b = .error o b') : b.pool.attach slot c = .error o := by
  unfold attach at h
  split at h
  case h_1 => cases h
  case h_2 o' ho =>
    simp only [EStateM.Result.error.injEq] at h
    rw [ho, h.1]

/-- Work on behalf of a line fails when the work does, and the fault is that of the line. -/
theorem onLine_eq_error {line : Nat} {w : Building Overflow α} {b b' : Build} {e : Fault} :
    onLine line w b = .error e b' ↔ ∃ o, e = .full line o ∧ w b = .error o b' := by
  unfold onLine EStateM.adaptExcept
  cases w b with
  | ok a b₁ => simp
  | error o b₁ =>
    simp only [EStateM.Result.error.injEq]
    constructor
    · rintro ⟨rfl, rfl⟩
      exact ⟨o, rfl, rfl, rfl⟩
    · rintro ⟨_, rfl, rfl, rfl⟩
      exact ⟨rfl, rfl⟩

/-! ## What steps leave true -/

/-- The build that a step leaves behind, after a fault as well. -/
def buildAfter (w : Building ε α) (b : Build) : Build :=
  match w b with
  | .ok _ b' => b'
  | .error _ b' => b'

/-- After a step that succeeded, the build is what the next step leaves of it. -/
theorem buildAfter_bind {x : Building ε α} {f : α → Building ε β} {b b₁ : Build} {a : α}
    (h : x b = .ok a b₁) : buildAfter (x >>= f) b = buildAfter (f a) b₁ := by
  rw [buildAfter, buildAfter, bind_of_ok h]

/-- A step leaves a property of the build true, whether it succeeds or fails. -/
def Keeps (P : Build → Prop) (w : Building ε α) : Prop := ∀ b, P b → P (buildAfter w b)

variable {P : Build → Prop}

/-- A step that does nothing leaves everything true. -/
theorem keeps_pure (a : α) : Keeps P (pure a : Building ε α) := fun _ hb => hb

/-- A fault leaves everything true. -/
theorem keeps_throw (e : ε) : Keeps P (throw e : Building ε α) := fun _ hb => hb

/-- What is true after the first of two steps, should it fail, and after the second is true after
the two together. -/
theorem of_bind {x : Building ε α} {f : α → Building ε β} {b : Build} (hx : P (buildAfter x b))
    (hf : ∀ a b₁, x b = .ok a b₁ → P (buildAfter (f a) b₁)) : P (buildAfter (x >>= f) b) := by
  cases hxb : x b with
  | ok a b₁ =>
    rw [buildAfter_bind hxb]
    exact hf a b₁ hxb
  | error e b₁ =>
    have hbind : (x >>= f) b = .error e b₁ := bind_eq_error.2 (.inl hxb)
    simp only [buildAfter, hxb] at hx
    simp only [buildAfter, hbind]
    exact hx

/-- What two steps leave true, the two together leave true. -/
theorem Keeps.bind {x : Building ε α} {f : α → Building ε β} (hx : Keeps P x)
    (hf : ∀ a, Keeps P (f a)) : Keeps P (x >>= f) := by
  intro b hb
  have h := hx b hb
  refine of_bind h fun a b₁ hxb => hf a b₁ ?_
  simpa only [buildAfter, hxb] using h

/-- Work on behalf of a line leaves the build that the work leaves. -/
theorem buildAfter_onLine (line : Nat) (w : Building Overflow α) (b : Build) :
    buildAfter (Building.onLine line w) b = buildAfter w b := by
  unfold Building.onLine EStateM.adaptExcept buildAfter
  cases hwb : w b <;> simp [hwb]

/-- What work leaves true, it leaves true on behalf of a line. -/
theorem Keeps.onLine {w : Building Overflow α} (hw : Keeps P w) (line : Nat) :
    Keeps P (Building.onLine line w) := by
  intro b hb
  rw [buildAfter_onLine]
  exact hw b hb

/-- What is true of a build, and of the same build once its pool has grown, is true after the
growth. -/
theorem of_grow {f : Pool → Except Overflow (α × Pool)} {b : Build} (hb : P b)
    (hf : ∀ a q, f b.pool = .ok (a, q) → P { b with pool := q }) : P (buildAfter (grow f) b) := by
  unfold buildAfter grow
  cases hfb : f b.pool with
  | ok aq => exact hf aq.1 aq.2 hfb
  | error o => exact hb

/-- Growth leaves true what every such growth of a pool leaves true. -/
theorem keeps_grow {f : Pool → Except Overflow (α × Pool)}
    (hf : ∀ {b : Build} {q : Pool} {a : α}, P b → f b.pool = .ok (a, q) → P { b with pool := q }) :
    Keeps P (grow f) := fun _ hb => of_grow hb fun _ _ hq => hf hb hq

end Building

/-! ## Lasting properties -/

/-- A notice tells of a run of choices that breaks. -/
def Notice.isBrokenRun : Notice → Bool
  | brokenRun .. => true
  | _ => false

/-- The property `P` of builds is left true by every way in which a pool grows, and by every notice;
that of a broken run goes with the choice that breaks it. -/
structure Build.Lasting (P : Build → Prop) : Prop where
  note : ∀ {b : Build} {n : Notice}, P b → n.isBrokenRun = false →
    P { b with journal := b.journal.push n }
  upsert : ∀ {b : Build} {q : Pool} {id : NodeId} {d : Draft} {r : Pool.Declared}, P b →
    b.pool.upsert id d = .ok (r, q) → P { b with pool := q }
  ensure : ∀ {b : Build} {q : Pool} {id : NodeId} {slot : Nat}, P b →
    b.pool.ensure id = .ok (slot, q) → P { b with pool := q }
  pushFlags : ∀ {b : Build} {q : Pool} {ids : List FlagId} {s : Span}, P b →
    b.pool.pushFlags ids = .ok (s, q) → P { b with pool := q }
  attach : ∀ {b : Build} {q : Pool} {slot : Nat} {c : Choice}, P b →
    b.pool.attach slot c = .ok q →
    P { pool := q, journal := b.journal ++ (b.pool.brokenRun? slot).toArray }

namespace Build.Lasting

open Building

variable {P : Build → Prop}

/-- Work keeps what lasts when it notes something other than a broken run. -/
theorem keeps_note {ε : Type} (hP : Lasting P) {n : Notice} (hn : n.isBrokenRun = false) :
    Keeps P (Building.note n : Building ε Unit) := fun _ hb => hP.note hb hn

/-- Declaring a node keeps what lasts. -/
theorem keeps_upsert (hP : Lasting P) (id : NodeId) (d : Draft) :
    Keeps P (Building.upsert id d) := keeps_grow hP.upsert

/-- Asking for a node leaves a lasting property true; the notice of a placeholder stays even if
there is no room for it.

**Proof sketch.** By whether the pool has the node. If not, the notice of a placeholder comes first,
and that is no broken run; then it is a growth like the others. -/
theorem keeps_ensure (hP : Lasting P) (id : NodeId) : Keeps P (Building.ensure id) := by
  have hgrow : Keeps P (grow (·.ensure id)) := keeps_grow hP.ensure
  intro b hb
  by_cases hc : b.pool.contains id
  · have heq : Building.ensure id b = grow (·.ensure id) b := if_pos hc
    rw [buildAfter, heq]
    exact hgrow b hb
  · have heq : Building.ensure id b =
        grow (·.ensure id) { b with journal := b.journal.push (.placeholder id) } := if_neg hc
    rw [buildAfter, heq]
    exact hgrow _ (hP.note hb rfl)

/-- Appending flags keeps what lasts. -/
theorem keeps_pushFlags (hP : Lasting P) (ids : List FlagId) :
    Keeps P (Building.pushFlags ids) := keeps_grow hP.pushFlags

/-- Attaching a choice keeps what lasts, whether or not there is room for it. -/
theorem keeps_attach (hP : Lasting P) (slot : Nat) (c : Choice) :
    Keeps P (Building.attach slot c) := by
  intro b hb
  unfold buildAfter Building.attach
  cases hattach : b.pool.attach slot c with
  | ok q => exact hP.attach hb hattach
  | error o => exact hb

end Build.Lasting

/-! ## The work of an entry -/

namespace Entry

open Building

/-- A declaration that succeeds has put its flag lists into the pool, and then the node.

**Proof sketch.** The work is three growths and a notice, one after the other. Each has succeeded,
and the notice, if there is one, leaves the pool as it is. -/
theorem enact_node_eq_ok {line : Nat} {id : NodeId} {said : Declaration} {b b' : Build}
    (h : (Entry.node id said).enact line b = .ok () b') :
    ∃ effects p₁ requires p₂ declared,
      b.pool.pushFlags said.effects = .ok (effects, p₁) ∧
      p₁.pushFlags said.requires = .ok (requires, p₂) ∧
      p₂.upsert id (said.draft effects requires) = .ok (declared, b'.pool) := by
  obtain ⟨effects, b₁, h₁, h⟩ := bind_eq_ok.1 (onLine_eq_ok.1 h)
  obtain ⟨requires, b₂, h₂, h⟩ := bind_eq_ok.1 h
  obtain ⟨declared, b₃, h₃, h⟩ := bind_eq_ok.1 h
  obtain ⟨p₁, hp₁, rfl⟩ := grow_eq_ok.1 h₁
  obtain ⟨p₂, hp₂, rfl⟩ := grow_eq_ok.1 h₂
  obtain ⟨p₃, hp₃, rfl⟩ := grow_eq_ok.1 h₃
  have hpool : b'.pool = p₃ := by
    cases hins : declared.inserted <;>
      · simp only [hins, Bool.false_eq_true, if_true, if_false, note, pure, EStateM.pure,
          EStateM.Result.ok.injEq, true_and] at h
        rw [← h]
  exact ⟨effects, p₁, requires, p₂, declared, hp₁, hp₂, by rw [hpool]; exact hp₃⟩

/-- A choice that succeeds has asked for its node, put its flags into the pool, and then itself.

**Proof sketch.** The work is three growths, one after the other, and each has succeeded. -/
theorem enact_choice_eq_ok {line : Nat} {parent : NodeId} {label : String} {goto : Option NodeId}
    {flags : List FlagId} {b b' : Build}
    (h : (Entry.choice parent label goto flags).enact line b = .ok () b') :
    ∃ slot p₁ effects p₂,
      b.pool.ensure parent = .ok (slot, p₁) ∧
      p₁.pushFlags flags = .ok (effects, p₂) ∧
      p₂.attach slot { label, goto, effects } = .ok b'.pool := by
  obtain ⟨slot, b₁, h₁, h⟩ := bind_eq_ok.1 (onLine_eq_ok.1 h)
  obtain ⟨effects, b₂, h₂, h⟩ := bind_eq_ok.1 h
  obtain ⟨p₂, hp₂, rfl⟩ := grow_eq_ok.1 h₂
  exact ⟨slot, b₁.pool, effects, p₂, ensure_eq_ok h₁, hp₂, attach_eq_ok h⟩

/-- A choice without a label changes no pool. -/
theorem enact_unlabelled_eq_ok {line : Nat} {b b' : Build}
    (h : Entry.unlabelled.enact line b = .ok () b') : b'.pool = b.pool := by
  simp only [enact, note, EStateM.Result.ok.injEq, true_and] at h
  rw [← h]

/-- A declaration that fails has found no room for one of its flag lists, or for its node behind
them.

**Proof sketch.** The work is three growths and a notice, one after the other, and the first that
fails is where it ends. The notice cannot fail. -/
theorem enact_node_eq_error {line : Nat} {id : NodeId} {said : Declaration} {b b' : Build}
    {e : Fault} (h : (Entry.node id said).enact line b = .error e b') :
    ∃ o, e = .full line o ∧
      (b.pool.pushFlags said.effects = .error o ∨
      ∃ effects p₁, b.pool.pushFlags said.effects = .ok (effects, p₁) ∧
        (p₁.pushFlags said.requires = .error o ∨
        ∃ requires p₂, p₁.pushFlags said.requires = .ok (requires, p₂) ∧
          p₂.upsert id (said.draft effects requires) = .error o)) := by
  obtain ⟨o, ho, h⟩ := onLine_eq_error.1 h
  refine ⟨o, ho, ?_⟩
  rcases bind_eq_error.1 h with h₁ | ⟨effects, b₁, h₁, h⟩
  · exact .inl (grow_eq_error h₁)
  obtain ⟨p₁, hp₁, rfl⟩ := grow_eq_ok.1 h₁
  refine .inr ⟨effects, p₁, hp₁, ?_⟩
  rcases bind_eq_error.1 h with h₂ | ⟨requires, b₂, h₂, h⟩
  · exact .inl (grow_eq_error h₂)
  obtain ⟨p₂, hp₂, rfl⟩ := grow_eq_ok.1 h₂
  refine .inr ⟨requires, p₂, hp₂, ?_⟩
  rcases bind_eq_error.1 h with h₃ | ⟨declared, b₃, -, h⟩
  · exact grow_eq_error h₃
  · -- what follows the declaration is a notice, and that cannot fail
    cases hins : declared.inserted <;> simp [hins, note, pure, EStateM.pure] at h

/-- A choice that fails has found no room for its node, or for its flags behind that, or for itself
behind both.

**Proof sketch.** The work is three growths, one after the other, and the first that fails is where
it ends. -/
theorem enact_choice_eq_error {line : Nat} {parent : NodeId} {label : String}
    {goto : Option NodeId} {flags : List FlagId} {b b' : Build} {e : Fault}
    (h : (Entry.choice parent label goto flags).enact line b = .error e b') :
    ∃ o, e = .full line o ∧
      (b.pool.ensure parent = .error o ∨
      ∃ slot p₁, b.pool.ensure parent = .ok (slot, p₁) ∧
        (p₁.pushFlags flags = .error o ∨
        ∃ effects p₂, p₁.pushFlags flags = .ok (effects, p₂) ∧
          p₂.attach slot { label, goto, effects } = .error o)) := by
  obtain ⟨o, ho, h⟩ := onLine_eq_error.1 h
  refine ⟨o, ho, ?_⟩
  rcases bind_eq_error.1 h with h₁ | ⟨slot, b₁, h₁, h⟩
  · exact .inl (ensure_eq_error h₁)
  refine .inr ⟨slot, b₁.pool, ensure_eq_ok h₁, ?_⟩
  rcases bind_eq_error.1 h with h₂ | ⟨effects, b₂, h₂, h⟩
  · exact .inl (grow_eq_error h₂)
  obtain ⟨p₂, hp₂, rfl⟩ := grow_eq_ok.1 h₂
  exact .inr ⟨effects, p₂, hp₂, attach_eq_error h⟩

/-- Whatever an entry comes to, it leaves a lasting property true.

**Proof sketch.** By the entry. Its work is a sequence of growths and notices, each of which keeps
what lasts, and `Keeps.bind` joins them. -/
theorem keeps_enact {P : Build → Prop} (hP : Build.Lasting P) (line : Nat) (e : Entry) :
    Keeps P (e.enact line) := by
  cases e with
  | node id said =>
    refine Keeps.onLine (Keeps.bind (hP.keeps_pushFlags _) fun effects => ?_) line
    refine Keeps.bind (hP.keeps_pushFlags _) fun requires => ?_
    refine Keeps.bind (hP.keeps_upsert _ _) fun declared => ?_
    split
    · exact keeps_pure _
    · exact hP.keeps_note rfl
  | choice parent label goto flags =>
    refine Keeps.onLine (Keeps.bind (hP.keeps_ensure _) fun slot => ?_) line
    exact Keeps.bind (hP.keeps_pushFlags _) fun effects => hP.keeps_attach _ _
  | unlabelled => exact hP.keeps_note rfl
  | unaddressed cell => exact keeps_throw _

end Entry

/-! ## The work of a script -/

namespace Script

open Building

/-- Whatever entries come to, they leave true what each of them does. -/
theorem keeps_enactAll {P : Build → Prop} (hP : ∀ line (e : Entry), Keeps P (e.enact line))
    (entries : List (Nat × Entry)) : Keeps P (enactAll entries) := by
  induction entries with
  | nil => exact keeps_pure _
  | cons entry entries ih => exact Keeps.bind (hP _ _) fun _ => ih

/-- After entries that could be enacted, the later ones go on from there.

**Proof sketch.** Induction on the first entries, from the front. -/
theorem enactAll_append_of_ok {entries later : List (Nat × Entry)} {b b' : Build}
    (h : enactAll entries b = .ok () b') : enactAll (entries ++ later) b = enactAll later b' := by
  induction entries generalizing b with
  | nil =>
    cases h
    rfl
  | cons entry entries ih =>
    obtain ⟨u, b₁, hentry, hentries⟩ := bind_eq_ok.1 h
    rw [← ih hentries]
    exact bind_of_ok hentry

/-- What a script leaves is what its work leaves. -/
theorem rebuild_snd (text : String) (b : Build) :
    (rebuild text b).2 = buildAfter (build text) b := by
  unfold rebuild EStateM.run buildAfter
  cases build text b <;> rfl

/-- Whatever a script comes to, it leaves true what holds once the pool is emptied and what every
entry and the last notice leave true.

**Proof sketch.** The work empties the pool, and from there on it is a sequence of entries and one
notice, or it fails at once for want of a header. -/
theorem rebuild_of_keeps {P : Build → Prop} (hP : ∀ line (e : Entry), Keeps P (e.enact line))
    (hnote : ∀ n : Notice, n.isBrokenRun = false → Keeps P (note n : Building Fault Unit))
    (text : String) {b : Build} (hb : P { b with pool := b.pool.reset }) :
    P (rebuild text b).2 := by
  rw [rebuild_snd, build, buildAfter_bind (x := reset) rfl]
  refine (?_ : Keeps P _) _ hb
  cases entries? text with
  | none => exact keeps_throw _
  | some entries =>
    refine Keeps.bind (keeps_enactAll hP entries) fun _ => ?_
    exact Keeps.bind (fun b hb => hb) fun _ => hnote _ rfl

/-- Whatever a script comes to, it leaves a lasting property true that holds once the pool is
emptied. -/
theorem rebuild_of_lasting {P : Build → Prop} (hP : Build.Lasting P) (text : String) {b : Build}
    (hb : P { b with pool := b.pool.reset }) : P (rebuild text b).2 :=
  rebuild_of_keeps (Entry.keeps_enact hP) (fun _ => hP.keeps_note) text hb

/-- That a pool can be is a lasting property. -/
theorem lasting_made : Build.Lasting (·.pool.Made) :=
  ⟨fun hb _ => hb, .upsert, .ensure, .pushFlags, .attach⟩

/-- No growth changes the limits of a pool. -/
theorem lasting_limits (limits : Limits) : Build.Lasting (·.pool.limits = limits) where
  note hb _ := hb
  upsert hb h := (Pool.limits_upsert h).trans hb
  ensure hb h := (Pool.limits_ensure h).trans hb
  pushFlags hb h := (Pool.limits_pushFlags h).trans hb
  attach hb h := (Pool.limits_attach h).trans hb

/-- Whatever a script comes to, it leaves a pool that can be. -/
theorem made_rebuild (text : String) {b : Build} (hb : b.pool.Made) :
    (rebuild text b).2.pool.Made := rebuild_of_lasting lasting_made text hb.reset

/-- A script that compiles has a header, and enacts all its entries on the emptied pool.

**Proof sketch.** The work of a script empties the pool, enacts the entries, and notes what came of
it. It was done to the end, so there were entries, they were enacted, and the notice left the pool
as it was. -/
theorem rebuild_eq_ok {text : String} {b : Build} (h : (rebuild text b).1 = .ok ()) :
    ∃ entries b₁, entries? text = some entries ∧
      enactAll entries { b with pool := b.pool.reset } = .ok () b₁ ∧
      (rebuild text b).2.pool = b₁.pool := by
  unfold rebuild EStateM.run at *
  cases hw : build text b with
  | error e b' => simp [hw] at h
  | ok u b' =>
    obtain ⟨_, b₀, h₀, h₁⟩ := bind_eq_ok.1 hw
    simp only [reset, EStateM.Result.ok.injEq, true_and] at h₀
    subst h₀
    cases he : entries? text with
    | none =>
      simp only [he] at h₁
      cases h₁
    | some entries =>
      simp only [he] at h₁
      obtain ⟨_, b₁, henact, h₂⟩ := bind_eq_ok.1 h₁
      obtain ⟨now, b₂, hget, hnote⟩ := bind_eq_ok.1 h₂
      refine ⟨entries, b₁, rfl, henact, ?_⟩
      cases hget
      simp only [note, EStateM.Result.ok.injEq, true_and] at hnote
      rw [← hnote]

/-- A result that is no fault is the result of a script that compiles. -/
theorem eq_ok_of_isOk {result : Except Fault Unit} (h : result.isOk = true) : result = .ok () := by
  cases result with
  | ok _ => rfl
  | error _ => cases h

/-- A script compiles when the work on an empty pool succeeds. -/
theorem exists_compile_eq_ok {limits : Limits} {text : String}
    (h : (rebuild text { pool := .empty limits }).1 = .ok ()) :
    ∃ p, (compile limits text).1 = .ok p := by
  unfold compile
  split
  case h_1 b hb => exact ⟨b.pool, rfl⟩
  case h_2 e b hb => simp [hb] at h

/-- The pool of a script that compiles is the one that the work on an empty pool leaves. -/
theorem compile_eq_ok {limits : Limits} {text : String} {p : Pool}
    (h : (compile limits text).1 = .ok p) :
    (rebuild text { pool := .empty limits }).1 = .ok () ∧
      (rebuild text { pool := .empty limits }).2.pool = p := by
  unfold compile at h
  split at h
  case h_1 b hb =>
    simp only [Except.ok.injEq] at h
    rw [hb]
    exact ⟨rfl, h⟩
  case h_2 e b hb => cases h

/-- An empty text is no script. -/
theorem compile_empty (limits : Limits) : (compile limits "").1 = .error .empty := rfl

/-- What a script compiles to is what becomes of its entries on an empty pool.

**Proof sketch.** A compilation is that work on a build with an empty pool, which emptying does not
change. Either the entries are enacted, and a notice follows, or their fault is the fault of the
work. -/
theorem compile_of_entries {text : String} {entries : List (Nat × Entry)} (limits : Limits)
    (h : entries? text = some entries) :
    (compile limits text).1 =
      match enactAll entries { pool := .empty limits } with
      | .ok _ b => .ok b.pool
      | .error e _ => .error e := by
  cases henact : enactAll entries { pool := .empty limits } with
  | ok u b =>
    have hbuild : build text { pool := .empty limits } = .ok () { b with
        journal := b.journal.push
          (.compiled b.pool.nodes.size b.pool.choices.size b.pool.flagRefs.size) } := by
      refine bind_eq_ok.2 ⟨(), _, rfl, ?_⟩
      simp only [h]
      exact bind_eq_ok.2 ⟨(), b, henact, rfl⟩
    simp [compile, rebuild, EStateM.run, hbuild]
  | error e b =>
    have hbuild : build text { pool := .empty limits } = .error e b := by
      refine bind_eq_error.2 (.inr ⟨(), _, rfl, ?_⟩)
      simp only [h]
      exact bind_eq_error.2 (.inl henact)
    simp [compile, rebuild, EStateM.run, hbuild]

end Script

end StoryGraph
