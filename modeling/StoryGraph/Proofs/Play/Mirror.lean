import Mathlib.Data.List.Forall2
import StoryGraph.Proofs.Play.Reached

set_option relaxedAutoImplicit false
set_option autoImplicit false

/-!
# Plays that mirror each other

Two stories may differ in where they keep their nodes, choices and flags, and still play alike. A
likeness says which nodes and choices of the one stand for which of the other, and which flags
matter to both. Plays that stand at nodes that correspond, and agree on these flags, mirror each
other: whatever is asked of both, they answer the same, show what corresponds, and mirror each other
again.

## Main definitions

* `Gate.Agrees` — two gates give the same answers for ever.
* `FlagSet.AgreeOn` — two flag sets agree on some flags.
* `Pool.Likeness` — which parts of two stories correspond, and `Pool.Agrees.likeness`, which parts
  of pools that hold the same.
* `Runner.Mirrors`, `Signal.Mirrors`, `Turn.Mirrors` — plays, signals and turns that correspond.
* `Runner.turns` — the turns that commands in a row come to.

## Main results

* `Runner.Mirrors.step`, `Runner.Mirrors.start`, `Runner.Mirrors.choose`, `Runner.Mirrors.jump` —
  moves of plays that mirror each other do so, too.
* `Runner.Mirrors.perform`, `Runner.Mirrors.turns` — so do the turns that commands come to.

## Implementation notes

A move looks at a node for its successor, its flags, and whether it has choices, and at the flags
set for whether a node may be entered. A likeness asks for just this. Slots are compared by a
relation of their own, as a play keeps the slot of its node and not the node.
-/

namespace StoryGraph

/-! ## Gates -/

namespace Gate

/-- The answer of a gate to the question at a place. -/
def answer (g : Gate) (place : Nat) : Bool := (g.upcoming[place]?).getD g.settled

/-- Two gates give the same answers for ever. -/
def Agrees (g k : Gate) : Prop := ∀ place, g.answer place = k.answer place

variable {g k : Gate}

/-- A gate gives its first answer. -/
theorem ask_fst (g : Gate) : g.ask.1 = g.answer 0 := by
  obtain ⟨_ | ⟨answer, later⟩, settled⟩ := g
  · rfl
  · rfl

/-- A gate that was asked gives the later answers. -/
theorem answer_ask (g : Gate) (place : Nat) : g.ask.2.answer place = g.answer (place + 1) := by
  obtain ⟨_ | ⟨answer, later⟩, settled⟩ := g
  · rfl
  · simp [ask, Gate.answer]

/-- A gate agrees with itself. -/
theorem Agrees.refl (g : Gate) : g.Agrees g := fun _ => rfl

/-- Gates that agree give the same answer now. -/
theorem Agrees.ask_fst (h : g.Agrees k) : g.ask.1 = k.ask.1 := by
  rw [Gate.ask_fst, Gate.ask_fst, h]

/-- Gates that agree still agree when both were asked. -/
theorem Agrees.ask_snd (h : g.Agrees k) : g.ask.2.Agrees k.ask.2 := fun place => by
  rw [answer_ask, answer_ask, h]

end Gate

/-! ## Flags -/

namespace FlagSet

/-- Two flag sets agree on the flags that satisfy `P`. -/
def AgreeOn (P : FlagId → Prop) (s t : FlagSet) : Prop := ∀ id, P id → s.has id = t.has id

variable {P : FlagId → Prop} {s t : FlagSet}

/-- A set of flags agrees with itself. -/
theorem AgreeOn.refl (P : FlagId → Prop) (s : FlagSet) : s.AgreeOn P s := fun _ _ => rfl

/-- Agreement of two sets of flags has no direction. -/
theorem AgreeOn.symm (h : s.AgreeOn P t) : t.AgreeOn P s := fun id hid => (h id hid).symm

/-- Flag sets that agree on some flags still do when the same flags are set in both. -/
theorem AgreeOn.setAll (h : s.AgreeOn P t) (ids : List FlagId) :
    (s.setAll ids).AgreeOn P (t.setAll ids) := fun id hid => by
  rw [has_setAll, has_setAll, h id hid]

/-- Other flags that are set in one of them do not matter. -/
theorem AgreeOn.setAll_left (h : s.AgreeOn P t) {ids : List FlagId} (hids : ∀ id ∈ ids, ¬ P id) :
    (s.setAll ids).AgreeOn P t := fun id hid => by
  rw [has_setAll, decide_eq_false fun hmem => hids id hmem.2 hid, Bool.or_false, h id hid]

/-- Flag sets that agree on some flags hold the same lists of these. -/
theorem AgreeOn.hasAll_eq (h : s.AgreeOn P t) {ids : List FlagId} (hids : ∀ id ∈ ids, P id) :
    s.hasAll ids = t.hasAll ids := by
  unfold FlagSet.hasAll
  rw [Bool.eq_iff_iff, List.all_eq_true, List.all_eq_true]
  exact forall₂_congr fun id hid => by rw [h id (hids id hid)]

end FlagSet

/-! ## Values that correspond -/

/-- A value corresponds to itself if it does when it is there. -/
theorem rel_self {α : Type} {R : α → α → Prop} {a? : Option α} (h : ∀ a, a? = some a → R a a) :
    Option.Rel R a? a? := by
  cases a? with
  | none => exact .none
  | some a => exact .some (h a rfl)

/-- Values that correspond in one way do so in another when this follows where they are there. -/
theorem rel_imp {α β : Type} {R S : α → β → Prop} {a? : Option α} {b? : Option β}
    (h : Option.Rel R a? b?) (hS : ∀ a b, a? = some a → b? = some b → R a b → S a b) :
    Option.Rel S a? b? := by
  cases h with
  | none => exact .none
  | some h => exact .some (hS _ _ rfl rfl h)

/-- Lists whose elements correspond have elements that correspond at each place.

**Proof sketch.** Induction on how the lists correspond. -/
theorem rel_getElem? {α β : Type} {R : α → β → Prop} {as : List α} {bs : List β}
    (h : List.Forall₂ R as bs) (place : Nat) : Option.Rel R as[place]? bs[place]? := by
  induction h generalizing place with
  | nil => exact .none
  | cons hab _ ih =>
    cases place with
    | zero => exact .some hab
    | succ place => exact ih place

/-! ## Stories that correspond -/

/-- A likeness of the story `q` to the story `p`: which of their slots, nodes and choices
correspond, and the flags that matter. -/
structure Pool.Likeness (p q : Pool) where
  slot : Nat → Nat → Prop
  node : Node → Node → Prop
  choice : Choice → Choice → Prop
  /-- The flags on which two plays have to agree. -/
  matters : FlagId → Prop
  node? : ∀ {i j}, slot i j → Option.Rel node (p.node? i) (q.node? j)
  find? : ∀ id, Option.Rel (fun found other => slot found.1 other.1 ∧ node found.2 other.2)
    (p.find? id) (q.find? id)
  id_eq : ∀ {n m}, node n m → n.id = m.id
  next_eq : ∀ {n m}, node n m → n.next = m.next
  hasChoices_eq : ∀ {n m}, node n m → n.hasChoices = m.hasChoices
  choicesOf : ∀ {n m}, node n m → List.Forall₂ choice (p.choicesOf n) (q.choicesOf m)
  effectsOf_eq : ∀ {n m}, node n m → p.effectsOf n = q.effectsOf m
  requiredBy_eq : ∀ {n m}, node n m → p.requiredBy n = q.requiredBy m
  matters_of_mem : ∀ {n m}, node n m → ∀ f ∈ p.requiredBy n, matters f
  goto_eq : ∀ {c d}, choice c d → c.goto = d.goto
  effectsOfChoice_eq : ∀ {c d}, choice c d → p.effectsOfChoice c = q.effectsOfChoice d

variable {p q : Pool} {l : p.Likeness q}

/-- Pools that hold the same are like each other, where those flags matter that `matters` admits:
all that their nodes require, and maybe more. -/
def Pool.Agrees.likeness (h : p.Agrees q) (matters : FlagId → Prop)
    (hmatters : ∀ n ∈ p.nodes, ∀ f ∈ p.requiredBy n, matters f) : p.Likeness q where
  slot := Eq
  node n m := n = m ∧ n ∈ p.nodes
  choice := Eq
  matters := matters
  node? := by
    rintro slot _ rfl
    rw [← h.node?]
    exact rel_self fun n hn => ⟨rfl, Array.mem_of_getElem? hn⟩
  find? id := by
    rw [← h.find?]
    exact rel_self fun found hfound =>
      ⟨rfl, rfl, Array.mem_of_getElem? (find?_eq_some_iff_slotOf?.1 hfound).2⟩
  id_eq hnode := by rw [hnode.1]
  next_eq hnode := by rw [hnode.1]
  hasChoices_eq hnode := by rw [hnode.1]
  choicesOf hnode := by
    rw [hnode.1, h.choicesOf]
    exact List.forall₂_same.2 fun _ _ => rfl
  effectsOf_eq hnode := by rw [hnode.1, h.effectsOf]
  requiredBy_eq hnode := by rw [hnode.1, h.requiredBy]
  matters_of_mem hnode := hmatters _ hnode.2
  goto_eq hchoice := by rw [hchoice]
  effectsOfChoice_eq hchoice := by rw [hchoice, h.effectsOfChoice]

/-- Two cursors stand at slots that correspond. -/
inductive Cursor.Mirrors (slot : Nat → Nat → Prop) : Cursor → Cursor → Prop
  | idle : Mirrors slot .idle .idle
  | active {i j : Nat} (h : slot i j) : Mirrors slot (.active i) (.active j)
  | awaitingChoice {i j : Nat} (h : slot i j) :
      Mirrors slot (.awaitingChoice i) (.awaitingChoice j)

/-- Two signals show what corresponds. Notices are the same but for the slots in them. -/
inductive Signal.Mirrors (l : p.Likeness q) : Signal → Signal → Prop
  | entered {n m : Node} {s t : FlagSet} (hnode : l.node n m) (hflags : s.AgreeOn l.matters t) :
      Mirrors l (.event (.entered n s)) (.event (.entered m t))
  | offered {cs ds : List Choice} (h : List.Forall₂ l.choice cs ds) :
      Mirrors l (.event (.offered cs)) (.event (.offered ds))
  | ended : Mirrors l (.event .ended) (.event .ended)
  | enteredAt (id : NodeId) {i j : Nat} (h : l.slot i j) :
      Mirrors l (.notice (.entered id i)) (.notice (.entered id j))
  | notice (n : Notice) : Mirrors l (.notice n) (.notice n)

/-- The play `s` of the story `q` mirrors the play `r` of the story `p`. -/
structure Runner.Mirrors (l : p.Likeness q) (r s : Runner) : Prop where
  left : r.pool = p
  right : s.pool = q
  gate : r.gate.Agrees s.gate
  flags : r.flags.AgreeOn l.matters s.flags
  pending : r.pending = s.pending
  capacity : r.capacity = s.capacity
  cursor : r.cursor.Mirrors l.slot s.cursor
  startNode : r.startNode = s.startNode

/-- Two turns have the same answer, show what corresponds, and leave plays that mirror each
other. -/
structure Turn.Mirrors (l : p.Likeness q) {α : Type} (t u : Turn α) : Prop where
  answer : t.answer = u.answer
  runner : t.runner.Mirrors l u.runner
  trace : List.Forall₂ (Signal.Mirrors l) t.trace u.trace

namespace Turn.Mirrors

variable {α β : Type} {t u : Turn α}

/-- Turns that mirror each other still do when both answers are changed in one way. -/
theorem map (h : t.Mirrors l u) (f : α → β) : (t.map f).Mirrors l (u.map f) :=
  ⟨congrArg f h.answer, h.runner, h.trace⟩

/-- Turns that mirror each other still do when the same signals, each its own mirror image, come
before both. -/
theorem after (h : t.Mirrors l u) {earlier : List Signal}
    (hearlier : List.Forall₂ (Signal.Mirrors l) earlier earlier) :
    (t.after earlier).Mirrors l (u.after earlier) :=
  ⟨h.answer, h.runner, List.rel_append hearlier h.trace⟩

end Turn.Mirrors

/-- A notice mirrors itself. -/
theorem Signal.Mirrors.single (n : Notice) :
    List.Forall₂ (Signal.Mirrors l) [.notice n] [.notice n] := .cons (.notice n) .nil

/-- Signals that mirror each other show events that correspond: whatever is read off them is the
same, if it is of each two events that do.

**Proof sketch.** Induction on the two traces. Signals that mirror each other are both events or
both notices, so they are kept or left out together. -/
theorem Signal.Mirrors.map_events {α : Type} {f g : Event → α}
    (hevent : ∀ e e', Signal.Mirrors l (.event e) (.event e') → f e = g e')
    {trace other : List Signal} (h : List.Forall₂ (Signal.Mirrors l) trace other) :
    (Signal.events trace).map f = (Signal.events other).map g := by
  induction h with
  | nil => rfl
  | cons hσ _ ih =>
    cases hσ with
    | entered hnode hflags => exact congrArg₂ List.cons (hevent _ _ (.entered hnode hflags)) ih
    | offered h => exact congrArg₂ List.cons (hevent _ _ (.offered h)) ih
    | ended => exact congrArg₂ List.cons (hevent _ _ .ended) ih
    | enteredAt => exact ih
    | notice => exact ih

namespace Runner.Mirrors

variable {r s : Runner} {n m : Node} {i j : Nat}

/-- Plays mirror each other still when the same nodes wait in both. -/
theorem withPending (h : r.Mirrors l s) (pending : List NodeId) :
    Mirrors l { r with pending } { s with pending } :=
  { h with pending := rfl }

/-- Plays mirror each other still when their flags agree as far as they matter. -/
theorem withFlags (h : r.Mirrors l s) {flags other : FlagSet}
    (hflags : flags.AgreeOn l.matters other) :
    Mirrors l { r with flags } { s with flags := other } :=
  { h with flags := hflags }

/-! ## Entries -/

/-- Plays that mirror each other enter nodes that correspond, and refuse the others for the same
reason.

**Proof sketch.** The id is looked up in both stories. Either it is missing in both, or the nodes
that are found correspond. Then they require the same flags, all of which matter, so both plays have
all of them set or neither has. -/
theorem admission (h : r.Mirrors l s) (id : NodeId) :
    (∃ refusal, r.admission id = .error refusal ∧ s.admission id = .error refusal) ∨
      ∃ i n j m, r.admission id = .ok (i, n) ∧ s.admission id = .ok (j, m) ∧
        l.slot i j ∧ l.node n m := by
  obtain rfl := h.left
  obtain rfl := h.right
  have hfind := l.find? id
  unfold Runner.admission
  generalize r.pool.find? id = found at hfind ⊢
  generalize s.pool.find? id = other at hfind ⊢
  cases hfind with
  | none => exact .inl ⟨.missing, rfl, rfl⟩
  | @some found other hmirrors =>
    obtain ⟨i, n⟩ := found
    obtain ⟨j, m⟩ := other
    obtain ⟨hslot, hnode⟩ := hmirrors
    have hall : r.flags.hasAll (r.pool.requiredBy n) = s.flags.hasAll (s.pool.requiredBy m) := by
      rw [← l.requiredBy_eq hnode, h.flags.hasAll_eq (l.matters_of_mem hnode)]
    simp only [hall]
    by_cases hset : s.flags.hasAll (s.pool.requiredBy m) = true
    · exact .inr ⟨i, n, j, m, if_pos hset, if_pos hset, hslot, hnode⟩
    · exact .inl ⟨.blocked, if_neg hset, if_neg hset⟩

/-- Arrivals at nodes that correspond mirror each other.

**Proof sketch.** Nodes that correspond set the same flags, so the sets agree on those that matter
after the arrival as well. -/
theorem arrive (h : r.Mirrors l s) (id : NodeId) (hslot : l.slot i j) (hnode : l.node n m) :
    (r.arrive id i n).Mirrors l (s.arrive id j m) := by
  have hflags : (r.flags.setAll (r.pool.effectsOf n)).AgreeOn l.matters
      (s.flags.setAll (s.pool.effectsOf m)) := by
    obtain rfl := h.left
    obtain rfl := h.right
    rw [l.effectsOf_eq hnode]
    exact h.flags.setAll _
  exact
    { answer := rfl
      runner := { h with flags := hflags, cursor := .active hslot }
      trace := .cons (.enteredAt id hslot) (.cons (.entered hnode hflags) .nil) }

/-- Plays that mirror each other stall alike. -/
theorem stall (h : r.Mirrors l s) : r.stall.Mirrors l s.stall :=
  ⟨rfl, { h with cursor := .idle }, Signal.Mirrors.single _⟩

/-- Plays that mirror each other search the stack alike.

**Proof sketch.** Induction on the stack. By `admission` the top is refused by both plays for the
same reason, or entered by both in slots that correspond. -/
theorem tryPending (h : r.Mirrors l s) (ids : List NodeId) :
    (r.tryPending ids).Mirrors l (s.tryPending ids) := by
  induction ids with
  | nil => exact (h.withPending []).stall
  | cons id below ih =>
    unfold Runner.tryPending
    obtain ⟨refusal, hr, hs⟩ | ⟨i, n, j, m, hr, hs, hslot, hnode⟩ := h.admission id
    · rw [hr, hs]
      exact ih.after (.cons (.notice _) (Signal.Mirrors.single _))
    · rw [hr, hs]
      exact ((h.withPending below).arrive id hslot hnode).after (Signal.Mirrors.single _)

/-! ## Moves -/

/-- Plays that mirror each other leave nodes that correspond alike.

**Proof sketch.** Nodes that correspond both have choices or both have none, and have the same
successor. So both plays offer, both go on to that successor, whose admission is settled alike by
`admission`, or both come to the end. -/
theorem leave (h : r.Mirrors l s) (hslot : l.slot i j) (hnode : l.node n m) :
    (r.leave i n).Mirrors l (s.leave j m) := by
  unfold Runner.leave
  rw [l.hasChoices_eq hnode, l.next_eq hnode, l.id_eq hnode]
  split
  · obtain rfl := h.left
    obtain rfl := h.right
    exact ⟨rfl, { h with cursor := .awaitingChoice hslot },
      .cons (.offered (l.choicesOf hnode)) .nil⟩
  · split
    case h_1 next _ =>
      obtain ⟨refusal, hr, hs⟩ | ⟨i, n, j, m, hr, hs, hslot, hnode⟩ := h.admission next
      · rw [hr, hs]
        exact h.stall.after (Signal.Mirrors.single _)
      · rw [hr, hs]
        exact h.arrive next hslot hnode
    case h_2 => exact ⟨rfl, { h with cursor := .idle }, .cons (.notice _) (.cons .ended .nil)⟩

/-- Plays that mirror each other stand at slots that correspond. -/
theorem slot? (h : r.Mirrors l s) : Option.Rel l.slot r.cursor.slot? s.cursor.slot? := by
  have hcursor := h.cursor
  generalize r.cursor = cursor at hcursor ⊢
  generalize s.cursor = other at hcursor ⊢
  cases hcursor with
  | idle => exact .none
  | active hslot => exact .some hslot
  | awaitingChoice hslot => exact .some hslot

/-- Plays that mirror each other have active nodes that correspond. -/
theorem current? (h : r.Mirrors l s) : Option.Rel l.node r.current? s.current? := by
  obtain rfl := h.left
  obtain rfl := h.right
  have hslot? := h.slot?
  unfold Runner.current?
  generalize r.cursor.slot? = found at hslot? ⊢
  generalize s.cursor.slot? = other at hslot? ⊢
  cases hslot? with
  | none => exact .none
  | some hslot => exact l.node? hslot

/-- Plays that mirror each other are doing the same. -/
theorem phase_eq (h : r.Mirrors l s) : r.phase = s.phase := by
  have hcursor := h.cursor
  unfold Runner.phase
  generalize r.cursor = cursor at hcursor ⊢
  generalize s.cursor = other at hcursor ⊢
  cases hcursor <;> rfl

/-- Plays that mirror each other move on alike when no node waits.

**Proof sketch.** The two plays stand in slots that correspond, or both stand in none. In such slots
both stories have a node, and then `leave` applies, or neither has one. -/
theorem proceed (h : r.Mirrors l s) : r.proceed.Mirrors l s.proceed := by
  obtain rfl := h.left
  obtain rfl := h.right
  have hslot? := h.slot?
  unfold Runner.proceed
  generalize r.cursor.slot? = found at hslot? ⊢
  generalize s.cursor.slot? = other at hslot? ⊢
  cases hslot? with
  | none => exact ⟨rfl, h, .nil⟩
  | @some i j hslot =>
    have hnode? := l.node? hslot
    simp only
    generalize r.pool.node? i = found at hnode? ⊢
    generalize s.pool.node? j = other at hnode? ⊢
    cases hnode? with
    | none => exact ⟨rfl, { h with cursor := .idle }, .nil⟩
    | some hnode => exact h.leave hslot hnode

/-- Plays mirror each other still when both ask their gates. -/
theorem opened (h : r.Mirrors l s) : r.opened.Mirrors l s.opened :=
  { h with gate := h.gate.ask_snd }

/-- Plays that mirror each other step alike.

**Proof sketch.** The gates answer alike. Behind an open one both stacks are the same, so both are
searched or both are empty, and then the plays move on. -/
theorem step (h : r.Mirrors l s) : r.step.Mirrors l s.step := by
  cases hgate : s.gate.ask.1
  · rw [step_of_open hgate, step_of_open (h.gate.ask_fst.trans hgate), h.pending]
    split
    · exact h.opened.proceed
    · exact h.opened.tryPending _
  · rw [step_of_busy hgate, step_of_busy (h.gate.ask_fst.trans hgate)]
    exact ⟨rfl, h.opened, .nil⟩

/-- Plays that mirror each other start alike.

**Proof sketch.** The stacks are equal and so are the capacities, so both starts find room or
neither does. With room, both push the node and step. -/
theorem start (h : r.Mirrors l s) (id : NodeId) : (r.start id).Mirrors l (s.start id) := by
  rcases Nat.lt_or_ge s.pending.length s.capacity with hroom | hfull
  · have hroom' : r.pending.length < r.capacity := by rwa [h.pending, h.capacity]
    rw [start_of_room hroom, start_of_room hroom', h.pending]
    exact ((h.withPending (id :: s.pending)).step.after (Signal.Mirrors.single _)).map _
  · have hfull' : r.capacity ≤ r.pending.length := by rwa [h.pending, h.capacity]
    rw [start_of_full hfull, start_of_full hfull', h.capacity]
    exact ⟨rfl, h, .nil⟩

/-- Plays that mirror each other start from the beginning alike. -/
theorem newGame (h : r.Mirrors l s) : r.newGame.Mirrors l s.newGame := by
  have hnew : Mirrors l { r with flags := .empty, pending := [], cursor := .idle }
      { s with flags := .empty, pending := [], cursor := .idle } :=
    { h with flags := .refl _ _, pending := rfl, cursor := .idle }
  have hstart := hnew.start s.startNode
  rw [← h.startNode] at hstart
  simp only [Runner.newGame, ← h.startNode]
  exact hstart

/-- Plays that mirror each other offer choices that correspond.

**Proof sketch.** Only a play that waits for a choice offers any, and both do or neither does. Then
they stand at nodes that correspond, whose choices correspond place by place. -/
theorem offered? (h : r.Mirrors l s) (place : Nat) :
    Option.Rel l.choice (r.offered? place) (s.offered? place) := by
  obtain rfl := h.left
  obtain rfl := h.right
  have hcursor := h.cursor
  unfold Runner.offered?
  generalize r.cursor = cursor at hcursor ⊢
  generalize s.cursor = other at hcursor ⊢
  cases hcursor with
  | idle => exact .none
  | active => exact .none
  | @awaitingChoice i j hslot =>
    have hnode? := l.node? hslot
    simp only
    generalize r.pool.node? i = found at hnode? ⊢
    generalize s.pool.node? j = other at hnode? ⊢
    cases hnode? with
    | none => exact .none
    | some hnode => exact rel_getElem? (l.choicesOf hnode) place

/-- Plays that mirror each other take choices that correspond alike.

**Proof sketch.** Choices that correspond set the same flags, so the sets still agree on those that
matter, and they have the same goal. With a goal both plays start it, and without one both go on
waiting. -/
theorem take (h : r.Mirrors l s) {c d : Choice} (hchoice : l.choice c d) :
    (r.take c).Mirrors l (s.take d) := by
  have hset : Mirrors l { r with flags := r.flags.setAll (r.pool.effectsOfChoice c) }
      { s with flags := s.flags.setAll (s.pool.effectsOfChoice d) } := by
    obtain rfl := h.left
    obtain rfl := h.right
    rw [l.effectsOfChoice_eq hchoice]
    exact h.withFlags (h.flags.setAll _)
  unfold Runner.take
  rw [l.goto_eq hchoice]
  cases d.goto with
  | some goal => exact hset.start goal
  | none => exact ⟨rfl, hset, .nil⟩

/-- Plays that mirror each other choose alike.

**Proof sketch.** The gates answer alike. Behind an open one, `offered?` says that both plays offer
a choice in this place or neither does, and `take` goes on with choices that correspond. -/
theorem choose (h : r.Mirrors l s) (place : Nat) :
    (r.choose place).Mirrors l (s.choose place) := by
  cases hgate : s.gate.ask.1
  · rw [choose_of_open hgate, choose_of_open (h.gate.ask_fst.trans hgate)]
    have hoffer := h.opened.offered? place
    generalize r.opened.offered? place = found at hoffer ⊢
    generalize s.opened.offered? place = other at hoffer ⊢
    cases hoffer with
    | none => exact ⟨rfl, h.opened, .nil⟩
    | some hchoice => exact h.opened.take hchoice
  · rw [choose_of_busy hgate, choose_of_busy (h.gate.ask_fst.trans hgate)]
    exact ⟨rfl, h.opened, .nil⟩

/-- Plays that mirror each other jump alike.

**Proof sketch.** The id is missing in both stories, or found in both, in slots that correspond;
then both plays arrive there with an empty stack. -/
theorem jump (h : r.Mirrors l s) (id : NodeId) : (r.jump id).Mirrors l (s.jump id) := by
  obtain rfl := h.left
  obtain rfl := h.right
  have hfind := l.find? id
  unfold Runner.jump
  generalize r.pool.find? id = found at hfind ⊢
  generalize s.pool.find? id = other at hfind ⊢
  cases hfind with
  | none => exact ⟨rfl, h, Signal.Mirrors.single _⟩
  | some hmirrors => exact ((h.withPending []).arrive id hmirrors.1 hmirrors.2).map _

/-- Plays that mirror each other are brought to the state of a snapshot alike.

**Proof sketch.** The flags are cleared in both plays or in neither, and then the same flags are
set. Whether the saved node is entered is the same jump for both, by `jump`, and a failure adds the
same notice to both traces. -/
theorem restore (h : r.Mirrors l s) (saved : Snapshot) (options : Snapshot.Options) :
    (saved.restore r options).Mirrors l (saved.restore s options) := by
  have hflags : Mirrors l ((if options.clearFlags then r.clearFlags else r).setFlags saved.flags)
      ((if options.clearFlags then s.clearFlags else s).setFlags saved.flags) := by
    cases options.clearFlags
    · exact h.withFlags (h.flags.setAll _)
    · exact h.withFlags (.refl _ _)
  simp only [Snapshot.restore]
  generalize (if options.clearFlags then r.clearFlags else r).setFlags saved.flags = r'
    at hflags ⊢
  generalize (if options.clearFlags then s.clearFlags else s).setFlags saved.flags = s'
    at hflags ⊢
  split
  case h_1 id _ _ =>
    have hjump := hflags.jump id
    rw [hjump.answer]
    split
    · exact hjump
    · exact ⟨rfl, hjump.runner, List.rel_append hjump.trace (Signal.Mirrors.single _)⟩
  case h_2 => exact ⟨rfl, hflags, .nil⟩

end Runner.Mirrors

/-- Fresh plays with the same capacity and start node mirror each other. -/
theorem Runner.mirrors_fresh (l : p.Likeness q) (capacity : Nat) (startNode : NodeId) :
    (fresh p capacity startNode).Mirrors l (fresh q capacity startNode) where
  left := rfl
  right := rfl
  gate := .refl _
  flags := .refl _ _
  pending := rfl
  capacity := rfl
  cursor := .idle
  startNode := rfl

/-! ## Commands -/

/-- A command goes on with the story that is played. -/
def Command.KeepsStory (c : Command) : Prop := ∀ pool, c ≠ .load pool

/-- The turns that commands in a row come to, one by one. -/
def Runner.turns (r : Runner) : List Command → List (Turn Reply)
  | [] => []
  | c :: later => r.perform c :: (r.perform c).runner.turns later

namespace Runner.Mirrors

variable {r s : Runner}

/-- Plays that mirror each other answer a command alike that keeps the story.

**Proof sketch.** One lemma for each command. Commands that change flags or the gate do the same on
both sides, and none of these commands loads another story. -/
theorem perform (h : r.Mirrors l s) {c : Command} (hc : c.KeepsStory) :
    (r.perform c).Mirrors l (s.perform c) := by
  cases c with
  | start id => exact (h.start id).map _
  | newGame => exact h.newGame.map _
  | step => exact h.step.map fun o => Reply.moved (.ok o)
  | choose place => exact (h.choose place).map _
  | jump id => exact (h.jump id).map _
  | setFlags ids => exact ⟨rfl, h.withFlags (h.flags.setAll ids), .nil⟩
  | clearFlags => exact ⟨rfl, h.withFlags (.refl _ _), .nil⟩
  | install gate => exact ⟨rfl, { h with gate := .refl gate }, .nil⟩
  | load pool => exact absurd rfl (hc pool)
  | restore saved options => exact (h.restore saved options).map _

/-- Plays that mirror each other answer commands in a row alike, turn by turn. -/
theorem turns (h : r.Mirrors l s) {cs : List Command} (hcs : ∀ c ∈ cs, c.KeepsStory) :
    List.Forall₂ (Turn.Mirrors l) (r.turns cs) (s.turns cs) := by
  induction cs generalizing r s with
  | nil => exact .nil
  | cons c cs ih =>
    have hc := h.perform (hcs c (by simp))
    exact .cons hc (ih hc.runner fun c' hc' => hcs c' (by simp [hc']))

end Runner.Mirrors

end StoryGraph
