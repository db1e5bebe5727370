import StoryGraph.Play.Session
import StoryGraph.Proofs.Graph.Lookup

set_option relaxedAutoImplicit false
set_option autoImplicit false

/-!
# What a move can do

The moves of a play taken apart into the few changes that they are made of. An invariant of plays is
proved of each of these changes once, and holds then after every move.

## Main definitions

* `Runner.Admits` — a node is in the story, and all flags that it requires are set.
* `Runner.opened` — the play after it has asked its gate.
* `Runner.chosen` — the play after it has asked its gate and has set the flags of a choice.
* `Snapshot.flagsOver` — the flags that a snapshot leaves set, before any node is entered.
* `Runner.Steady` — a property that every change a move is made of leaves true.
* `Command.PlaysOn` — a command that takes no flag away, unless by a new game.

## Main results

* `Runner.admission_eq_ok_iff`, `Runner.admits_iff` — when an entry succeeds.
* `Runner.tryPending_append` — refused entries are passed over, and the presenter hears nothing.
* `Runner.step_of_open`, `Runner.choose_of_open` — what a move does when the gate is open.
* `Runner.step_cases`, `Runner.start_cases`, `Runner.choose_cases`, `Runner.jump_cases`,
  `Snapshot.restore_cases` — what a step, a start, a choice, a jump or a snapshot comes to.
* `Runner.Steady.step`, `Runner.Steady.start`, `Runner.Steady.newGame`, `Runner.Steady.choose`,
  `Runner.Steady.jump` — a steady property holds after every move.
* `Runner.Steady.performAll` — a steady property holds after every run that plays on.
-/

namespace StoryGraph

/-- The answers of moves can be compared. -/
instance decidableEqAnswer : DecidableEq (Except StackFull Outcome)
  | .ok o, .ok o' => decidable_of_iff (o = o') (by simp)
  | .error e, .error e' => decidable_of_iff (e = e') (by simp)
  | .ok _, .error _ | .error _, .ok _ => isFalse (by simp)

/-- What is heard of two traces in a row. -/
@[simp] theorem Signal.events_append (earlier later : List Signal) :
    events (earlier ++ later) = events earlier ++ events later :=
  List.filterMap_append

/-- What is heard of a trace is the events among its signals. -/
theorem Signal.mem_events_iff {e : Event} {trace : List Signal} :
    e ∈ events trace ↔ .event e ∈ trace := by
  simp only [events, List.mem_filterMap]
  constructor
  · rintro ⟨σ, hσ, he⟩
    cases σ <;> simp_all
  · intro h
    exact ⟨.event e, h, rfl⟩

/-- Nothing is heard of notices. -/
theorem Signal.events_eq_nil {trace : List Signal} (h : ∀ σ ∈ trace, ∃ n, σ = .notice n) :
    events trace = [] := by
  refine List.eq_nil_iff_forall_not_mem.2 fun e he => ?_
  obtain ⟨n, hn⟩ := h (.event e) (mem_events_iff.1 he)
  cases hn

/-- The outcome of a step that found something to do. -/
def Outcome.isMove : Outcome → Bool
  | entered _ | choicesPresented | ended | stalled => true
  | busy | awaitingChoice | idle | ignored => false

namespace Runner

variable {r : Runner} {id : NodeId}

/-! ## Entries -/

/-- The play `r` may enter the node `id`: it is in the story, and every flag that it requires is
set. -/
def Admits (r : Runner) (id : NodeId) : Prop :=
  ∃ n ∈ r.pool.nodes, n.id = id ∧ ∀ f ∈ r.pool.requiredBy n, r.flags.has f = true

/-- An entry succeeds at the node that is found, if all flags that it requires are set.

**Proof sketch.** By the two tests of `admission`: without a node nothing is found, and the node
that is found comes with its slot exactly when all required flags are set. -/
theorem admission_eq_ok_iff {slot : Nat} {n : Node} :
    r.admission id = .ok (slot, n) ↔
      r.pool.find? id = some (slot, n) ∧ r.flags.hasAll (r.pool.requiredBy n) = true := by
  unfold admission
  cases hf : r.pool.find? id with
  | none => simp
  | some found =>
    obtain ⟨s, m⟩ := found
    simp only [Option.some.injEq, Prod.mk.injEq]
    constructor
    · intro h
      split at h
      case isTrue hall =>
        obtain ⟨rfl, rfl⟩ := Prod.mk.inj (Except.ok.inj h)
        exact ⟨⟨rfl, rfl⟩, hall⟩
      case isFalse => cases h
    · rintro ⟨⟨rfl, rfl⟩, hall⟩
      rw [if_pos hall]

/-- The entries that succeed are those of nodes that the play may enter.

**Proof sketch.** A node of a well-formed pool is found by its id, and what is found is a node of
the pool; the required flags are the same on both sides. -/
theorem admits_iff (hp : r.pool.WellFormed) :
    r.Admits id ↔ ∃ slot n, r.admission id = .ok (slot, n) := by
  constructor
  · rintro ⟨n, hn, hid, hall⟩
    obtain ⟨slot, hslot⟩ := Array.mem_iff_getElem?.1 hn
    refine ⟨slot, n, admission_eq_ok_iff.2 ⟨hp.find?_eq_some_iff.2 ⟨hslot, hid⟩, ?_⟩⟩
    simpa [FlagSet.hasAll] using hall
  · rintro ⟨slot, n, h⟩
    obtain ⟨hfind, hall⟩ := admission_eq_ok_iff.1 h
    obtain ⟨hslot, hid⟩ := hp.find?_eq_some_iff.1 hfind
    exact ⟨n, Array.mem_of_getElem? hslot, hid, by simpa [FlagSet.hasAll] using hall⟩

/-- The entry of a node that the play may not enter is refused. -/
theorem admission_eq_error_of_not_admits (hp : r.pool.WellFormed) (h : ¬ r.Admits id) :
    ∃ refusal, r.admission id = .error refusal := by
  cases hadm : r.admission id with
  | error refusal => exact ⟨refusal, rfl⟩
  | ok found => exact absurd ((admits_iff hp).2 ⟨found.1, found.2, hadm⟩) h

/-- A play is idle when no node is active. -/
theorem phase_eq_idle_iff : r.phase = .idle ↔ r.cursor.slot? = none := by
  unfold phase
  cases r.cursor <;> simp [Cursor.phase, Cursor.slot?]

/-- The cursor of a play with an active node. -/
theorem cursor_of_nodeActive {slot : Nat} (hphase : r.phase = .nodeActive)
    (hslot : r.cursor.slot? = some slot) : r.cursor = .active slot := by
  unfold phase at hphase
  cases hcursor : r.cursor <;> simp_all [Cursor.phase, Cursor.slot?]

/-- The cursor of a play that awaits a choice. -/
theorem cursor_of_awaitingChoice {slot : Nat} (hphase : r.phase = .awaitingChoice)
    (hslot : r.cursor.slot? = some slot) : r.cursor = .awaitingChoice slot := by
  unfold phase at hphase
  cases hcursor : r.cursor <;> simp_all [Cursor.phase, Cursor.slot?]

/-- The active node of a play is a node of its story. -/
theorem mem_of_current? {n : Node} (h : r.current? = some n) : n ∈ r.pool.nodes := by
  obtain ⟨slot, -, hn⟩ := Option.bind_eq_some_iff.1 h
  exact Array.mem_of_getElem? hn

/-! ## The stack -/

/-- Refused entries at the top of the stack are passed over, and the presenter hears nothing.

**Proof sketch.** Induction on the refused entries. Each of them is taken off the stack and refused,
which adds two notices, and no event, to what the rest shows. -/
theorem tryPending_append {above : List NodeId}
    (h : ∀ id ∈ above, ∃ refusal, r.admission id = .error refusal) (rest : List NodeId) :
    ∃ earlier, Signal.events earlier = [] ∧
      r.tryPending (above ++ rest) = (r.tryPending rest).after earlier := by
  induction above with
  | nil => exact ⟨[], rfl, rfl⟩
  | cons id above ih =>
    obtain ⟨refusal, hrefusal⟩ := h id (by simp)
    obtain ⟨earlier, hevents, heq⟩ := ih fun a ha => h a (by simp [ha])
    refine ⟨.notice (.popped id) :: .notice (refusal.notice id) :: earlier, hevents, ?_⟩
    rw [List.cons_append, tryPending, hrefusal]
    simp only [heq]
    rfl

/-- An entry that succeeds ends the search of the stack, and the nodes below it go on waiting. -/
theorem tryPending_cons_of_ok {slot : Nat} {n : Node} (h : r.admission id = .ok (slot, n))
    (below : List NodeId) :
    r.tryPending (id :: below) =
      ({ r with pending := below }.arrive id slot n).after [.notice (.popped id)] := by
  rw [tryPending, h]

/-! ## Outcomes -/

/-- The search of the stack has something to do, if only to stall.

**Proof sketch.** Induction on the stack: an empty one stalls, a node that is admitted is entered,
and any other is passed over. -/
theorem answer_tryPending_ne {o : Outcome} (ho : o.isMove = false) (ids : List NodeId) :
    (r.tryPending ids).answer ≠ o := by
  rintro rfl
  induction ids with
  | nil => cases ho
  | cons id below ih =>
    rw [tryPending] at ho
    split at ho
    · cases ho
    · exact ih ho

/-- So has a play that leaves a node. -/
theorem answer_leave_ne {o : Outcome} (ho : o.isMove = false) (slot : Nat) (n : Node) :
    (r.leave slot n).answer ≠ o := by
  rintro rfl
  unfold leave at ho
  split at ho
  case isTrue => cases ho
  case isFalse =>
    split at ho
    case h_1 => split at ho <;> cases ho
    case h_2 => cases ho

/-! ## Steps -/

/-- The play after it has asked its gate. -/
def opened (r : Runner) : Runner := { r with gate := r.gate.ask.2 }

/-- While the gate is busy, a step does nothing. -/
theorem step_of_busy (h : r.gate.ask.1 = true) :
    r.step = { answer := .busy, runner := r.opened } := by
  simp [step, askGate, h, opened]

/-- A step tries the nodes of the stack, or moves on when none waits. -/
theorem step_of_open (h : r.gate.ask.1 = false) :
    r.step = if r.pending.isEmpty then r.opened.proceed else r.opened.tryPending r.pending := by
  simp [step, askGate, h, opened]

/-- What a step comes to: nothing while the gate is busy, else it tries the nodes of the stack; when
none waits it leaves the active node, if there is one and it is in the story.

**Proof sketch.** In the order in which a step looks: at its gate, at the stack, at the cursor, and
at the node in the slot of the cursor. -/
theorem step_cases (r : Runner) :
    (r.gate.ask.1 = true ∧ r.step = { answer := .busy, runner := r.opened }) ∨
      (r.gate.ask.1 = false ∧ r.pending ≠ [] ∧ r.step = r.opened.tryPending r.pending) ∨
      (r.gate.ask.1 = false ∧ r.pending = [] ∧ r.cursor.slot? = none ∧
        r.step = { answer := .idle, runner := r.opened }) ∨
      (∃ slot, r.gate.ask.1 = false ∧ r.pending = [] ∧ r.cursor.slot? = some slot ∧
        r.pool.node? slot = none ∧
        r.step = { answer := .idle, runner := { r.opened with cursor := .idle } }) ∨
      ∃ slot n, r.gate.ask.1 = false ∧ r.pending = [] ∧ r.cursor.slot? = some slot ∧
        r.pool.node? slot = some n ∧ r.step = r.opened.leave slot n := by
  cases hgate : r.gate.ask.1 with
  | true => exact .inl ⟨rfl, step_of_busy hgate⟩
  | false =>
    right
    rw [step_of_open hgate]
    by_cases hpending : r.pending = []
    · right
      rw [if_pos (by simp [hpending])]
      cases hslot : r.cursor.slot? with
      | none => exact .inl ⟨rfl, hpending, rfl, by simp [proceed, opened, hslot]⟩
      | some slot =>
        right
        cases hn : r.pool.node? slot with
        | none =>
          exact .inl ⟨slot, rfl, hpending, rfl, hn, by simp [proceed, opened, hslot, hn]⟩
        | some n =>
          exact .inr ⟨slot, n, rfl, hpending, rfl, hn, by simp [proceed, opened, hslot, hn]⟩
    · exact .inl ⟨rfl, hpending, if_neg (by simpa using hpending)⟩

/-! ## Starts and choices -/

/-- A start finds the stack full when it is, and does nothing then. -/
theorem start_of_full (h : r.capacity ≤ r.pending.length) (id : NodeId) :
    r.start id = { answer := .error ⟨r.capacity⟩, runner := r } := by
  unfold start
  rw [if_pos h]

/-- A start that finds room on the stack goes on with a step. -/
theorem start_of_room (h : r.pending.length < r.capacity) (id : NodeId) :
    r.start id = ({ r with pending := id :: r.pending }.step.after
      [.notice (.pushed id (r.pending.length + 1))]).map .ok := by
  unfold start
  rw [if_neg (Nat.not_le_of_lt h)]

/-- A start that finds the gate busy leaves its node on the stack. -/
theorem start_of_busy (h : r.pending.length < r.capacity) (hgate : r.gate.ask.1 = true)
    (id : NodeId) :
    r.start id =
      { answer := .ok .busy
        runner := { r.opened with pending := id :: r.pending }
        trace := [.notice (.pushed id (r.pending.length + 1))] } := by
  rw [start_of_room h, step_of_busy (r := { r with pending := id :: r.pending }) hgate]
  rfl

/-- What a start comes to: nothing when the stack is full, else its node waits, and the nodes of the
stack are tried unless the gate is busy.

**Proof sketch.** A start looks at the room on the stack, then the node is pushed and a step is
made. That step is either busy or searches the stack, which is not empty. -/
theorem start_cases (r : Runner) (id : NodeId) :
    (r.capacity ≤ r.pending.length ∧
        r.start id = { answer := .error ⟨r.capacity⟩, runner := r }) ∨
      (r.pending.length < r.capacity ∧ r.gate.ask.1 = true ∧
        r.start id =
          { answer := .ok .busy
            runner := { r.opened with pending := id :: r.pending }
            trace := [.notice (.pushed id (r.pending.length + 1))] }) ∨
      (r.pending.length < r.capacity ∧ r.gate.ask.1 = false ∧
        r.start id =
          (({ r.opened with pending := id :: r.pending }.tryPending (id :: r.pending)).after
            [.notice (.pushed id (r.pending.length + 1))]).map .ok) := by
  rcases Nat.lt_or_ge r.pending.length r.capacity with hroom | hfull
  · cases hgate : r.gate.ask.1 with
    | true => exact .inr (.inl ⟨hroom, rfl, start_of_busy hroom hgate id⟩)
    | false =>
      refine .inr (.inr ⟨hroom, rfl, ?_⟩)
      rw [start_of_room hroom, step_of_open (r := { r with pending := id :: r.pending }) hgate]
      rfl
  · exact .inl ⟨hfull, start_of_full hfull id⟩

/-- While the gate is busy, no choice is taken. -/
theorem choose_of_busy (h : r.gate.ask.1 = true) (place : Nat) :
    r.choose place = { answer := .ok .busy, runner := r.opened } := by
  simp [choose, askGate, h, opened]

/-- What is on offer is the choices of the active node, while the play awaits one of them. -/
theorem offered?_eq_some_iff {place : Nat} {c : Choice} :
    r.offered? place = some c ↔
      ∃ slot n, r.cursor = .awaitingChoice slot ∧ r.pool.node? slot = some n ∧
        (r.pool.choicesOf n)[place]? = some c := by
  unfold offered?
  cases r.cursor <;> simp [bind, Option.bind_eq_some_iff]

/-- What is on offer, told of what a play shows of itself. -/
theorem offered?_eq_some_iff_current? {place : Nat} {c : Choice} :
    r.offered? place = some c ↔
      r.phase = .awaitingChoice ∧
        ∃ n, r.current? = some n ∧ (r.pool.choicesOf n)[place]? = some c := by
  rw [offered?_eq_some_iff]
  unfold phase current?
  cases r.cursor <;> simp [Cursor.phase, Cursor.slot?]

/-- A choice is taken when it is on offer, and ignored when it is not. -/
theorem choose_of_open (h : r.gate.ask.1 = false) (place : Nat) :
    r.choose place =
      match r.opened.offered? place with
      | none => { answer := .ok .ignored, runner := r.opened }
      | some c => r.opened.take c := by
  have hask : r.askGate = (false, r.opened) := Prod.ext h rfl
  cases hoffer : r.opened.offered? place with
  | none => simp only [choose, hask, hoffer]
  | some c => simp only [choose, hask, hoffer]

/-- The play after it has asked its gate and has set the flags of a choice. -/
def chosen (r : Runner) (c : Choice) : Runner :=
  { r.opened with flags := r.flags.setAll (r.pool.effectsOfChoice c) }

/-- A choice that is not on offer is ignored, and changes nothing. -/
theorem choose_of_offered?_eq_none {place : Nat} (h : r.gate.ask.1 = false)
    (hoffer : r.offered? place = none) :
    r.choose place = { answer := .ok .ignored, runner := r.opened } := by
  have hoffered : r.opened.offered? place = none := hoffer
  rw [choose_of_open h, hoffered]

/-- A choice on offer that leads nowhere is over when its flags are set. -/
theorem choose_of_goto_eq_none {place : Nat} {c : Choice} (h : r.gate.ask.1 = false)
    (hoffer : r.offered? place = some c) (hgoto : c.goto = none) :
    r.choose place = { answer := .ok .awaitingChoice, runner := r.chosen c } := by
  have hoffered : r.opened.offered? place = some c := hoffer
  rw [choose_of_open h, hoffered]
  simp only [take, hgoto, chosen, opened]

/-- A choice on offer that leads somewhere is started when the gate is open. -/
theorem choose_of_goto {place : Nat} {c : Choice} {goal : NodeId} (h : r.gate.ask.1 = false)
    (hoffer : r.offered? place = some c) (hgoto : c.goto = some goal) :
    r.choose place = (r.chosen c).start goal := by
  have hoffered : r.opened.offered? place = some c := hoffer
  rw [choose_of_open h, hoffered]
  simp only [take, hgoto, chosen, opened]

/-- What a choice comes to: nothing while the gate is busy or when it is not on offer, else its
flags are set, and it is over or its goal is started.

**Proof sketch.** In the order in which a choice looks: at the gate, at what is on offer, and at the
goal of the choice. Each case is one equation from above. -/
theorem choose_cases (r : Runner) (place : Nat) :
    (r.gate.ask.1 = true ∧ r.choose place = { answer := .ok .busy, runner := r.opened }) ∨
      (r.gate.ask.1 = false ∧ r.offered? place = none ∧
        r.choose place = { answer := .ok .ignored, runner := r.opened }) ∨
      (∃ c, r.gate.ask.1 = false ∧ r.offered? place = some c ∧ c.goto = none ∧
        r.choose place = { answer := .ok .awaitingChoice, runner := r.chosen c }) ∨
      ∃ c goal, r.gate.ask.1 = false ∧ r.offered? place = some c ∧ c.goto = some goal ∧
        r.choose place = (r.chosen c).start goal := by
  cases hgate : r.gate.ask.1 with
  | true => exact .inl ⟨rfl, choose_of_busy hgate place⟩
  | false =>
    cases hoffer : r.offered? place with
    | none => exact .inr (.inl ⟨rfl, rfl, choose_of_offered?_eq_none hgate hoffer⟩)
    | some c =>
      cases hgoto : c.goto with
      | none =>
        exact .inr (.inr (.inl ⟨c, rfl, rfl, hgoto, choose_of_goto_eq_none hgate hoffer hgoto⟩))
      | some goal =>
        exact .inr (.inr (.inr ⟨c, goal, rfl, rfl, hgoto, choose_of_goto hgate hoffer hgoto⟩))

/-- What a jump comes to: the node is not in the story, and nothing is changed, or it is entered
while no node waits any more. -/
theorem jump_cases (r : Runner) (id : NodeId) :
    (r.pool.find? id = none ∧
        r.jump id = { answer := false, runner := r, trace := [.notice (.jumpMissing id)] }) ∨
      ∃ slot n, r.pool.find? id = some (slot, n) ∧
        r.jump id = ({ r with pending := [] }.arrive id slot n).map fun _ => true := by
  unfold jump
  cases r.pool.find? id with
  | none => exact .inl ⟨rfl, rfl⟩
  | some found => exact .inr ⟨found.1, found.2, rfl, rfl⟩

end Runner

namespace Snapshot

/-- The flags that a snapshot leaves set where `flags` were set, before any node is entered. -/
def flagsOver (saved : Snapshot) (options : Options) (flags : FlagSet) : FlagSet :=
  (if options.clearFlags then .empty else flags).setAll saved.flags

/-- The flags that a snapshot leaves set are those that were set, unless they are cleared, and those
of the snapshot that are in range. -/
theorem has_flagsOver_iff (saved : Snapshot) (options : Options) (flags : FlagSet) (f : FlagId) :
    (saved.flagsOver options flags).has f = true ↔
      (options.clearFlags = false ∧ flags.has f = true) ∨
        FlagSet.InRange f ∧ f ∈ saved.flags := by
  rw [flagsOver, FlagSet.has_setAll, Bool.or_eq_true, decide_eq_true_iff]
  cases options.clearFlags <;> simp

/-- What the restoring of a snapshot comes to: its flags are set, and the saved node is jumped to if
there is one and the options ask for it.

**Proof sketch.** The flags are the same whether they are cleared before or not, up to `flagsOver`.
The node is jumped to when there is one and the options ask for it, and the jump is followed by a
notice when it failed, and by nothing else. -/
theorem restore_cases (saved : Snapshot) (r : Runner) (options : Options) :
    ((saved.nodeId = none ∨ options.jump = false) ∧ saved.restore r options =
        { answer := false, runner := { r with flags := saved.flagsOver options r.flags } }) ∨
      ∃ id later, saved.nodeId = some id ∧ options.jump = true ∧
        (∀ σ ∈ later, σ = .notice (.savedNodeMissing id)) ∧
        saved.restore r options =
          { { r with flags := saved.flagsOver options r.flags }.jump id with
            trace := ({ r with flags := saved.flagsOver options r.flags }.jump id).trace ++
              later } := by
  have hflags : (if options.clearFlags then r.clearFlags else r).setFlags saved.flags =
      { r with flags := saved.flagsOver options r.flags } := by
    unfold flagsOver
    cases options.clearFlags
    · rfl
    · rfl
  simp only [restore, hflags]
  split
  case h_1 id hid hjump =>
    right
    split
    · exact ⟨id, [], hid, hjump, by simp, by simp⟩
    · exact ⟨id, [.notice (.savedNodeMissing id)], hid, hjump, by simp, rfl⟩
  case h_2 hnot =>
    refine .inl ⟨?_, rfl⟩
    cases hid : saved.nodeId with
    | none => exact .inl rfl
    | some id => exact .inr (Bool.eq_false_iff.2 (hnot id hid))

end Snapshot

/-! ## Properties that moves leave true -/

/-- A command plays on: it takes no flag away, unless by a new game, and a story that it loads is
one that can be. -/
def Command.PlaysOn : Command → Prop
  | load pool => pool.Made
  | clearFlags | restore .. => False
  | _ => True

namespace Runner

variable {r : Runner}

/-- The property `P` is left true by every change that a move is made of. -/
structure Steady (P : Runner → Prop) : Prop where
  ask : ∀ {r : Runner} (gate : Gate), P r → P { r with gate }
  set : ∀ {r : Runner} (ids : List FlagId), P r → P { r with flags := r.flags.setAll ids }
  push : ∀ {r : Runner} (id : NodeId), P r → r.pending.length < r.capacity →
    P { r with pending := id :: r.pending }
  arrive : ∀ {r : Runner} {id : NodeId} {slot : Nat} {n : Node} {below : List NodeId}, P r →
    r.pool.find? id = some (slot, n) → below <:+ r.pending →
    P { r with
      flags := r.flags.setAll (r.pool.effectsOf n), pending := below, cursor := .active slot }
  offer : ∀ {r : Runner} {slot : Nat} {n : Node}, P r → r.cursor.slot? = some slot →
    r.pool.node? slot = some n → n.hasChoices = true → P { r with cursor := .awaitingChoice slot }
  halt : ∀ {r : Runner} {below : List NodeId}, P r → below <:+ r.pending →
    P { r with pending := below, cursor := .idle }
  renew : ∀ {r : Runner}, P r → P { r with flags := .empty, pending := [], cursor := .idle }
  load : ∀ {r : Runner} {pool : Pool}, P r → pool.Made →
    P { r with pool, pending := [], cursor := .idle }

namespace Steady

variable {P : Runner → Prop}

/-- The search of the stack leaves a steady property true.

**Proof sketch.** Induction on the stack. What is left of it below a node is still the end of what
waited, so an arrival there, or a halt at its end, is a change that the property outlasts. -/
theorem tryPending (hP : Steady P) (hr : P r) {ids : List NodeId} (hids : ids <:+ r.pending) :
    P (r.tryPending ids).runner := by
  induction ids with
  | nil => exact hP.halt (r := r) hr hids
  | cons id below ih =>
    have hbelow : below <:+ r.pending := (List.suffix_cons id below).trans hids
    unfold Runner.tryPending
    split
    case h_1 slot n hadm => exact hP.arrive (r := r) hr (admission_eq_ok_iff.1 hadm).1 hbelow
    case h_2 => exact ih hbelow

/-- Moving on from an active node leaves a steady property true.

**Proof sketch.** By what `leave` does: it offers, it arrives at the successor, or the play halts
after a stall or at the end. Each of these is a change that a steady property outlasts. -/
theorem leave (hP : Steady P) (hr : P r) {slot : Nat} {n : Node}
    (hslot : r.cursor.slot? = some slot) (hn : r.pool.node? slot = some n) :
    P (r.leave slot n).runner := by
  unfold Runner.leave
  split
  case isTrue hchoices => exact hP.offer hr hslot hn hchoices
  case isFalse =>
    split
    case h_1 next _ =>
      split
      case h_1 slot' m hadm =>
        exact hP.arrive hr (admission_eq_ok_iff.1 hadm).1 (List.suffix_refl r.pending)
      case h_2 => exact hP.halt hr (List.suffix_refl r.pending)
    case h_2 => exact hP.halt hr (List.suffix_refl r.pending)

/-- A step leaves a steady property true.

**Proof sketch.** By `step_cases`. The gate has been asked in every case. After that nothing
happens, the stack is searched, the play halts where its node is missing, or it leaves its node. -/
theorem step (hP : Steady P) (hr : P r) : P r.step.runner := by
  have hopen : P r.opened := hP.ask _ hr
  obtain ⟨-, heq⟩ | ⟨-, -, heq⟩ | ⟨-, -, -, heq⟩ | ⟨slot, -, -, -, -, heq⟩ |
    ⟨slot, n, -, -, hslot, hn, heq⟩ := step_cases r
  · rw [heq]
    exact hopen
  · rw [heq]
    exact hP.tryPending hopen (List.suffix_refl r.pending)
  · rw [heq]
    exact hopen
  · rw [heq]
    exact hP.halt hopen (List.suffix_refl r.pending)
  · rw [heq]
    exact hP.leave (r := r.opened) hopen hslot hn

/-- A start leaves a steady property true, also when the stack is full. -/
theorem start (hP : Steady P) (hr : P r) (id : NodeId) : P (r.start id).runner := by
  unfold Runner.start
  split
  case isTrue => exact hr
  case isFalse hroom => exact hP.step (hP.push id hr (Nat.lt_of_not_le hroom))

/-- A new game leaves a steady property true. -/
theorem newGame (hP : Steady P) (hr : P r) : P r.newGame.runner :=
  hP.start (hP.renew hr) r.startNode

/-- A choice leaves a steady property true, whether it is taken or not.

**Proof sketch.** By `choose_cases`. The gate is asked, the flags of a choice on offer are set, and
its goal is started: three changes, and the property outlasts each. -/
theorem choose (hP : Steady P) (hr : P r) (place : Nat) : P (r.choose place).runner := by
  have hopen : P r.opened := hP.ask _ hr
  have hchosen (c : Choice) : P (r.chosen c) := hP.set _ hopen
  obtain ⟨-, heq⟩ | ⟨-, -, heq⟩ | ⟨c, -, -, -, heq⟩ | ⟨c, goal, -, -, -, heq⟩ :=
    choose_cases r place
  · rw [heq]
    exact hopen
  · rw [heq]
    exact hopen
  · rw [heq]
    exact hchosen c
  · rw [heq]
    exact hP.start (hchosen c) goal

/-- A jump leaves a steady property true, whether the node is there or not. -/
theorem jump (hP : Steady P) (hr : P r) (id : NodeId) : P (r.jump id).runner := by
  unfold Runner.jump
  split
  case h_1 => exact hr
  case h_2 slot n hfind => exact hP.arrive (r := r) hr hfind List.nil_suffix

/-- A snapshot that is restored leaves a steady property true for which no flag matters. -/
theorem restore (hP : Steady P)
    (hflags : ∀ {r : Runner} (flags : FlagSet), P r → P { r with flags }) (hr : P r)
    (saved : Snapshot) (options : Snapshot.Options) : P (saved.restore r options).runner := by
  obtain ⟨-, heq⟩ | ⟨id, later, -, -, -, heq⟩ := saved.restore_cases r options
  · rw [heq]
    exact hflags _ hr
  · rw [heq]
    exact hP.jump (hflags _ hr) id

/-- A command that plays on leaves a steady property true.

**Proof sketch.** One lemma for each command. The two commands that take flags away are none of
those that play on. -/
theorem perform (hP : Steady P) (hr : P r) {c : Command} (hc : c.PlaysOn) :
    P (r.perform c).runner := by
  cases c with
  | start id => exact hP.start hr id
  | newGame => exact hP.newGame hr
  | step => exact hP.step hr
  | choose place => exact hP.choose hr place
  | jump id => exact hP.jump hr id
  | setFlags ids => exact hP.set ids hr
  | install gate => exact hP.ask gate hr
  | load pool => exact hP.load hr hc
  | clearFlags => exact absurd hc id
  | restore saved options => exact absurd hc id

/-- Commands that play on leave a steady property true. -/
theorem performAll (hP : Steady P) (hr : P r) {cs : List Command} (hcs : ∀ c ∈ cs, c.PlaysOn) :
    P (r.performAll cs).runner := by
  induction cs generalizing r with
  | nil => exact hr
  | cons c cs ih =>
    exact ih (hP.perform hr (hcs c (by simp))) fun c' hc' => hcs c' (by simp [hc'])

end Steady

end Runner

end StoryGraph
