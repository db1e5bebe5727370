import StoryGraph.Check.Reach
import StoryGraph.Proofs.Play.Reached
import StoryGraph.Proofs.Play.Refusal

set_option relaxedAutoImplicit false
set_option autoImplicit false

/-!
# Plays within a part of a story

Some nodes of a story are closed under links when no link leads from them to another node. A play
that is only ever sent to nodes among them stays there: it shows no other node, tries no other, and
has no other on its stack, whatever flags are set and however the gate answers.

## Main definitions

* `Command.goal?` — the node to which a command sends a play.
* `Command.StaysIn` — a command keeps the story and sends the play to no other nodes.
* `Pool.Closed` — no link leads from some nodes of a pool to another.
* `Runner.Within`, `Signal.Within`, `Turn.Within` — plays, signals and turns that stay there.

## Main results

* `Runner.Within.perform` — a command that stays within closed nodes keeps a play there.
* `Runner.Run.within` — so does every run of such commands.
-/

namespace StoryGraph

/-! ## Parts of a story -/

/-- The node to which a command sends a play in which a new game starts at `first`. -/
def Command.goal? (first : NodeId) : Command → Option NodeId
  | start id | jump id => some id
  | newGame => some first
  | restore saved options => if options.jump then saved.nodeId else none
  | step | choose _ | setFlags _ | clearFlags | install _ | load _ => none

/-- A command keeps the story that is played, and sends the play only to nodes that satisfy `Q`. -/
def Command.StaysIn (Q : NodeId → Prop) (first : NodeId) (c : Command) : Prop :=
  (∀ pool, c ≠ .load pool) ∧ ∀ id, c.goal? first = some id → Q id

/-- A command that stays at some nodes stays at more. -/
theorem Command.StaysIn.mono {Q Q' : NodeId → Prop} {first : NodeId} {c : Command}
    (hc : c.StaysIn Q first) (hQ : ∀ id, Q id → Q' id) : c.StaysIn Q' first :=
  ⟨hc.1, fun id hid => hQ id (hc.2 id hid)⟩

/-- No link leads from a node of the pool `p` that satisfies `Q` to one that does not. -/
def Pool.Closed (p : Pool) (Q : NodeId → Prop) : Prop :=
  ∀ n ∈ p.nodes, Q n.id → ∀ target ∈ p.targets n, Q target

/-- A signal tells of no entry but of nodes that satisfy `Q`: those entered are in the pool `p`, and
those missed are not. -/
def Signal.Within (p : Pool) (Q : NodeId → Prop) : Signal → Prop
  | event (.entered n _) => n ∈ p.nodes ∧ Q n.id
  | notice (.entryMissing id) => p.contains id = false ∧ Q id
  | notice (.entered id _) | notice (.entryBlocked id) => Q id
  | _ => True

/-- Whatever was tried in a trace satisfies `Q`.

**Proof sketch.** A node was tried if a signal tells that it was entered, was missing or was
blocked, and each of these signals is bounded by `Q`. -/
theorem Signal.Within.of_mem_tried {p : Pool} {Q : NodeId → Prop} {trace : List Signal}
    (h : ∀ σ ∈ trace, σ.Within p Q) {id : NodeId} (hid : id ∈ Signal.tried trace) : Q id := by
  obtain ⟨σ, hσ, htried⟩ := List.mem_filterMap.1 hid
  have hwithin := h σ hσ
  unfold Signal.tried? at htried
  split at htried
  case h_1 => exact Option.some.inj htried ▸ hwithin
  case h_2 => exact Option.some.inj htried ▸ hwithin.2
  case h_3 => exact Option.some.inj htried ▸ hwithin
  case h_4 => cases htried

/-- The play `r` of the pool `p` stays at nodes that satisfy `Q`: the active node is one of them,
and so are those that wait. -/
structure Runner.Within (p : Pool) (Q : NodeId → Prop) (first : NodeId) (r : Runner) : Prop where
  pool : r.pool = p
  startNode : r.startNode = first
  pending : ∀ id ∈ r.pending, Q id
  active : ∀ slot n, r.cursor.slot? = some slot → p.node? slot = some n → Q n.id

/-- The turn `t` stays at nodes that satisfy `Q`. -/
structure Turn.Within {α : Type} (p : Pool) (Q : NodeId → Prop) (first : NodeId) (t : Turn α) :
    Prop where
  runner : t.runner.Within p Q first
  trace : ∀ σ ∈ t.trace, σ.Within p Q

variable {p : Pool} {Q : NodeId → Prop} {first : NodeId}

namespace Turn.Within

variable {α β : Type} {t : Turn α}

/-- A turn stays within bounds whatever is made of its answer. -/
theorem map (h : t.Within p Q first) (f : α → β) : (t.map f).Within p Q first :=
  ⟨h.runner, h.trace⟩

/-- A turn stays within bounds when the signals that come before it do. -/
theorem after (h : t.Within p Q first) {earlier : List Signal}
    (hearlier : ∀ σ ∈ earlier, σ.Within p Q) : (t.after earlier).Within p Q first :=
  ⟨h.runner, List.forall_mem_append.2 ⟨hearlier, h.trace⟩⟩

end Turn.Within

namespace Runner.Within

variable {r : Runner} {id : NodeId}

/-! ## Changes -/

/-- Other flags and another gate do not lead a play elsewhere. -/
theorem alter (hr : r.Within p Q first) (flags : FlagSet) (gate : Gate) :
    Within p Q first { r with flags, gate } :=
  ⟨hr.pool, hr.startNode, hr.pending, hr.active⟩

/-- A play stays where it is when fewer nodes wait. -/
theorem withPending (hr : r.Within p Q first) {pending : List NodeId}
    (hpending : ∀ id ∈ pending, Q id) : Within p Q first { r with pending } :=
  ⟨hr.pool, hr.startNode, hpending, hr.active⟩

/-- A play that comes to rest is nowhere else. -/
theorem halt (hr : r.Within p Q first) : Within p Q first { r with cursor := .idle } :=
  ⟨hr.pool, hr.startNode, hr.pending, by rintro slot n ⟨⟩⟩

/-- The notice of a refused entry tells of the node that was tried.

**Proof sketch.** A node that was blocked is named as tried. One that was missing is not in the
pool, and is named as tried as well. -/
theorem refuse (hr : r.Within p Q first) (hp : p.WellFormed) (hid : Q id) {refusal : Refusal}
    (h : r.admission id = .error refusal) : (Signal.notice (refusal.notice id)).Within p Q := by
  cases refusal with
  | blocked => exact hid
  | missing =>
    refine ⟨?_, hid⟩
    have hnone := hp.find?_eq_none_iff.1 (hr.pool ▸ admission_eq_missing_iff.1 h)
    rw [Pool.WellFormed.contains_iff, hnone]
    rfl

/-- An arrival stays at the node at which it arrives.

**Proof sketch.** The node that is found under the id is the one in the slot, and its id satisfies
`Q`; so does what the two signals name. -/
theorem arrive (hr : r.Within p Q first) (hp : p.WellFormed) (hid : Q id) {slot : Nat} {n : Node}
    (h : r.pool.find? id = some (slot, n)) : (r.arrive id slot n).Within p Q first := by
  rw [hr.pool] at h
  obtain ⟨hslot, rfl⟩ := hp.find?_eq_some_iff.1 h
  constructor
  · refine ⟨hr.pool, hr.startNode, hr.pending, ?_⟩
    rintro slot' m ⟨⟩ hm
    obtain rfl : n = m := Option.some.inj (hslot.symm.trans hm)
    exact hid
  · have hmem : n ∈ p.nodes := Array.mem_of_getElem? hslot
    simp [Runner.arrive, Signal.Within, hmem, hid]

/-- A stall stays where the play was. -/
theorem stall (hr : r.Within p Q first) : r.stall.Within p Q first :=
  ⟨hr.halt, by simp [Runner.stall, Signal.Within]⟩

/-! ## Moves -/

/-- The search of a stack of nodes that satisfy `Q` stays there.

**Proof sketch.** Induction on the stack. An entry arrives at a node of `Q`, with nodes of `Q` left
on the stack. A refusal tells of a node of `Q`, and the rest of the stack is searched. -/
theorem tryPending (hr : r.Within p Q first) (hp : p.WellFormed) {ids : List NodeId}
    (hids : ∀ id ∈ ids, Q id) : (r.tryPending ids).Within p Q first := by
  induction ids with
  | nil => exact (hr.withPending (by simp)).stall
  | cons id below ih =>
    obtain ⟨hid, hbelow⟩ := List.forall_mem_cons.1 hids
    rw [Runner.tryPending]
    split
    case h_1 slot n hok =>
      refine ((hr.withPending hbelow).arrive hp hid (admission_eq_ok_iff.1 hok).1).after ?_
      simp [Signal.Within]
    case h_2 refusal hrefused =>
      refine (ih hbelow).after ?_
      simpa [Signal.Within] using hr.refuse hp hid hrefused

/-- Moving on from a node that satisfies `Q` stays there, as no link leads away.

**Proof sketch.** An offer stays at the node. The successor is a target of the node, so it satisfies
`Q` as no link leads away; the play arrives there or is refused there. -/
theorem leave (hr : r.Within p Q first) (hp : p.WellFormed) (hclosed : p.Closed Q) {slot : Nat}
    {n : Node} (hslot : r.cursor.slot? = some slot) (hn : p.node? slot = some n) :
    (r.leave slot n).Within p Q first := by
  have hQ : Q n.id := hr.active slot n hslot hn
  unfold Runner.leave
  split
  case isTrue =>
    refine ⟨⟨hr.pool, hr.startNode, hr.pending, ?_⟩, by simp [Signal.Within]⟩
    rintro slot' m ⟨⟩ hm
    exact hr.active slot m hslot hm
  case isFalse =>
    split
    case h_1 next hnext =>
      have hgoal : Q next :=
        hclosed n (Array.mem_of_getElem? hn) hQ next (by simp [Pool.targets, hnext])
      split
      case h_1 slot' m hok => exact hr.arrive hp hgoal (admission_eq_ok_iff.1 hok).1
      case h_2 refusal hrefused =>
        refine hr.stall.after ?_
        simpa using hr.refuse hp hgoal hrefused
    case h_2 => exact ⟨hr.halt, by simp [Signal.Within]⟩

/-- A step stays at nodes that satisfy `Q`.

**Proof sketch.** By `step_cases`. Asking the gate moves nothing. The waiting nodes satisfy `Q`, so
their search is `tryPending`; so does the active node, and leaving it is `leave`. -/
theorem step (hr : r.Within p Q first) (hp : p.WellFormed) (hclosed : p.Closed Q) :
    r.step.Within p Q first := by
  have hopen : r.opened.Within p Q first := hr.alter r.flags _
  obtain ⟨-, heq⟩ | ⟨-, -, heq⟩ | ⟨-, -, -, heq⟩ | ⟨_, -, -, -, -, heq⟩ |
    ⟨slot, n, -, -, hslot, hn, heq⟩ := step_cases r
  · rw [heq]
    exact ⟨hopen, by simp⟩
  · rw [heq]
    exact hopen.tryPending hp hr.pending
  · rw [heq]
    exact ⟨hopen, by simp⟩
  · rw [heq]
    exact ⟨hopen.halt, by simp⟩
  · rw [heq]
    exact hopen.leave hp hclosed hslot (hr.pool ▸ hn)

/-- A start at a node that satisfies `Q` stays there. -/
theorem start (hr : r.Within p Q first) (hp : p.WellFormed) (hclosed : p.Closed Q) (hid : Q id) :
    (r.start id).Within p Q first := by
  unfold Runner.start
  split
  · exact ⟨hr, by simp⟩
  · have hpushed := hr.withPending (List.forall_mem_cons.2 ⟨hid, hr.pending⟩)
    exact ((hpushed.step hp hclosed).after (by simp [Signal.Within])).map _

/-- A new game stays at nodes that satisfy `Q` when its first node does. -/
theorem newGame (hr : r.Within p Q first) (hp : p.WellFormed) (hclosed : p.Closed Q)
    (hfirst : Q first) : r.newGame.Within p Q first := by
  have hnew : Within p Q first { r with flags := .empty, pending := [], cursor := .idle } :=
    ⟨hr.pool, hr.startNode, by simp, by rintro slot n ⟨⟩⟩
  exact hnew.start hp hclosed (hr.startNode ▸ hfirst)

/-- A choice at a node that satisfies `Q` leads to such a node, as no link leads away. -/
theorem goal_of_offered (hr : r.Within p Q first) (hclosed : p.Closed Q) {place : Nat} {c : Choice}
    {goal : NodeId} (hoffer : r.offered? place = some c) (hgoto : c.goto = some goal) : Q goal := by
  obtain ⟨slot, n, hcursor, hn, hc⟩ := offered?_eq_some_iff.1 hoffer
  rw [hr.pool] at hn hc
  have hQ : Q n.id := hr.active slot n (congrArg Cursor.slot? hcursor) hn
  refine hclosed n (Array.mem_of_getElem? hn) hQ goal (List.mem_append_right _ ?_)
  exact List.mem_filterMap.2 ⟨c, List.mem_of_getElem? hc, hgoto⟩

/-- A choice at a node that satisfies `Q` stays there, as no link leads away.

**Proof sketch.** By `choose_cases`. Only a choice with a goal moves, and its goal is a target of
the active node, so it satisfies `Q`, by `goal_of_offered`. -/
theorem choose (hr : r.Within p Q first) (hp : p.WellFormed) (hclosed : p.Closed Q) (place : Nat) :
    (r.choose place).Within p Q first := by
  have hopen : r.opened.Within p Q first := hr.alter r.flags _
  have hchosen (c : Choice) : (r.chosen c).Within p Q first := hr.alter _ _
  obtain ⟨-, heq⟩ | ⟨-, -, heq⟩ | ⟨c, -, -, -, heq⟩ | ⟨c, goal, -, hoffer, hgoto, heq⟩ :=
    choose_cases r place
  · rw [heq]
    exact ⟨hopen, by simp⟩
  · rw [heq]
    exact ⟨hopen, by simp⟩
  · rw [heq]
    exact ⟨hchosen c, by simp⟩
  · rw [heq]
    exact (hchosen c).start hp hclosed (hr.goal_of_offered hclosed hoffer hgoto)

/-- A jump to a node that satisfies `Q` stays there. -/
theorem jump (hr : r.Within p Q first) (hp : p.WellFormed) (hid : Q id) :
    (r.jump id).Within p Q first := by
  unfold Runner.jump
  split
  case h_1 => exact ⟨hr, by simp [Signal.Within]⟩
  case h_2 slot n hfind =>
    have hnone : Within p Q first { r with pending := [] } := hr.withPending (by simp)
    exact (hnone.arrive hp hid hfind).map _

/-- A snapshot whose node satisfies `Q` brings a play there, if anywhere.

**Proof sketch.** By `restore_cases`. Setting flags moves nothing, a jump goes to the saved node,
and the notice behind it names no node that was tried. -/
theorem restore (hr : r.Within p Q first) (hp : p.WellFormed) {saved : Snapshot}
    {options : Snapshot.Options}
    (hid : ∀ id, saved.nodeId = some id → options.jump = true → Q id) :
    (saved.restore r options).Within p Q first := by
  obtain ⟨-, heq⟩ | ⟨id, later, hnode, hjump, hlater, heq⟩ := saved.restore_cases r options
  · rw [heq]
    exact ⟨hr.alter _ r.gate, by simp⟩
  · rw [heq]
    have hturn := (hr.alter (saved.flagsOver options r.flags) r.gate).jump hp (hid id hnode hjump)
    refine ⟨hturn.runner, List.forall_mem_append.2 ⟨hturn.trace, fun σ hσ => ?_⟩⟩
    rw [hlater σ hσ]
    trivial

/-! ## Commands -/

/-- **A command that stays at nodes that satisfy `Q` keeps a play there**, when no link leads away
from them.

**Proof sketch.** By the command. One that sends the play to a node sends it to a node of `Q`, by
assumption; all others follow links or stay, and none of them loads another story. -/
theorem perform (hr : r.Within p Q first) (hp : p.WellFormed) (hclosed : p.Closed Q) {c : Command}
    (hc : c.StaysIn Q first) : (r.perform c).Within p Q first := by
  obtain ⟨hload, hgoal⟩ := hc
  cases c with
  | start id => exact (hr.start hp hclosed (hgoal id rfl)).map _
  | newGame => exact (hr.newGame hp hclosed (hgoal first rfl)).map _
  | step => exact (hr.step hp hclosed).map fun o => Reply.moved (.ok o)
  | choose place => exact (hr.choose hp hclosed place).map _
  | jump id => exact (hr.jump hp (hgoal id rfl)).map _
  | setFlags ids => exact ⟨hr.alter _ r.gate, by simp [Runner.perform]⟩
  | clearFlags => exact ⟨hr.alter _ r.gate, by simp [Runner.perform]⟩
  | install gate => exact ⟨hr.alter r.flags gate, by simp [Runner.perform]⟩
  | load pool => exact absurd rfl (hload pool)
  | restore saved options =>
    refine (hr.restore hp fun id hid hjump => hgoal id ?_).map _
    rw [Command.goal?, if_pos hjump, hid]

end Runner.Within

/-- **A run of commands that stay at nodes that satisfy `Q` keeps a play there**, when no link leads
away from them.

**Proof sketch.** Induction on the run. Each command is `perform`, and what it signals is bounded as
what came before is. Overwriting flags moves nothing. -/
theorem Runner.Run.within {r s : Runner} {trace : List Signal}
    (hs : Run (Command.StaysIn Q first) r trace s) (hp : p.WellFormed) (hclosed : p.Closed Q)
    (hr : r.Within p Q first) : s.Within p Q first ∧ ∀ σ ∈ trace, σ.Within p Q := by
  induction hs with
  | start => exact ⟨hr, by simp⟩
  | perform _ c hc ih =>
    have hturn := ih.1.perform hp hclosed hc
    exact ⟨hturn.runner, List.forall_mem_append.2 ⟨ih.2, hturn.trace⟩⟩
  | overwrite _ flags ih => exact ⟨ih.1.alter flags _, ih.2⟩

end StoryGraph
