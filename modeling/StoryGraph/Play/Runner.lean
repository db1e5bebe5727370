import StoryGraph.Play.Turn

set_option relaxedAutoImplicit false
set_option autoImplicit false

/-!
# Playing a story

A runner walks through a compiled story. Nodes that wait to be entered form a stack; the newest is
tried first, and a node is entered when it is in the story and all flags that it requires are set.
A refusal is no error: it is how a story branches.

## Main definitions

* `Runner.admission` — the node that an entry would reach, or why it is refused.
* `Runner.arrive` — the entry into a node.
* `Runner.step`, `Runner.start`, `Runner.newGame`, `Runner.choose`, `Runner.jump` — the moves.

## Implementation notes

A move answers with a `Turn`: its result, the runner afterwards, and the trace of what happened, in
order. The effect flags of a choice are set before its goal is put on the stack, so they stay set
when the stack is full or the gate closes in between.
-/

namespace StoryGraph

/-- Why a node is not entered. -/
inductive Refusal where
  /-- The node is not in the story. -/
  | missing
  /-- A flag that the node requires is not set. -/
  | blocked
deriving DecidableEq, Repr

/-- The notice of a refused entry. -/
def Refusal.notice (id : NodeId) : Refusal → Notice
  | missing => .entryMissing id
  | blocked => .entryBlocked id

namespace Runner

/-- What the play is doing. -/
def phase (r : Runner) : Phase := r.cursor.phase

/-- The active node. -/
def current? (r : Runner) : Option Node := r.cursor.slot?.bind r.pool.node?

/-! ## Entering a node -/

/-- The slot and the node that an entry would reach, or why it is refused. -/
def admission (r : Runner) (id : NodeId) : Except Refusal (Nat × Node) :=
  match r.pool.find? id with
  | none => .error .missing
  | some (slot, node) =>
    if r.flags.hasAll (r.pool.requiredBy node) then .ok (slot, node) else .error .blocked

/-- Enters a node: its effect flags are set, it becomes the active one, and the presenter hears of
it. -/
def arrive (r : Runner) (id : NodeId) (slot : Nat) (node : Node) : Turn Outcome :=
  let flags := r.flags.setAll (r.pool.effectsOf node)
  { answer := .entered id
    runner := { r with flags, cursor := .active slot }
    trace := [.notice (.entered id slot), .event (.entered node flags)] }

/-- Ends a move in which every entry was refused. -/
def stall (r : Runner) : Turn Outcome :=
  { answer := .stalled, runner := { r with cursor := .idle }, trace := [.notice .stalled] }

/-! ## Moving on -/

/-- Tries the nodes of the stack in turn, and leaves those below the first that is entered. -/
def tryPending (r : Runner) : List NodeId → Turn Outcome
  | [] => { r with pending := [] }.stall
  | id :: below =>
    match r.admission id with
    | .ok (slot, node) =>
      ({ r with pending := below }.arrive id slot node).after [.notice (.popped id)]
    | .error refusal =>
      (r.tryPending below).after [.notice (.popped id), .notice (refusal.notice id)]

/-- Moves on from an active node: to its choices, else to its successor, else to the end. -/
def leave (r : Runner) (slot : Nat) (node : Node) : Turn Outcome :=
  if node.hasChoices then
    { answer := .choicesPresented
      runner := { r with cursor := .awaitingChoice slot }
      trace := [.event (.offered (r.pool.choicesOf node))] }
  else
    match node.next with
    | some next =>
      match r.admission next with
      | .ok (slot, node) => r.arrive next slot node
      | .error refusal => r.stall.after [.notice (refusal.notice next)]
    | none =>
      { answer := .ended
        runner := { r with cursor := .idle }
        trace := [.notice (.endOfContent node.id), .event .ended] }

/-- Moves on when no node waits. -/
def proceed (r : Runner) : Turn Outcome :=
  match r.cursor.slot? with
  | none => { answer := .idle, runner := r }
  | some slot =>
    match r.pool.node? slot with
    | none => { answer := .idle, runner := { r with cursor := .idle } }
    | some node => r.leave slot node

/-- Asks the gate. -/
def askGate (r : Runner) : Bool × Runner :=
  let (busy, gate) := r.gate.ask
  (busy, { r with gate })

/-- Moves the story on by one beat. While the gate is busy nothing happens. Nodes that wait come
first; when none of them can be entered, the play stalls. -/
def step (r : Runner) : Turn Outcome :=
  match r.askGate with
  | (true, r) => { answer := .busy, runner := r }
  | (false, r) => if r.pending.isEmpty then r.proceed else r.tryPending r.pending

/-- Puts a node on the stack and moves on, unless the stack is full. -/
def start (r : Runner) (id : NodeId) : Turn (Except StackFull Outcome) :=
  if r.pending.length ≥ r.capacity then
    { answer := .error ⟨r.capacity⟩, runner := r }
  else
    ({ r with pending := id :: r.pending }.step.after
      [.notice (.pushed id (r.pending.length + 1))]).map .ok

/-- Starts from the beginning: without flags, without waiting nodes, at the start node. -/
def newGame (r : Runner) : Turn (Except StackFull Outcome) :=
  { r with flags := .empty, pending := [], cursor := .idle }.start r.startNode

/-- The choice at a place among those that the active node offers, if the play waits for one. -/
def offered? (r : Runner) (place : Nat) : Option Choice :=
  match r.cursor with
  | .awaitingChoice slot => do
    let node ← r.pool.node? slot
    (r.pool.choicesOf node)[place]?
  | _ => none

/-- Takes a choice: its flags are set, its goal is put on the stack and the story moves on. -/
def take (r : Runner) (c : Choice) : Turn (Except StackFull Outcome) :=
  let r := { r with flags := r.flags.setAll (r.pool.effectsOfChoice c) }
  match c.goto with
  | some goal => r.start goal
  | none => { answer := .ok .awaitingChoice, runner := r }

/-- Takes the choice at a place. While the gate is busy nothing happens, and a choice that is not
on offer is ignored. -/
def choose (r : Runner) (place : Nat) : Turn (Except StackFull Outcome) :=
  match r.askGate with
  | (true, r) => { answer := .ok .busy, runner := r }
  | (false, r) =>
    match r.offered? place with
    | none => { answer := .ok .ignored, runner := r }
    | some c => r.take c

/-- Enters a node whatever flags it requires, and drops the waiting ones. A node that is not in the
story changes nothing. Answers whether the node was entered. -/
def jump (r : Runner) (id : NodeId) : Turn Bool :=
  match r.pool.find? id with
  | none => { answer := false, runner := r, trace := [.notice (.jumpMissing id)] }
  | some (slot, node) => ({ r with pending := [] }.arrive id slot node).map fun _ => true

/-! ## Changes from outside -/

/-- Sets the flags of a list; a single flag is a list of one. -/
def setFlags (r : Runner) (ids : List FlagId) : Runner := { r with flags := r.flags.setAll ids }

/-- Clears all flags. -/
def clearFlags (r : Runner) : Runner := { r with flags := .empty }

/-- Replaces the story. The waiting nodes and the active one belong to the old story and are
dropped; the flags stay. -/
def load (r : Runner) (pool : Pool) : Runner := { r with pool, pending := [], cursor := .idle }

end Runner

end StoryGraph
