import StoryGraph.Proofs.Play.Move

set_option relaxedAutoImplicit false
set_option autoImplicit false

/-!
# Refused entries

A move stalls when every entry that it tries is refused. It has tried at least one then, and could
still enter none of the nodes when it is over.

## Main definitions

* `Signal.tried` — the nodes whose entry was tried, in order.
* `Turn.Refused` — a turn tried some nodes and was refused at each of them.
* `Turn.Barred` — a turn tried some nodes of the story, and a flag of each of them was not set.

## Main results

* `Runner.tryPending_of_stalled` — a search of the stack that stalls has tried the whole stack.
* `Runner.refused_perform` — a command that stalls was refused wherever it tried to enter.
-/

namespace StoryGraph

/-! ## Tried nodes -/

namespace Signal

/-- The node whose entry was tried, if the signal tells of one. -/
def tried? : Signal → Option NodeId
  | notice (.entered id _) | notice (.entryMissing id) | notice (.entryBlocked id) => some id
  | _ => none

/-- The nodes whose entry was tried, in order. -/
def tried (trace : List Signal) : List NodeId := trace.filterMap tried?

/-- No signals tell of no tried node. -/
@[simp] theorem tried_nil : tried [] = [] := rfl

/-- The node that a first signal tells of comes before those of the others. -/
@[simp] theorem tried_cons (σ : Signal) (trace : List Signal) :
    tried (σ :: trace) = σ.tried?.toList ++ tried trace := by
  cases h : σ.tried? <;> simp [tried, h]

/-- The nodes that earlier signals tell of come before those of later ones. -/
@[simp] theorem tried_append (earlier later : List Signal) :
    tried (earlier ++ later) = tried earlier ++ tried later :=
  List.filterMap_append

/-- Taking an id off the stack does not try the node yet. -/
@[simp] theorem tried?_popped (id : NodeId) : tried? (.notice (.popped id)) = none := rfl

/-- A stall tries no node. -/
@[simp] theorem tried?_stalled : tried? (.notice .stalled) = none := rfl

/-- The notice of a refused entry tells which node was tried. -/
@[simp] theorem tried?_refusal (refusal : Refusal) (id : NodeId) :
    tried? (.notice (refusal.notice id)) = some id := by
  cases refusal <;> rfl

end Signal

/-- The turn `t` tried some nodes, and could enter none of them when it was over. -/
structure Turn.Refused {α : Type} (t : Turn α) : Prop where
  tried : Signal.tried t.trace ≠ []
  refused : ∀ id ∈ Signal.tried t.trace, ¬ t.runner.Admits id

/-- The turn `t` tried some nodes, and each of them is in the pool `p` and requires a flag that was
not set when the turn was over. -/
structure Turn.Barred {α : Type} (p : Pool) (t : Turn α) : Prop where
  tried : Signal.tried t.trace ≠ []
  barred : ∀ id ∈ Signal.tried t.trace,
    ∃ n ∈ p.nodes, n.id = id ∧ ∃ f ∈ p.requiredBy n, t.runner.flags.has f = false

namespace Turn.Refused

variable {α β : Type} {t : Turn α}

/-- A turn was refused whatever is made of its answer. -/
theorem map (h : t.Refused) (f : α → β) : (t.map f).Refused := ⟨h.tried, h.refused⟩

/-- A refused turn is still refused when something else happened before it. -/
theorem after (h : t.Refused) {earlier : List Signal} (hearlier : Signal.tried earlier = []) :
    (t.after earlier).Refused := by
  have htrace : Signal.tried (t.after earlier).trace = Signal.tried t.trace := by
    simp [Turn.after, hearlier]
  exact ⟨by rw [htrace]; exact h.tried, by rw [htrace]; exact h.refused⟩

/-- A turn that was refused at nodes of the story lacks a flag of each of them.

**Proof sketch.** A node that was tried and refused is in the story, so it was not missing. Then it
was refused for its flags, and one of them is not set. -/
theorem barred (h : t.Refused) {p : Pool} (hp : p.WellFormed) (hpool : t.runner.pool = p)
    (hin : ∀ id ∈ Signal.tried t.trace, p.contains id = true) : t.Barred p := by
  refine ⟨h.tried, fun id hid => ?_⟩
  obtain ⟨n, hn, rfl⟩ := List.mem_map.1 (hp.contains_iff_mem_ids.1 (hin id hid))
  have hnode : n ∈ p.nodes := by simpa using hn
  refine ⟨n, hnode, rfl, ?_⟩
  -- the node is there, so a flag must be lacking
  have hnot := h.refused n.id hid
  simp only [Runner.Admits, hpool] at hnot
  refine Classical.byContradiction fun hnone => hnot ⟨n, hnode, rfl, fun f hf => ?_⟩
  exact eq_true_of_ne_false fun hunset => hnone ⟨f, hf, hunset⟩

end Turn.Refused

namespace Runner

variable {r : Runner} {id : NodeId}

/-! ## Moves that stall -/

/-- An entry fails for want of the node just when the node is not found. -/
theorem admission_eq_missing_iff : r.admission id = .error .missing ↔ r.pool.find? id = none := by
  unfold admission
  split
  case h_1 hnone => simp [hnone]
  case h_2 slot n hfind => split <;> simp [hfind]

/-- A node whose entry is refused may not be entered. -/
theorem not_admits_of_admission (hp : r.pool.WellFormed) {refusal : Refusal}
    (h : r.admission id = .error refusal) : ¬ r.Admits id := by
  intro hadmits
  obtain ⟨slot, n, hok⟩ := (admits_iff hp).1 hadmits
  rw [h] at hok
  cases hok

/-- A search of the stack that stalls has tried the whole stack, was refused everywhere, and leaves
the flags as they are.

**Proof sketch.** Induction on the stack. An entry would have been another answer, so the top was
refused, and the search of the rest stalled, too. The trace tells the top first, then the rest. -/
theorem tryPending_of_stalled {ids : List NodeId} (h : (r.tryPending ids).answer = .stalled) :
    Signal.tried (r.tryPending ids).trace = ids ∧
      (∀ id ∈ ids, ∃ refusal, r.admission id = .error refusal) ∧
      (r.tryPending ids).runner = { r with pending := [], cursor := .idle } := by
  induction ids with
  | nil => exact ⟨rfl, by simp, rfl⟩
  | cons id below ih =>
    rw [tryPending] at h ⊢
    split
    case h_1 slot n hok =>
      rw [hok] at h
      cases h
    case h_2 refusal hrefused =>
      rw [hrefused] at h
      obtain ⟨htried, hall, hrunner⟩ := ih h
      refine ⟨?_, ?_, hrunner⟩
      · simp [Turn.after, htried]
      · intro other hother
        rcases List.mem_cons.1 hother with rfl | hbelow
        · exact ⟨refusal, hrefused⟩
        · exact hall other hbelow

/-- A search of a stack that stalls was refused.

**Proof sketch.** Such a search has tried the whole stack and was refused at each node, by
`tryPending_of_stalled`, and it has left the flags as they are, so each of them is refused
afterwards as well. -/
theorem refused_tryPending (hp : r.pool.WellFormed) {ids : List NodeId} (hids : ids ≠ [])
    (h : (r.tryPending ids).answer = .stalled) : (r.tryPending ids).Refused := by
  obtain ⟨htried, hall, hrunner⟩ := tryPending_of_stalled h
  constructor
  · rwa [htried]
  · intro id hid
    obtain ⟨refusal, hrefused⟩ := hall id (htried ▸ hid)
    rw [hrunner]
    exact not_admits_of_admission (r := r) hp hrefused

/-- A play that stalls when it leaves a node was refused at the successor of that node.

**Proof sketch.** By what `leave` does. An offer, an end and an entry have other answers. So it was
refused at the successor, which is the one node that it tried. -/
theorem refused_leave (hp : r.pool.WellFormed) {slot : Nat} {n : Node}
    (h : (r.leave slot n).answer = .stalled) : (r.leave slot n).Refused := by
  unfold leave at h ⊢
  split
  case isTrue hchoices => simp [hchoices] at h
  case isFalse hchoices =>
    simp only [hchoices] at h
    split
    case h_2 hnext => simp [hnext] at h
    case h_1 next hnext =>
      simp only [hnext] at h
      split
      case h_1 hok => simp [hok, arrive] at h
      case h_2 refusal hrefused =>
        refine ⟨by simp [Turn.after], fun id hid => ?_⟩
        obtain rfl : id = next := by simpa [Turn.after, stall] using hid
        exact not_admits_of_admission (r := r) hp hrefused

/-- A step that stalls was refused.

**Proof sketch.** By `step_cases`: a stall comes from the search of the stack or from the way on to
a successor. -/
theorem refused_step (hp : r.pool.WellFormed) (h : r.step.answer = .stalled) : r.step.Refused := by
  obtain ⟨-, heq⟩ | ⟨-, hpending, heq⟩ | ⟨-, -, -, heq⟩ | ⟨_, -, -, -, -, heq⟩ |
    ⟨slot, n, -, -, -, -, heq⟩ := step_cases r
  · simp [heq] at h
  · rw [heq] at h ⊢
    exact refused_tryPending (r := r.opened) hp hpending h
  · simp [heq] at h
  · simp [heq] at h
  · rw [heq] at h ⊢
    exact refused_leave (r := r.opened) hp h

/-- A start that stalls was refused. -/
theorem refused_start (hp : r.pool.WellFormed) (h : (r.start id).answer = .ok .stalled) :
    (r.start id).Refused := by
  unfold start at h ⊢
  split
  case isTrue hfull => simp [hfull] at h
  case isFalse hroom =>
    simp only [hroom, if_false] at h
    exact ((refused_step (r := { r with pending := id :: r.pending }) hp (Except.ok.inj h)).after
      rfl).map _

/-- A choice that stalls was refused.

**Proof sketch.** By `choose_cases`: only the start of a goal can stall. -/
theorem refused_choose (hp : r.pool.WellFormed) {place : Nat}
    (h : (r.choose place).answer = .ok .stalled) : (r.choose place).Refused := by
  obtain ⟨-, heq⟩ | ⟨-, -, heq⟩ | ⟨c, -, -, -, heq⟩ | ⟨c, goal, -, -, -, heq⟩ :=
    choose_cases r place
  · simp [heq] at h
  · simp [heq] at h
  · simp [heq] at h
  · rw [heq] at h ⊢
    exact refused_start (r := r.chosen c) hp h

/-- **A command that stalls was refused.** It tried to enter some nodes, and could enter none of
them when it was over.

**Proof sketch.** By the command. Those that put a node on the stack, a step and a choice stall as
their step does; the others have other answers. -/
theorem refused_perform (hp : r.pool.WellFormed) {c : Command}
    (h : (r.perform c).answer = .moved (.ok .stalled)) : (r.perform c).Refused := by
  cases c with
  | start id => exact (refused_start hp (Reply.moved.inj h)).map _
  | newGame =>
    exact (refused_start (r := { r with flags := .empty, pending := [], cursor := .idle }) hp
      (Reply.moved.inj h)).map _
  | step =>
    have hstep := refused_step hp (Except.ok.inj (Reply.moved.inj h))
    exact hstep.map fun o => Reply.moved (.ok o)
  | choose place => exact (refused_choose hp (Reply.moved.inj h)).map _
  | jump | setFlags | clearFlags | install | load | restore => cases h

end Runner

end StoryGraph
