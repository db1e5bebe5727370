import StoryGraph.Proofs.Play.Step

set_option relaxedAutoImplicit false
set_option autoImplicit false

/-!
# What a command comes to

A step comes to one of six things. Every other command sets or clears some flags first, and then
steps, enters a node at once, or is over; so it shows at most one thing, and which one decides where
the play stands afterwards.

## Main definitions

* `Runner.Beat` — what a step can come to.
* `Runner.flagsFor` — the flags with which a command begins to move.
* `Runner.Shows` — what a command can come to, as far as it is seen: a node was entered, choices
  were offered, the story ended, or nothing was shown.

## Main results

* `Runner.Valid.beat_step` — every step of a valid play comes to one of these things.
* `Runner.Valid.shows_perform` — so does every command.
-/

namespace StoryGraph

/-- The outcome of a move that showed something. -/
def Outcome.isShown : Outcome → Bool
  | entered _ | choicesPresented | ended => true
  | busy | awaitingChoice | stalled | idle | ignored => false

/-- The reply to a command that showed something. -/
def Reply.isShown : Reply → Bool
  | moved (.ok o) => o.isShown
  | entered yes => yes
  | moved (.error _) | done => false

namespace Runner

variable {r s : Runner}

/-! ## Steps -/

/-- What the step `t` of the play `r` can come to. -/
inductive Beat (r : Runner) (t : Turn Outcome) : Prop where
  | busy (hgate : r.gate.ask.1 = true) (h : t = { answer := .busy, runner := r.opened })
  /-- Of the waiting nodes, those below the one that was entered go on waiting. -/
  | enters (n : Node) (below : List NodeId) (hn : n ∈ r.pool.nodes)
      (hbelow : below <:+ r.pending.tail) (h : r.Enters n below t)
  | stalls (h : r.Stalls t)
  | offers (n : Node) (hpending : r.pending = []) (hchoices : r.pool.choicesOf n ≠ [])
      (h : r.Offers n t)
  | ends (hpending : r.pending = []) (h : r.Ends t)
  | rests (hpending : r.pending = []) (hphase : r.phase = .idle) (h : r.Rests t)

/-- The search of the stack enters the first node that it may, and stalls without one.

**Proof sketch.** Look for the first waiting node that may be entered. If there is none, all are
refused, by `stalls_tryPending`. If there is one, it is entered after those above it were refused,
by `enters_tryPending`, and those below it go on waiting. -/
theorem beat_tryPending (hp : r.pool.WellFormed) : r.Beat (r.opened.tryPending r.pending) := by
  classical
  cases hfind : r.pending.find? fun id => decide (r.Admits id) with
  | none =>
    refine .stalls (stalls_tryPending hp fun id hid => ?_)
    simpa using List.find?_eq_none.1 hfind id hid
  | some id =>
    -- the stack is split at the first node that may be entered; all above it are refused
    obtain ⟨hid, above, below, hpending, habove⟩ := List.find?_eq_some_iff_append.1 hfind
    obtain ⟨n, hn, -, henters⟩ : ∃ n ∈ r.pool.nodes, n.id = id ∧
        r.Enters n below (r.opened.tryPending (above ++ id :: below)) :=
      enters_tryPending hp (by simpa using habove) (by simpa using hid)
    have hbelow : below <:+ r.pending.tail := by
      rw [hpending]
      cases above with
      | nil => exact List.suffix_refl below
      | cons a above => exact ⟨above ++ [id], by simp⟩
    rw [hpending]
    exact .enters n below hn hbelow henters

/-- A play that leaves its active node offers its choices, else it enters the successor, stalls
before it, or comes to the end.

**Proof sketch.** By what `leave` looks at, in its order: a node with choices offers them; one
without them and without a successor ends the story; a successor is entered if the play admits it,
and else the play stalls. -/
theorem beat_leave (hp : r.pool.WellFormed) (hpending : r.pending = []) {slot : Nat} {n : Node}
    (hn : r.pool.node? slot = some n) : r.Beat (r.opened.leave slot n) := by
  have hmem : n ∈ r.pool.nodes := Array.mem_of_getElem? hn
  cases hchoices : n.hasChoices with
  | true =>
    exact .offers n hpending ((hp.hasChoices_iff hmem).1 hchoices) (offers_leave hn hchoices)
  | false =>
    cases hnext : n.next with
    | none => exact .ends hpending (ends_leave hchoices hnext)
    | some next =>
      by_cases hadmits : r.Admits next
      · obtain ⟨m, hm, -, henters⟩ := enters_leave hp hpending hchoices hnext hadmits
        exact .enters m [] hm List.nil_suffix henters
      · exact .stalls (stalls_leave hp hpending hchoices hnext hadmits)

/-- **What a step of a valid play comes to.**

**Proof sketch.** The cases of `step_cases` are the kinds of a beat. One more case would be a play
that stands at a node that is not in its story, which a valid play does not. -/
theorem Valid.beat_step (hr : r.Valid) : r.Beat r.step := by
  obtain ⟨hgate, heq⟩ | ⟨-, -, heq⟩ | ⟨-, hpending, hslot, heq⟩ | ⟨slot, -, -, hslot, hnone, -⟩ |
    ⟨slot, n, -, hpending, -, hn, heq⟩ := step_cases r
  · exact .busy hgate heq
  · rw [heq]
    exact beat_tryPending hr.wellFormed
  · refine .rests hpending (phase_eq_idle_iff.2 hslot) ?_
    rw [heq]
    exact ⟨rfl, rfl, rfl⟩
  · -- the node at which a play stands is not missing
    obtain ⟨n, hn⟩ := hr.active slot hslot
    rw [hnone] at hn
    cases hn
  · rw [heq]
    exact beat_leave hr.wellFormed hpending hn

/-- A step asks the gate once, whatever it comes to. -/
theorem Beat.spares {t : Turn Outcome} (h : r.Beat t) : r.Spares t := by
  cases h with
  | busy _ h =>
    rw [h]
    exact ⟨rfl, rfl, rfl, rfl⟩
  | enters _ _ _ _ h => exact h.toSpares
  | stalls h => exact h.toSpares
  | offers _ _ _ h => exact h.toSpares
  | ends _ h => exact h.toSpares
  | rests _ _ h => exact ⟨by rw [h.runner, opened], by rw [h.runner, opened],
      by rw [h.runner, opened], by rw [h.runner, opened]⟩

/-! ## Commands -/

/-- The flags with which a command begins to move: a node that it enters adds its own to them. -/
def flagsFor (r : Runner) : Command → FlagSet
  | .newGame | .clearFlags => .empty
  | .setFlags ids => r.flags.setAll ids
  | .restore saved options => saved.flagsOver options r.flags
  | .choose place =>
    match r.gate.ask.1, r.offered? place with
    | false, some c => r.flags.setAll (r.pool.effectsOfChoice c)
    | _, _ => r.flags
  | .start _ | .step | .jump _ | .install _ | .load _ => r.flags

/-- What the turn `t` of the play `r` can come to, as far as it is seen, when `flags` are set at
first and the play may be sent straight to `goal`. -/
inductive Shows (r : Runner) (flags : FlagSet) (goal : Option NodeId) (t : Turn Reply) : Prop where
  | entered (n : Node) (hn : n ∈ r.pool.nodes) (hphase : t.runner.phase = .nodeActive)
      (hcurrent : t.runner.current? = some n)
      (hflags : ∀ f, t.runner.flags.has f = true ↔
        flags.has f = true ∨ FlagSet.InRange f ∧ f ∈ r.pool.effectsOf n)
      (hevents : Signal.events t.trace = [.entered n t.runner.flags])
      (hanswer : t.answer = .moved (.ok (.entered n.id)) ∨
        t.answer = .entered true ∧ goal = some n.id)
  | offered (n : Node) (hchoices : r.pool.choicesOf n ≠ [])
      (hphase : t.runner.phase = .awaitingChoice) (hcurrent : t.runner.current? = some n)
      (hpool : t.runner.pool = r.pool) (hflags : t.runner.flags = flags)
      (hevents : Signal.events t.trace = [.offered (r.pool.choicesOf n)])
      (hanswer : t.answer = .moved (.ok .choicesPresented))
  | ended (hphase : t.runner.phase = .idle) (hflags : t.runner.flags = flags)
      (hevents : Signal.events t.trace = [.ended]) (hanswer : t.answer = .moved (.ok .ended))
  /-- The play came to rest, or stands where it stood. -/
  | nothing (hstands : t.runner.phase = .idle ∨
        t.runner.cursor = r.cursor ∧ t.runner.pool = r.pool)
      (hflags : t.runner.flags = flags) (hevents : Signal.events t.trace = [])
      (hanswer : t.answer.isShown = false)

variable {flags : FlagSet} {goal : Option NodeId} {t : Turn Reply}

/-- What a step comes to is seen.

**Proof sketch.** One case for each kind of beat. A node that is entered, an offer and an end are
seen in the one event of the turn; a busy gate, a stall and a play that rests show nothing and keep
the place, or leave it. -/
theorem Beat.shows {u : Turn Outcome} (h : r.Beat u) :
    r.Shows r.flags none (u.map fun o => .moved (.ok o)) := by
  cases h with
  | busy _ h =>
    rw [h]
    exact .nothing (.inr ⟨rfl, rfl⟩) rfl rfl rfl
  | enters n _ hn _ h =>
    exact .entered n hn h.phase h.current h.flags h.events (.inl (by simp [Turn.map, h.answer]))
  | stalls h =>
    refine .nothing (.inl h.phase) h.flags h.events ?_
    simp [Turn.map, h.answer, Reply.isShown, Outcome.isShown]
  | offers n _ hchoices h =>
    exact .offered n hchoices h.phase h.current h.pool h.flags h.events
      (by simp [Turn.map, h.answer])
  | ends _ h =>
    exact .ended h.phase h.flags h.events (by simp [Turn.map, h.answer])
  | rests _ _ h =>
    have hrunner : (u.map fun o => Reply.moved (.ok o)).runner = r.opened := h.runner
    refine .nothing (.inr ⟨?_, ?_⟩) ?_ (congrArg Signal.events h.trace) ?_
    · rw [hrunner, opened]
    · rw [hrunner, opened]
    · rw [hrunner, opened]
    · simp [Turn.map, h.answer, Reply.isShown, Outcome.isShown]

namespace Shows

/-- Notices are not seen, wherever they stand in a trace. -/
theorem retell (h : r.Shows flags goal t) {trace : List Signal}
    (htrace : Signal.events trace = Signal.events t.trace) :
    r.Shows flags goal { t with trace } := by
  cases h with
  | entered n hn hphase hcurrent hflags hevents hanswer =>
    exact .entered n hn hphase hcurrent hflags (htrace.trans hevents) hanswer
  | offered n hchoices hphase hcurrent hpool hflags hevents hanswer =>
    exact .offered n hchoices hphase hcurrent hpool hflags (htrace.trans hevents) hanswer
  | ended hphase hflags hevents hanswer =>
    exact .ended hphase hflags (htrace.trans hevents) hanswer
  | nothing hstands hflags hevents hanswer =>
    exact .nothing hstands hflags (htrace.trans hevents) hanswer

/-- A turn is seen alike from a play that stands in the same place, or that is made to rest
first.

**Proof sketch.** What is seen speaks of the pool, which is the same, and not of the place before.
The place matters only where nothing is seen: then the play either rests, or stands where it stood.
-/
theorem of_cursor (h : s.Shows flags goal t) (hpool : s.pool = r.pool)
    (hcursor : s.cursor = .idle ∨ s.cursor = r.cursor) : r.Shows flags goal t := by
  cases h with
  | entered n hn hphase hcurrent hflags hevents hanswer =>
    rw [hpool] at hn hflags
    exact .entered n hn hphase hcurrent hflags hevents hanswer
  | offered n hchoices hphase hcurrent hpool' hflags hevents hanswer =>
    rw [hpool] at hchoices hpool' hevents
    exact .offered n hchoices hphase hcurrent hpool' hflags hevents hanswer
  | ended hphase hflags hevents hanswer => exact .ended hphase hflags hevents hanswer
  | nothing hstands hflags hevents hanswer =>
    refine .nothing ?_ hflags hevents hanswer
    obtain hidle | ⟨hsame, hpool'⟩ := hstands
    · exact .inl hidle
    · obtain hidle | hs := hcursor
      · left
        rw [phase, hsame, hidle]
        rfl
      · exact .inr ⟨hsame.trans hs, hpool'.trans hpool⟩

/-- The flags after a turn are those it began with and the effects of the node that it shows. -/
theorem has_iff (h : r.Shows flags goal t) {f : FlagId} : t.runner.flags.has f = true ↔
      flags.has f = true ∨ FlagSet.InRange f ∧
        ∃ n handed, .entered n handed ∈ Signal.events t.trace ∧ f ∈ r.pool.effectsOf n := by
  cases h with
  | entered n _ _ _ hflags hevents _ => simp [hflags, hevents]
  | offered _ _ _ _ _ hflags hevents _ => simp [hflags, hevents]
  | ended _ hflags hevents _ => simp [hflags, hevents]
  | nothing _ hflags hevents _ => simp [hflags, hevents]

/-- A turn that offered choices awaits one of them at a node that has them. -/
theorem offers (h : r.Shows flags goal t) {cs : List Choice}
    (hshown : .offered cs ∈ Signal.events t.trace) :
    cs ≠ [] ∧ ∃ n, t.runner.current? = some n ∧ cs = r.pool.choicesOf n := by
  cases h with
  | offered n hchoices _ hcurrent _ _ hevents _ =>
    obtain rfl : cs = r.pool.choicesOf n := by simpa [hevents] using hshown
    exact ⟨hchoices, n, hcurrent, rfl⟩
  | entered _ _ _ _ _ hevents _ => simp [hevents] at hshown
  | ended _ _ hevents _ => simp [hevents] at hshown
  | nothing _ _ hevents _ => simp [hevents] at hshown

end Shows

namespace Valid

/-- What a start comes to: a step with one more node on the stack, if there is room.

**Proof sketch.** With room on the stack it is a step of the play with the node pushed, which stands
where this one does; the notice of the push is not seen. Without room nothing is done. -/
theorem shows_start (hr : r.Valid) (id : NodeId) :
    r.Shows r.flags none (r.perform (.start id)) := by
  rcases Nat.lt_or_ge r.pending.length r.capacity with hroom | hfull
  · have hpushed : Valid { r with pending := id :: r.pending } := steady_valid.push id hr hroom
    rw [perform, start_of_room hroom]
    refine (hpushed.beat_step.shows.retell ?_).of_cursor rfl (.inr rfl)
    rfl
  · rw [perform, start_of_full hfull]
    exact .nothing (.inr ⟨rfl, rfl⟩) rfl rfl rfl

/-- What a new game comes to: a start without flags. -/
theorem shows_newGame (hr : r.Valid) : r.Shows .empty none (r.perform .newGame) :=
  ((steady_valid.renew hr).shows_start r.startNode).of_cursor rfl (.inl rfl)

/-- What a choice comes to: a start of its goal, if it is on offer and has one.

**Proof sketch.** By `choose_cases`. At a busy gate, without an offer, and for a choice without a
goal nothing moves. A choice with a goal starts it with the flags of the choice set, and that play
stands where this one did, so `of_cursor` applies. -/
theorem shows_choose (hr : r.Valid) (place : Nat) :
    r.Shows (r.flagsFor (.choose place)) none (r.perform (.choose place)) := by
  obtain ⟨hgate, heq⟩ | ⟨hgate, hoffer, heq⟩ | ⟨c, hgate, hoffer, -, heq⟩ |
    ⟨c, goal, hgate, hoffer, -, heq⟩ := choose_cases r place
  · rw [perform, heq, flagsFor, hgate]
    exact .nothing (.inr ⟨rfl, rfl⟩) rfl rfl rfl
  · rw [perform, heq, flagsFor, hgate, hoffer]
    exact .nothing (.inr ⟨rfl, rfl⟩) rfl rfl rfl
  · rw [perform, heq, flagsFor, hgate, hoffer]
    exact .nothing (.inr ⟨rfl, rfl⟩) rfl rfl rfl
  · have hchosen : (r.chosen c).Valid := steady_valid.set _ (steady_valid.ask _ hr)
    rw [perform, heq, flagsFor, hgate, hoffer]
    exact (hchosen.shows_start goal).of_cursor rfl (.inr rfl)

/-- What a jump comes to: the node is entered, if it is in the story.

**Proof sketch.** A node that is found is entered at once, whatever it requires and whatever waits.
-/
theorem shows_jump (hr : r.Valid) (id : NodeId) :
    r.Shows r.flags (some id) (r.perform (.jump id)) := by
  rw [perform, jump]
  split
  case h_1 => exact .nothing (.inr ⟨rfl, rfl⟩) rfl rfl rfl
  case h_2 slot n hfind =>
    obtain ⟨hslot, rfl⟩ := hr.wellFormed.find?_eq_some_iff.1 hfind
    refine .entered n (Array.mem_of_getElem? hslot) rfl hslot (fun f => ?_) rfl (.inr ⟨rfl, rfl⟩)
    simp [Turn.map, arrive, FlagSet.has_setAll]

/-- What the restoring of a snapshot comes to: a jump, if there is a node to jump to.

**Proof sketch.** By `restore_cases`. Without a node to jump to, flags are set and the play stays.
With one it is a jump, from a play that stands where this one did, and the notice behind it is not
seen. -/
theorem shows_restore (hr : r.Valid) (saved : Snapshot) (options : Snapshot.Options) :
    r.Shows (saved.flagsOver options r.flags) saved.nodeId
      (r.perform (.restore saved options)) := by
  obtain ⟨-, heq⟩ | ⟨id, later, hid, -, hlater, heq⟩ := saved.restore_cases r options
  · rw [perform, heq]
    exact .nothing (.inr ⟨rfl, rfl⟩) rfl rfl rfl
  · have hset : Valid { r with flags := saved.flagsOver options r.flags } := hr.overwrite _
    have hquiet : Signal.events later = [] := Signal.events_eq_nil fun σ hσ => ⟨_, hlater σ hσ⟩
    rw [perform, heq, hid]
    refine ((hset.shows_jump id).retell ?_).of_cursor rfl (.inr rfl)
    rw [Signal.events_append, hquiet, List.append_nil]
    rfl

/-- **What a command comes to.**

**Proof sketch.** One lemma for each command that moves. A story that is loaded makes the play rest,
and the other commands leave it where it is. -/
theorem shows_perform (hr : r.Valid) (c : Command) :
    ∃ goal, r.Shows (r.flagsFor c) goal (r.perform c) := by
  cases c with
  | start id => exact ⟨_, hr.shows_start id⟩
  | newGame => exact ⟨_, hr.shows_newGame⟩
  | step => exact ⟨_, hr.beat_step.shows⟩
  | choose place => exact ⟨_, hr.shows_choose place⟩
  | jump id => exact ⟨_, hr.shows_jump id⟩
  | restore saved options => exact ⟨_, hr.shows_restore saved options⟩
  | load pool => exact ⟨none, .nothing (.inl rfl) rfl rfl rfl⟩
  | setFlags | clearFlags | install => exact ⟨none, .nothing (.inr ⟨rfl, rfl⟩) rfl rfl rfl⟩

end Valid

end Runner

end StoryGraph
