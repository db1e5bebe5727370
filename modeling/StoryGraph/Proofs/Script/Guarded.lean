import StoryGraph.Proofs.Check.Guarded
import StoryGraph.Proofs.Graph.Guarded
import StoryGraph.Proofs.Play.Reached
import StoryGraph.Proofs.Script.Columns
import StoryGraph.Proofs.Script.Editing
import StoryGraph.Proofs.Script.Sizes

set_option relaxedAutoImplicit false
set_option autoImplicit false

/-!
# Guarded compiling

A script compiled, and a build edited, by guarded steps: the cells of a row are written one by one,
and the pool grows in the guarded ways. Nothing that can be done to a build is ever held up, and
nothing that is done with what it leaves, so the guards can be left out.

## Main definitions

* `GuardedBuilding` — a step of the work on a build that may be held up.
* `GuardedBuilding.Follows` — a guarded step is not held up, and does what the step does.
* `Entry.guardedEnact`, `Script.guardedBuild` — the work that an entry and a script ask for.
* `Edit.Held` — what an edit is given fits into memory.
* `Build.guardedEdit`, `Build.guardedEdited` — the build after edits.
* `Build.Unhindered` — no guard is ever hit.

## Main results

* `Entry.follows_guardedEnact`, `Script.follows_guardedBuild` — no entry and no script is held up.
* `Build.guardedEdit_eq`, `Build.guardedEditAll_eq` — no edit and no edits are held up.
* `Build.unhindered` — no guard is ever hit, whatever is done.
-/

namespace StoryGraph

/-- A step of the work on a build, which may fail for a cause of type `ε`, and may be held up. -/
abbrev GuardedBuilding (ε α : Type) := ExceptT ε (StateT Build Option) α

namespace GuardedBuilding

variable {ε α β : Type}

/-- How a step ends: its result, and the build that it leaves. -/
def ending : EStateM.Result ε Build α → Except ε α × Build
  | .ok a b => (.ok a, b)
  | .error e b => (.error e, b)

/-- A step with nothing in it to guard. -/
def plain (w : Building ε α) : GuardedBuilding ε α := ExceptT.mk fun b => some (ending (w b))

/-- Lets the pool grow in a guarded way. When a part is full, the pool stays as it was. -/
def grow (f : Pool → ExceptT Overflow Option (α × Pool)) : GuardedBuilding Overflow α :=
  ExceptT.mk fun b => (f b.pool).run.map fun
    | .ok (a, pool) => (.ok a, { b with pool })
    | .error o => (.error o, b)

/-- Declares a node. -/
def upsert (id : NodeId) (d : Draft) : GuardedBuilding Overflow Pool.Declared :=
  grow (·.guardedUpsert id d)

/-- The slot of a node, which becomes a placeholder if it is not there. -/
def ensure (id : NodeId) : GuardedBuilding Overflow Nat := ExceptT.mk fun b =>
  if b.pool.contains id then (grow (·.guardedEnsure id)).run b
  else (grow (·.guardedEnsure id)).run { b with journal := b.journal.push (.placeholder id) }

/-- Appends flags, and names the run that they form. -/
def pushFlags (ids : List FlagId) : GuardedBuilding Overflow Span := grow (·.guardedPushFlags ids)

/-- Appends a choice to the node in a slot, and notices when the run of its choices breaks. -/
def attach (slot : Nat) (c : Choice) : GuardedBuilding Overflow Unit :=
  ExceptT.mk fun b => (b.pool.guardedAttach slot c).run.map fun
    | .ok pool => (.ok (), { pool, journal := b.journal ++ (b.pool.brokenRun? slot).toArray })
    | .error o => (.error o, b)

/-- Work on behalf of a line: if a part of the pool is full, that is the fault of the line. -/
def onLine (line : Nat) (work : GuardedBuilding Overflow α) : GuardedBuilding Fault α :=
  ExceptT.adapt (.full line) work

/-! ## Steps that are not held up -/

/-- The guarded step `g` is not held up by any build that can be, and does what `w` does. -/
def Follows (g : GuardedBuilding ε α) (w : Building ε α) : Prop :=
  ∀ b : Build, b.pool.Made → g.run b = some (ending (w b))

/-- Work without a guard follows itself. -/
theorem follows_plain (w : Building ε α) : Follows (plain w) w := fun _ _ => rfl

/-- Giving a value back needs no guard. -/
theorem follows_pure (a : α) : Follows (pure a : GuardedBuilding ε α) (pure a) := fun _ _ => rfl

/-- Failing with an error needs no guard. -/
theorem follows_throw (e : ε) : Follows (throw e : GuardedBuilding ε α) (throw e) :=
  fun _ _ => rfl

/-- Reading the build needs no guard. -/
theorem follows_get : Follows (get : GuardedBuilding ε Build) get := fun _ _ => rfl

/-- Steps that are not held up one after the other are not held up together, when the first of them
leaves a pool that can be.

**Proof sketch.** By how the first step ends. If it succeeds, it leaves a pool that can be, by `hw`,
and the second step follows from there; if it fails, so does the guarded one. -/
theorem Follows.bind {g : GuardedBuilding ε α} {w : Building ε α} {f : α → GuardedBuilding ε β}
    {v : α → Building ε β} (hg : Follows g w) (hw : Building.Keeps (·.pool.Made) w)
    (hf : ∀ a, Follows (f a) (v a)) : Follows (g >>= f) (w >>= v) := by
  intro b hb
  have hmade := hw b hb
  rw [ExceptT.run_bind]
  change (g.run b >>= _) = _
  rw [hg b hb]
  cases hwb : w b with
  | ok a b₁ =>
    rw [Building.bind_of_ok hwb]
    simp only [Building.buildAfter, hwb] at hmade
    exact hf a b₁ hmade
  | error e b₁ =>
    rw [Building.bind_eq_error.2 (.inl hwb)]
    rfl

/-- Growth is not held up when the pool's guarded growth is not. -/
theorem follows_grow {f : Pool → ExceptT Overflow Option (α × Pool)}
    {h : Pool → Except Overflow (α × Pool)}
    (hf : ∀ p : Pool, p.WellFormed → (f p).run = some (h p)) :
    Follows (grow f) (Building.grow h) := by
  intro b hb
  change (f b.pool).run.map _ = some (ending (Building.grow h b))
  rw [hf b.pool hb.wellFormed, Building.grow]
  cases h b.pool <;> rfl

/-- Declaring a node with its guards does what it does without them. -/
theorem follows_upsert (id : NodeId) (d : Draft) :
    Follows (upsert id d) (Building.upsert id d) :=
  follows_grow fun _ hp => hp.run_guardedUpsert id d

/-- Asking for a node with its guards does what it does without them, whether the node is new or
not. -/
theorem follows_ensure (id : NodeId) : Follows (ensure id) (Building.ensure id) := by
  have hgrow := follows_grow fun _ hp => Pool.WellFormed.run_guardedEnsure hp id
  intro b hb
  change (if b.pool.contains id then _ else _) = _
  unfold Building.ensure
  split
  · exact hgrow b hb
  · -- the notice of a placeholder leaves the pool as it is
    exact hgrow _ hb

/-- Appending flags with the guards does what it does without them, for any list that fits in
memory. -/
theorem follows_pushFlags {ids : List FlagId} (hids : ids.length ≤ Word.largestSize) :
    Follows (pushFlags ids) (Building.pushFlags ids) :=
  follows_grow fun _ hp => hp.run_guardedPushFlags hids

/-- Attaching a choice with its guards does what it does without them. -/
theorem follows_attach (slot : Nat) (c : Choice) :
    Follows (attach slot c) (Building.attach slot c) := by
  intro b hb
  change (b.pool.guardedAttach slot c).run.map _ = _
  rw [hb.wellFormed.run_guardedAttach slot c, Building.attach]
  cases b.pool.attach slot c <;> rfl

/-- Work on behalf of a line is not held up when the work is not. -/
theorem Follows.onLine {g : GuardedBuilding Overflow α} {w : Building Overflow α}
    (hg : Follows g w) (line : Nat) : Follows (onLine line g) (Building.onLine line w) := by
  intro b hb
  unfold GuardedBuilding.onLine Building.onLine ExceptT.adapt EStateM.adaptExcept
  change g.run b >>= _ = _
  rw [hg b hb]
  cases w b <;> rfl

end GuardedBuilding

open GuardedBuilding

/-! ## Entries -/

namespace Entry

/-- The work that the entry on a line asks for. -/
def guardedEnact (line : Nat) : Entry → GuardedBuilding Fault Unit
  | .node id said => GuardedBuilding.onLine line do
    let effects ← GuardedBuilding.pushFlags said.effects
    let requires ← GuardedBuilding.pushFlags said.requires
    let declared ← GuardedBuilding.upsert id (said.draft effects requires)
    unless declared.inserted do
      GuardedBuilding.plain (Building.note (.redeclared id line))
  | .choice parent label goto flags => GuardedBuilding.onLine line do
    let slot ← GuardedBuilding.ensure parent
    let effects ← GuardedBuilding.pushFlags flags
    GuardedBuilding.attach slot { label, goto, effects }
  | .unlabelled => GuardedBuilding.plain (Building.note (.unlabelledChoice line))
  | .unaddressed cell => throw (.unaddressed line cell)

/-- No entry is held up whose lists of flags fit into memory.

**Proof sketch.** By the entry. It is a sequence of growths, each of which follows the unguarded
one, by its own lemma. Between two of them the pool stays one that can be made, so `Follows.bind`
joins them; the lists of flags are those that fit by assumption. -/
theorem follows_guardedEnact (line : Nat) {e : Entry}
    (he : ∀ ids ∈ e.flagLists, ids.length ≤ Word.largestSize) :
    Follows (e.guardedEnact line) (e.enact line) := by
  have hmade := Script.lasting_made
  cases e with
  | node id said =>
    have heffects := he said.effects (by simp [flagLists])
    have hrequires := he said.requires (by simp [flagLists])
    refine Follows.onLine ?_ line
    refine (follows_pushFlags heffects).bind (hmade.keeps_pushFlags _) fun effects => ?_
    refine (follows_pushFlags hrequires).bind (hmade.keeps_pushFlags _) fun requires => ?_
    refine (follows_upsert id _).bind (hmade.keeps_upsert _ _) fun declared => ?_
    cases declared.inserted
    · exact follows_plain _
    · exact follows_pure _
  | choice parent label goto flags =>
    have hflags := he flags (by simp [flagLists])
    refine Follows.onLine ?_ line
    refine (follows_ensure parent).bind (hmade.keeps_ensure _) fun slot => ?_
    refine (follows_pushFlags hflags).bind (hmade.keeps_pushFlags _) fun effects => ?_
    exact follows_attach slot _
  | unlabelled => exact follows_plain _
  | unaddressed cell => exact follows_throw _

end Entry

/-! ## Scripts -/

namespace Script

/-- The entries of the lines after the header, each read by writing its cells one by one. -/
def guardedEntriesFrom (number : Nat) : List (List Char) → Option (List (Nat × Entry))
  | [] => some []
  | line :: later =>
    if line.all Text.isBlank then guardedEntriesFrom (number + 1) later
    else do
      let row ← Row.fill? false 0 [] Row.blank line
      let entries ← guardedEntriesFrom (number + 1) later
      return (number, Entry.ofRow row) :: entries

/-- No line is held up when it is read. -/
theorem guardedEntriesFrom_eq (number : Nat) (lines : List (List Char)) :
    guardedEntriesFrom number lines = some (entriesFrom number lines) := by
  induction lines generalizing number with
  | nil => rfl
  | cons line later ih =>
    rw [guardedEntriesFrom, entriesFrom, ih, Row.fill?_blank]
    split <;> rfl

/-- The work that numbered entries ask for, in order, up to the first fault. -/
def guardedEnactAll : List (Nat × Entry) → GuardedBuilding Fault Unit
  | [] => pure ()
  | (line, e) :: later => do
    e.guardedEnact line
    guardedEnactAll later

/-- The work that a script asks for. -/
def guardedBuild (text : String) : GuardedBuilding Fault Unit := do
  GuardedBuilding.plain Building.reset
  match Text.lines text.toList with
  | [] => throw .empty
  | _ :: rows =>
    let entries ← (guardedEntriesFrom 2 rows : Option (List (Nat × Entry)))
    guardedEnactAll entries
    let p := (← get).pool
    GuardedBuilding.plain (Building.note (.compiled p.nodes.size p.choices.size p.flagRefs.size))

/-- What a script makes of a build. -/
def guardedRebuild (text : String) (b : Build) : Option (Except Fault Unit × Build) :=
  (guardedBuild text).run b

/-- No entries are held up whose lists of flags fit into memory. -/
theorem follows_guardedEnactAll {entries : List (Nat × Entry)}
    (h : ∀ numbered ∈ entries, ∀ ids ∈ numbered.2.flagLists, ids.length ≤ Word.largestSize) :
    Follows (guardedEnactAll entries) (enactAll entries) := by
  induction entries with
  | nil => exact follows_pure ()
  | cons numbered entries ih =>
    obtain ⟨line, e⟩ := numbered
    rw [List.forall_mem_cons] at h
    exact (Entry.follows_guardedEnact line h.1).bind (Entry.keeps_enact lasting_made line e)
      fun _ => ih h.2

/-- No script is held up that fits into memory.

**Proof sketch.** The script is cut into lines and entries, the entries are enacted, and a notice
tells what came of it. The lists of flags that a row writes are not longer than the text, so they
fit when the text does, and `follows_guardedEnactAll` joins the entries. -/
theorem follows_guardedBuild {text : String} (htext : text.length ≤ Word.largestSize) :
    Follows (guardedBuild text) (build text) := by
  refine (follows_plain _).bind (fun b hb => hb.reset) fun _ => ?_
  cases hlines : Text.lines text.toList with
  | nil =>
    have hentries : entries? text = none := by rw [entries?, hlines]
    rw [hentries]
    exact follows_throw _
  | cons header rows =>
    have hentries : entries? text = some (entriesFrom 2 rows) := by rw [entries?, hlines]
    have hheld : ∀ numbered ∈ entriesFrom 2 rows, ∀ ids ∈ numbered.2.flagLists,
        ids.length ≤ Word.largestSize := fun numbered hmem ids hids =>
      Nat.le_trans (length_le_of_mem_flagLists hentries hmem hids) htext
    simp only [hentries, guardedEntriesFrom_eq]
    refine (follows_guardedEnactAll hheld).bind ?_ fun _ => ?_
    · exact keeps_enactAll (Entry.keeps_enact lasting_made) _
    · exact follows_get.bind (fun b hb => hb) fun _ => follows_plain _

/-- What a script makes of a build is what it makes of it without guards. -/
theorem guardedRebuild_eq {text : String} (htext : text.length ≤ Word.largestSize) {b : Build}
    (hb : b.pool.Made) : guardedRebuild text b = some (rebuild text b) := by
  rw [guardedRebuild, follows_guardedBuild htext b hb, rebuild, EStateM.run]
  cases build text b <;> rfl

end Script

/-! ## Edits -/

/-- What an edit is given fits into memory. -/
def Edit.Held : Edit → Prop
  | .grow (.pushFlags ids) => ids.length ≤ Word.largestSize
  | .compile text => text.length ≤ Word.largestSize
  | _ => True

instance : (e : Edit) → Decidable e.Held
  | .grow (.pushFlags ids) => inferInstanceAs (Decidable (ids.length ≤ Word.largestSize))
  | .compile text => inferInstanceAs (Decidable (text.length ≤ Word.largestSize))
  | .grow (.upsert ..) | .grow (.ensure _) | .grow (.attach ..) | .reset =>
    inferInstanceAs (Decidable True)

namespace Build

/-- The build after a growth of its pool. -/
def guardedGrow (b : Build) : Growth → Option Build
  | .upsert id d => ((GuardedBuilding.upsert id d).run b).map (·.2)
  | .ensure id => ((GuardedBuilding.ensure id).run b).map (·.2)
  | .pushFlags ids => ((GuardedBuilding.pushFlags ids).run b).map (·.2)
  | .attach slot c => ((GuardedBuilding.attach slot c).run b).map (·.2)

/-- The build after an edit. -/
def guardedEdit (b : Build) : Edit → Option Build
  | .grow g => b.guardedGrow g
  | .reset => some { b with pool := b.pool.reset }
  | .compile text => (Script.guardedRebuild text b).map (·.2)

/-- The build that edits make of an empty pool under the given limits. -/
def guardedEdited (limits : Limits) (es : List Edit) : Option Build :=
  es.foldlM guardedEdit { pool := .empty limits }

variable {b : Build}

/-- A step that is not held up leaves the build that it would leave without guards. -/
theorem map_run_of_follows {ε α : Type} {g : GuardedBuilding ε α} {w : Building ε α}
    (hg : Follows g w) (hb : b.pool.Made) :
    (g.run b).map (·.2) = some (Building.buildAfter w b) := by
  rw [hg b hb, Building.buildAfter]
  cases w b <;> rfl

/-- No edit is held up, unless it is given more than fits into memory.

**Proof sketch.** By the edit. A growth is one of the four lemmas above, and a script is
`Script.guardedRebuild_eq`. Emptying the pool has no guard. -/
theorem guardedEdit_eq (hb : b.pool.Made) {e : Edit} (he : e.Held) :
    b.guardedEdit e = some (b.edit e) := by
  cases e with
  | grow g =>
    cases g with
    | upsert id d => exact map_run_of_follows (follows_upsert id d) hb
    | ensure id => exact map_run_of_follows (follows_ensure id) hb
    | pushFlags ids => exact map_run_of_follows (follows_pushFlags he) hb
    | attach slot c => exact map_run_of_follows (follows_attach slot c) hb
  | reset => rfl
  | compile text =>
    rw [guardedEdit, Script.guardedRebuild_eq he hb]
    rfl

/-- No edits are held up, unless one of them is given more than fits into memory.

**Proof sketch.** Induction on the edits. Each of them leaves a pool that can be made, so
`guardedEdit_eq` applies to the next. -/
theorem guardedEditAll_eq (hb : b.pool.Made) {es : List Edit} (hes : ∀ e ∈ es, e.Held) :
    es.foldlM guardedEdit b = some (b.editAll es) := by
  induction es generalizing b with
  | nil => rfl
  | cons e es ih =>
    rw [List.forall_mem_cons] at hes
    have hmade : (b.edit e).pool.Made := Script.lasting_made.edit (fun hb => hb.reset) hb e
    rw [List.foldlM_cons, guardedEdit_eq hb hes.1]
    exact ih hmade hes.2

/-- No guard is hit when the edits `es` are done to an empty pool under `limits`, nor when anything
is done with what comes of them. -/
structure Unhindered (limits : Limits) (es : List Edit) : Prop where
  /-- Nodes are patched in slots of the pool, and all sums, sizes and counts fit into words. -/
  edited_eq : guardedEdited limits es = some (edited limits es)
  /-- A search from any node stays among the slots of the pool. -/
  reached_eq : ∀ start,
    (edited limits es).pool.guardedReached start = some ((edited limits es).pool.reached start)
  /-- So does a search in the story of any play. -/
  reached_play_eq : ∀ r : Runner, r.Reached → ∀ start,
    r.pool.guardedReached start = some (r.pool.reached start)
  /-- The place after every run fits into a word. -/
  stop_eq : ∀ s : Span, s.guardedStop = some s.stop
  /-- Every flag that is looked up has its bit in one of the words of the set, or no bit at all. -/
  has_eq : ∀ (s : FlagSet) (id : FlagId), s.guardedHas id = some (s.has id)
  hasAll_eq : ∀ (s : FlagSet) (ids : List FlagId), s.guardedHasAll ids = some (s.hasAll ids)
  /-- So has every flag that is set. -/
  set_eq : ∀ (s : FlagSet) (id : FlagId), s.guardedSet id = some (s.set id)
  setAll_eq : ∀ (s : FlagSet) (ids : List FlagId), s.guardedSetAll ids = some (s.setAll ids)
  /-- Every line fills the cells of its row, and writes nowhere else. -/
  ofLine_eq : ∀ line : List Char, Row.fill? false 0 [] Row.blank line = some (Row.ofLine line)
  /-- Whatever number stands behind a minus, its negation fits into a word. -/
  leadingInt_eq : ∀ text : List Char,
    (Cell.guardedWord? text).map (·.map Int64.toInt) = some (Cell.leadingInt? text)

/-- **No guard is ever hit.** Whatever the limits, whatever is done to a pool and whatever scripts
are compiled into it, no index leaves its array and no number its word; nor does any in the plays
and searches that follow, or for any flag. So all that is done comes to what it comes to without
guards. Only what an edit is given has to fit into memory.

**Proof sketch.** The index names slots of the pool, the limits keep every size within the words of
a run, and a node has no more choices than the pool. This holds of every pool that can be, so by
induction no edit is held up, and no search. What is left depends on no pool: a run, a flag, a line
and a number hold up nothing, whatever they are. -/
theorem unhindered (limits : Limits) {es : List Edit} (hes : ∀ e ∈ es, e.Held) :
    Unhindered limits es := by
  have hmade := made_edited limits es
  constructor
  case edited_eq => exact guardedEditAll_eq (.empty limits) hes
  case reached_eq => exact fun start => hmade.wellFormed.guardedReached_eq start
  case reached_play_eq => exact fun r hr start => hr.valid.wellFormed.guardedReached_eq start
  case stop_eq => exact Span.guardedStop_eq
  case has_eq => exact FlagSet.guardedHas_eq
  case hasAll_eq => exact FlagSet.guardedHasAll_eq
  case set_eq => exact FlagSet.guardedSet_eq
  case setAll_eq => exact FlagSet.guardedSetAll_eq
  case ofLine_eq => exact Row.fill?_blank
  case leadingInt_eq => exact Cell.guardedWord?_eq

/-- Edits that patch a node, hang choices on it and on no node, run out of room, empty the pool and
compile a script with a row too long. -/
def busyEdits : List Edit :=
  [.grow (.ensure ⟨7⟩), .grow (.upsert ⟨7⟩ { text := "Hello" }), .grow (.pushFlags [1023, -1, 64]),
    .grow (.attach 0 { label := "Go", goto := some ⟨7⟩ }), .grow (.attach 5 { label := "Nowhere" }),
    .grow (.pushFlags [2, 3]), .reset,
    .compile "Index\n_,1,Node\n_,1,Choice,,,,,,,,,,Back,1,-9&1024,,,,\n_,-9999999999999999999"]

/-- They are not held up where there is room for three nodes, three choices and four flags.

**Proof sketch.** The edits fit, as is computed. Since they are not held up, the guarded edits are
the plain ones, and those are run. -/
theorem unhindered_busyEdits :
    (∀ e ∈ busyEdits, e.Held) ∧ Unhindered ⟨3, 3, 4⟩ busyEdits ∧
      (guardedEdited ⟨3, 3, 4⟩ busyEdits).map (·.pool.nodes.size) = some 1 := by
  have hheld : ∀ e ∈ busyEdits, e.Held := by decide
  have hfree := unhindered ⟨3, 3, 4⟩ hheld
  exact ⟨hheld, hfree, by rw [hfree.edited_eq]; decide +kernel⟩

end Build

end StoryGraph
