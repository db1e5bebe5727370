import StoryGraph.Proofs.Play.Alike
import StoryGraph.Proofs.Script.Capacity
import StoryGraph.Proofs.Script.Rearranged

set_option relaxedAutoImplicit false
set_option autoImplicit false

/-!
# The same story, kept elsewhere

A play shows of a story what it has at its nodes, and not where it is kept. So two stories that have
the same at every node are played alike; and the rows of a script may be put in another order, as
long as those that name one node keep theirs.

## Main definitions

* `Pool.SameScenes` — two stories have the same at every node.
* `Pool.depict` — what an event shows, all lists in full.
* `Turn.DepictsAs` — two turns of such stories cannot be told apart.

## Main results

* `Pool.SameScenes.depictsAs` — stories that have the same at every node are played alike.
* `Script.depictsAs_of_rearranges` — a script with its rows in another order compiles to a story
  that is played alike.
-/

namespace StoryGraph

namespace Pool

/-- Each of the two stories has at every node what the other one has there. -/
structure SameScenes (p q : Pool) : Prop where
  left : p.WellFormed
  right : q.WellFormed
  scene : ∀ id, Option.Rel (fun found other => p.scene found.2 = q.scene other.2)
    (p.find? id) (q.find? id)

variable {p q : Pool}

/-- Two nodes have choices, or none, if the same is offered at both. -/
theorem SameScenes.hasChoices_eq (h : p.SameScenes q) {n m : Node} (hn : n ∈ p.nodes)
    (hm : m ∈ q.nodes) (hscene : p.scene n = q.scene m) : n.hasChoices = m.hasChoices := by
  have hoffers : (p.choicesOf n).map p.offer = (q.choicesOf m).map q.offer :=
    congrArg Scene.offers hscene
  rw [Bool.eq_iff_iff, h.left.hasChoices_iff hn, h.right.hasChoices_iff hm, ne_eq, ne_eq,
    ← List.map_eq_nil_iff (f := p.offer), hoffers, List.map_eq_nil_iff]

/-- Stories that have the same at every node are like each other. -/
def SameScenes.likeness (h : p.SameScenes q) : p.Likeness q where
  slot i j := Option.Rel (fun n m => n ∈ p.nodes ∧ m ∈ q.nodes ∧ p.scene n = q.scene m)
    (p.node? i) (q.node? j)
  node n m := n ∈ p.nodes ∧ m ∈ q.nodes ∧ p.scene n = q.scene m
  choice c d := p.offer c = q.offer d
  matters _ := True
  node? hslot := hslot
  find? id := rel_imp (h.scene id) fun found other hp hq hscene => by
    obtain ⟨hi, -⟩ := h.left.find?_eq_some_iff.1 hp
    obtain ⟨hj, -⟩ := h.right.find?_eq_some_iff.1 hq
    have hnode : found.2 ∈ p.nodes ∧ other.2 ∈ q.nodes ∧ p.scene found.2 = q.scene other.2 :=
      ⟨Array.mem_of_getElem? hi, Array.mem_of_getElem? hj, hscene⟩
    rw [hi, hj]
    exact ⟨.some hnode, hnode⟩
  id_eq hnode := congrArg Scene.id hnode.2.2
  next_eq hnode := congrArg (·.next) hnode.2.2
  hasChoices_eq hnode := h.hasChoices_eq hnode.1 hnode.2.1 hnode.2.2
  choicesOf hnode := by
    have hoffers := congrArg Scene.offers hnode.2.2
    rw [← List.forall₂_eq_eq_eq] at hoffers
    exact List.forall₂_map_left_iff.1 (List.forall₂_map_right_iff.1 hoffers)
  effectsOf_eq hnode := congrArg (·.effects) hnode.2.2
  requiredBy_eq hnode := congrArg (·.requires) hnode.2.2
  matters_of_mem _ _ _ := trivial
  goto_eq := congrArg Offer.goto
  effectsOfChoice_eq := congrArg Offer.effects

/-- Rows that are those of another script in another order make stories that have the same at every
node.

**Proof sketch.** Both pools list the nodes that their rows mention, and these are the same. For an
id that is mentioned, `scene_nodeOf` reads the scene of its node off the rows, once for each script,
and it depends only on the rows of that node in their order. An id that no row mentions is in
neither pool. -/
theorem Retells.sameScenes {rows other : List Row} (hp : p.Retells rows) (hq : q.Retells other)
    (h : Script.Rearranges rows other) : p.SameScenes q where
  left := hp.wellFormed
  right := hq.wellFormed
  scene id := by
    have hids : id ∈ p.ids ↔ id ∈ q.ids := by
      rw [hp.mem_ids_iff, hq.mem_ids_iff, h.mentions_perm.mem_iff]
    by_cases hid : id ∈ p.ids
    · obtain ⟨i, hi⟩ := hp.wellFormed.find?_of_mem_ids hid
      obtain ⟨j, hj⟩ := hq.wellFormed.find?_of_mem_ids (hids.1 hid)
      have hscene : p.scene (p.nodeOf id) = q.scene (q.nodeOf id) := by
        rw [hp.scene_nodeOf hi (h.together id), hq.scene_nodeOf hj (h.together_other id),
          h.scene_eq]
      rw [hi, hj]
      exact .some hscene
    · have hp' := hp.wellFormed.find?_eq_none_iff.2 (hp.wellFormed.slotOf?_eq_none_iff.2 hid)
      have hq' := hq.wellFormed.find?_eq_none_iff.2
        (hq.wellFormed.slotOf?_eq_none_iff.2 (mt hids.2 hid))
      rw [hp', hq']
      exact .none

end Pool

/-! ## Turns -/

/-- What is heard of an event, all lists in full. -/
inductive Depiction where
  | entered (scene : Scene) (flags : FlagSet)
  | offered (offers : List Offer)
  | ended

/-- What is heard of an event in the story `p`, all lists in full. -/
def Pool.depict (p : Pool) : Event → Depiction
  | .entered n flags => .entered (p.scene n) flags
  | .offered cs => .offered (cs.map p.offer)
  | .ended => .ended

/-- The turn `u` of the story `q` cannot be told apart from the turn `t` of the story `p`. -/
structure Turn.DepictsAs (p q : Pool) (t u : Turn Reply) : Prop where
  answer : t.answer = u.answer
  shown : (Signal.events t.trace).map p.depict = (Signal.events u.trace).map q.depict
  flags : t.runner.flags = u.runner.flags
  capture : Snapshot.capture t.runner = Snapshot.capture u.runner
  phase : t.runner.phase = u.runner.phase
  pending : t.runner.pending = u.runner.pending

variable {p q : Pool}

/-- Turns that mirror each other in stories that have the same at every node cannot be told
apart.

**Proof sketch.** Each part is read off the mirror. What is depicted of an event is its scene, or
its offers, which are the same in both stories, and the flags, all of which matter here. A snapshot
takes the id of the active node, the same on both sides, and the flags. -/
theorem Turn.Mirrors.depictsAs {h : p.SameScenes q} {t u : Turn Reply}
    (hturn : t.Mirrors h.likeness u) : t.DepictsAs p q u := by
  have hflags : t.runner.flags = u.runner.flags := FlagSet.AgreeOn.eq hturn.runner.flags
  constructor
  case answer => exact hturn.answer
  case shown =>
    refine Signal.Mirrors.map_events (fun e e' he => ?_) hturn.trace
    cases he with
    | entered hnode hflags =>
      rw [Pool.depict, Pool.depict, hnode.2.2, FlagSet.AgreeOn.eq hflags]
    | @offered cs ds hchoices =>
      have hoffers : cs.map p.offer = ds.map q.offer := by
        rw [← List.forall₂_eq_eq_eq, List.forall₂_map_left_iff, List.forall₂_map_right_iff]
        exact hchoices
      exact congrArg Depiction.offered hoffers
    | ended => rfl
  case flags => exact hflags
  case capture =>
    have hcurrent := hturn.runner.current?
    simp only [Snapshot.capture, hflags]
    generalize t.runner.current? = found at hcurrent ⊢
    generalize u.runner.current? = other at hcurrent ⊢
    cases hcurrent with
    | none => rfl
    | some hnode => simp [h.likeness.id_eq hnode]
  case phase => exact hturn.runner.phase_eq
  case pending => exact hturn.runner.pending

/-- **Stories that have the same at every node are played alike.** Two fresh plays of them with the
same capacity and start node answer the same commands the same, show the same, and have the same
flags and the same snapshots after each.

**Proof sketch.** Nodes of the two stories correspond when they have the same scene, and choices
when they offer the same. A move reads nothing else of a node, and no slot shows. -/
theorem Pool.SameScenes.depictsAs (h : p.SameScenes q) (capacity : Nat) (startNode : NodeId)
    {cs : List Command} (hcs : ∀ c ∈ cs, c.KeepsStory) :
    List.Forall₂ (Turn.DepictsAs p q) ((Runner.fresh p capacity startNode).turns cs)
      ((Runner.fresh q capacity startNode).turns cs) := by
  have hfresh := Runner.mirrors_fresh h.likeness capacity startNode
  exact (hfresh.turns hcs).imp fun _ _ hturn => hturn.depictsAs

namespace Script

/-- **A script with its rows in another order is played alike.** If a script compiles, then so does
every other one that is not empty and has the same rows in another order, as long as rows that name
one node keep theirs and the choices of each node stand together in both. Fresh plays of the two
stories cannot be told apart.

**Proof sketch.** The rows take as much room in any order, so they fit again. Both stories have at
each node what the rows say of it, and this is the same for both. -/
theorem depictsAs_of_rearranges {limits : Limits} {text other : String} {p : Pool}
    (hp : (compile limits text).1 = .ok p) (hother : other ≠ "")
    (h : Rearranges (rows text) (rows other)) :
    ∃ q, (compile limits other).1 = .ok q ∧
      ∀ (capacity : Nat) (startNode : NodeId) (cs : List Command), (∀ c ∈ cs, c.KeepsStory) →
        List.Forall₂ (Turn.DepictsAs p q) ((Runner.fresh p capacity startNode).turns cs)
          ((Runner.fresh q capacity startNode).turns cs) := by
  have htext : text ≠ "" := by
    rintro rfl
    rw [compile_empty] at hp
    cases hp
  obtain ⟨header, lines, hlines⟩ := exists_header htext
  obtain ⟨header', lines', hlines'⟩ := exists_header hother
  have hfit : Fits limits.addressable (rowsFrom lines') := by
    rw [← rows_of_lines hlines']
    refine h.fits ?_
    rw [rows_of_lines hlines]
    exact (tallies_compile hlines hp).fits
  obtain ⟨q, hq, htallies⟩ := compile_of_fits hlines' hfit
  have hsame : p.SameScenes q := by
    rw [rows_of_lines hlines'] at h
    exact (retells_compile hp).sameScenes htallies.toRetells h
  exact ⟨q, hq, fun capacity startNode _ hcs => hsame.depictsAs capacity startNode hcs⟩

/-- A script of two nodes, each with a choice that leads to the other. The second node requires the
flag that the choice of the first one sets. -/
def thereAndBack : String :=
  "\n,1,,Ann\n,1,choice,,,,,,,,,,go,2,6\n,2,,Bob,,,,,,,,,,,,,6\n,2,choice,,,,,,,,,,back,1"

/-- The same rows in another order, with a choice before the node that it leads to. -/
def backAndThere : String :=
  "h\n,2,,Bob,,,,,,,,,,,,,6\n,2,choice,,,,,,,,,,back,1\n,1,,Ann\n,1,choice,,,,,,,,,,go,2,6"

/-- A way from the first node to the second and on to its choice. -/
def throughBoth : List Command := [.start ⟨1⟩, .step, .choose 0, .setFlags [900], .step, .choose 0]

/-- The two stories keep the nodes in different slots, and are played alike on this way.

**Proof sketch.** The two scripts have the same rows in another order, as is computed, and the first
of them compiles. The theorem gives the pool of the second and the turns. -/
theorem depictsAs_of_rearranges_thereAndBack :
    ∃ p q, (compile {} thereAndBack).1 = .ok p ∧ (compile {} backAndThere).1 = .ok q ∧
      p.slotOf? ⟨1⟩ = some 0 ∧ q.slotOf? ⟨1⟩ = some 1 ∧
      List.Forall₂ (Turn.DepictsAs p q) ((Runner.fresh p 4 ⟨1⟩).turns throughBoth)
        ((Runner.fresh q 4 ⟨1⟩).turns throughBoth) := by
  have hok : (rebuild thereAndBack { pool := .empty {} }).1 = .ok () :=
    eq_ok_of_isOk (by decide +kernel)
  have hrows : Rearranges (rows thereAndBack) (rows backAndThere) := by decide +kernel
  have hother : backAndThere ≠ "" := by decide +kernel
  have hslot : (rebuild thereAndBack { pool := .empty {} }).2.pool.slotOf? ⟨1⟩ = some 0 := by
    decide +kernel
  have hslot' : (rebuild backAndThere { pool := .empty {} }).2.pool.slotOf? ⟨1⟩ = some 1 := by
    decide +kernel
  obtain ⟨p, hp⟩ := exists_compile_eq_ok hok
  obtain ⟨q, hq, hturns⟩ := depictsAs_of_rearranges hp hother hrows
  rw [(compile_eq_ok hp).2] at hslot
  rw [(compile_eq_ok hq).2] at hslot'
  have hcs : ∀ c ∈ throughBoth, c.KeepsStory := by simp [throughBoth, Command.KeepsStory]
  exact ⟨p, q, hp, hq, hslot, hslot', hturns 4 ⟨1⟩ throughBoth hcs⟩

/-- A header alone is a script without rows. The empty text has no rows either, and does not
compile.

**Proof sketch.** A script needs a header, so the empty text has none to start with; its rows are
none, as those of a header alone. -/
theorem emptied_not_compiles :
    (∃ p, (compile {} "Index").1 = .ok p) ∧ Rearranges (rows "Index") (rows "") ∧
      ∀ q, (compile {} "").1 ≠ .ok q := by
  have hok : (rebuild "Index" { pool := .empty {} }).1 = .ok () :=
    eq_ok_of_isOk (by decide +kernel)
  refine ⟨exists_compile_eq_ok hok, by decide +kernel, fun q hq => ?_⟩
  rw [compile_empty] at hq
  cases hq

end Script

end StoryGraph
