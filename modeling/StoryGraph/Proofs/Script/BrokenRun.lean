import StoryGraph.Proofs.Graph.Tiling
import StoryGraph.Proofs.Script.Editing

set_option relaxedAutoImplicit false
set_option autoImplicit false

/-!
# Runs that break

The journal warns of a choice that does not follow the other choices of its node. The warning is
exact: there is one since the pool was last empty just when the runs of two nodes overlap, and
without one every choice belongs to exactly one node.

## Main definitions

* `Pool.RunsTold` — the warnings since the pool was empty tell how its runs lie.
* `Build.LaidSince` — the invariant of a build while its pool grows.

## Main results

* `Build.lasting_laidSince` — every growth of the pool keeps the warnings exact.
* `Build.tellsRunsSince_edited` — since a pool was emptied, the warnings tell how its runs lie.
-/

namespace StoryGraph

namespace Pool

variable {p : Pool}

/-- A choice is due a warning when its node has choices and their run does not end where the choice
will lie. -/
theorem any_brokenRun? (hp : p.WellFormed) {slot : Nat} {n : Node} (hn : p.node? slot = some n) :
    (p.brokenRun? slot).toList.any (·.isBrokenRun) =
      (!n.choices.isEmpty && n.choices.stop != p.choices.size) := by
  have hposition : p.choices.size.toUInt32.toNat = p.choices.size :=
    Span.toNat_toUInt32 (hp.size_lt .choices)
  simp only [brokenRun?, hn, bind, Option.bind_some, hposition, Node.hasChoices]
  cases !n.choices.isEmpty && n.choices.stop != p.choices.size <;> rfl

/-- The notices `since` tell how the runs of the pool `p` lie. -/
structure RunsTold (p : Pool) (since : List Notice) : Prop where
  /-- Every choice is counted at one node. -/
  total : Runs.count p.runs = p.choices.size
  /-- There is a warning just when the runs of two nodes overlap. -/
  told_iff : (∃ n ∈ since, n.isBrokenRun = true) ↔ Runs.Tangled p.runs
  /-- Without a warning every choice belongs to exactly one node. -/
  tiled : (∀ n ∈ since, n.isBrokenRun = false) → Runs.Tiled p.runs p.choices.size

end Pool

namespace Build

/-- The build `b` has a pool that was empty when the journal was `earlier`, and its runs are laid as
the notices since then tell. -/
structure LaidSince (earlier : Array Notice) (b : Build) : Prop where
  wellFormed : b.pool.WellFormed
  laid : ∃ since : List Notice, b.journal = earlier ++ since.toArray ∧
    Runs.Laid b.pool.runs b.pool.choices.size (since.any (·.isBrokenRun))

variable {earlier : Array Notice} {b : Build}

/-- An emptied pool has no runs. -/
theorem laidSince_reset (hb : b.pool.Made) :
    LaidSince b.journal { b with pool := b.pool.reset } :=
  ⟨hb.reset.wellFormed, [], by simp, .nil⟩

/-- Runs that are as they were, or one more that is empty, are laid as before. -/
theorem LaidSince.of_runs (hb : b.LaidSince earlier) {q : Pool} (hq : q.WellFormed)
    (hruns : q.runs = b.pool.runs ∨ q.runs = b.pool.runs ++ [({} : Span)])
    (hchoices : q.choices = b.pool.choices) : LaidSince earlier { b with pool := q } := by
  obtain ⟨since, hjournal, hlaid⟩ := hb.laid
  refine ⟨hq, since, hjournal, ?_⟩
  rcases hruns with hruns | hruns
  · simpa only [hruns, hchoices] using hlaid
  · simpa only [hruns, hchoices] using hlaid.snoc_empty

/-- Every growth of the pool keeps the warnings exact.

**Proof sketch.** Only a choice that is attached changes a run: it makes that of its node longer.
The warning due then is that the run does not end where the choice lies, and this is what decides
whether the runs go on tiling the choices or two of them overlap from now on. -/
theorem lasting_laidSince (earlier : Array Notice) : Lasting (LaidSince earlier) where
  note {b n} hb hn := by
    obtain ⟨since, hjournal, hlaid⟩ := hb.laid
    exact ⟨hb.wellFormed, since ++ [n], by simp [hjournal], by simpa [hn] using hlaid⟩
  upsert hb h := hb.of_runs (hb.wellFormed.upsert h) (Pool.runs_upsert h) (Pool.parts_upsert h).2
  ensure hb h := hb.of_runs (hb.wellFormed.ensure h) (Pool.runs_ensure h) (Pool.parts_ensure h).2
  pushFlags hb h := by
    have hq := hb.wellFormed.pushFlags h
    obtain ⟨-, -, rfl⟩ := Pool.pushFlags_eq_ok h
    exact hb.of_runs hq (.inl rfl) rfl
  attach {b q slot c} hb h := by
    have hq := hb.wellFormed.attach h
    obtain ⟨since, hjournal, hlaid⟩ := hb.laid
    refine ⟨hq, since ++ (b.pool.brokenRun? slot).toList, ?_, ?_⟩
    · cases b.pool.brokenRun? slot <;> simp [hjournal]
    · rw [List.any_append]
      cases hn : b.pool.node? slot with
      | none =>
        -- a slot without a node takes no choice, and is due no warning
        have hwarn : b.pool.brokenRun? slot = none := by simp [Pool.brokenRun?, hn]
        obtain ⟨-, ⟨hlt, -⟩ | ⟨-, rfl⟩⟩ := Pool.attach_eq_ok h
        · have hge := Array.getElem?_eq_none_iff.1 hn
          omega
        · simpa [hwarn] using hlaid
      | some n =>
        obtain ⟨hruns, hsize⟩ := Pool.runs_attach hn h
        have hlt : b.pool.choices.size + 1 < UInt32.size := hsize ▸ hq.size_lt .choices
        have hposition : b.pool.choices.size.toUInt32.toNat = b.pool.choices.size :=
          Span.toNat_toUInt32 (by omega)
        have hrun : b.pool.runs[slot]? = some n.choices := by
          rw [Pool.getElem?_runs, hn]
          rfl
        rw [Pool.any_brokenRun? hb.wellFormed hn, hruns, hsize]
        exact hlaid.extend hrun hposition
          (hb.wellFormed.stop_le n (Array.mem_of_getElem? hn)) hlt

/-- The notices that the build `b` has on top of those of the build `before` tell how its runs
lie. -/
def TellsRunsSince (before b : Build) : Prop :=
  ∃ since : List Notice, b.journal = before.journal ++ since.toArray ∧ b.pool.RunsTold since

/-- While the pool grows, the notices since it was empty tell how its runs lie.

**Proof sketch.** The notices since then tell of a broken run or they do not. If they do, the runs
are tangled; if not, they tile their places, and runs that tile are not tangled. -/
theorem LaidSince.tellsRunsSince {before : Build} (hb : b.LaidSince before.journal) :
    TellsRunsSince before b := by
  obtain ⟨since, hjournal, hlaid⟩ := hb.laid
  refine ⟨since, hjournal, hlaid.total, ?_, fun hnone => ?_⟩
  · rw [← List.any_eq_true]
    cases hbroken : since.any (·.isBrokenRun) with
    | true => simpa using hlaid.tangled hbroken
    | false => simpa using (hlaid.tiled hbroken).not_tangled
  · exact hlaid.tiled (by simpa using hnone)

/-- **Since a pool was emptied, the warnings tell how its runs lie**, whatever was done to the build
before, and whatever grows in the pool afterwards. The same holds since a script was compiled into
it, whether that succeeded or failed, as this empties it first.

**Proof sketch.** That the warnings tell how the runs lie is true of an emptied pool, and
`lasting_laidSince` says that every growth keeps it true. A script empties the pool and then makes
growths alone, so it is kept there, too. -/
theorem tellsRunsSince_edited (limits : Limits) (es : List Edit) (gs : List Growth) :
    TellsRunsSince (edited limits es) (((edited limits es).edit .reset).growAll gs) ∧
      ∀ text, TellsRunsSince (edited limits es)
        (((edited limits es).edit (.compile text)).growAll gs) := by
  have hreset := laidSince_reset (made_edited limits es)
  have hlasting := lasting_laidSince (edited limits es).journal
  refine ⟨(hlasting.growAll hreset gs).tellsRunsSince, fun text => ?_⟩
  exact (hlasting.growAll (Script.rebuild_of_lasting hlasting text hreset) gs).tellsRunsSince

end Build

end StoryGraph
