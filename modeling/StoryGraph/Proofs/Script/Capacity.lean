import StoryGraph.Proofs.Script.Retelling
import StoryGraph.Proofs.Script.Totals

set_option relaxedAutoImplicit false
set_option autoImplicit false

/-!
# The first row too many

A script compiles when its rows fit under the limits, and then its pool is as large as their totals.
Otherwise the first row that is one too many is at fault, and nothing behind it matters.

## Main definitions

* `Pool.Tallies` — a pool is what rows make of it, under given limits, and no larger.
* `Script.Offends` — a line is the first that holds a row too many.
* `Script.Accounts` — what compiling a script comes to.

## Main results

* `Pool.Tallies.enact`, `Pool.Tallies.fault?_of_error` — one more row fits, or it is at fault.
* `Script.accounts_compile` — a script compiles when its rows fit, and the first that does not is at
  fault.
-/

namespace StoryGraph

namespace Pool

/-- The pool `p` is what the rows `rows` make of an empty one under the limits `limits`, and no flag
reference is left over. -/
structure Tallies (limits : Limits) (p : Pool) (rows : List Row) : Prop
    extends p.Retells rows where
  limits_eq : p.limits = limits
  size_flagRefs : p.flagRefs.size = Script.total rows .flagRefs

namespace Tallies

variable {limits : Limits} {p : Pool} {rows : List Row} {r : Row}

/-- The empty pool is what no rows make. -/
theorem empty (limits : Limits) : (Pool.empty limits).Tallies limits.addressable [] where
  toRetells := .nil (wellFormed_empty limits) rfl rfl
  limits_eq := rfl
  size_flagRefs := rfl

/-- Each part holds as much as the rows take of it.

**Proof sketch.** One case for each part: the nodes are as many as their ids, and the other two are
known as they are. -/
theorem size_eq (hp : p.Tallies limits rows) (part : Part) :
    p.size part = Script.total rows part := by
  cases part with
  | nodes =>
    have hids := congrArg List.length hp.ids
    simpa [Pool.ids, size, Script.total] using hids
  | choices => exact hp.size_choices
  | flagRefs => exact hp.size_flagRefs

/-- Rows that a pool was made of fit under its limits. -/
theorem fits (hp : p.Tallies limits rows) : Script.Fits limits rows where
  addressed r hr heffect := r.exists_named?_iff.1 (hp.addressed r hr heffect)
  total_le part := by
    rw [← hp.size_eq, ← hp.limits_eq]
    exact hp.wellFormed.size_le part

/-- The flags of a row are appended when its entry has been enacted.

**Proof sketch.** By what the row says. A declaration appends two lists and a choice one; to declare
a node, to ask for one and to attach a choice append none. A choice without a label does nothing,
and a row that names no node is not enacted. -/
theorem size_flagRefs_enact {b b' : Build} {line : Nat}
    (h : (Entry.ofRow r).enact line b = .ok () b') :
    b'.pool.flagRefs.size = b.pool.flagRefs.size + r.flags.length := by
  rcases r.entry_cases with ⟨id, hchoice, -, he⟩ | ⟨id, hchoice, hlabel, -, he⟩ |
    ⟨hchoice, hlabel, he⟩ | ⟨-, -, he⟩
  · rw [he] at h
    obtain ⟨effects, p₁, requires, p₂, declared, h₁, h₂, h₃⟩ := Entry.enact_node_eq_ok h
    obtain ⟨-, -, rfl⟩ := pushFlags_eq_ok h₁
    obtain ⟨-, -, rfl⟩ := pushFlags_eq_ok h₂
    rw [(parts_upsert h₃).1]
    simp [Row.flags, hchoice, Entry.declarationOf]
  · rw [he] at h
    obtain ⟨slot, p₁, effects, p₂, h₁, h₂, h₃⟩ := Entry.enact_choice_eq_ok h
    obtain ⟨-, -, rfl⟩ := pushFlags_eq_ok h₂
    rw [flagRefs_attach h₃]
    simp [Row.flags, hchoice, hlabel, Row.offer, (parts_ensure h₁).1]
  · rw [he] at h
    rw [Entry.enact_unlabelled_eq_ok h]
    simp [Row.flags, hchoice, hlabel]
  · rw [he] at h
    cases h

/-- A pool that is what some rows make is what one more makes when its entry has been enacted.

**Proof sketch.** The pool retells one row more, by `Retells.enact`; its limits last over every
entry; and its flag references grow by the flags of the row. -/
theorem enact {b b' : Build} {line : Nat} (hp : b.pool.Tallies limits rows)
    (h : (Entry.ofRow r).enact line b = .ok () b') : b'.pool.Tallies limits (rows ++ [r]) where
  toRetells := hp.toRetells.enact h
  limits_eq := by
    have hkeeps := Entry.keeps_enact (Script.lasting_limits limits) line (Entry.ofRow r) b
      hp.limits_eq
    rwa [Building.buildAfter, h] at hkeeps
  size_flagRefs := by
    rw [size_flagRefs_enact h, Script.total_flagRefs_snoc, hp.size_flagRefs]

/-! ## One row too many -/

/-- A node that is not there yet is one more to mention. -/
theorem total_nodes_of_new (hp : p.Tallies limits rows) {id : NodeId} (hnew : id ∉ p.ids)
    (hrow : Script.mentions (rows ++ [r]) = Script.mentions rows ++ [id]) :
    Script.total (rows ++ [r]) .nodes = p.nodes.size + 1 := by
  rw [Script.total_nodes_snoc rows hrow, if_neg (by rwa [← hp.mem_ids_iff]), ← hp.size_eq]
  rfl

/-- A node that could be asked for is within the limit.

**Proof sketch.** The nodes that the rows mention are those of the pool after asking, and that pool
is within its limits. -/
theorem nodes_ensure_le (hp : p.Tallies limits rows) {q : Pool} {id : NodeId} {slot : Nat}
    (h : p.ensure id = .ok (slot, q))
    (hrow : Script.mentions (rows ++ [r]) = Script.mentions rows ++ [id]) :
    Script.total (rows ++ [r]) .nodes ≤ (limits.of .nodes).toNat := by
  have hids := hp.ids_snoc (ids_ensure hp.wellFormed h) hrow
  have hfit := (hp.wellFormed.ensure h).size_le .nodes
  rw [limits_ensure h, hp.limits_eq] at hfit
  rw [Script.total, ← hids]
  simpa [Pool.ids, size] using hfit

/-- A declaration that finds no room is at fault, for flag references before nodes.

**Proof sketch.** A declaration asks for room three times: for the flags that it sets, for those
that it requires, and for its node if that is new. The first failure is where the total of the rows
leaves the limit of that part, and what was appended before fits, so the part in the error is the
first that the row asks for and finds full. -/
theorem fault?_of_node {b b' : Build} {line : Nat} {f : Fault} {id : NodeId}
    (hp : b.pool.Tallies limits rows) (hchoice : r.isChoice = false) (hid : r.named? = some id)
    (h : (Entry.node id (Entry.declarationOf r)).enact line b = .error f b') :
    r.fault? limits rows line = some f := by
  have hr : r.IsAddressed := r.exists_named?_iff.1 ⟨id, hid⟩
  have hasks : r.asks = [.flagRefs, .nodes] := by simp [Row.asks, hchoice]
  have hflags : Script.total (rows ++ [r]) .flagRefs = b.pool.flagRefs.size +
      (Entry.declarationOf r).effects.length + (Entry.declarationOf r).requires.length := by
    rw [Script.total_flagRefs_snoc, hp.size_flagRefs]
    simp [Row.flags, hchoice, Entry.declarationOf, Nat.add_assoc]
  obtain ⟨o, ho, hfull⟩ := Entry.enact_node_eq_error h
  rw [ho]
  rcases hfull with h₁ | ⟨effects, p₁, h₁, h₂ | ⟨requires, p₂, h₂, h₃⟩⟩
  · obtain ⟨hlt, rfl⟩ := room_eq_error_iff.1 (pushFlags_eq_error_iff.1 h₁).2
    rw [hp.limits_eq] at hlt ⊢
    refine Row.fault?_eq_full line [] hr hasks (by simp) ?_
    simp only [size] at hlt
    omega
  · obtain ⟨-, -, rfl⟩ := pushFlags_eq_ok h₁
    obtain ⟨hlt, rfl⟩ := room_eq_error_iff.1 (pushFlags_eq_error_iff.1 h₂).2
    simp only [hp.limits_eq, size, Array.size_append, List.size_toArray] at hlt ⊢
    exact Row.fault?_eq_full line [] hr hasks (by simp) (by omega)
  · have hwf := (hp.wellFormed.pushFlags h₁).pushFlags h₂
    obtain ⟨hnew, hroom⟩ := upsert_eq_error_iff.1 h₃
    have hids := hwf.slotOf?_eq_none_iff.1 hnew
    rw [ids_pushFlags h₂, ids_pushFlags h₁] at hids
    have hnodes := hp.total_nodes_of_new hids (Script.snoc_node rows hchoice hid).1
    have hfit := hwf.size_le .flagRefs
    obtain ⟨-, -, rfl⟩ := pushFlags_eq_ok h₁
    obtain ⟨-, -, rfl⟩ := pushFlags_eq_ok h₂
    obtain ⟨hlt, rfl⟩ := room_eq_error_iff.1 hroom
    simp only [hp.limits_eq, size, Array.size_append, List.size_toArray] at hlt hfit ⊢
    refine Row.fault?_eq_full line [.flagRefs] hr hasks ?_ (by omega)
    simp only [List.mem_singleton, forall_eq]
    omega

/-- A choice that finds no room is at fault, for nodes before flag references before choices.

**Proof sketch.** A choice asks for its node, for its flags and for itself, in this order. The first
failure is where the total of the rows leaves the limit of that part, and what was added before
fits, so the part in the error is the first that the row asks for and finds full. -/
theorem fault?_of_choice {b b' : Build} {line : Nat} {f : Fault} {id : NodeId}
    (hp : b.pool.Tallies limits rows) (hlabel : r.isLabelled = true) (hid : r.named? = some id)
    (h : (Entry.choice id r.offer.label r.offer.goto r.offer.effects).enact line b = .error f b') :
    r.fault? limits rows line = some f := by
  have hr : r.IsAddressed := r.exists_named?_iff.1 ⟨id, hid⟩
  have hchoice := Row.isChoice_of_isLabelled hlabel
  have hasks : r.asks = [.nodes, .flagRefs, .choices] := by simp [Row.asks, hchoice]
  obtain ⟨hmentions, -, hbranches⟩ := Script.snoc_choice rows hlabel hid
  have hflags : Script.total (rows ++ [r]) .flagRefs =
      b.pool.flagRefs.size + r.offer.effects.length := by
    rw [Script.total_flagRefs_snoc, hp.size_flagRefs]
    simp [Row.flags, hchoice, hlabel, Row.offer]
  obtain ⟨o, ho, hfull⟩ := Entry.enact_choice_eq_error h
  rw [ho]
  rcases hfull with h₁ | ⟨slot, p₁, h₁, h₂ | ⟨effects, p₂, h₂, h₃⟩⟩
  · obtain ⟨hnew, hroom⟩ := ensure_eq_error_iff.1 h₁
    have hnodes := hp.total_nodes_of_new (hp.wellFormed.slotOf?_eq_none_iff.1 hnew) hmentions
    obtain ⟨hlt, rfl⟩ := room_eq_error_iff.1 hroom
    rw [hp.limits_eq] at hlt ⊢
    refine Row.fault?_eq_full line [] hr hasks (by simp) ?_
    simp only [size] at hlt
    omega
  · have hnodes := hp.nodes_ensure_le h₁ hmentions
    obtain ⟨hlt, rfl⟩ := room_eq_error_iff.1 (pushFlags_eq_error_iff.1 h₂).2
    simp only [limits_ensure h₁, hp.limits_eq, size, (parts_ensure h₁).1] at hlt ⊢
    exact Row.fault?_eq_full line [.nodes] hr hasks (by simpa using hnodes) (by omega)
  · have hnodes := hp.nodes_ensure_le h₁ hmentions
    have hfit := ((hp.wellFormed.ensure h₁).pushFlags h₂).size_le .flagRefs
    have hchoices := Script.total_choices_snoc rows hbranches
    rw [← hp.size_eq] at hchoices
    obtain ⟨-, -, rfl⟩ := pushFlags_eq_ok h₂
    obtain ⟨hlt, rfl⟩ := room_eq_error_iff.1 (attach_eq_error_iff.1 h₃)
    simp only [limits_ensure h₁, hp.limits_eq, size, parts_ensure h₁, Array.size_append,
      List.size_toArray] at hlt hfit hchoices ⊢
    -- The two parts before are not full: what the row asked of them is in the pool already.
    refine Row.fault?_eq_full line [.nodes, .flagRefs] hr hasks ?_ (by omega)
    simp only [List.mem_cons, List.not_mem_nil, or_false, forall_eq_or_imp, forall_eq]
    omega

/-- A row that cannot be enacted is at fault.

**Proof sketch.** By what the row says: a declaration and a choice fail for want of room, a choice
without a label does not fail, and a row that should name a node and names none is at fault for
that. -/
theorem fault?_of_error {b b' : Build} {line : Nat} {f : Fault} (hp : b.pool.Tallies limits rows)
    (h : (Entry.ofRow r).enact line b = .error f b') : r.fault? limits rows line = some f := by
  rcases r.entry_cases with ⟨id, hchoice, hid, he⟩ | ⟨id, -, hlabel, hid, he⟩ | ⟨-, -, he⟩ |
    ⟨heffect, hid, he⟩
  · rw [he] at h
    exact hp.fault?_of_node hchoice hid h
  · rw [he] at h
    exact hp.fault?_of_choice hlabel hid h
  · rw [he] at h
    cases h
  · rw [he] at h
    obtain ⟨rfl, -⟩ : .unaddressed line (r.cell .nodeId) = f ∧ b = b' :=
      EStateM.Result.error.inj h
    exact Row.fault?_eq_unaddressed line heffect (Row.not_isAddressed_of_named? hid)

/-! ## The entries of a script -/

variable {b : Build}

/-- The entries of rows that fit can all be enacted.

**Proof sketch.** Induction on the lines. A blank line is no row. Any other is enacted or has a
fault, by `fault?_of_error`; but the rows up to it fit, and a row that fits has none. After it the
pool tallies with one row more. -/
theorem enactAll_of_fits {lines : List (List Char)} (number : Nat) (hp : b.pool.Tallies limits rows)
    (hfit : Script.Fits limits (rows ++ Script.rowsFrom lines)) :
    ∃ b', Script.enactAll (Script.entriesFrom number lines) b = .ok () b' ∧
      b'.pool.Tallies limits (rows ++ Script.rowsFrom lines) := by
  induction lines generalizing number rows b with
  | nil => exact ⟨b, rfl, by simpa [Script.rowsFrom] using hp⟩
  | cons line lines ih =>
    unfold Script.entriesFrom
    by_cases hblank : line.all Text.isBlank
    · rw [Script.rowsFrom_blank hblank] at hfit ⊢
      rw [if_pos hblank]
      exact ih (number + 1) hp hfit
    · rw [Script.rowsFrom_cons hblank, List.append_cons] at hfit ⊢
      rw [if_neg hblank]
      cases hline : (Entry.ofRow (Row.ofLine line)).enact number b with
      | ok u b₁ =>
        obtain ⟨b', henact, hb'⟩ := ih (number + 1) (hp.enact hline) hfit
        exact ⟨b', Building.bind_eq_ok.2 ⟨u, b₁, hline, henact⟩, hb'⟩
      | error f b₁ =>
        have hnone := hfit.of_append.fault?_eq_none number
        rw [hp.fault?_of_error hline] at hnone
        cases hnone

/-- The entries up to a line that is one too many come to its fault, whatever lines follow.

**Proof sketch.** The lines before are all enacted, by `enactAll_of_fits`. The line itself is not
blank, as it makes a difference. If it could be enacted, the pool would tally with all rows, and
they would fit. So it fails, and the lines behind it are never looked at. -/
theorem enactAll_of_not_fits {before : List (List Char)} {line : List Char} (number : Nat)
    (hp : b.pool.Tallies limits rows) (hfit : Script.Fits limits (rows ++ Script.rowsFrom before))
    (hnot : ¬ Script.Fits limits (rows ++ Script.rowsFrom (before ++ [line]))) :
    ∃ f, (Row.ofLine line).fault? limits (rows ++ Script.rowsFrom before)
        (number + before.length) = some f ∧
      ∀ later, ∃ b',
        Script.enactAll (Script.entriesFrom number (before ++ line :: later)) b = .error f b' := by
  obtain ⟨b₁, hbefore, hb₁⟩ := hp.enactAll_of_fits number hfit
  rw [Script.rowsFrom_append, ← List.append_assoc] at hnot
  by_cases hblank : line.all Text.isBlank
  · rw [Script.rowsFrom_blank hblank, Script.rowsFrom_nil, List.append_nil] at hnot
    exact absurd hfit hnot
  · rw [Script.rowsFrom_cons hblank, Script.rowsFrom_nil] at hnot
    cases hline : (Entry.ofRow (Row.ofLine line)).enact (number + before.length) b₁ with
    | ok u b' => exact absurd (hb₁.enact hline).fits hnot
    | error f b' =>
      refine ⟨f, hb₁.fault?_of_error hline, fun later => ⟨b', ?_⟩⟩
      rw [Script.entriesFrom_append, Script.enactAll_append_of_ok hbefore, Script.entriesFrom,
        if_neg hblank]
      exact Building.bind_eq_error.2 (.inl hline)

end Tallies

end Pool

/-! ## What compiling a script comes to -/

namespace Script

/-- The lines `before` behind the header hold rows that fit, and the line `line` behind them holds
one too many, with the fault `f`. -/
structure Offends (limits : Limits) (before : List (List Char)) (line : List Char) (f : Fault) :
    Prop where
  fits : Fits limits (rowsFrom before)
  not_fits : ¬ Fits limits (rowsFrom (before ++ [line]))
  /-- The header is line one, and blank lines have their numbers too. -/
  fault : (Row.ofLine line).fault? limits (rowsFrom before) (before.length + 2) = some f

/-- What compiling the script `text` under the limits `limits` comes to. -/
structure Accounts (limits : Limits) (text : String) : Prop where
  compiles_iff : (∃ p, (compile limits text).1 = .ok p) ↔
    text ≠ "" ∧ Fits limits.addressable (rows text)
  size_eq : ∀ p, (compile limits text).1 = .ok p → ∀ part, p.size part = total (rows text) part
  empty : text = "" → (compile limits text).1 = .error .empty
  /-- A script whose rows do not fit comes to the fault of the first row too many, and so does every
  script with the same lines up to this one. -/
  first : text ≠ "" → ¬ Fits limits.addressable (rows text) →
    ∃ header before line f, header :: (before ++ [line]) <+: Text.lines text.toList ∧
      Offends limits.addressable before line f ∧
      ∀ other : String, header :: (before ++ [line]) <+: Text.lines other.toList →
        (compile limits other).1 = .error f

/-- Of a list that lacks a property which the empty one has, some element is the first to bring the
lack about.

**Proof sketch.** Induction on the list, with the property taken for the list behind its first
element. Either one element alone brings the lack about, or it does not, and then the rest does. -/
theorem exists_first {α : Type} {P : List α → Prop} (hnil : P []) {l : List α} (h : ¬ P l) :
    ∃ before a, before ++ [a] <+: l ∧ P before ∧ ¬ P (before ++ [a]) := by
  induction l generalizing P with
  | nil => exact absurd hnil h
  | cons a l ih =>
    by_cases ha : P [a]
    · obtain ⟨before, x, hprefix, hbefore, hx⟩ := ih (P := fun l => P (a :: l)) ha h
      exact ⟨a :: before, x, List.cons_prefix_cons.2 ⟨rfl, hprefix⟩, hbefore, hx⟩
    · exact ⟨[], a, List.cons_prefix_cons.2 ⟨rfl, List.nil_prefix⟩, hnil, ha⟩

variable {limits : Limits} {text : String} {header : List Char} {lines : List (List Char)}

/-- A script whose rows fit compiles, to a pool that tallies with them. -/
theorem compile_of_fits (hlines : Text.lines text.toList = header :: lines)
    (hfit : Fits limits.addressable (rowsFrom lines)) :
    ∃ p, (compile limits text).1 = .ok p ∧ p.Tallies limits.addressable (rowsFrom lines) := by
  have hempty : ({ pool := .empty limits } : Build).pool.Tallies limits.addressable [] :=
    .empty limits
  obtain ⟨b, henact, hb⟩ := hempty.enactAll_of_fits 2 hfit
  refine ⟨b.pool, ?_, hb⟩
  rw [compile_of_entries limits (entries?_of_lines hlines), henact]

/-- The first line that is one too many has a fault, and every script with the same lines up to this
one comes to it.

**Proof sketch.** An empty pool tallies with no rows, so `enactAll_of_not_fits` gives the fault from
the second line on, whatever follows. The entries of a text depend on its lines alone, and those up
to the fault are the same. -/
theorem exists_fault (header : List Char) {before : List (List Char)} {line : List Char}
    (hfit : Fits limits.addressable (rowsFrom before))
    (hnot : ¬ Fits limits.addressable (rowsFrom (before ++ [line]))) :
    ∃ f, Offends limits.addressable before line f ∧
      ∀ text : String, header :: (before ++ [line]) <+: Text.lines text.toList →
        (compile limits text).1 = .error f := by
  have hempty : ({ pool := .empty limits } : Build).pool.Tallies limits.addressable [] :=
    .empty limits
  obtain ⟨f, hfault, henact⟩ := hempty.enactAll_of_not_fits 2 hfit hnot
  have hnumber : before.length + 2 = 2 + before.length := Nat.add_comm _ _
  refine ⟨f, ⟨hfit, hnot, by rw [hnumber]; exact hfault⟩, ?_⟩
  rintro text ⟨later, hlater⟩
  have hlines : Text.lines text.toList = header :: (before ++ line :: later) := by
    rw [← hlater]
    simp
  obtain ⟨b, hb⟩ := henact later
  rw [compile_of_entries limits (entries?_of_lines hlines), hb]

/-- Among the lines of a script whose rows do not fit, one is the first that is one too many.

**Proof sketch.** The lines fit at first, without any, and do not in the end, so there is a first
line with which they do not. `exists_fault` says what comes of it. -/
theorem exists_offends (hlines : Text.lines text.toList = header :: lines)
    (hnot : ¬ Fits limits.addressable (rowsFrom lines)) :
    ∃ before line f, header :: (before ++ [line]) <+: Text.lines text.toList ∧
      Offends limits.addressable before line f ∧
      ∀ other : String, header :: (before ++ [line]) <+: Text.lines other.toList →
        (compile limits other).1 = .error f := by
  obtain ⟨before, line, hprefix, hbefore, hline⟩ :=
    exists_first (P := fun lines => Fits limits.addressable (rowsFrom lines)) (fits_nil _) hnot
  obtain ⟨f, hoffends, hsame⟩ := exists_fault header hbefore hline
  refine ⟨before, line, f, ?_, hoffends, hsame⟩
  rw [hlines]
  exact List.cons_prefix_cons.2 ⟨rfl, hprefix⟩

/-- The pool of a script that compiles tallies with its rows. -/
theorem tallies_compile (hlines : Text.lines text.toList = header :: lines) {p : Pool}
    (h : (compile limits text).1 = .ok p) : p.Tallies limits.addressable (rowsFrom lines) := by
  by_cases hfit : Fits limits.addressable (rowsFrom lines)
  · obtain ⟨q, hq, htallies⟩ := compile_of_fits hlines hfit
    rw [h, Except.ok.injEq] at hq
    rwa [hq]
  · obtain ⟨before, line, f, hprefix, -, hsame⟩ := exists_offends hlines hfit
    rw [hsame text hprefix] at h
    cases h

/-- **A script compiles when its rows fit, and otherwise the first row too many is at fault.** The
limits are those that a span can address. A script that compiles has a pool as large as the totals
of its rows; what follows the row at fault has no part in the fault.

**Proof sketch.** As long as the rows fit, enacting them keeps a pool that tallies with them: an
entry that cannot be enacted is at fault, and nothing is wrong with a row that fits. The first row
that does not fit cannot be enacted, for then the pool would tally with it and still keep to its
limits. -/
theorem accounts_compile (limits : Limits) (text : String) : Accounts limits text := by
  by_cases hempty : text = ""
  · subst hempty
    have hcompile := compile_empty limits
    exact ⟨by simp [hcompile], by simp [hcompile], fun _ => hcompile, fun h => absurd rfl h⟩
  obtain ⟨header, lines, hlines⟩ := exists_header hempty
  have hrows := rows_of_lines hlines
  constructor
  case compiles_iff =>
    rw [hrows]
    constructor
    · rintro ⟨p, hp⟩
      exact ⟨hempty, (tallies_compile hlines hp).fits⟩
    · rintro ⟨-, hfit⟩
      obtain ⟨p, hp, -⟩ := compile_of_fits hlines hfit
      exact ⟨p, hp⟩
  case size_eq =>
    rw [hrows]
    exact fun p hp => (tallies_compile hlines hp).size_eq
  case empty => exact fun h => absurd h hempty
  case first =>
    rw [hrows]
    exact fun _ hnot => ⟨header, exists_offends hlines hnot⟩

end Script

end StoryGraph
