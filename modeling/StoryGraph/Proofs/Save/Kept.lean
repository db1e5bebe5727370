import Mathlib
import StoryGraph.Proofs.Json.Faithful

set_option relaxedAutoImplicit false
set_option autoImplicit false

/-!
# Everything that is kept comes back

Between two plays are kept nodes and choices with their runs, node ids, policies, limits and
settings, lines of a backlog, flag sets and snapshots. All of them are stored faithfully: a record
is, as its fields are, and these are in the end texts, numbers in their range, and lists. A snapshot
is read back only when its version is known, and no other snapshot is ever read.

## Main results

* `Stored.everything_read_back` — whatever was written is read back, and a snapshot of another
  version is refused for it.
-/

namespace StoryGraph.Stored

instance : Faithful AdvancePolicy where
  ofJson?_toJson policy := by cases policy <;> rfl

instance : Faithful Span where
  ofJson?_toJson s := by
    refine (Json.bind_fields?_record rfl (by simp) _).trans ?_
    rw [Fields.required_eq rfl, Fields.required_eq rfl]
    rfl

instance : Faithful Choice where
  ofJson?_toJson c := by
    refine (Json.bind_fields?_record rfl (by simp) _).trans ?_
    rw [Fields.required_eq rfl, Fields.optional_eq rfl, Fields.required_eq rfl]
    rfl

instance : Faithful Node where
  ofJson?_toJson n := by
    refine (Json.bind_fields?_record rfl (by simp) _).trans ?_
    rw [Fields.required_eq rfl, Fields.required_eq rfl, Fields.required_eq rfl,
      Fields.required_eq rfl, Fields.required_eq rfl, Fields.optional_eq rfl,
      Fields.required_eq rfl, Fields.required_eq rfl, Fields.required_eq rfl,
      Fields.required_eq rfl, Fields.required_eq rfl, Fields.optional_eq rfl,
      Fields.required_eq rfl, Fields.required_eq rfl, Fields.required_eq rfl,
      Fields.required_eq rfl]
    rfl

instance : Faithful Limits where
  ofJson?_toJson l := by
    refine (Json.bind_fields?_record rfl (by simp) _).trans ?_
    dsimp only
    rw [Fields.withDefault_eq rfl, Fields.withDefault_eq rfl, Fields.withDefault_eq rfl]
    rfl

instance : Faithful Settings where
  ofJson?_toJson s := by
    refine (Json.bind_fields?_record rfl (by simp) _).trans ?_
    dsimp only
    rw [Fields.withDefault_eq rfl, Fields.withDefault_eq rfl, Fields.withDefault_eq rfl,
      Fields.withDefault_eq rfl]
    rfl

instance : Faithful SpokenLine where
  ofJson?_toJson line := by
    refine (Json.bind_fields?_record rfl (by simp) _).trans ?_
    rw [Fields.required_eq rfl, Fields.required_eq rfl, Fields.required_eq rfl]
    rfl

instance : Faithful FlagSet where
  ofJson?_toJson s := by
    refine (Json.bind_fields?_record rfl (by simp) _).trans ?_
    rw [Fields.required_eq rfl]
    rfl

/-- A snapshot that is read has the version that is known. -/
theorem version_eq_of_read {text : String} {s : Snapshot} (h : Snapshot.read text = .ok s) :
    s.version = Snapshot.currentVersion := by
  unfold Snapshot.read at h
  split at h
  case h_1 => cases h
  case h_2 found hfound =>
    split at h
    case isTrue hversion =>
      obtain rfl := Except.ok.inj h
      exact hversion
    case isFalse => cases h

/-- **Everything that is kept comes back.** Whatever the texts in it are made of, whatever the
numbers are, and whether a part that may be missing is there or not, what was written of a value is
read back as this value. A snapshot is read back when its version is the one that is known, and
refused for its version otherwise; and a snapshot that any text keeps is of this version, and is
read back from its own written form, too.

**Proof sketch.** Each kind of value has a `Faithful` instance, and `read?_write` holds of all that
have one. For snapshots `Snapshot.read_write_eq` adds the look at the version, which comes last. -/
theorem everything_read_back :
    (∀ n : Node, read? (write n) = some n) ∧ (∀ c : Choice, read? (write c) = some c) ∧
      (∀ s : Span, read? (write s) = some s) ∧ (∀ id : NodeId, read? (write id) = some id) ∧
      (∀ policy : AdvancePolicy, read? (write policy) = some policy) ∧
      (∀ l : Limits, read? (write l) = some l) ∧ (∀ s : Settings, read? (write s) = some s) ∧
      (∀ line : SpokenLine, read? (write line) = some line) ∧
      (∀ s : FlagSet, read? (write s) = some s) ∧
      (∀ s : Snapshot, s.version = 1 → Snapshot.read (write s) = .ok s) ∧
      (∀ s : Snapshot, s.version ≠ 1 →
        Snapshot.read (write s) = .error (.version s.version)) ∧
      ∀ (text : String) (s : Snapshot), Snapshot.read text = .ok s →
        s.version = 1 ∧ Snapshot.read (write s) = .ok s := by
  refine ⟨read?_write, read?_write, read?_write, read?_write, read?_write, read?_write,
    read?_write, read?_write, read?_write, fun s hversion => ?_, fun s hversion => ?_,
    fun text s hread => ?_⟩
  · exact Snapshot.read_write hversion
  · exact (Snapshot.read_write_eq s).trans (if_neg hversion)
  · have hversion := version_eq_of_read hread
    exact ⟨hversion, Snapshot.read_write hversion⟩

/-- A node with texts that are hard to write, and with the largest numbers. -/
def oddNode : Node where
  id := ⟨4294967295⟩
  speaker := "\"\\\""
  text := "\x00\x1f\t\r\n\u2028\\n\""
  actors := some ""
  effects := ⟨4294967295, 0⟩

/-- Settings with the largest sizes. -/
def largeSettings : Settings where
  limits := ⟨18446744073709551615, 0, 9223372036854775808⟩
  pendingCapacity := 18446744073709551615

/-- A snapshot without a node, and with a flag that is set twice. -/
def bareSnapshot : Snapshot := ⟨1, none, [5, -2147483648, 5]⟩

/-- The same as a list of its fields, with blanks between them. -/
def bareText : String := "[1, null,\n[5, -2147483648, 5] ]"

/-- A snapshot of another version. -/
def laterSnapshot : Snapshot := ⟨2, some ⟨4294967295⟩, []⟩

/-- These come back, but for the snapshot of another version. -/
theorem everything_read_back_odd :
    read? (write oddNode) = some oddNode ∧ read? (write largeSettings) = some largeSettings ∧
      laterSnapshot.version ≠ 1 ∧
      Snapshot.read (write laterSnapshot) = .error (.version 2) ∧
      Snapshot.read bareText = .ok bareSnapshot ∧ bareSnapshot.version = 1 ∧
      Snapshot.read (write bareSnapshot) = .ok bareSnapshot := by
  obtain ⟨hnode, -, -, -, -, -, hsettings, -, -, hknown, hother, haccepted⟩ := everything_read_back
  have hlater : laterSnapshot.version ≠ 1 := by decide
  have hbare : Snapshot.read bareText = .ok bareSnapshot := by cbv
  exact ⟨hnode oddNode, hsettings largeSettings, hlater, hother laterSnapshot hlater, hbare,
    (haccepted bareText bareSnapshot hbare).1, hknown bareSnapshot rfl⟩

end StoryGraph.Stored
