import StoryGraph.Proofs.Json.RoundTrip
import StoryGraph.Save.Format

set_option relaxedAutoImplicit false
set_option autoImplicit false

/-!
# Getting back what was stored

A type is stored faithfully when every value comes back from the JSON that keeps it. Numbers are,
lists are when their items are, and a record is when its fields are.

## Main definitions

* `Stored.Faithful` — every value of a type comes back.
* `Stored.Present` — no value of a type is kept as `null`, so that `null` can tell a missing one.

## Main results

* `Stored.read?_write` — what was written of a value is read back.
* `Json.fields?_record`, `Json.bind_fields?_record` — the fields of a record are found under their
  names, and whatever reads the record goes on with them.
* `Snapshot.read_write_eq` — a snapshot is read back, or refused for its version.
-/

namespace StoryGraph

namespace Stored

variable {α : Type} [Stored α]

/-- Every value of the type `α` comes back from the JSON that keeps it. -/
class Faithful (α : Type) [Stored α] : Prop where
  ofJson?_toJson : ∀ a : α, ofJson? (toJson a) = some a

/-- No value of the type `α` is kept as `null`. -/
class Present (α : Type) [Stored α] : Prop where
  toJson_ne_null : ∀ a : α, toJson a ≠ .null

attribute [simp] Faithful.ofJson?_toJson

/-- What was written of a value is read back. -/
theorem read?_write [Faithful α] (a : α) : read? (write a) = some a := by
  rw [read?, write, Json.parse?_compress, Option.bind_some, Faithful.ofJson?_toJson]

instance : Faithful Bool where
  ofJson?_toJson _ := rfl

instance : Faithful String where
  ofJson?_toJson _ := rfl

instance : Present String where
  toJson_ne_null s := by rintro ⟨⟩

instance : Faithful UInt32 where
  ofJson?_toJson n := by
    have hlt := n.toNat_lt_size
    change (if 0 ≤ (n.toNat : Int) ∧ (n.toNat : Int) < UInt32.size then
      some (UInt32.ofNat (n.toNat : Int).toNat) else none) = some n
    rw [if_pos ⟨by omega, by omega⟩, Int.toNat_natCast, UInt32.ofNat_toNat]

instance : Faithful UInt64 where
  ofJson?_toJson n := by
    have hlt := n.toNat_lt_size
    change (if 0 ≤ (n.toNat : Int) ∧ (n.toNat : Int) < UInt64.size then
      some (UInt64.ofNat (n.toNat : Int).toNat) else none) = some n
    rw [if_pos ⟨by omega, by omega⟩, Int.toNat_natCast, UInt64.ofNat_toNat]

instance : Faithful Int32 where
  ofJson?_toJson n := by
    change (if Int32.minValue.toInt ≤ n.toInt ∧ n.toInt ≤ Int32.maxValue.toInt then
      some (Int32.ofInt n.toInt) else none) = some n
    rw [if_pos ⟨n.minValue_le_toInt, n.toInt_le⟩, Int32.ofInt_toInt]

instance [Faithful α] [Present α] : Faithful (Option α) where
  ofJson?_toJson a := by
    cases a with
    | none => rfl
    | some a =>
      change (match toJson a with
        | .null => some none
        | j => (ofJson? j).map some) = some (some a)
      have hnull := Present.toJson_ne_null a
      split
      · contradiction
      · simp

instance [Faithful α] : Faithful (List α) where
  ofJson?_toJson as := by
    change (as.map toJson).mapM ofJson? = some as
    induction as with
    | nil => rfl
    | cons a as ih => simp [ih]

instance {n : Nat} [Faithful α] : Faithful (Vector α n) where
  ofJson?_toJson as := by
    change (ofJson? (toJson as.toList)).bind _ = some as
    rw [Faithful.ofJson?_toJson, Option.bind_some, dif_pos as.length_toList]
    exact congrArg some (Vector.toArray_inj.1 (Array.toArray_toList ..))

end Stored

/-! ## Records -/

namespace Json

variable {members : List (String × Json)}

/-- An object with different keys says one thing of each of them.

**Proof sketch.** Induction on the members: those with the key are filtered, and one is left. If the
first member is the one, no other has its key; if it is not, it has another key, since the one with
the key comes later. -/
theorem member?_of_mem (hkeys : (members.map (·.1)).Nodup) {key : String} {value : Json}
    (h : (key, value) ∈ members) :
    member? (members.map fun (key, value) => (some key, value)) key = some (some value) := by
  have hfilter : (members.map fun (key, value) => (some key, value)).filter
      (fun member => member.1 == some key) = [(some key, value)] := by
    induction members with
    | nil => simp at h
    | cons member members ih =>
      obtain ⟨key', value'⟩ := member
      rw [List.map_cons, List.nodup_cons] at hkeys
      rcases List.mem_cons.1 h with heq | hmem
      · obtain ⟨rfl, rfl⟩ := Prod.mk.inj heq
        have hnone : ∀ other ∈ members, other.1 ≠ key := fun other hother heq =>
          hkeys.1 (List.mem_map.2 ⟨other, hother, heq⟩)
        have hrest : (members.map fun (key, value) => (some key, value)).filter
            (fun member => member.1 == some key) = [] := by
          rw [List.filter_eq_nil_iff]
          intro member hother
          obtain ⟨other, hmem, rfl⟩ := List.mem_map.1 hother
          simpa using hnone other hmem
        simpa using hrest
      · have hne : key' ≠ key := by
          rintro rfl
          exact hkeys.1 (List.mem_map.2 ⟨_, hmem, rfl⟩)
        simpa [hne] using ih hkeys.2 hmem
  rw [member?, hfilter]

/-- The fields of a record with different keys are found under their names.

**Proof sketch.** Each name is looked up among all members, where `member?_of_mem` finds what it
says. The look-ups run through a part of the members, so the induction is on a part, and all its
members are members. -/
theorem fields?_record {names : List String} (hnames : members.map (·.1) = names)
    (hkeys : names.Nodup) :
    fields? names (record members) = some ⟨true, members.map fun member => some member.2⟩ := by
  subst hnames
  have hall : (members.map fun (key, value) => (some key, value)).all
      (fun member => member.1.isSome) = true := by simp
  have hsaid : ∀ part : List (String × Json), (∀ member ∈ part, member ∈ members) →
      (part.map (·.1)).mapM (member? (members.map fun (key, value) => (some key, value))) =
        some (part.map fun member => some member.2) := by
    intro part hpart
    induction part with
    | nil => rfl
    | cons member part ih =>
      have := member?_of_mem hkeys (hpart member (by simp))
      simp [this, ih fun m hm => hpart m (by simp [hm])]
  rw [record, fields?, hall, hsaid members fun _ h => h]
  rfl

/-- What reads a record with different keys goes on with its fields. -/
theorem bind_fields?_record {α : Type} {names : List String} (hnames : members.map (·.1) = names)
    (hkeys : names.Nodup) (f : Fields → Option α) :
    (fields? names (record members)).bind f = f ⟨true, members.map fun member => some member.2⟩ := by
  rw [fields?_record hnames hkeys, Option.bind_some]

end Json

namespace Fields

variable {α : Type} [Stored α] [Stored.Faithful α] {f : Fields} {place : Nat}

/-- A value that was said at a place is read back from that place. -/
theorem at?_eq {j : Json} (h : f.said[place]? = some (some j)) : f.at? place = some j := by
  rw [at?, h, Option.join_some]

/-- A field that has to be there comes back. -/
theorem required_eq {a : α} (h : f.said[place]? = some (some (Stored.toJson a))) :
    f.required place = some a := by
  rw [required, at?_eq h, Option.bind_some, Stored.Faithful.ofJson?_toJson]

/-- A field that may be left out comes back. -/
theorem optional_eq [Stored.Present α] {a : Option α}
    (h : f.said[place]? = some (some (Stored.toJson a))) : f.optional place = some a := by
  rw [optional, at?_eq h]
  exact Stored.Faithful.ofJson?_toJson a

/-- A field that has a default comes back. -/
theorem withDefault_eq {a fallback : α} (h : f.said[place]? = some (some (Stored.toJson a))) :
    f.withDefault place fallback = some a := by
  rw [withDefault, at?_eq h]
  exact Stored.Faithful.ofJson?_toJson a

end Fields

namespace Stored

instance : Faithful NodeId where
  ofJson?_toJson id := by
    change (ofJson? (toJson id.val)).map NodeId.mk = some id
    rw [Faithful.ofJson?_toJson]
    rfl

instance : Present NodeId where
  toJson_ne_null id := by rintro ⟨⟩

instance : Faithful Snapshot where
  ofJson?_toJson s := by
    refine (Json.bind_fields?_record rfl (by simp) _).trans ?_
    rw [Fields.required_eq rfl, Fields.optional_eq rfl, Fields.withDefault_eq rfl]
    rfl

end Stored

/-- What was written of a snapshot is a snapshot again, which is refused if its version is not the
one that is known. -/
theorem Snapshot.read_write_eq (s : Snapshot) :
    read (Stored.write s) =
      if s.version = currentVersion then .ok s else .error (.version s.version) := by
  rw [read, Stored.read?_write]

/-- A snapshot of the version that is known is read back from what was written of it. -/
theorem Snapshot.read_write {s : Snapshot} (h : s.version = currentVersion) :
    read (Stored.write s) = .ok s := by
  rw [read_write_eq, if_pos h]

end StoryGraph
