import StoryGraph.Check.Reach
import StoryGraph.Json.Stored
import StoryGraph.Settings

set_option relaxedAutoImplicit false
set_option autoImplicit false

/-!
# Written forms

How everything that is kept between two plays is written as JSON.

## Main definitions

* Instances of `Stored` for node ids, spans, choices, nodes, policies, limits, settings, lines of a
  backlog, flag sets and snapshots.
* `Snapshot.read` — the snapshot that a text keeps, if its version is known.
* `Report.toJson` — a report for other tools, which is written but not read.

## Implementation notes

All fields of limits and of settings have defaults, and so have the flags of a snapshot; a field
that may be missing is `null` when it is. Any other field has to be there.
-/

namespace StoryGraph

instance : Stored NodeId where
  toJson id := Stored.toJson id.val
  ofJson? j := (Stored.ofJson? j).map NodeId.mk

instance : Stored Span where
  toJson s := .record [("offset", Stored.toJson s.offset), ("count", Stored.toJson s.count)]
  ofJson? j := do
    let f ← j.fields? ["offset", "count"]
    return { offset := ← f.required 0, count := ← f.required 1 }

instance : Stored Choice where
  toJson c := .record
    [("label", Stored.toJson c.label), ("goto", Stored.toJson c.goto),
      ("set_flags", Stored.toJson c.effects)]
  ofJson? j := do
    let f ← j.fields? ["label", "goto", "set_flags"]
    return { label := ← f.required 0, goto := ← f.optional 1, effects := ← f.required 2 }

/-- The name under which a policy is kept. -/
def AdvancePolicy.name : AdvancePolicy → String
  | default => "Default"
  | block => "Block"
  | fast => "Fast"
  | fastForward => "FastForward"

/-- The policy that is kept under a name. -/
def AdvancePolicy.ofName? (name : String) : Option AdvancePolicy :=
  [default, block, fast, fastForward].find? fun policy => policy.name == name

/-- A policy is kept as its name; an object that says nothing more under that name will do. -/
instance : Stored AdvancePolicy where
  toJson policy := .text policy.name
  ofJson?
    | .str (some name) => AdvancePolicy.ofName? name
    | .obj [(some name, .null)] => AdvancePolicy.ofName? name
    | _ => none

instance : Stored Node where
  toJson n := .record
    [("id", Stored.toJson n.id), ("index_key", Stored.toJson n.indexKey),
      ("row_type", Stored.toJson n.rowType), ("speaker", Stored.toJson n.speaker),
      ("text", Stored.toJson n.text), ("actors", Stored.toJson n.actors),
      ("bgm", Stored.toJson n.bgm), ("sfx", Stored.toJson n.sfx), ("cg", Stored.toJson n.cg),
      ("transition", Stored.toJson n.transition),
      ("advance_policy", Stored.toJson n.advancePolicy), ("next", Stored.toJson n.next),
      ("flags_set", Stored.toJson n.effects), ("flags_req", Stored.toJson n.requires),
      ("choices", Stored.toJson n.choices), ("authored", Stored.toJson n.authored)]
  ofJson? j := do
    let f ← j.fields?
      ["id", "index_key", "row_type", "speaker", "text", "actors", "bgm", "sfx", "cg",
        "transition", "advance_policy", "next", "flags_set", "flags_req", "choices", "authored"]
    return {
      id := ← f.required 0
      indexKey := ← f.required 1
      rowType := ← f.required 2
      speaker := ← f.required 3
      text := ← f.required 4
      actors := ← f.optional 5
      bgm := ← f.required 6
      sfx := ← f.required 7
      cg := ← f.required 8
      transition := ← f.required 9
      advancePolicy := ← f.required 10
      next := ← f.optional 11
      effects := ← f.required 12
      requires := ← f.required 13
      choices := ← f.required 14
      authored := ← f.required 15 }

instance : Stored Limits where
  toJson l := .record
    [("max_nodes", Stored.toJson l.maxNodes), ("max_choices", Stored.toJson l.maxChoices),
      ("max_flag_refs", Stored.toJson l.maxFlagRefs)]
  ofJson? j := do
    let f ← j.fields? ["max_nodes", "max_choices", "max_flag_refs"]
    let usual : Limits := {}
    return {
      maxNodes := ← f.withDefault 0 usual.maxNodes
      maxChoices := ← f.withDefault 1 usual.maxChoices
      maxFlagRefs := ← f.withDefault 2 usual.maxFlagRefs }

instance : Stored Settings where
  toJson s := .record
    [("limits", Stored.toJson s.limits), ("pending_capacity", Stored.toJson s.pendingCapacity),
      ("backlog_capacity", Stored.toJson s.backlogCapacity),
      ("start_node", Stored.toJson s.startNode)]
  ofJson? j := do
    let f ← j.fields? ["limits", "pending_capacity", "backlog_capacity", "start_node"]
    let usual : Settings := {}
    return {
      limits := ← f.withDefault 0 usual.limits
      pendingCapacity := ← f.withDefault 1 usual.pendingCapacity
      backlogCapacity := ← f.withDefault 2 usual.backlogCapacity
      startNode := ← f.withDefault 3 usual.startNode }

instance : Stored SpokenLine where
  toJson line := .record
    [("node_id", Stored.toJson line.nodeId), ("speaker", Stored.toJson line.speaker),
      ("text", Stored.toJson line.text)]
  ofJson? j := do
    let f ← j.fields? ["node_id", "speaker", "text"]
    return { nodeId := ← f.required 0, speaker := ← f.required 1, text := ← f.required 2 }

instance : Stored FlagSet where
  toJson s := .record [("words", Stored.toJson s.words)]
  ofJson? j := do
    let f ← j.fields? ["words"]
    return { words := ← f.required 0 }

instance : Stored Snapshot where
  toJson s := .record
    [("version", Stored.toJson s.version), ("node_id", Stored.toJson s.nodeId),
      ("flags", Stored.toJson s.flags)]
  ofJson? j := do
    let f ← j.fields? ["version", "node_id", "flags"]
    return {
      version := ← f.required 0
      nodeId := ← f.optional 1
      flags := ← f.withDefault 2 [] }

/-- Why a text keeps no snapshot. -/
inductive Snapshot.Unreadable where
  /-- The text is not the JSON of a snapshot. -/
  | malformed
  /-- The snapshot has a version that is not known. -/
  | version (found : UInt32)
deriving DecidableEq, Repr

/-- The message for a text that keeps no snapshot. -/
def Snapshot.Unreadable.message : Snapshot.Unreadable → String
  | malformed => "snapshot JSON error: "
  | version found =>
    s!"snapshot version mismatch: expected {currentVersion.toNat}, found {found.toNat}"

/-- The snapshot that a text keeps, if its version is known. -/
def Snapshot.read (text : String) : Except Snapshot.Unreadable Snapshot :=
  match (Stored.read? text : Option Snapshot) with
  | none => .error .malformed
  | some s => if s.version = currentVersion then .ok s else .error (.version s.version)

/-- An issue for other tools: its kind, and what it is about. -/
def Issue.toJson : Issue → Json
  | danglingNext source target => .record
    [("kind", .text "dangling_next"), ("from", Stored.toJson source),
      ("target", Stored.toJson target)]
  | danglingChoice source choice target => .record
    [("kind", .text "dangling_choice"), ("from", Stored.toJson source), ("choice", .int choice),
      ("target", Stored.toJson target)]
  | placeholderOnly node => .record
    [("kind", .text "placeholder_only"), ("node", Stored.toJson node)]
  | flagOutOfRange node flag => .record
    [("kind", .text "flag_out_of_range"), ("node", Stored.toJson node),
      ("flag", Stored.toJson flag)]
  | unreachable node => .record
    [("kind", .text "unreachable"), ("node", Stored.toJson node)]

/-- A report for other tools. -/
def Report.toJson (r : Report) : Json := .record [("issues", .arr (r.issues.map Issue.toJson))]

end StoryGraph
