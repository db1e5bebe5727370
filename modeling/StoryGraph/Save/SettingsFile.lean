import StoryGraph.Settings
import StoryGraph.Toml.Document

set_option relaxedAutoImplicit false
set_option autoImplicit false

/-!
# Settings files

Settings and limits are written as TOML documents. What a document does not say keeps its default,
and what it says beyond the settings is ignored.

## Main definitions

* `Settings.parse?` — the settings of a document.
* `Limits.parse?` — the limits of a document.
-/

namespace StoryGraph

/-- The field at a place, or its default when nothing is said of it. -/
def Toml.fieldOr {α : Type} (said : List (Option Toml.Value)) (place : Nat)
    (read? : Toml.Value → Option α) (fallback : α) : Option α :=
  match (said[place]?).join with
  | some value => read? value
  | none => some fallback

/-- The size that a value gives: an integer that is not negative. -/
def Toml.Value.size? : Toml.Value → Option UInt64
  | .integer n => if 0 ≤ n ∧ n < UInt64.size then some (UInt64.ofNat n.toNat) else none
  | _ => none

/-- The node that a value names. -/
def Toml.Value.nodeId? : Toml.Value → Option NodeId
  | .integer n => NodeId.ofInt? n
  | _ => none

namespace Limits

/-- The limits that a value gives. -/
def ofToml? (value : Toml.Value) : Option Limits := do
  let said ← value.fields? ["max_nodes", "max_choices", "max_flag_refs"]
  let usual : Limits := {}
  return {
    maxNodes := ← Toml.fieldOr said 0 Toml.Value.size? usual.maxNodes
    maxChoices := ← Toml.fieldOr said 1 Toml.Value.size? usual.maxChoices
    maxFlagRefs := ← Toml.fieldOr said 2 Toml.Value.size? usual.maxFlagRefs }

/-- The limits that a document gives. -/
def parse? (document : String) : Option Limits := do
  ofToml? (.table (← Toml.parse? document))

/-- The message for a document that gives no limits. -/
def invalidMessage : String := "invalid pool configuration: "

end Limits

namespace Settings

/-- The settings that a value gives. -/
def ofToml? (value : Toml.Value) : Option Settings := do
  let said ← value.fields? ["limits", "pending_capacity", "backlog_capacity", "start_node"]
  let usual : Settings := {}
  return {
    limits := ← Toml.fieldOr said 0 Limits.ofToml? usual.limits
    pendingCapacity := ← Toml.fieldOr said 1 Toml.Value.size? usual.pendingCapacity
    backlogCapacity := ← Toml.fieldOr said 2 Toml.Value.size? usual.backlogCapacity
    startNode := ← Toml.fieldOr said 3 Toml.Value.nodeId? usual.startNode }

/-- The settings that a document gives. -/
def parse? (document : String) : Option Settings := do
  ofToml? (.table (← Toml.parse? document))

/-- The message for a document that gives no settings. -/
def invalidMessage : String := "invalid engine configuration: "

end Settings

end StoryGraph
