import Std.Data.TreeMap

set_option relaxedAutoImplicit false
set_option autoImplicit false

/-!
# Node ids

The author of a script numbers its nodes. The number stays with the node however often the script
is compiled again.

## Main definitions

* `NodeId` — the number of a node.
* `NodeId.ofInt?` — the node that an integer names, if it names one.
-/

namespace StoryGraph

/-- The number that the author of a script gave a node. -/
structure NodeId where
  /-- The number itself. -/
  val : UInt32
deriving DecidableEq, Repr, Inhabited

namespace NodeId

/-- The node that an integer names: none when it is negative or has more than 32 bits. -/
def ofInt? (n : Int) : Option NodeId :=
  if 0 ≤ n ∧ n < UInt32.size then some ⟨UInt32.ofNat n.toNat⟩ else none

/-- A node id is shown as a decimal number. -/
instance : ToString NodeId := ⟨fun id => toString id.val.toNat⟩

/-- Node ids are ordered as numbers. -/
instance : Ord NodeId := ⟨fun a b => compare a.val b.val⟩

instance : Std.TransOrd NodeId where
  eq_swap {a b} :=
    show compare a.val b.val = (compare b.val a.val).swap from Std.OrientedCmp.eq_swap
  isLE_trans {a b c} (hab : (compare a.val b.val).isLE) (hbc : (compare b.val c.val).isLE) :=
    show (compare a.val c.val).isLE from Std.TransCmp.isLE_trans hab hbc

instance : Std.LawfulEqOrd NodeId where
  compare_self {a} := show compare a.val a.val = .eq from Std.ReflCmp.compare_self
  eq_of_compare {a b} (h : compare a.val b.val = .eq) := by
    have : a.val = b.val := Std.LawfulEqOrd.eq_of_compare h
    cases a
    cases b
    exact congrArg NodeId.mk this

end NodeId

end StoryGraph
