set_option relaxedAutoImplicit false
set_option autoImplicit false

/-!
# Blank characters and trimming

A script is edited by hand in a spreadsheet, so blanks around a cell carry no meaning. Blank means
the Unicode property `White_Space`, not the six characters of ASCII.

## Main definitions

* `Text.isBlank` — the property `White_Space`.
* `Text.trim` — a text without the blanks at its two ends.
* `Text.lowerAscii` — a text with the letters `A` to `Z` in lower case and all else kept.
-/

namespace StoryGraph.Text

/-- The code points with the Unicode property `White_Space`, as closed ranges. -/
def blankRanges : List (Nat × Nat) :=
  [(0x0009, 0x000D), (0x0020, 0x0020), (0x0085, 0x0085), (0x00A0, 0x00A0), (0x1680, 0x1680),
   (0x2000, 0x200A), (0x2028, 0x2029), (0x202F, 0x202F), (0x205F, 0x205F), (0x3000, 0x3000)]

/-- A character is blank when it has the Unicode property `White_Space`. -/
def isBlank (c : Char) : Bool :=
  blankRanges.any fun range => range.1 ≤ c.toNat && c.toNat ≤ range.2

/-- `trimEnd cs` is `cs` without the blanks at its end. -/
def trimEnd (cs : List Char) : List Char :=
  (cs.reverse.dropWhile isBlank).reverse

/-- `trim cs` is `cs` without the blanks at its two ends. -/
def trim (cs : List Char) : List Char :=
  trimEnd (cs.dropWhile isBlank)

/-- `lowerAscii cs` has the letters `A` to `Z` of `cs` in lower case. -/
def lowerAscii (cs : List Char) : List Char :=
  cs.map Char.toLower

end StoryGraph.Text
