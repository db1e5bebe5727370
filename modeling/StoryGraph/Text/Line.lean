set_option relaxedAutoImplicit false
set_option autoImplicit false

/-!
# Lines of a text

A line ends with a line feed, which may follow a carriage return; both belong to the line break
and not to the line. The last line needs no line break, and an empty text has no line.

## Main definitions

* `Text.lines` — the lines of a text, without their line breaks.

## Implementation notes

A carriage return that no line feed follows is part of its line, also at the end of the text.
-/

namespace StoryGraph.Text

/-- The lines of a text, without their line breaks. -/
def lines : List Char → List (List Char)
  | [] => []
  | '\n' :: rest => [] :: lines rest
  | '\r' :: '\n' :: rest => [] :: lines rest
  | c :: rest =>
    match lines rest with
    | [] => [[c]]
    | line :: later => (c :: line) :: later

end StoryGraph.Text
