import StoryGraph.Text.Printable

set_option relaxedAutoImplicit false
set_option autoImplicit false

/-!
# Quoted text

How a message shows a text that it found at fault: between double quotes, on one line, with
every character visible.

## Main definitions

* `Text.escaped` — how one character is shown inside the quotes.
* `Text.quoted` — a text between double quotes.

## Implementation notes

A character is escaped by name (`\t`, `\"`), or by its code point in hexadecimal when it has no
shape of its own or would join the character before it. A single quote is shown as it is.
-/

namespace StoryGraph.Text

/-- How one character is shown inside double quotes. -/
def escaped (c : Char) : List Char :=
  match c with
  | '\x00' => ['\\', '0']
  | '\t' => ['\\', 't']
  | '\r' => ['\\', 'r']
  | '\n' => ['\\', 'n']
  | '"' => ['\\', '"']
  | '\\' => ['\\', '\\']
  | c =>
    if extendsGrapheme c || !isPrintable c then
      ['\\', 'u', '\x7b'] ++ Nat.toDigits 16 c.toNat ++ ['\x7d']
    else [c]

/-- `quoted cs` is `cs` between double quotes, with every character visible. -/
def quoted (cs : List Char) : List Char :=
  '"' :: cs.flatMap escaped ++ ['"']

end StoryGraph.Text
