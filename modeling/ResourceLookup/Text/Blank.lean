/-!
# Blank text

The characters of the `White_Space` property, and what follows from them: trimming a text at both
ends (`trim`) and telling blank texts from others (`isBlank`). Identifiers, tokens, base addresses
and header names are all trimmed by this one rule. A single character is removed at one end of a
text by `trimStart` and `trimEnd`.
-/

set_option autoImplicit false
set_option relaxedAutoImplicit false

namespace ResourceLookup.Text

/-- The characters of the Unicode property `White_Space`. -/
def isWhite (c : Char) : Bool :=
  let code := c.toNat
  (9 ≤ code && code ≤ 13) || code == 0x20 || code == 0x85 || code == 0xA0 || code == 0x1680 ||
    (0x2000 ≤ code && code ≤ 0x200A) || code == 0x2028 || code == 0x2029 || code == 0x202F ||
    code == 0x205F || code == 0x3000

/-- The characters without white space at either end. -/
def trimChars (text : List Char) : List Char :=
  ((text.dropWhile isWhite).reverse.dropWhile isWhite).reverse

/-- The text without white space at either end. -/
def trim (text : String) : String :=
  String.ofList (trimChars text.toList)

/-- The text without the given character at its end. -/
def trimEnd (mark : Char) (text : String) : String :=
  String.ofList (text.toList.reverse.dropWhile (· == mark)).reverse

/-- The text without the given character at its start. -/
def trimStart (mark : Char) (text : String) : String :=
  String.ofList (text.toList.dropWhile (· == mark))

/-- A text is blank when it is empty or holds white space only. -/
def isBlank (text : String) : Bool :=
  text.toList.all isWhite

end ResourceLookup.Text
