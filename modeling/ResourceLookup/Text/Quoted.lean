import ResourceLookup.Character.Visibility

/-!
# Quoted text for diagnostics

The written form of names inside diagnostic texts: the text between double quotes, with the quote,
the backslash, the line controls and every character that has no visible form of its own escaped
(`quoted`), and bracketed lists of such texts (`quotedList`).
-/

set_option autoImplicit false
set_option relaxedAutoImplicit false

namespace ResourceLookup.Text

/-- The hexadecimal digits of a number without leading zeros. -/
def hexDigits (value : Nat) : List Char :=
  Nat.toDigits 16 value

/-- A character as an escape with its code. -/
def codeEscape (c : Char) : List Char :=
  ['\\', 'u', Char.ofNat 0x7B] ++ hexDigits c.toNat ++ [Char.ofNat 0x7D]

/-- The written form of one character between double quotes. -/
def quotedChar (c : Char) : List Char :=
  if c == '"' then ['\\', '"']
  else if c == '\\' then ['\\', '\\']
  else if c == '\n' then ['\\', 'n']
  else if c == '\r' then ['\\', 'r']
  else if c == '\t' then ['\\', 't']
  else if c.toNat == 0 then ['\\', '0']
  else if Character.isHidden c then codeEscape c
  else [c]

/-- The text between double quotes, escaped. -/
def quoted (text : String) : String :=
  "\"" ++ String.ofList (text.toList.flatMap quotedChar) ++ "\""

/-- The quoted texts between square brackets, with commas. -/
def quotedList (texts : List String) : String :=
  "[" ++ String.intercalate ", " (texts.map quoted) ++ "]"

/-- The written form of a flag. -/
def flagText (flag : Bool) : String :=
  if flag then "true" else "false"

end ResourceLookup.Text
