/-!
# Letter case

Two rules. `asciiLower` maps the twenty-six capital letters and nothing else; path markers, header
names and host names are compared in it. `foldForSearch` maps in addition the one other character
whose lower case is a single ASCII letter, the Kelvin sign, which is enough to look for ASCII words
that do not end in the letter i in a text of any script: the only other character whose lower case
begins with an ASCII letter, the capital I with a dot, keeps its dot as a mark behind the letter.
-/

set_option autoImplicit false
set_option relaxedAutoImplicit false

namespace ResourceLookup.Text

/-- The lower case of an ASCII capital letter; every other character is kept. -/
def asciiLowerChar (c : Char) : Char :=
  if 65 ≤ c.toNat && c.toNat ≤ 90 then Char.ofNat (c.toNat + 32) else c

/-- The text with ASCII capital letters lowered. -/
def asciiLower (text : String) : String :=
  String.ofList (text.toList.map asciiLowerChar)

/-- Lower case as far as a search for ASCII words can see it. -/
def foldForSearch (text : List Char) : List Char :=
  text.map fun c ↦ if c.toNat == 0x212A then 'k' else asciiLowerChar c

/-- Whether the character is an ASCII letter. -/
def isAsciiLetter (c : Char) : Bool :=
  (65 ≤ c.toNat && c.toNat ≤ 90) || (97 ≤ c.toNat && c.toNat ≤ 122)

/-- Whether the character is an ASCII digit. -/
def isAsciiDigit (c : Char) : Bool :=
  48 ≤ c.toNat && c.toNat ≤ 57

/-- The value of an ASCII digit. -/
def digitValue (c : Char) : Nat :=
  c.toNat - 48

theorem foldForSearch_append (text rest : List Char) :
    foldForSearch (text ++ rest) = foldForSearch text ++ foldForSearch rest :=
  List.map_append

/-- A character beyond ASCII is kept. -/
theorem asciiLowerChar_of_le {c : Char} (hc : 128 ≤ c.toNat) : asciiLowerChar c = c := by
  rw [asciiLowerChar, if_neg]
  simp only [Bool.and_eq_true, decide_eq_true_eq]
  omega

end ResourceLookup.Text
