import ResourceLookup.Text.Octets
import ResourceLookup.Text.Search

/-!
# Tables over characters

A property of characters as a table: ranges of code points in ascending order, each with the values
that its characters have. A table is written as a text of rows with semicolons between them, a row
as hexadecimal numbers with white space between them: the first and the last code point of the
range, then the values (`CodeTable.ofRanges`), or where each range is a single code point, that and
then its values (`CodeTable.ofSingles`).

A row is found by halving the table (`CodeTable.find?`).
-/

set_option autoImplicit false
set_option relaxedAutoImplicit false

namespace ResourceLookup

/-- A range of code points and the values that its characters have. -/
structure CodeRow where
  first : Nat
  last : Nat
  values : List Nat
  deriving DecidableEq

/-- Ranges in ascending order. -/
abbrev CodeTable := Array CodeRow

namespace CodeTable

/-- The number that hexadecimal digits write down; other characters count as zeros. -/
def numberOf (digits : List Char) : Nat :=
  digits.foldl (fun total c ↦ total * 16 + (Text.hexValue? c).getD 0) 0

/-- The numbers of a written row. -/
def numbersOf (row : List Char) : List Nat :=
  ((Text.splitWhere (fun c ↦ c == ' ' || c == '\n') row).filter (!·.isEmpty)).map numberOf

/-- The numbers of each row of a written table. -/
def rowsOf (text : String) : List (List Nat) :=
  (Text.splitWhere (· == ';') text.toList).map numbersOf

/-- The table whose rows start with the first and the last code point of a range. -/
def ofRanges (text : String) : CodeTable :=
  ((rowsOf text).filterMap fun row ↦ match row with
    | first :: last :: values => some ⟨first, last, values⟩
    | _ => none).toArray

/-- The table whose rows start with a single code point. -/
def ofSingles (text : String) : CodeTable :=
  ((rowsOf text).filterMap fun row ↦ match row with
    | code :: values => some ⟨code, code, values⟩
    | [] => none).toArray

/-- The row of a code point among those from `low` on and below `high`. -/
def search (table : CodeTable) (code low high : Nat) : Option CodeRow :=
  if low < high then
    let middle := (low + high) / 2
    match table[middle]? with
    | none => none
    | some row =>
      if code < row.first then search table code low middle
      else if row.last < code then search table code (middle + 1) high
      else some row
  else none
termination_by high - low

/-- The row of a code point. -/
def find? (table : CodeTable) (code : Nat) : Option CodeRow :=
  table.search code 0 table.size

/-- Whether the table has a row for a code point. -/
def contains (table : CodeTable) (code : Nat) : Bool :=
  (table.find? code).isSome

/-- The first value of a code point, zero if it has none. -/
def valueOf (table : CodeTable) (code : Nat) : Nat :=
  match table.find? code with
  | some row => row.values.headD 0
  | none => 0

end CodeTable

end ResourceLookup
