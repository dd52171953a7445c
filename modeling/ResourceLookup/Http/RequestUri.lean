import ResourceLookup.Text.Casing
import ResourceLookup.Text.Search

/-!
# Addresses of requests

The address that a request is sent to, as strictly as the wire needs it (`RequestUri.parse`): a
scheme with its authority and the request target behind it, or a target alone, or an authority
alone. The authority holds the characters of host names, user information and ports and nothing
else. The target is read more freely: it may hold braces, brackets, bars and any character beyond
ASCII, but no space, no control and no angle bracket. A fragment is dropped.

What is at fault with other texts is a `RequestUri.Fault`.
-/

set_option autoImplicit false
set_option relaxedAutoImplicit false

namespace ResourceLookup

/-- The parts of the address of a request; what is not there is empty or none. -/
structure RequestUri where
  scheme : Option String
  authority : List Char
  pathAndQuery : List Char
  deriving DecidableEq

namespace RequestUri

/-- What can be wrong with the address of a request. -/
inductive Fault where
  | invalidCharacter
  | invalidAuthority
  | invalidFormat
  | empty
  | tooLong
  | schemeTooLong
  deriving DecidableEq

/-- The wording of a fault. -/
def Fault.message : Fault → String
  | .invalidCharacter => "invalid uri character"
  | .invalidAuthority => "invalid authority"
  | .invalidFormat => "invalid format"
  | .empty => "empty string"
  | .tooLong => "uri too long"
  | .schemeTooLong => "scheme too long"

/-- The largest number of octets of an address. -/
def lengthLimit : Nat := 65534

/-- The largest number of characters of a scheme. -/
def schemeLimit : Nat := 64

/-! ### Scheme -/

/-- Whether a character can stand in a scheme. -/
def isSchemeChar (c : Char) : Bool :=
  Text.isAsciiLetter c || Text.isAsciiDigit c || c == '+' || c == '-' || c == '.'

/-- The scheme in front of `://` and what follows it, if the address starts so. -/
def splitScheme (text : List Char) : Except Fault (Option (String × List Char)) :=
  let name := text.takeWhile isSchemeChar
  match Text.stripStart? "://".toList (text.dropWhile isSchemeChar) with
  | none => .ok none
  | some rest =>
    let lowered := Text.asciiLower (String.ofList name)
    if lowered == "http" || lowered == "https" then .ok (some (lowered, rest))
    else if schemeLimit < name.length then .error .schemeTooLong
    else .ok (some (String.ofList name, rest))

/-! ### Authority -/

/-- Whether a character ends the authority. -/
def endsAuthority (c : Char) : Bool :=
  c == '/' || c == '?' || c == '#'

/-- The marks that an authority can hold besides letters and digits. -/
def authorityMarks : List Char :=
  ['!', '$', '%', '&', '\'', '(', ')', '*', '+', ',', '-', '.', ':', ';', '=', '@', '[', ']', '_',
    '~']

/-- Whether a character can stand in an authority. -/
def isAuthorityChar (c : Char) : Bool :=
  Text.isAsciiLetter c || Text.isAsciiDigit c || authorityMarks.contains c

/-- The largest number of colons in a row of pieces of an address. -/
def colonLimit : Nat := 8

/-- What has been seen of an authority: the colons and the percent signs that could belong to the
host, the brackets, and whether the last character was an at sign. -/
structure Seen where
  colons : Nat
  percent : Bool
  opened : Bool
  closed : Bool
  atSign : Bool

/-- Nothing seen yet. -/
def Seen.nothing : Seen := ⟨0, false, false, false, false⟩

/-- What has been seen with one more character. -/
def Seen.next (seen : Seen) (c : Char) : Except Fault Seen :=
  let seen := { seen with atSign := c == '@' }
  if !isAuthorityChar c then .error .invalidCharacter
  else if c == ':' then
    if colonLimit ≤ seen.colons then .error .invalidAuthority
    else .ok { seen with colons := seen.colons + 1 }
  else if c == '[' then
    if seen.percent || seen.opened then .error .invalidAuthority
    else .ok { seen with opened := true }
  else if c == ']' then
    if !seen.opened || seen.closed then .error .invalidAuthority
    else .ok { seen with closed := true, colons := 0, percent := false }
  else if c == '@' then .ok { seen with colons := 0, percent := false }
  else if c == '%' then .ok { seen with percent := true }
  else .ok seen

/-- What has been seen with more characters. -/
def Seen.run (seen : Seen) : List Char → Except Fault Seen
  | [] => .ok seen
  | c :: rest =>
    match seen.next c with
    | .error fault => .error fault
    | .ok seen => run seen rest

/-- Whether the text is an authority: brackets in pairs, one colon at most behind user information
and brackets, no percent sign in the host, and something behind the at sign. -/
def checkAuthority (text : List Char) : Except Fault Unit :=
  match Seen.nothing.run text with
  | .error fault => .error fault
  | .ok seen =>
    if seen.opened != seen.closed || 1 < seen.colons || seen.atSign || seen.percent then
      .error .invalidAuthority
    else .ok ()

/-! ### Path and query -/

/-- Whether a character can stand in a path. -/
def isPathChar (c : Char) : Bool :=
  let code := c.toNat
  code == 0x21 || code == 0x22 || (0x24 ≤ code && code ≤ 0x3B) || code == 0x3D ||
    (0x40 ≤ code && code ≤ 0x5F) || 0x61 ≤ code

/-- Whether a character can stand in a query. -/
def isQueryChar (c : Char) : Bool :=
  let code := c.toNat
  code == 0x21 || (0x24 ≤ code && code ≤ 0x3B) || code == 0x3D || 0x3F ≤ code

/-- The path and the query of an address, without the fragment. -/
def parseTarget (text : List Char) : Except Fault (List Char) :=
  let kept := text.takeWhile (· != '#')
  let path := kept.takeWhile (· != '?')
  let query := (kept.dropWhile (· != '?')).drop 1
  if path.all isPathChar && query.all isQueryChar then .ok kept else .error .invalidCharacter

/-! ### The whole address -/

/-- The address behind its scheme. -/
def parseBehindScheme (scheme : String) (text : List Char) : Except Fault RequestUri :=
  let authority := text.takeWhile fun c ↦ !endsAuthority c
  match checkAuthority authority with
  | .error fault => .error fault
  | .ok () =>
    if authority.isEmpty then .error .empty
    else
      match parseTarget (text.dropWhile fun c ↦ !endsAuthority c) with
      | .error fault => .error fault
      | .ok target => .ok ⟨some scheme, authority, target⟩

/-- An address without a scheme that is no path: an authority. -/
def parseAuthorityForm (text : List Char) : Except Fault RequestUri :=
  match checkAuthority (text.takeWhile fun c ↦ !endsAuthority c) with
  | .error fault => .error fault
  | .ok () => if text.any endsAuthority then .error .invalidFormat else .ok ⟨none, text, []⟩

/-- The address of a request. -/
def parse (text : String) : Except Fault RequestUri :=
  if text.utf8ByteSize == 0 then .error .empty
  else if lengthLimit < text.utf8ByteSize then .error .tooLong
  else if text == "*" then .ok ⟨none, [], ['*']⟩
  else if text.toList.head? == some '/' then
    match parseTarget text.toList with
    | .error fault => .error fault
    | .ok target => .ok ⟨none, [], target⟩
  else
    match splitScheme text.toList with
    | .error fault => .error fault
    | .ok (some (scheme, rest)) => parseBehindScheme scheme rest
    | .ok none => parseAuthorityForm text.toList

/-- The target that is sent to the server: the path, which starts with a slash, and the query. -/
def target (uri : RequestUri) : String :=
  match uri.pathAndQuery with
  | '/' :: _ => String.ofList uri.pathAndQuery
  | rest => String.ofList ('/' :: rest)

/-- The host with its port, user information left out. -/
def host (uri : RequestUri) : String :=
  match (Text.splitWhere (· == '@') uri.authority).getLast? with
  | some host => String.ofList host
  | none => ""

end RequestUri

end ResourceLookup
