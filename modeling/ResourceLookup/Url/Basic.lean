import ResourceLookup.Url.Domain
import ResourceLookup.Url.Ipv4
import ResourceLookup.Url.Ipv6

/-!
# Web addresses

The start of an absolute URL, read as browsers read it: spaces and controls at the ends and tabs and
line breaks anywhere are left out, a backslash in an `http` or `https` address is a slash, any
number of slashes may follow the scheme, and what stands before the last `@` of the authority is
user information. `Url.parse` gives the scheme, the host and the port, or says what is wrong
(`Url.Fault`); path, query and fragment cannot be at fault and are left out.

Two addresses have the same origin (`Url.sameOrigin`) if scheme, host and port agree, the port being
that of the scheme where none is given.
-/

set_option autoImplicit false
set_option relaxedAutoImplicit false

namespace ResourceLookup.Url

/-- What can be wrong with an address. -/
inductive Fault where
  | noScheme
  | emptyHost
  | invalidPort
  | invalidIpv4
  | invalidIpv6
  | invalidDomain
  | invalidHostChar
  deriving DecidableEq

/-- The wording of a fault. -/
def Fault.message : Fault → String
  | .noScheme => "relative URL without a base"
  | .emptyHost => "empty host"
  | .invalidPort => "invalid port number"
  | .invalidIpv4 => "invalid IPv4 address"
  | .invalidIpv6 => "invalid IPv6 address"
  | .invalidDomain => "invalid international domain name"
  | .invalidHostChar => "invalid domain character"

/-- A host. -/
inductive Host where
  | domain (name : List Char)
  | ipv4 (address : Nat)
  | ipv6 (pieces : List Nat)
  | verbatim (text : List Char)
  deriving DecidableEq

/-- The start of an address: scheme, host if there is one, and port if one is given. -/
structure Address where
  scheme : List Char
  host : Option Host
  port : Option Nat
  deriving DecidableEq

/-- How the part behind a scheme is read. -/
inductive SchemeKind where
  | web
  | file
  | other
  deriving DecidableEq

/-- The kind of a scheme in lower case. -/
def SchemeKind.of (scheme : List Char) : SchemeKind :=
  let name := String.ofList scheme
  if ["http", "https", "ws", "wss", "ftp"].contains name then .web
  else if name == "file" then .file
  else .other

/-- The port of a scheme where none is given. -/
def defaultPort? (scheme : List Char) : Option Nat :=
  let name := String.ofList scheme
  if name == "http" || name == "ws" then some 80
  else if name == "https" || name == "wss" then some 443
  else if name == "ftp" then some 21
  else none

/-- The characters of an address that are read: without spaces and controls at the ends, and without
tabs and line breaks. -/
def readable (text : List Char) : List Char :=
  let isEdge (c : Char) : Bool := c.toNat ≤ 32
  let trimmed := ((text.dropWhile isEdge).reverse.dropWhile isEdge).reverse
  trimmed.filter fun c ↦ !(c == '\t' || c == '\n' || c == '\r')

/-- Whether a character can stand in a scheme. -/
def isSchemeChar (c : Char) : Bool :=
  Text.isAsciiLetter c || Text.isAsciiDigit c || c == '+' || c == '-' || c == '.'

/-- The scheme of an address in lower case, and what follows its colon. -/
def splitScheme? (text : List Char) : Option (List Char × List Char) :=
  match text with
  | [] => none
  | first :: _ =>
    if Text.isAsciiLetter first then
      match text.dropWhile isSchemeChar with
      | ':' :: rest => some ((text.takeWhile isSchemeChar).map Text.asciiLowerChar, rest)
      | _ => none
    else none

/-- Whether a character ends the authority. -/
def endsAuthority (kind : SchemeKind) (c : Char) : Bool :=
  c == '/' || c == '?' || c == '#' || (kind != .other && c == '\\')

/-- The user information in front of the last `@`, if there is one, and the text behind it. -/
def splitUserInfo (authority : List Char) : Option (List Char) × List Char :=
  match authority.reverse.span (· != '@') with
  | (_, []) => (none, authority)
  | (behind, _ :: before) => (some before.reverse, behind.reverse)

/-- The characters up to the first colon outside of brackets, and the rest. -/
def spanHost (inside : Bool) : List Char → List Char × List Char
  | [] => ([], [])
  | c :: rest =>
    if c == ':' && !inside then ([], c :: rest)
    else
      let inside := if c == '[' then true else if c == ']' then false else inside
      let (host, behind) := spanHost inside rest
      (c :: host, behind)

/-- The text between brackets, if the text starts with one. -/
def bracketed? (text : List Char) : Option (Option (List Char)) :=
  match text with
  | '[' :: rest =>
    match rest.reverse with
    | ']' :: inner => some (some inner.reverse)
    | _ => some none
  | _ => none

/-- The host of an address of the web. -/
def parseHost (text : List Char) : Except Fault Host :=
  match bracketed? text with
  | some (some inner) =>
    match Ipv6.parse? inner with
    | some pieces => .ok (.ipv6 pieces)
    | none => .error .invalidIpv6
  | some none => .error .invalidIpv6
  | none =>
    match Domain.normalize? (String.ofList text) with
    | none => .error .invalidDomain
    | some name =>
      if name.isEmpty then .error .emptyHost
      else if Ipv4.endsInNumber name then
        match Ipv4.parse? name with
        | some address => .ok (.ipv4 address)
        | none => .error .invalidIpv4
      else .ok (.domain name)

/-- Whether a character cannot stand in a host outside of the web. -/
def isInvalidHostChar (c : Char) : Bool :=
  c.toNat == 0 || c == ' ' ||
    ['#', '/', ':', '<', '>', '?', '@', '[', '\\', ']', '^', '|'].contains c

/-- The host of an address outside of the web, which is taken as it is. -/
def parseVerbatimHost (text : List Char) : Except Fault Host :=
  match bracketed? text with
  | some (some inner) =>
    match Ipv6.parse? inner with
    | some pieces => .ok (.ipv6 pieces)
    | none => .error .invalidIpv6
  | some none => .error .invalidIpv6
  | none => if text.any isInvalidHostChar then .error .invalidHostChar else .ok (.verbatim text)

/-- The port behind its colon: digits up to the end of the authority; none if there are no
digits. -/
def parsePort (digits : List Char) : Except Fault (Option Nat) :=
  if !digits.all Text.isAsciiDigit then .error .invalidPort
  else if digits.isEmpty then .ok none
  else
    let port := digits.foldl (fun total c ↦ total * 10 + Text.digitValue c) 0
    if port ≤ 65535 then .ok (some port) else .error .invalidPort

/-- The port of a host, from what follows it. -/
def parsePortPart (behind : List Char) : Except Fault (Option Nat) :=
  match behind with
  | ':' :: digits => parsePort (digits.takeWhile (· != '\\'))
  | _ => .ok none

/-- Whether user information cannot stand in front of an empty host: it has a name or a password, or
it is empty and a path follows. -/
def needsHost (userInfo : List Char) (pathFollows : Bool) : Bool :=
  if userInfo.isEmpty then pathFollows else userInfo != [':']

/-- Whether an empty host is at fault outside of the web: a port follows it, or it stands behind
user information that needs a host. -/
def emptyHostFails (userInfo : Option (List Char)) (behind : List Char) (pathFollows : Bool) :
    Bool :=
  behind.head? == some ':' || userInfo.any (needsHost · pathFollows)

/-- An address from the text of its authority, user information included, and whether anything
follows it. -/
def parseAuthority (scheme : List Char) (kind : SchemeKind) (authority : List Char)
    (pathFollows : Bool) : Except Fault Address :=
  let (userInfo, text) := splitUserInfo authority
  let (host, behind) := spanHost false text
  if kind = .web then
    if host.isEmpty then .error .emptyHost
    else
      match parseHost host with
      | .error fault => .error fault
      | .ok host =>
        match parsePortPart behind with
        | .error fault => .error fault
        | .ok port => .ok ⟨scheme, some host, port⟩
  else
    match parseVerbatimHost host with
    | .error fault => .error fault
    | .ok parsed =>
      if host.isEmpty && emptyHostFails userInfo behind pathFollows then .error .emptyHost
      else
        match parsePortPart behind with
        | .error fault => .error fault
        | .ok port => .ok ⟨scheme, some parsed, port⟩

/-- The address of a local file; its host may be missing. -/
def parseFile (scheme rest : List Char) : Except Fault Address :=
  let isSlash (c : Char) : Bool := c == '/' || c == '\\'
  match rest with
  | first :: second :: rest =>
    if isSlash first && isSlash second then
      let host := rest.takeWhile fun c ↦ !endsAuthority .file c
      let isDrive := match host with
        | [letter, mark] => Text.isAsciiLetter letter && (mark == ':' || mark == '|')
        | _ => false
      if host.isEmpty || isDrive then .ok ⟨scheme, none, none⟩
      else
        match parseHost host with
        | .error fault => .error fault
        | .ok host => .ok ⟨scheme, some host, none⟩
    else .ok ⟨scheme, none, none⟩
  | _ => .ok ⟨scheme, none, none⟩

/-- An address from what follows the slashes in front of its authority. -/
def parseBehindSlashes (scheme : List Char) (kind : SchemeKind) (rest : List Char) :
    Except Fault Address :=
  let authority := rest.takeWhile fun c ↦ !endsAuthority kind c
  parseAuthority scheme kind authority (authority.length < rest.length)

/-- The start of an absolute address. -/
def parseChars (text : List Char) : Except Fault Address :=
  match splitScheme? (readable text) with
  | none => .error .noScheme
  | some (scheme, rest) =>
    match SchemeKind.of scheme with
    | .web => parseBehindSlashes scheme .web (rest.dropWhile fun c ↦ c == '/' || c == '\\')
    | .file => parseFile scheme rest
    | .other =>
      match Text.stripStart? ['/', '/'] rest with
      | some rest => parseBehindSlashes scheme .other rest
      | none => .ok ⟨scheme, none, none⟩

/-- The start of an absolute address. -/
def parse (text : String) : Except Fault Address :=
  parseChars text.toList

/-- The port that an address leads to. -/
def Address.effectivePort (address : Address) : Option Nat :=
  address.port.or (defaultPort? address.scheme)

/-- Whether two addresses of the web have the same scheme, host and port. -/
def sameOrigin (first second : Address) : Bool :=
  first.scheme = second.scheme && first.host = second.host &&
    first.effectivePort = second.effectivePort

/-- Whether a text is an absolute address of the web by its first characters. -/
def isAbsolute (text : String) : Bool :=
  Text.startsWith "https://".toList text.toList || Text.startsWith "http://".toList text.toList

end ResourceLookup.Url
