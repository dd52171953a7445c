import ResourceLookup.Event
import ResourceLookup.Text.Blank
import ResourceLookup.Text.Casing
import ResourceLookup.Text.Search
import ResourceLookup.Url.Percent

/-!
# Safe paths

`judgePath` decides whether a path may be put into the URL of a GET request as it is. A safe path is
not blank, consists of URI characters and well-formed escapes, decodes to UTF-8 in one round of
decoding, contains neither as it is nor decoded a step to a parent directory, markup or a script
address, and has no empty segment behind its scheme. The verdict tells a path that is encoded twice
from the others, because that is worth an event.
-/

set_option autoImplicit false
set_option relaxedAutoImplicit false

namespace ResourceLookup

/-- What is found about a path. -/
inductive PathVerdict where
  | safe
  | doubleEncoded
  | unsafePath
  deriving DecidableEq

/-- What is reported about a path. -/
def PathVerdict.events : PathVerdict → List Event
  | .doubleEncoded => [.doubleEncodedPath]
  | .safe | .unsafePath => []

namespace PathSafety

/-- Steps to a parent directory, plain, escaped, and escaped twice. -/
def traversalMarkers : List String :=
  ["../", "..\\", "%2e%2e%2f", "%2e%2e/", "..%2f", "%2e%2e%5c", "%2e%2e\\", "..%5c", ".%2e/",
    "%2e./", "%252e%252e%252f", "%252e%252e/", "..%252f", "%252e%252e%255c", "..%255c"]

/-- Schemes that run or embed what follows them. -/
def dangerousSchemes : List String :=
  ["javascript:", "data:", "vbscript:", "file:"]

/-- Markup and quotes. -/
def isInjectionChar (c : Char) : Bool :=
  c == '<' || c == '>' || c == '"' || c.toNat == 0x27 || c.toNat == 0x60

/-- The marks that can stand in a URI, the percent sign included and quotes excluded. -/
def uriMarks : List Char :=
  ['-', '.', '_', '~', ':', '/', '?', '#', '[', ']', '@', '!', '$', '&', '(', ')', '*', '+', ',',
    ';', '=', '%']

/-- Whether a character can stand in a URI. -/
def isUriChar (c : Char) : Bool :=
  Text.isAsciiLetter c || Text.isAsciiDigit c || uriMarks.contains c

/-- Whether one of the markers occurs in a text. -/
def mentionsAny (markers : List String) (text : List Char) : Bool :=
  markers.any fun marker ↦ Text.occursIn marker.toList text

/-- Whether a lower-case text contains a step to a parent directory, a NUL, markup, or a script
address. -/
def isHarmful (lowered : List Char) : Bool :=
  mentionsAny ["../", "..\\"] lowered || lowered.contains (Char.ofNat 0) ||
    lowered.any isInjectionChar || mentionsAny dangerousSchemes lowered

/-- Whether a character can stand in a scheme behind its first letter. -/
def isSchemeChar (c : Char) : Bool :=
  Text.isAsciiLetter c || Text.isAsciiDigit c || c == '+' || c == '.' || c == '-'

/-- The path without a scheme and two slashes at its start. -/
def withoutScheme (path : List Char) : List Char :=
  match path with
  | [] => []
  | first :: rest =>
    if Text.isAsciiLetter first then
      match Text.stripStart? [':', '/', '/'] (rest.dropWhile isSchemeChar) with
      | some behind => behind
      | none => path
    else path

/-- Whether two slashes follow each other anywhere but behind a scheme. -/
def hasStraySlashes (path : List Char) : Bool :=
  Text.occursIn ['/', '/'] (withoutScheme path)

/-- Whether the plain look at a path finds nothing wrong: it is not blank, holds no NUL and no step
to a parent directory in any spelling, and is made of URI characters and escapes. -/
def passesPlainChecks (path : String) : Bool :=
  let lowered := path.toList.map Text.asciiLowerChar
  !Text.isBlank path && !path.toList.contains (Char.ofNat 0) &&
    !Text.occursIn "%00".toList lowered && !mentionsAny traversalMarkers lowered &&
    path.toList.all isUriChar && Percent.wellFormed (Text.octets path)

end PathSafety

open PathSafety in
/-- What is found about a path. -/
def judgePath (path : String) : PathVerdict :=
  if !passesPlainChecks path then .unsafePath
  else
    match Percent.decodeText? path with
    | none => .unsafePath
    | some once =>
      match Percent.decodeText? once with
      | none => .unsafePath
      | some twice =>
        if once ≠ twice then .doubleEncoded
        else if isHarmful (path.toList.map Text.asciiLowerChar) ||
            isHarmful (once.toList.map Text.asciiLowerChar) || hasStraySlashes path.toList then
          .unsafePath
        else .safe

/-- Whether a path may be put into the URL of a GET request as it is. -/
def isSafePath (path : String) : Bool :=
  judgePath path = .safe

end ResourceLookup
