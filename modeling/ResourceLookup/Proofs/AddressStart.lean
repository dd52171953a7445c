import ResourceLookup.Proofs.HostEnding
import ResourceLookup.Proofs.TextEnds
import ResourceLookup.Url.Basic
import Mathlib.Data.List.TakeDrop

/-!
# Addresses with more behind them

Scheme, host and port of a web address are read from its start. Where more text is put behind an
address and the result is an address again, it leads to the same scheme, host and port
(`Url.parseChars_of_append`), if the text in front has an authority already, or the first character
put behind it ends one.

Reading leaves out the spaces and controls at the end of the shorter text, but not in the longer
one, where they stand in the middle. There they would belong to the host or to the port, and neither
of the two admits them (`Url.parseAuthority_concat`).
-/

set_option autoImplicit false
set_option relaxedAutoImplicit false

namespace ResourceLookup.Url

/-! ### What is read of a text -/

/-- A space or control, which is not read at the ends of a text. -/
def isEdge (c : Char) : Bool := c.toNat ≤ 32

/-- A character that is read wherever it stands between the ends of a text. -/
def isRead (c : Char) : Bool := !(c == '\t' || c == '\n' || c == '\r')

/-- What is read of the characters at the end of a text. -/
def readableEnd (text : List Char) : List Char :=
  (text.rdropWhile isEdge).filter isRead

theorem readable_eq (text : List Char) : readable text = readableEnd (text.dropWhile isEdge) := rfl

theorem isRead_of_not_isEdge {c : Char} (hc : isEdge c = false) : isRead c = true := by
  have hlarge : 32 < c.toNat := by simpa [isEdge] using hc
  simp only [isRead, Bool.not_eq_true', Bool.or_eq_false_iff, beq_eq_false_iff_ne]
  refine ⟨⟨?_, ?_⟩, ?_⟩ <;> rintro rfl <;> exact absurd hlarge (by decide)

theorem readableEnd_append_cons {mark : Char} (hmark : isEdge mark = false)
    (text rest : List Char) :
    readableEnd (text ++ mark :: rest) = text.filter isRead ++ mark :: readableEnd rest := by
  rw [readableEnd, Text.rdropWhile_append_cons isEdge hmark, List.filter_append,
    List.filter_cons_of_pos (isRead_of_not_isEdge hmark), readableEnd]

/-- All that is read of a text but spaces and controls at its end is read at its end. -/
theorem exists_filter_eq_readableEnd_append (text : List Char) :
    ∃ tail, text.filter isRead = readableEnd text ++ tail ∧ ∀ c ∈ tail, isEdge c = true := by
  refine ⟨(text.rtakeWhile isEdge).filter isRead, ?_, ?_⟩
  · rw [readableEnd, ← List.filter_append, List.rdropWhile_append_rtakeWhile]
  · intro c hc
    exact List.mem_rtakeWhile_imp (List.mem_filter.mp hc).1

/-- What is read of a longer text: what is read of the shorter one, spaces and controls, and then
from the first character put behind it on. -/
theorem readable_append_cons {mark : Char} (hmark : isEdge mark = false) (text rest : List Char) :
    ∃ tail, (∀ c ∈ tail, isEdge c = true) ∧
      readable (text ++ mark :: rest) = readable text ++ tail ++ mark :: readableEnd rest := by
  obtain ⟨tail, htail, hedges⟩ := exists_filter_eq_readableEnd_append (text.dropWhile isEdge)
  refine ⟨tail, hedges, ?_⟩
  rw [readable_eq, readable_eq, Text.dropWhile_append_cons isEdge hmark,
    readableEnd_append_cons hmark, htail]

/-! ### Scheme -/

/-- A scheme is a name of scheme characters, the first of them a letter, in front of a colon. -/
theorem splitScheme?_eq_some_iff (text scheme behind : List Char) :
    splitScheme? text = some (scheme, behind) ↔
      ∃ first name, text = first :: name ++ ':' :: behind ∧ Text.isAsciiLetter first = true ∧
        (∀ c ∈ name, isSchemeChar c = true) ∧
        scheme = (first :: name).map Text.asciiLowerChar := by
  constructor
  · intro hscheme
    cases text with
    | nil => cases hscheme
    | cons first rest =>
      rw [splitScheme?] at hscheme
      split at hscheme
      · next hletter =>
        have hfirst : isSchemeChar first = true := by simp [isSchemeChar, hletter]
        rw [List.dropWhile_cons_of_pos hfirst, List.takeWhile_cons_of_pos hfirst] at hscheme
        split at hscheme
        · next behind' hdrop =>
          obtain ⟨rfl, rfl⟩ := Prod.mk.inj (Option.some.inj hscheme)
          refine ⟨first, rest.takeWhile isSchemeChar, ?_, hletter, ?_, rfl⟩
          · rw [List.cons_append, ← hdrop, List.takeWhile_append_dropWhile]
          · exact fun c hc ↦ List.mem_takeWhile_imp hc
        · cases hscheme
      · cases hscheme
  · rintro ⟨first, name, rfl, hletter, hname, rfl⟩
    have hfirst : isSchemeChar first = true := by simp [isSchemeChar, hletter]
    have hcolon : isSchemeChar ':' = false := by decide
    rw [List.cons_append, splitScheme?, if_pos hletter, List.dropWhile_cons_of_pos hfirst,
      List.takeWhile_cons_of_pos hfirst, Text.dropWhile_append_cons isSchemeChar hcolon,
      Text.takeWhile_append_cons isSchemeChar hcolon, List.dropWhile_eq_nil_iff.mpr hname,
      List.takeWhile_eq_self_iff.mpr hname]
    rfl

theorem splitScheme?_append {text scheme behind : List Char}
    (hscheme : splitScheme? text = some (scheme, behind)) (more : List Char) :
    splitScheme? (text ++ more) = some (scheme, behind ++ more) := by
  obtain ⟨first, name, rfl, hletter, hname, rfl⟩ :=
    (splitScheme?_eq_some_iff text scheme behind).mp hscheme
  refine (splitScheme?_eq_some_iff _ _ _).mpr ⟨first, name, ?_, hletter, hname, rfl⟩
  rw [List.append_assoc, List.cons_append, List.cons_append, List.cons_append]

/-- A slash in front of an authority, either way it leans. -/
def isSlash (c : Char) : Bool := c == '/' || c == '\\'

/-- A web address is read from what stands behind its scheme and the slashes behind that. -/
theorem parseChars_of_web {text scheme behind : List Char}
    (hscheme : splitScheme? (readable text) = some (scheme, behind))
    (hweb : SchemeKind.of scheme = .web) :
    parseChars text = parseBehindSlashes scheme .web (behind.dropWhile isSlash) := by
  rw [parseChars, hscheme]
  simp only [hweb]
  rfl

/-! ### Host and port -/

/-- What follows a host starts with a colon. -/
theorem spanHost_eq (inside : Bool) (text : List Char) :
    ∃ host behind, spanHost inside text = (host, behind) ∧ text = host ++ behind ∧
      (behind = [] ∨ ∃ digits, behind = ':' :: digits) := by
  induction text generalizing inside with
  | nil => exact ⟨[], [], rfl, rfl, .inl rfl⟩
  | cons c rest ih =>
    rw [spanHost]
    split
    · next hcolon =>
      obtain ⟨rfl, -⟩ : c = ':' ∧ inside = false := by simpa using hcolon
      exact ⟨[], _, rfl, rfl, .inr ⟨rest, rfl⟩⟩
    · obtain ⟨host, behind, hspan, rfl, hbehind⟩ :=
        ih (if c == '[' then true else if c == ']' then false else inside)
      refine ⟨c :: host, behind, ?_, rfl, hbehind⟩
      simp only [hspan]

/-- A space or control behind a text is behind its port if it has one, and else behind its host. -/
theorem spanHost_concat (inside : Bool) (text : List Char) {c : Char} (hc : isEdge c = true) :
    spanHost inside (text ++ [c]) =
      if (spanHost inside text).2 = [] then (text ++ [c], [])
      else ((spanHost inside text).1, (spanHost inside text).2 ++ [c]) := by
  induction text generalizing inside with
  | nil =>
    have hcolon : c ≠ ':' := by
      rintro rfl
      cases hc
    simp [spanHost, hcolon]
  | cons first rest ih =>
    rw [List.cons_append, spanHost, spanHost]
    split
    · rfl
    · generalize (if first == '[' then true else if first == ']' then false else inside) = within
      simp only [ih]
      by_cases hbehind : (spanHost within rest).2 = []
      · simp only [if_pos hbehind]
      · simp only [if_neg hbehind]

/-- Behind user information stands what follows the last sign of it. -/
theorem splitUserInfo_snd (authority : List Char) :
    (splitUserInfo authority).2 = authority.rtakeWhile (· != '@') := by
  have hsplit := List.rdropWhile_append_rtakeWhile (p := (· != '@')) (l := authority)
  rw [splitUserInfo, List.span_eq_takeWhile_dropWhile]
  cases hrest : authority.reverse.dropWhile (· != '@') with
  | nil =>
    rw [List.rdropWhile, hrest, List.reverse_nil, List.nil_append] at hsplit
    exact hsplit.symm
  | cons sign before => rfl

/-- What stands in brackets ends in one. -/
theorem getLast?_of_bracketed? {text inner : List Char}
    (htext : bracketed? text = some (some inner)) : text.getLast? = some ']' := by
  unfold bracketed? at htext
  split at htext
  · next rest =>
    split at htext
    · next behind hrest =>
      rw [List.reverse_eq_iff] at hrest
      rw [hrest, List.reverse_cons, ← List.cons_append, List.getLast?_concat]
    · cases htext
  · cases htext

section Controls

variable {c : Char}

/-- No host ends in a space or control. -/
theorem parseHost_concat (name : List Char) (hc : isEdge c = true) :
    ∃ fault, parseHost (name ++ [c]) = .error fault := by
  rw [parseHost]
  split
  · next inner hbracketed =>
    have hlast := getLast?_of_bracketed? hbracketed
    rw [List.getLast?_concat] at hlast
    obtain rfl : c = ']' := Option.some.inj hlast
    cases hc
  · exact ⟨_, rfl⟩
  · rw [Domain.normalize?_concat name (of_decide_eq_true hc)]
    exact ⟨_, rfl⟩

/-- No port ends in a space or control. -/
theorem parsePort_concat (digits : List Char) (hc : isEdge c = true) :
    parsePort (digits ++ [c]) = .error .invalidPort := by
  have hdigit : Text.isAsciiDigit c = false := by
    have hsmall : c.toNat ≤ 32 := of_decide_eq_true hc
    simp only [Text.isAsciiDigit, Bool.and_eq_false_iff, decide_eq_false_iff_not]
    omega
  rw [parsePort, if_pos]
  rw [List.all_append, List.all_cons, hdigit, Bool.false_and, Bool.and_false]
  rfl

/-- No authority of the web ends in a space or control. Assumes: no backslash, which would end it
before. -/
theorem parseAuthority_concat (scheme authority : List Char) (pathFollows : Bool)
    (hc : isEdge c = true) (hauthority : '\\' ∉ authority) :
    ∃ fault, parseAuthority scheme .web (authority ++ [c]) pathFollows = .error fault := by
  have htext : (splitUserInfo (authority ++ [c])).2 = (splitUserInfo authority).2 ++ [c] := by
    have hsign : (c != '@') = true := by
      rw [bne_iff_ne]
      rintro rfl
      cases hc
    rw [splitUserInfo_snd, splitUserInfo_snd,
      List.rtakeWhile_concat_pos (· != '@') authority c hsign]
  obtain ⟨host, behind, hspan, hsplit, hbehind⟩ := spanHost_eq false (splitUserInfo authority).2
  rw [parseAuthority]
  simp only [htext, spanHost_concat false _ hc, hspan, if_true]
  rcases hbehind with rfl | ⟨digits, rfl⟩
  · -- The control is the end of the host.
    obtain ⟨fault, hfault⟩ := parseHost_concat (splitUserInfo authority).2 hc
    simp [hfault]
  · -- The control is the end of the port, if the host is not at fault already.
    have hport : parsePortPart (':' :: digits ++ [c]) = .error .invalidPort := by
      have hread : ∀ mark ∈ digits ++ [c], (mark != '\\') = true := by
        intro mark hmark
        rw [bne_iff_ne]
        rintro rfl
        rcases List.mem_append.mp hmark with hdigits | hlast
        · refine hauthority ((List.rtakeWhile_suffix (· != '@') authority).mem ?_)
          rw [← splitUserInfo_snd, hsplit]
          exact List.mem_append_right host (List.mem_cons_of_mem ':' hdigits)
        · obtain rfl := List.mem_singleton.mp hlast
          cases hc
      rw [List.cons_append, parsePortPart, List.takeWhile_eq_self_iff.mpr hread,
        parsePort_concat digits hc]
    rw [if_neg (List.cons_ne_nil ':' digits)]
    simp only [hport]
    split
    · exact ⟨_, rfl⟩
    · split <;> exact ⟨_, rfl⟩

end Controls

/-! ### Longer addresses -/

/-- What stands behind the authority of a web address is not looked at. -/
theorem parseAuthority_web_congr (scheme authority : List Char) (first second : Bool) :
    parseAuthority scheme .web authority first = parseAuthority scheme .web authority second := rfl

/-- No space or control ends an authority. -/
theorem endsAuthority_of_isEdge {c : Char} (hc : isEdge c = true) :
    endsAuthority .web c = false := by
  have hne : ∀ mark, isEdge mark = false → c ≠ mark := by
    rintro mark hmark rfl
    cases hc.symm.trans hmark
  simp [endsAuthority, hne '/' rfl, hne '?' rfl, hne '#' rfl, hne '\\' rfl]

/-- Where more text is put behind the slashes and the authority of an address, and it is an address
again, it is the same. Assumes: the authority has ended, or the text put behind it ends it after
spaces and controls. -/
theorem parseBehindSlashes_of_append {scheme text tail rest : List Char} {mark : Char}
    {address : Address} (htail : ∀ c ∈ tail, isEdge c = true)
    (hends : endsAuthority .web mark = true ∨ ∃ c ∈ text, endsAuthority .web c = true)
    (hparse : parseBehindSlashes scheme .web (text ++ tail ++ mark :: rest) = .ok address) :
    parseBehindSlashes scheme .web text = .ok address := by
  rw [parseBehindSlashes] at hparse ⊢
  rw [parseAuthority_web_congr _ _ _ true] at hparse ⊢
  by_cases hended : ∃ c ∈ text, endsAuthority .web c = true
  · have hauthority : (text ++ (tail ++ mark :: rest)).takeWhile (fun c ↦ !endsAuthority .web c) =
        text.takeWhile fun c ↦ !endsAuthority .web c := by
      rw [List.takeWhile_append, if_neg]
      intro hlength
      obtain ⟨c, hc, hend⟩ := hended
      have hall := List.takeWhile_eq_self_iff.mp
        ((List.takeWhile_prefix fun c ↦ !endsAuthority .web c).eq_of_length hlength) c hc
      rw [hend] at hall
      cases hall
    rwa [List.append_assoc, hauthority] at hparse
  · have hmark : (!endsAuthority .web mark) = false := by
      rw [hends.resolve_right hended]
      rfl
    have hopen : ∀ c ∈ text, (!endsAuthority .web c) = true := by
      intro c hc
      rw [Bool.not_eq_true', ← Bool.not_eq_true]
      exact fun hend ↦ hended ⟨c, hc, hend⟩
    have hreads : ∀ c ∈ text ++ tail, (!endsAuthority .web c) = true := by
      intro c hc
      rcases List.mem_append.mp hc with htext | hcontrol
      · exact hopen c htext
      · rw [endsAuthority_of_isEdge (htail c hcontrol)]
        rfl
    rw [Text.takeWhile_append_cons (fun c ↦ !endsAuthority .web c) hmark,
      List.takeWhile_eq_self_iff.mpr hreads] at hparse
    rw [List.takeWhile_eq_self_iff.mpr hopen]
    rcases List.eq_nil_or_concat tail with rfl | ⟨front, last, rfl⟩
    · rwa [List.append_nil] at hparse
    · rw [List.concat_eq_append] at hparse hreads htail
      have hback : '\\' ∉ text ++ front := by
        intro hmem
        cases hreads '\\' (by
          rw [← List.append_assoc]
          exact List.mem_append_left [last] hmem)
      obtain ⟨fault, hfault⟩ := parseAuthority_concat scheme (text ++ front) true
        (htail last (List.mem_append_right front (List.mem_singleton_self last))) hback
      rw [← List.append_assoc, hfault] at hparse
      cases hparse

/-- Leaving out slashes does not get past what stands behind them. -/
theorem dropWhile_isSlash_append {behind tail rest : List Char} {mark : Char}
    (htail : ∀ c ∈ tail, isEdge c = true)
    (hslashes : isSlash mark = false ∨ behind.dropWhile isSlash ≠ []) :
    (behind ++ tail ++ mark :: rest).dropWhile isSlash =
      behind.dropWhile isSlash ++ tail ++ mark :: rest := by
  rcases hslashes with hmark | hbehind
  · rw [Text.dropWhile_append_cons isSlash hmark]
    cases tail with
    | nil => rw [List.append_nil, List.append_nil]
    | cons c tail =>
      have hc : isSlash c = false := by
        rw [isSlash, Bool.or_eq_false_iff, beq_eq_false_iff_ne, beq_eq_false_iff_ne]
        constructor <;> rintro rfl <;> cases htail _ List.mem_cons_self
      rw [Text.dropWhile_append_cons isSlash hc]
  · rw [List.append_assoc, List.dropWhile_append, if_neg (by rwa [List.isEmpty_iff]),
      List.append_assoc]

/-- Where more text is put behind a web address, and it is an address again, it is the same.
Assumes: the first character put behind it is no space or control; if that is a slash, something
stands behind the slashes of the address already; and the authority ends with it or before. -/
theorem parseChars_of_append {text scheme behind rest : List Char} {mark : Char}
    {address : Address} (hscheme : splitScheme? (readable text) = some (scheme, behind))
    (hweb : SchemeKind.of scheme = .web) (hmark : isEdge mark = false)
    (hslashes : isSlash mark = false ∨ behind.dropWhile isSlash ≠ [])
    (hends : endsAuthority .web mark = true ∨
      ∃ c ∈ behind.dropWhile isSlash, endsAuthority .web c = true)
    (hparse : parseChars (text ++ mark :: rest) = .ok address) :
    parseChars text = .ok address := by
  obtain ⟨tail, htail, hread⟩ := readable_append_cons hmark text rest
  have hlonger : splitScheme? (readable (text ++ mark :: rest)) =
      some (scheme, behind ++ tail ++ mark :: readableEnd rest) := by
    rw [hread, List.append_assoc, splitScheme?_append hscheme, List.append_assoc]
  rw [parseChars_of_web hlonger hweb, dropWhile_isSlash_append htail hslashes] at hparse
  rw [parseChars_of_web hscheme hweb]
  exact parseBehindSlashes_of_append htail hends hparse

/-! ### Addresses below a base, and addresses with parameters -/

/-- The scheme in front of an authority is that of the address. -/
theorem scheme_of_parseAuthority {scheme authority : List Char} {kind : SchemeKind}
    {pathFollows : Bool} {address : Address}
    (hparse : parseAuthority scheme kind authority pathFollows = .ok address) :
    address.scheme = scheme := by
  simp only [parseAuthority] at hparse
  split at hparse
  · split at hparse
    · cases hparse
    · split at hparse
      · cases hparse
      · split at hparse
        · cases hparse
        · obtain rfl := Except.ok.inj hparse
          rfl
  · split at hparse
    · cases hparse
    · split at hparse
      · cases hparse
      · split at hparse
        · cases hparse
        · obtain rfl := Except.ok.inj hparse
          rfl

theorem scheme_of_parseBehindSlashes {scheme rest : List Char} {kind : SchemeKind}
    {address : Address} (hparse : parseBehindSlashes scheme kind rest = .ok address) :
    address.scheme = scheme :=
  scheme_of_parseAuthority hparse

theorem scheme_of_parseFile {scheme rest : List Char} {address : Address}
    (hparse : parseFile scheme rest = .ok address) : address.scheme = scheme := by
  have hwithout : ∀ {other : Address}, (.ok ⟨scheme, none, none⟩ : Except Fault Address) =
      .ok other → other.scheme = scheme := by
    intro other hother
    obtain rfl := Except.ok.inj hother
    rfl
  unfold parseFile at hparse
  split at hparse
  · simp only at hparse
    split at hparse
    · split at hparse
      all_goals
        split at hparse
        · exact hwithout hparse
        · split at hparse
          · cases hparse
          · obtain rfl := Except.ok.inj hparse
            rfl
    · exact hwithout hparse
  · exact hwithout hparse

/-- An address has the scheme that is read at its start. -/
theorem splitScheme?_of_parseChars {text : List Char} {address : Address}
    (hparse : parseChars text = .ok address) :
    ∃ behind, splitScheme? (readable text) = some (address.scheme, behind) := by
  rw [parseChars] at hparse
  split at hparse
  · cases hparse
  · next scheme behind hscheme =>
    refine ⟨behind, ?_⟩
    rw [hscheme]
    congr 2
    split at hparse
    · exact (scheme_of_parseBehindSlashes hparse).symm
    · exact (scheme_of_parseFile hparse).symm
    · split at hparse
      · exact (scheme_of_parseBehindSlashes hparse).symm
      · obtain rfl := Except.ok.inj hparse
        rfl

/-- A web address without anything behind its slashes has no host. -/
theorem parseBehindSlashes_nil (scheme : List Char) :
    parseBehindSlashes scheme .web [] = .error .emptyHost := rfl

/-- What is put behind a web address and a slash does not change where it leads. -/
theorem eq_of_parse_below {base path : String} {address other : Address}
    (hbase : parse base = .ok address) (hweb : SchemeKind.of address.scheme = .web)
    (hparse : parse (base ++ "/" ++ path) = .ok other) : other = address := by
  obtain ⟨behind, hscheme⟩ := splitScheme?_of_parseChars hbase
  have hbehind : behind.dropWhile isSlash ≠ [] := by
    intro hnil
    rw [parse, parseChars_of_web hscheme hweb, hnil, parseBehindSlashes_nil] at hbase
    cases hbase
  have hlonger : parseChars (base.toList ++ '/' :: path.toList) = .ok other := by
    rw [parse, String.toList_append, String.toList_append, List.append_assoc] at hparse
    exact hparse
  have hsame := parseChars_of_append hscheme hweb rfl (.inr hbehind) (.inl rfl) hlonger
  exact Except.ok.inj (hsame.symm.trans hbase)

/-- A start of an address without spaces and controls is read as it is. -/
theorem readable_of_start (start rest : List Char) (hstart : start.dropWhile isEdge = start)
    (hread : start.filter isRead = start) :
    readable (start ++ '/' :: rest) = start ++ '/' :: readableEnd rest := by
  rw [readable_eq, Text.dropWhile_append_cons isEdge rfl, hstart, readableEnd_append_cons rfl,
    hread]

/-- An absolute text has a scheme of the web in front of two slashes. -/
theorem splitScheme?_of_isAbsolute {path : String} (habsolute : isAbsolute path = true) :
    ∃ scheme start rest, SchemeKind.of scheme = .web ∧ path.toList = start ++ '/' :: rest ∧
      '?' ∉ start ∧
      splitScheme? (readable path.toList) = some (scheme, '/' :: '/' :: readableEnd rest) := by
  rw [isAbsolute, Bool.or_eq_true, Text.startsWith_iff, Text.startsWith_iff] at habsolute
  rcases habsolute with ⟨rest, hpath⟩ | ⟨rest, hpath⟩
  · refine ⟨"https".toList, "https:/".toList, rest, rfl, hpath.symm, by decide, ?_⟩
    have hread : readable path.toList = "https:/".toList ++ '/' :: readableEnd rest := by
      rw [← hpath]
      exact readable_of_start "https:/".toList rest rfl rfl
    rw [hread]
    exact (splitScheme?_eq_some_iff _ _ _).mpr ⟨'h', "ttps".toList, rfl, rfl,
      List.all_eq_true.mp rfl, rfl⟩
  · refine ⟨"http".toList, "http:/".toList, rest, rfl, hpath.symm, by decide, ?_⟩
    have hread : readable path.toList = "http:/".toList ++ '/' :: readableEnd rest := by
      rw [← hpath]
      exact readable_of_start "http:/".toList rest rfl rfl
    rw [hread]
    exact (splitScheme?_eq_some_iff _ _ _).mpr ⟨'h', "ttp".toList, rfl, rfl,
      List.all_eq_true.mp rfl, rfl⟩

/-- A question mark in a text is read. -/
theorem mem_readableEnd_of_mem {text : List Char} {mark : Char} (hmark : isEdge mark = false)
    (hmem : mark ∈ text) : mark ∈ readableEnd text := by
  obtain ⟨before, behind, rfl⟩ := List.append_of_mem hmem
  rw [readableEnd_append_cons hmark]
  exact List.mem_append_right _ List.mem_cons_self

/-- An absolute text with parameters behind it, if it is an address, leads where it leads without
them. -/
theorem parse_of_parse_withParameters {path query : String} {mark : Char} {address : Address}
    (habsolute : isAbsolute path = true) (hmark : mark = '?' ∨ mark = '&' ∧ '?' ∈ path.toList)
    (hparse : parseChars (path.toList ++ mark :: query.toList) = .ok address) :
    parse path = .ok address := by
  obtain ⟨scheme, start, rest, hweb, hpath, hstart, hscheme⟩ :=
    splitScheme?_of_isAbsolute habsolute
  rcases hmark with rfl | ⟨rfl, hquestion⟩
  · exact parseChars_of_append hscheme hweb rfl (.inl rfl) (.inl rfl) hparse
  · refine parseChars_of_append hscheme hweb rfl (.inl rfl) (.inr ⟨'?', ?_, rfl⟩) hparse
    have hrest : '?' ∈ rest := by
      rw [hpath] at hquestion
      rcases List.mem_append.mp hquestion with hmem | hmem
      · exact absurd hmem hstart
      · exact (List.mem_cons.mp hmem).resolve_left (by decide)
    obtain ⟨before, behind, hread⟩ :=
      List.append_of_mem (mem_readableEnd_of_mem (show isEdge '?' = false from rfl) hrest)
    have hdrop := Text.dropWhile_append_cons isSlash (show isSlash '?' = false from rfl)
      ('/' :: '/' :: before) behind
    rw [hread]
    exact hdrop ▸ List.mem_append_right _ List.mem_cons_self

end ResourceLookup.Url
