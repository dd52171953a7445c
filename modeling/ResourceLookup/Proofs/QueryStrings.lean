import Mathlib.Data.Bool.AllAny
import ResourceLookup.Client.Call
import ResourceLookup.Text.Octets

/-!
# Query strings read again

Names and values that were written as a query string are read again unchanged, in their order and
number (`Form.decodeQuery_queryOfPairs`). Each octet is read back from what was written for it,
whatever follows (`Form.decodePart_encodeOctet`), and what is written for it holds no ampersand and
no equals sign (`Form.forall_mem_encodeOctet`), so that the marks between names and values are found
again.

What is read of a path is behind its first question mark (`Form.queryPart`). A path with parameters
appended is read as the path, and then the parameters (`Form.decodeQuery_queryPart_withQuery`).
-/

set_option autoImplicit false
set_option relaxedAutoImplicit false

namespace ResourceLookup.Form

/-! ### Names and values -/

/-- An octet is written in ASCII, without ampersands and equals signs. -/
theorem forall_mem_encodeOctet (byte : UInt8) : ∀ written ∈ encodeOctet byte,
    written.toNat < 128 ∧ written ≠ ampersand ∧ written ≠ equalsSign := by
  have hall : ((encodeOctet byte).all fun written ↦
      written.toNat < 128 ∧ written ≠ ampersand ∧ written ≠ equalsSign) = true := by
    revert byte
    exact Text.forall_octet (by decide +kernel)
  exact List.all_iff_forall_prop.mp hall

theorem forall_mem_encodePart (part : List UInt8) : ∀ written ∈ encodePart part,
    written.toNat < 128 ∧ written ≠ ampersand ∧ written ≠ equalsSign :=
  List.forall_mem_flatMap.mpr fun byte _ ↦ forall_mem_encodeOctet byte

/-- An octet that stands for itself is neither of the two that do not when they are read. -/
theorem ne_of_isPlain (byte : UInt8) (hplain : isPlain byte = true) :
    byte ≠ plusSign ∧ byte ≠ Percent.percentSign := by
  revert byte
  exact Text.forall_octet (by decide +kernel)

theorem decodePart_cons_of_ne {byte : UInt8} (hplus : byte ≠ plusSign)
    (hpercent : byte ≠ Percent.percentSign) (rest : List UInt8) :
    decodePart (byte :: rest) = byte :: decodePart rest := by
  rw [decodePart, List.map_cons, if_neg hplus, Percent.decode_cons_of_ne hpercent]
  rfl

theorem decodePart_plusSign (rest : List UInt8) :
    decodePart (plusSign :: rest) = space :: decodePart rest := by
  rw [decodePart, List.map_cons, if_pos rfl, Percent.decode_cons_of_ne (by decide)]
  rfl

theorem decodePart_escape (byte : UInt8) (rest : List UInt8) :
    decodePart (Percent.escape byte ++ rest) = byte :: decodePart rest := by
  -- An escape holds no plus sign, not even that of a plus sign.
  have hkept : (Percent.escape byte).map (fun byte ↦ if byte = plusSign then space else byte) =
      Percent.escape byte := by
    revert byte
    exact Text.forall_octet (by decide +kernel)
  rw [decodePart, List.map_append, hkept, Percent.decode_escape_append]
  rfl

/-- An octet is read back from what was written for it, whatever follows. -/
theorem decodePart_encodeOctet (byte : UInt8) (rest : List UInt8) :
    decodePart (encodeOctet byte ++ rest) = byte :: decodePart rest := by
  rw [encodeOctet]
  by_cases hplain : isPlain byte = true
  · obtain ⟨hplus, hpercent⟩ := ne_of_isPlain byte hplain
    rw [if_pos hplain, List.singleton_append, decodePart_cons_of_ne hplus hpercent]
  · rw [if_neg hplain]
    by_cases hspace : byte = space
    · rw [if_pos hspace, List.singleton_append, decodePart_plusSign, hspace]
    · rw [if_neg hspace, decodePart_escape]

/-- A name or a value is read back. -/
theorem decodePart_encodePart (part : List UInt8) : decodePart (encodePart part) = part := by
  induction part with
  | nil => rfl
  | cons byte part ih =>
    rw [encodePart, List.flatMap_cons, decodePart_encodeOctet]
    exact congrArg (byte :: ·) ih

/-- A name and its value are read back: what is written for the name holds no equals sign. -/
theorem decodePair_encodePair (pair : List UInt8 × List UInt8) :
    decodePair (encodePair pair) = pair := by
  have hsplit : Text.splitAt? equalsSign (encodePair pair) =
      some (encodePart pair.1, encodePart pair.2) :=
    (Text.splitAt?_eq_some_iff _ _ _ _).mpr
      ⟨rfl, fun hmem ↦ (forall_mem_encodePart pair.1 _ hmem).2.2 rfl⟩
  rw [decodePair, hsplit]
  simp only [decodePart_encodePart]

/-! ### Lists of names and values -/

/-- What stands on the two sides of an ampersand is read apart from each other. -/
theorem decode_append (first second : List UInt8) :
    decode (first ++ ampersand :: second) = decode first ++ decode second := by
  have hsplit := @Text.splitWhere_append_cons _ (· == ampersand) _ (beq_self_eq_true ampersand)
    first second
  rw [decode, hsplit, List.filter_append, List.map_append]
  rfl

theorem forall_mem_encodePair (pair : List UInt8 × List UInt8) : ∀ written ∈ encodePair pair,
    written.toNat < 128 ∧ written ≠ ampersand := by
  rw [encodePair, List.forall_mem_append, List.forall_mem_cons]
  refine ⟨fun written hwritten ↦ ?_, by decide, fun written hwritten ↦ ?_⟩
  · exact (forall_mem_encodePart pair.1 written hwritten).imp_right And.left
  · exact (forall_mem_encodePart pair.2 written hwritten).imp_right And.left

theorem decode_encodePair (pair : List UInt8 × List UInt8) : decode (encodePair pair) = [pair] := by
  have hsingle : Text.splitWhere (· == ampersand) (encodePair pair) = [encodePair pair] :=
    Text.splitWhere_eq_singleton fun written hwritten ↦
      beq_eq_false_iff_ne.mpr (forall_mem_encodePair pair written hwritten).2
  have hsome : [encodePair pair].filter (fun part ↦ !part.isEmpty) = [encodePair pair] := by
    rw [encodePair]
    cases encodePart pair.1 <;> rfl
  rw [decode, hsingle, hsome, List.map_singleton, decodePair_encodePair]

theorem encodePairs_singleton (pair : List UInt8 × List UInt8) :
    encodePairs [pair] = encodePair pair :=
  List.intercalate_singleton

theorem encodePairs_cons_cons (pair next : List UInt8 × List UInt8)
    (pairs : List (List UInt8 × List UInt8)) :
    encodePairs (pair :: next :: pairs) =
      encodePair pair ++ ampersand :: encodePairs (next :: pairs) := by
  rw [encodePairs, List.map_cons, List.map_cons, List.intercalate_cons_cons, List.append_assoc]
  rfl

/-- Names and values are read back in their order and number. -/
theorem decode_encodePairs (pairs : List (List UInt8 × List UInt8)) :
    decode (encodePairs pairs) = pairs := by
  induction pairs with
  | nil => rfl
  | cons pair pairs ih =>
    cases pairs with
    | nil => rw [encodePairs_singleton, decode_encodePair]
    | cons next pairs =>
      rw [encodePairs_cons_cons, decode_append, decode_encodePair, ih, List.singleton_append]

theorem forall_mem_encodePairs (pairs : List (List UInt8 × List UInt8)) :
    ∀ written ∈ encodePairs pairs, written.toNat < 128 := by
  induction pairs with
  | nil => nofun
  | cons pair pairs ih =>
    have hpair := fun written hwritten ↦ (forall_mem_encodePair pair written hwritten).1
    cases pairs with
    | nil => rwa [encodePairs_singleton]
    | cons next pairs =>
      rw [encodePairs_cons_cons, List.forall_mem_append, List.forall_mem_cons]
      exact ⟨hpair, by decide, ih⟩

/-! ### Texts -/

theorem octetText_octets (text : String) : octetText (Text.octets text) = text := by
  rw [octetText, (Text.ofOctets?_eq_some_iff _ _).mpr rfl]

/-- Octets in ASCII are those of their text. -/
theorem octets_octetText {bytes : List UInt8} (hbytes : ∀ byte ∈ bytes, byte.toNat < 128) :
    Text.octets (octetText bytes) = bytes := by
  obtain ⟨text, rfl⟩ := Text.exists_octets_of_lt hbytes
  rw [octetText_octets]

theorem octets_queryOfPairs (pairs : List (String × String)) :
    Text.octets (queryOfPairs pairs) = encodePairs (pairOctets pairs) :=
  octets_octetText (forall_mem_encodePairs _)

/-- Texts that were written as a query string are read back in their order and number. -/
theorem decodeQuery_queryOfPairs (pairs : List (String × String)) :
    decodeQuery (queryOfPairs pairs) = pairs := by
  rw [decodeQuery, octets_queryOfPairs, decode_encodePairs, pairOctets, List.map_map]
  refine (List.map_congr_left fun pair _ ↦ ?_).trans (List.map_id pairs)
  simp only [Function.comp_apply, octetText_octets, id_eq]

/-- Only the empty list is written as the empty text. -/
theorem queryOfPairs_eq_empty_iff (pairs : List (String × String)) :
    queryOfPairs pairs = "" ↔ pairs = [] := by
  constructor
  · intro hempty
    rw [← decodeQuery_queryOfPairs pairs, hempty]
    rfl
  · rintro rfl
    rfl

/-- What is read on the two sides of an ampersand in a text. -/
theorem decodeQuery_append (first second : String) :
    decodeQuery (first ++ "&" ++ second) = decodeQuery first ++ decodeQuery second := by
  have hmark : Text.octets "&" = [ampersand] := by decide
  rw [decodeQuery, Text.octets_append, Text.octets_append, hmark, List.append_assoc,
    List.singleton_append, decode_append, List.map_append]
  rfl

/-! ### Queries of paths -/

/-- Parameters that are a list of texts. -/
def Parameters.ofTexts (pairs : List (String × String)) : Parameters :=
  .pairs (pairs.map fun (name, value) ↦ (.string name, .string value))

theorem encodeQuery_ofTexts (pairs : List (String × String)) :
    encodeQuery (.ofTexts pairs) = .ok (queryOfPairs pairs) := by
  have htexts : (Parameters.ofTexts pairs).texts = .ok pairs := by
    induction pairs with
    | nil => rfl
    | cons pair pairs ih =>
      have hrest : scalarPairs (pairs.map fun (name, value) ↦ (.string name, .string value)) =
          .ok pairs := ih
      simp only [Parameters.ofTexts, Parameters.texts, List.map_cons, scalarPairs, hrest]
      rfl
  rw [encodeQuery, htexts]

/-- What stands behind the first question mark of a path; nothing, if it has none. -/
def queryPart (path : String) : String :=
  match Text.splitAt? '?' path.toList with
  | some (_, behind) => String.ofList behind
  | none => ""

theorem queryPart_of_append {path : String} {before behind : List Char}
    (hpath : path.toList = before ++ '?' :: behind) (hbefore : '?' ∉ before) :
    queryPart path = String.ofList behind := by
  rw [queryPart, (Text.splitAt?_eq_some_iff _ _ _ _).mpr ⟨hpath, hbefore⟩]

theorem queryPart_of_not_mem {path : String} (hpath : '?' ∉ path.toList) : queryPart path = "" := by
  rw [queryPart, (Text.splitAt?_eq_none_iff _ _).mpr hpath]

/-- A path with names and values appended is read as what it was read as before, and then the names
and values. -/
theorem decodeQuery_queryPart_withQuery (path : String) (pairs : List (String × String)) :
    decodeQuery (queryPart (Session.withQuery path (queryOfPairs pairs))) =
      decodeQuery (queryPart path) ++ pairs := by
  rw [Session.withQuery]
  by_cases hempty : queryOfPairs pairs = ""
  · rw [if_pos hempty, (queryOfPairs_eq_empty_iff pairs).mp hempty, List.append_nil]
  · rw [if_neg hempty]
    cases hsplit : Text.splitAt? '?' path.toList with
    | some parts =>
      obtain ⟨before, behind⟩ := parts
      obtain ⟨hpath, hbefore⟩ := (Text.splitAt?_eq_some_iff _ _ _ _).mp hsplit
      have hmem : path.toList.contains '?' = true := by
        rw [hpath, List.contains_iff_mem]
        exact List.mem_append_right before List.mem_cons_self
      have htarget : (path ++ "&" ++ queryOfPairs pairs).toList =
          before ++ '?' :: (String.ofList behind ++ "&" ++ queryOfPairs pairs).toList := by
        simp only [String.toList_append, hpath, String.toList_ofList, List.append_assoc,
          List.cons_append]
      rw [if_pos hmem, queryPart_of_append htarget hbefore, queryPart_of_append hpath hbefore,
        String.ofList_toList, decodeQuery_append, decodeQuery_queryOfPairs]
    | none =>
      have habsent : '?' ∉ path.toList := (Text.splitAt?_eq_none_iff _ _).mp hsplit
      have hcontains : ¬ path.toList.contains '?' = true := by
        rwa [List.contains_iff_mem]
      have htarget : (path ++ "?" ++ queryOfPairs pairs).toList =
          path.toList ++ '?' :: (queryOfPairs pairs).toList := by
        rw [String.toList_append, String.toList_append, List.append_assoc]
        rfl
      rw [if_neg hcontains, queryPart_of_append htarget habsent, queryPart_of_not_mem habsent,
        String.ofList_toList, decodeQuery_queryOfPairs]
      rfl

end ResourceLookup.Form
