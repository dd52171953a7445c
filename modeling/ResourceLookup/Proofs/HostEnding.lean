import ResourceLookup.Url.Domain

/-!
# Hosts that end in a control

A character below U+00C0 at the end of a text takes part in no composite and is no mark, so that
composing the text leaves it where it is (`Text.composed_concat`). Percent decoding and mapping keep
an ASCII character there as well, apart from its case. So a name that ends in a space or a control,
which no host name contains, has no normal form (`Domain.normalize?_concat`), whatever stands in
front of it.
-/

set_option autoImplicit false
set_option relaxedAutoImplicit false

namespace ResourceLookup

/-! ### Composition -/

namespace Text

variable {c : Char}

theorem combiningClass_of_lt (hc : c.toNat < 0x300) : Character.combiningClass c = 0 := by
  rw [Character.combiningClass, if_pos hc]

theorem composite?_of_lt (first : Char) (hc : c.toNat < 0x300) :
    Character.composite? first c = none := by
  rw [Character.composite?, if_pos hc]

theorem partsOf_of_lt (hc : c.toNat < 0xC0) : partsOf c = [c] := by
  have hparts : Character.parts? c = none := by rw [Character.parts?, if_pos hc]
  rw [partsOf, partsWithin, hparts]

theorem insertMark_concat (mark : Char) (text : List Char) (hc : c.toNat < 0x300) :
    insertMark mark (text ++ [c]) = insertMark mark text ++ [c] := by
  induction text with
  | nil =>
    simp only [List.nil_append, insertMark, combiningClass_of_lt hc]
    rfl
  | cons next rest ih =>
    simp only [List.cons_append, insertMark, ih]
    split <;> rfl

theorem decomposed_concat (text : List Char) (hc : c.toNat < 0xC0) :
    decomposed (text ++ [c]) = decomposed text ++ [c] := by
  have hinsert : ∀ marks : List Char,
      (marks ++ [c]).foldr insertMark [] = marks.foldr insertMark [] ++ [c] := by
    intro marks
    induction marks with
    | nil => rfl
    | cons mark rest ih =>
      rw [List.cons_append, List.foldr_cons, List.foldr_cons, ih,
        insertMark_concat mark _ (by omega)]
  rw [decomposed, decomposed, List.flatMap_append, List.flatMap_singleton, partsOf_of_lt hc,
    hinsert]

theorem joinFrom_concat (read : List Char) (start : Char) (behind text : List Char)
    (hc : c.toNat < 0x300) :
    joinFrom read start behind (text ++ [c]) = joinFrom read start behind text ++ [c] := by
  induction text generalizing read start behind with
  | nil =>
    simp only [List.nil_append, joinFrom, combiningClass_of_lt hc, composite?_of_lt start hc]
    simp
  | cons next rest ih =>
    simp only [List.cons_append, joinFrom, ih]
    split
    · rfl
    · split <;> rfl

theorem joined_concat (text : List Char) (hc : c.toNat < 0x300) :
    joined (text ++ [c]) = joined text ++ [c] := by
  have hmark : (Character.combiningClass c != 0) = false := by
    rw [combiningClass_of_lt hc]
    rfl
  have hsplit := List.takeWhile_append_dropWhile
    (p := fun c ↦ Character.combiningClass c != 0) (l := text)
  have hdrop := dropWhile_append_cons (fun c ↦ Character.combiningClass c != 0) hmark text []
  have htake := takeWhile_append_cons (fun c ↦ Character.combiningClass c != 0) hmark text []
  simp only [joined, hdrop, htake]
  cases hrest : text.dropWhile (fun c ↦ Character.combiningClass c != 0) with
  | nil =>
    rw [hrest, List.append_nil] at hsplit
    simp only [List.nil_append, hsplit, joinFrom, List.reverse_cons, List.reverse_reverse]
  | cons start rest => exact joinFrom_concat _ start [] rest hc

/-- A character in front of all composites and marks stays where it is at the end of a text. -/
theorem composed_concat (text : List Char) (hc : c.toNat < 0xC0) :
    composed (text ++ [c]) = composed text ++ [c] := by
  have hlow : decide (c.toNat < 0x300) = true := by
    rw [decide_eq_true_iff]
    omega
  rw [composed, composed, List.all_append, List.all_cons, List.all_nil, hlow, Bool.and_self,
    Bool.and_true]
  split
  · rfl
  · rw [decomposed_concat text hc, joined_concat _ (by omega)]

end Text

/-! ### Normal forms -/

namespace Domain

variable {c : Char}

/-- A space or control stands for itself. -/
theorem mapChar?_of_le (hc : c.toNat ≤ 32) : mapChar? c = some [c] := by
  have hcapital : ¬ (65 ≤ c.toNat ∧ c.toNat ≤ 90) := by omega
  rw [mapChar?, if_pos (by omega), Text.asciiLowerChar, if_neg]
  rwa [Bool.and_eq_true, decide_eq_true_iff, decide_eq_true_iff]

/-- A space or control at the end of a text is at the end of its mapped form. -/
theorem mapped?_concat (text : List Char) (hc : c.toNat ≤ 32) :
    mapped? (text ++ [c]) = (mapped? text).map (· ++ [c]) := by
  rw [mapped?, mapped?, mapAll?, mapAll?, List.mapM_append]
  cases htext : text.mapM mapChar? with
  | none => rfl
  | some pieces =>
    have hlast : [c].mapM mapChar? = some [[c]] := by
      rw [List.mapM_cons, mapChar?_of_le hc]
      rfl
    rw [hlast]
    simp only [Option.bind_eq_bind, Option.bind_some, Option.pure_def, Option.map_some,
      List.flatten_append, List.flatten_cons, List.flatten_nil, List.append_nil,
      Text.composed_concat _ (show c.toNat < 0xC0 by omega)]

/-- The text that the octets of a name decode to ends in the space or control in which the name
ends. -/
theorem exists_append_of_decodeText? {name : List Char} {text : String} (hc : c.toNat ≤ 32)
    (htext : Percent.decodeText? (String.ofList (name ++ [c])) = some text) :
    ∃ front, text.toList = front ++ [c] := by
  have hbyte : (UInt8.ofNat c.toNat).toNat = c.toNat := by
    rw [UInt8.toNat_ofNat', Nat.mod_eq_of_lt (by omega)]
  have hdigit : Percent.digitValue? (UInt8.ofNat c.toNat) = none := by
    rw [Percent.digitValue?, hbyte, Char.ofNat_toNat, Text.hexValue?]
    grind
  rw [Percent.decodeText?, Text.ofOctets?_eq_some_iff, Text.octets_ofList, List.flatMap_append,
    List.flatMap_singleton, Text.utf8EncodeChar_of_lt (show c.toNat < 128 by omega),
    Percent.decode_concat _ hdigit, Text.octets_eq] at htext
  have hends := Text.exists_append_of_flatMap_utf8EncodeChar htext (by omega)
  rwa [hbyte, Char.ofNat_toNat] at hends

/-- A name that ends in a space or control is no host name. -/
theorem normalize?_concat (name : List Char) (hc : c.toNat ≤ 32) :
    normalize? (String.ofList (name ++ [c])) = none := by
  rw [normalize?]
  cases htext : Percent.decodeText? (String.ofList (name ++ [c])) with
  | none => rfl
  | some text =>
    obtain ⟨front, hfront⟩ := exists_append_of_decodeText? hc htext
    have hforbidden : isForbidden c = true := by simp [isForbidden, hc]
    simp only [Option.bind_eq_bind, Option.bind_some, hfront, mapped?_concat front hc]
    cases mapped? front with
    | none => rfl
    | some mapped =>
      have hany : (mapped ++ [c]).any isForbidden = true := by
        rw [List.any_append, List.any_cons, hforbidden, Bool.true_or, Bool.or_true]
      rw [Option.map_some, Option.bind_some, if_pos hany]

end Domain

end ResourceLookup
