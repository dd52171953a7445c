/-!
# Octets

Texts as lists of octets in UTF-8 (`octets`, `ofOctets?`), and hexadecimal digits (`hexDigit`,
`hexValue?`), which percent escapes, digests and JSON escapes share.

Main statements: octets are decoded to the one text that they are the octets of
(`ofOctets?_eq_some_iff`), an octet below 128 among them is an ASCII character of that text
(`exists_split_of_flatMap_utf8EncodeChar`), and texts are ordered like their octets
(`octets_lt_octets_iff`).
-/

set_option autoImplicit false
set_option relaxedAutoImplicit false

namespace ResourceLookup.Text

/-- The UTF-8 octets of a text. -/
def octets (text : String) : List UInt8 :=
  text.toUTF8.data.toList

/-- The text that the octets encode, if they are valid UTF-8. -/
def ofOctets? (bytes : List UInt8) : Option String :=
  String.fromUTF8? (ByteArray.mk bytes.toArray)

/-- The lower-case hexadecimal digit of a number below sixteen. -/
def hexDigit (value : Nat) : Char :=
  if value < 10 then Char.ofNat (48 + value) else Char.ofNat (87 + value)

/-- The upper-case hexadecimal digit of a number below sixteen. -/
def hexDigitUpper (value : Nat) : Char :=
  if value < 10 then Char.ofNat (48 + value) else Char.ofNat (55 + value)

/-- The value of a hexadecimal digit of either case. -/
def hexValue? (c : Char) : Option Nat :=
  let code := c.toNat
  if 48 ≤ code && code ≤ 57 then some (code - 48)
  else if 97 ≤ code && code ≤ 102 then some (code - 87)
  else if 65 ≤ code && code ≤ 70 then some (code - 55)
  else none

/-- Two lower-case digits for each octet. -/
def hexText (bytes : List UInt8) : String :=
  String.ofList (bytes.flatMap fun byte ↦ [hexDigit (byte.toNat / 16), hexDigit (byte.toNat % 16)])

/-- The octets that pairs of hexadecimal digits write down. -/
def ofHexDigits? : List Char → Option (List UInt8)
  | [] => some []
  | high :: low :: rest => do
    let h ← hexValue? high
    let l ← hexValue? low
    let bytes ← ofHexDigits? rest
    pure (UInt8.ofNat (16 * h + l) :: bytes)
  | [_] => none

/-- The octets decoded as UTF-8 with every octet that fits no character replaced by U+FFFD. The
bound on the number of steps is the number of octets. -/
def lossyChars (bytes : List UInt8) : List Char :=
  go bytes.length bytes
where
  /-- Reads one character, or drops one octet, in each step. -/
  go : Nat → List UInt8 → List Char
    | 0, _ => []
    | _, [] => []
    | fuel + 1, first :: rest =>
      match ofOctets? [first], rest with
      | some text, _ => text.toList ++ go fuel rest
      | none, second :: rest₂ =>
        match ofOctets? [first, second], rest₂ with
        | some text, _ => text.toList ++ go fuel rest₂
        | none, third :: rest₃ =>
          match ofOctets? [first, second, third], rest₃ with
          | some text, _ => text.toList ++ go fuel rest₃
          | none, fourth :: rest₄ =>
            match ofOctets? [first, second, third, fourth] with
            | some text => text.toList ++ go fuel rest₄
            | none => Char.ofNat 0xFFFD :: go fuel rest
          | none, [] => Char.ofNat 0xFFFD :: go fuel rest
        | none, [] => Char.ofNat 0xFFFD :: go fuel rest
      | none, [] => Char.ofNat 0xFFFD :: go fuel rest

/-! ### Octets of characters -/

theorem octets_eq (text : String) : octets text = text.toList.flatMap String.utf8EncodeChar := by
  have hencoded : text.toByteArray = text.toList.utf8Encode := by
    rw [← String.toByteArray_ofList, String.ofList_toList]
  rw [octets, String.toUTF8_eq_toByteArray, hencoded, List.utf8Encode, List.data_toByteArray]

theorem octets_ofList (text : List Char) :
    octets (String.ofList text) = text.flatMap String.utf8EncodeChar := by
  rw [octets_eq, String.toList_ofList]

theorem octets_append (first second : String) :
    octets (first ++ second) = octets first ++ octets second := by
  rw [octets_eq, octets_eq, octets_eq, String.toList_append, List.flatMap_append]

theorem length_octets (text : String) : (octets text).length = text.utf8ByteSize := rfl

/-- What holds of all octets of a text holds of those of any part of it. -/
theorem all_octets_of_subset {test : UInt8 → Bool} {part text : String}
    (hpart : part.toList ⊆ text.toList) (htext : (octets text).all test = true) :
    (octets part).all test = true := by
  simp only [octets_eq, List.all_flatMap, List.all_eq_true] at htext ⊢
  exact fun c hc ↦ htext c (hpart hc)

/-- Octets are decoded to the text that they are the octets of. -/
theorem ofOctets?_eq_some_iff (bytes : List UInt8) (text : String) :
    ofOctets? bytes = some text ↔ octets text = bytes := by
  rw [ofOctets?, String.fromUTF8?]
  constructor
  · intro hdecoded
    split at hdecoded
    · obtain rfl := Option.some.inj hdecoded
      rw [octets, String.toUTF8_eq_toByteArray, String.fromUTF8]
    · cases hdecoded
  · rintro rfl
    have hbytes : ByteArray.mk (octets text).toArray = text.toByteArray := by
      rw [octets, Array.toArray_toList, String.toUTF8_eq_toByteArray]
    rw [hbytes, dif_pos text.isValidUTF8]
    rfl

/-- Texts with the same octets are the same. -/
theorem octets_inj {first second : String} : octets first = octets second ↔ first = second := by
  refine ⟨fun hsame ↦ ?_, congrArg octets⟩
  have hfirst : ofOctets? (octets first) = some first := (ofOctets?_eq_some_iff _ _).mpr rfl
  rw [(ofOctets?_eq_some_iff _ _).mpr hsame.symm] at hfirst
  exact (Option.some.inj hfirst).symm

theorem map_octets_eq_some_iff {read : Option String} {text : String} :
    read.map octets = some (octets text) ↔ read = some text := by
  cases read with
  | none => exact ⟨nofun, nofun⟩
  | some other => rw [Option.map_some, Option.some.injEq, octets_inj, Option.some.injEq]

/-- An ASCII character is one octet. -/
theorem utf8EncodeChar_of_lt {c : Char} (hc : c.toNat < 128) :
    String.utf8EncodeChar c = [UInt8.ofNat c.toNat] := by
  have hle : c.val.toNat ≤ 127 := Nat.le_of_lt_succ hc
  rw [String.utf8EncodeChar]
  simp only [hle, if_true]
  rfl

/-- The octets of ASCII characters are their codes. -/
theorem flatMap_utf8EncodeChar_of_lt {text : List Char} (htext : ∀ c ∈ text, c.toNat < 128) :
    text.flatMap String.utf8EncodeChar = text.map fun c ↦ UInt8.ofNat c.toNat := by
  induction text with
  | nil => rfl
  | cons c text ih =>
    rw [List.forall_mem_cons] at htext
    rw [List.flatMap_cons, utf8EncodeChar_of_lt htext.1, ih htext.2]
    rfl

/-- The octets of a character beyond ASCII are 128 or more. -/
theorem le_of_mem_utf8EncodeChar {c : Char} (hc : 128 ≤ c.toNat) {byte : UInt8}
    (hbyte : byte ∈ String.utf8EncodeChar c) : 128 ≤ byte.toNat := by
  have hle : ¬ c.val.toNat ≤ 127 := Nat.not_le.mpr hc
  rw [String.utf8EncodeChar] at hbyte
  simp only [hle, if_false] at hbyte
  split at hbyte
  · simp only [List.mem_cons, List.not_mem_nil, or_false] at hbyte
    rcases hbyte with rfl | rfl <;> rw [UInt8.toNat_ofNat'] <;> omega
  · split at hbyte
    · simp only [List.mem_cons, List.not_mem_nil, or_false] at hbyte
      rcases hbyte with rfl | rfl | rfl <;> rw [UInt8.toNat_ofNat'] <;> omega
    · simp only [List.mem_cons, List.not_mem_nil, or_false] at hbyte
      rcases hbyte with rfl | rfl | rfl | rfl <;> rw [UInt8.toNat_ofNat'] <;> omega

/-- Every character has octets. -/
theorem eq_nil_of_flatMap_utf8EncodeChar {text : List Char}
    (hoctets : text.flatMap String.utf8EncodeChar = []) : text = [] := by
  cases text with
  | nil => rfl
  | cons c text =>
    rw [List.flatMap_cons, List.append_eq_nil_iff] at hoctets
    exact absurd hoctets.1 String.utf8EncodeChar_ne_nil

/-- An octet below 128 within the octets of a text is an ASCII character within that text. -/
theorem exists_split_of_flatMap_utf8EncodeChar {text : List Char} {before behind : List UInt8}
    {byte : UInt8} (hoctets : text.flatMap String.utf8EncodeChar = before ++ byte :: behind)
    (hbyte : byte.toNat < 128) :
    ∃ front rest, text = front ++ Char.ofNat byte.toNat :: rest ∧
      front.flatMap String.utf8EncodeChar = before ∧
      rest.flatMap String.utf8EncodeChar = behind := by
  induction text generalizing before with
  | nil => exact absurd hoctets.symm (List.append_ne_nil_of_right_ne_nil _ (List.cons_ne_nil _ _))
  | cons c text ih =>
    rw [List.flatMap_cons] at hoctets
    by_cases hc : c.toNat < 128
    · rw [utf8EncodeChar_of_lt hc, List.singleton_append] at hoctets
      cases before with
      | nil =>
        obtain ⟨rfl, rfl⟩ := List.cons.inj hoctets
        refine ⟨[], text, ?_, rfl, rfl⟩
        rw [UInt8.toNat_ofNat', Nat.mod_eq_of_lt (by omega), Char.ofNat_toNat, List.nil_append]
      | cons first before =>
        obtain ⟨rfl, hrest⟩ := List.cons.inj hoctets
        obtain ⟨front, rest, rfl, rfl, hbehind⟩ := ih hrest
        refine ⟨c :: front, rest, rfl, ?_, hbehind⟩
        rw [List.flatMap_cons, utf8EncodeChar_of_lt hc, List.singleton_append]
    · -- None of the octets of the character is the one, so that all stand in front of it.
      have hlarge : byte ∉ String.utf8EncodeChar c := fun hmem ↦
        absurd hbyte (Nat.not_lt.mpr (le_of_mem_utf8EncodeChar (Nat.le_of_not_lt hc) hmem))
      rcases List.append_eq_append_iff.mp hoctets with
        ⟨middle, rfl, hrest⟩ | ⟨middle, hmiddle, hrest⟩
      · obtain ⟨front, rest, rfl, rfl, hbehind⟩ := ih hrest
        exact ⟨c :: front, rest, rfl, List.flatMap_cons, hbehind⟩
      · cases middle with
        | nil =>
          rw [List.append_nil] at hmiddle
          obtain ⟨front, rest, rfl, hfront, hbehind⟩ := @ih [] hrest.symm
          refine ⟨c :: front, rest, rfl, ?_, hbehind⟩
          rw [List.flatMap_cons, hfront, List.append_nil, hmiddle]
        | cons first middle =>
          obtain ⟨rfl, -⟩ := List.cons.inj hrest
          rw [hmiddle] at hlarge
          exact absurd (List.mem_append_right before List.mem_cons_self) hlarge

/-- Octets that end in one below 128 are those of a text that ends in that ASCII character. -/
theorem exists_append_of_flatMap_utf8EncodeChar {text : List Char} {bytes : List UInt8}
    {byte : UInt8} (hoctets : text.flatMap String.utf8EncodeChar = bytes ++ [byte])
    (hbyte : byte.toNat < 128) : ∃ front, text = front ++ [Char.ofNat byte.toNat] := by
  obtain ⟨front, rest, htext, -, hrest⟩ := exists_split_of_flatMap_utf8EncodeChar hoctets hbyte
  exact ⟨front, by rw [htext, eq_nil_of_flatMap_utf8EncodeChar hrest]⟩

/-! ### ASCII within texts -/

/-- The code of an ASCII character as an octet is that code. -/
theorem toNat_ofNat_of_lt {c : Char} (hc : c.toNat < 128) :
    (UInt8.ofNat c.toNat).toNat = c.toNat := by
  rw [UInt8.toNat_ofNat', Nat.mod_eq_of_lt (by omega)]

/-- An ASCII character whose octet comes first among the octets of a text is its first character. -/
theorem exists_cons_of_flatMap_utf8EncodeChar {text : List Char} {behind : List UInt8} {c : Char}
    (hoctets : text.flatMap String.utf8EncodeChar = UInt8.ofNat c.toNat :: behind)
    (hc : c.toNat < 128) :
    ∃ rest, text = c :: rest ∧ rest.flatMap String.utf8EncodeChar = behind := by
  have hcode := toNat_ofNat_of_lt hc
  obtain ⟨front, rest, rfl, hfront, hrest⟩ :=
    @exists_split_of_flatMap_utf8EncodeChar text [] behind _ hoctets (by rw [hcode]; exact hc)
  obtain rfl := eq_nil_of_flatMap_utf8EncodeChar hfront
  exact ⟨rest, by rw [hcode, Char.ofNat_toNat, List.nil_append], hrest⟩

/-- Where the octets of ASCII characters come first, the characters do. -/
theorem isPrefix_of_octets {needle text : List Char} (hneedle : ∀ c ∈ needle, c.toNat < 128)
    (hstart : needle.flatMap String.utf8EncodeChar <+: text.flatMap String.utf8EncodeChar) :
    needle <+: text := by
  induction needle generalizing text with
  | nil => exact List.nil_prefix
  | cons c needle ih =>
    rw [List.forall_mem_cons] at hneedle
    obtain ⟨behind, hbehind⟩ := hstart
    rw [List.flatMap_cons, utf8EncodeChar_of_lt hneedle.1, List.singleton_append,
      List.cons_append] at hbehind
    obtain ⟨rest, rfl, hrest⟩ := exists_cons_of_flatMap_utf8EncodeChar hbehind.symm hneedle.1
    exact List.cons_prefix_cons.mpr ⟨rfl, ih hneedle.2 ⟨behind, hrest.symm⟩⟩

/-- ASCII characters are within a text exactly where their octets are within its octets. -/
theorem octets_isInfix_iff {needle text : List Char} (hneedle : ∀ c ∈ needle, c.toNat < 128) :
    needle.flatMap String.utf8EncodeChar <:+: text.flatMap String.utf8EncodeChar ↔
      needle <:+: text := by
  constructor
  · rintro ⟨before, behind, hwithin⟩
    cases needle with
    | nil => exact List.nil_infix
    | cons c needle =>
      rw [List.forall_mem_cons] at hneedle
      have hcode := toNat_ofNat_of_lt hneedle.1
      rw [List.flatMap_cons, utf8EncodeChar_of_lt hneedle.1, List.append_assoc, List.append_assoc,
        List.singleton_append] at hwithin
      -- The first character tells where the text is to be cut.
      obtain ⟨front, rest, rfl, -, hrest⟩ := exists_split_of_flatMap_utf8EncodeChar hwithin.symm
        (by rw [hcode]; exact hneedle.1)
      have hstart : needle <+: rest := isPrefix_of_octets hneedle.2 ⟨behind, hrest.symm⟩
      rw [hcode, Char.ofNat_toNat]
      exact (List.cons_prefix_cons.mpr ⟨rfl, hstart⟩).isInfix.trans
        (List.suffix_append front _).isInfix
  · rintro ⟨before, behind, rfl⟩
    rw [List.flatMap_append, List.flatMap_append]
    exact ⟨_, _, rfl⟩

/-! ### Octets and ASCII characters one by one -/

/-- What holds of the 256 octets one by one holds of every octet. -/
theorem forall_octet {property : UInt8 → Prop}
    (hall : ∀ code < 256, property (UInt8.ofNat code)) (byte : UInt8) : property byte := by
  have hbyte := hall byte.toNat byte.toNat_lt_size
  rwa [UInt8.ofNat_toNat] at hbyte

/-- What holds of the 128 ASCII characters one by one holds of every ASCII character. -/
theorem forall_ascii {property : Char → Prop}
    (hall : ∀ code < 128, property (Char.ofNat code)) (c : Char) (hc : c.toNat < 128) :
    property c := by
  have hchar := hall c.toNat hc
  rwa [Char.ofNat_toNat] at hchar

theorem utf8EncodeChar_ofNat (byte : UInt8) (hbyte : byte.toNat < 128) :
    String.utf8EncodeChar (Char.ofNat byte.toNat) = [byte] := by
  revert byte
  exact forall_octet (by decide +kernel)

/-- Octets below 128 are those of a text. -/
theorem exists_octets_of_lt {bytes : List UInt8} (hbytes : ∀ byte ∈ bytes, byte.toNat < 128) :
    ∃ text, octets text = bytes := by
  refine ⟨String.ofList (bytes.map fun byte ↦ Char.ofNat byte.toNat), ?_⟩
  rw [octets_ofList]
  induction bytes with
  | nil => rfl
  | cons byte bytes ih =>
    rw [List.forall_mem_cons] at hbytes
    rw [List.map_cons, List.flatMap_cons, ih hbytes.2, utf8EncodeChar_ofNat byte hbytes.1,
      List.singleton_append]

/-! ### Order -/

/-- The first of two octets decides, or what is behind where they are the same. -/
theorem ofNat_cons_lt {m n : Nat} {behind other : List UInt8} (hn : n < 256) (hle : m ≤ n)
    (hbehind : m = n → behind < other) : UInt8.ofNat m :: behind < UInt8.ofNat n :: other := by
  rw [List.cons_lt_cons_iff, UInt8.lt_iff_toNat_lt, UInt8.toNat_ofNat', UInt8.toNat_ofNat',
    Nat.mod_eq_of_lt hn, Nat.mod_eq_of_lt (Nat.lt_of_le_of_lt hle hn)]
  rcases Nat.lt_or_eq_of_le hle with hless | heq
  · exact .inl hless
  · exact .inr ⟨congrArg UInt8.ofNat heq, hbehind heq⟩

/-- The octets of a character with a larger code are larger, whatever comes behind either. -/
theorem utf8EncodeChar_append_lt {c d : Char} (hless : c < d) (behind other : List UInt8) :
    String.utf8EncodeChar c ++ behind < String.utf8EncodeChar d ++ other := by
  have hcode : c.val.toNat < d.val.toNat := UInt32.lt_iff_toNat_lt.mp (Char.lt_def.mp hless)
  have hmax : d.val.toNat < 1114112 := by
    rcases d.valid with hlow | ⟨-, hhigh⟩
    · exact Nat.lt_trans hlow (by decide)
    · exact hhigh
  rw [String.utf8EncodeChar, String.utf8EncodeChar]
  generalize c.val.toNat = m at hcode
  generalize d.val.toNat = n at hcode hmax
  -- A larger code has more octets and then a larger first one, or as many, of which the first ones
  -- that differ decide.
  repeat' split
  all_goals try omega
  all_goals simp only [List.cons_append, List.nil_append]
  all_goals
    refine ofNat_cons_lt (by omega) (by omega) fun hfirst ↦ ?_
    try exact absurd hfirst (by omega)
  all_goals
    refine ofNat_cons_lt (by omega) (by omega) fun hsecond ↦ ?_
    try exact absurd hsecond (by omega)
  all_goals
    refine ofNat_cons_lt (by omega) (by omega) fun hthird ↦ ?_
    try exact absurd hthird (by omega)
  exact ofNat_cons_lt (by omega) (by omega) fun hfourth ↦ absurd hfourth (by omega)

theorem flatMap_utf8EncodeChar_lt {text other : List Char} (hless : text < other) :
    text.flatMap String.utf8EncodeChar < other.flatMap String.utf8EncodeChar := by
  induction List.lex_lt.mpr hless with
  | @nil c other =>
    obtain ⟨byte, bytes, hbytes⟩ :=
      List.exists_cons_of_ne_nil (@String.utf8EncodeChar_ne_nil c)
    rw [List.flatMap_nil, List.flatMap_cons, hbytes]
    exact List.nil_lt_cons byte _
  | cons hlex ih =>
    rw [List.flatMap_cons, List.flatMap_cons]
    exact List.append_left_lt (ih (List.lex_lt.mp hlex))
  | rel hchar =>
    rw [List.flatMap_cons, List.flatMap_cons]
    exact utf8EncodeChar_append_lt hchar _ _

/-- Texts are ordered like their octets. -/
theorem octets_lt_octets_iff {first second : String} :
    octets first < octets second ↔ first < second := by
  have hforward : ∀ {first second : String}, first < second → octets first < octets second := by
    intro first second hless
    rw [octets_eq, octets_eq]
    exact flatMap_utf8EncodeChar_lt (String.lt_iff.mp hless)
  refine ⟨fun hless ↦ Decidable.byContradiction fun hnot ↦ ?_, hforward⟩
  by_cases hsame : second = first
  · exact List.lt_irrefl _ (hsame ▸ hless)
  · exact List.lt_asymm hless (hforward (Std.lt_of_le_of_ne (String.not_lt.mp hnot) hsame))

end ResourceLookup.Text
