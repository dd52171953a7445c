import ResourceLookup.Proofs.JsonText
import ResourceLookup.Proofs.TextEnds
import ResourceLookup.Time.HumanDuration

/-!
# Durations read back

The written form of a duration reads back as the duration (`HumanDuration.decode_encode`), up to the
longest one.

A duration is written as terms, one for each unit that it has any of. The terms add up to the
duration (`HumanDuration.sum_counted`), since the last unit is a nanosecond. A term is read back
where its number has 64 bits and its unit is known by the name that is written
(`HumanDuration.run_text`); a unit below a second may not count more than a second either, because
its nanoseconds are added in 64 bits (`HumanDuration.addWhole_eq`). The terms of a duration are like
that: those of whole seconds since the duration is bounded, those of fractions since less than a
second is left for them (`HumanDuration.readable_of_mem_counted`).
-/

set_option autoImplicit false
set_option relaxedAutoImplicit false

namespace ResourceLookup.HumanDuration

open Text

/-! ### Terms that are written -/

/-- A unit that is written: its length in nanoseconds, its name, and whether this has a plural. -/
abbrev WrittenUnit := Nat × String × Bool

/-- The names under which a unit is written. -/
def names : WrittenUnit → List String
  | (_, name, plural) => if plural then [name, name ++ "s"] else [name]

/-- A number of units. -/
structure Term where
  count : Nat
  unit : WrittenUnit

namespace Term

/-- The name of the unit in the text of a term. -/
def name (term : Term) : String :=
  term.unit.2.1 ++ if term.unit.2.2 && 1 < term.count then "s" else ""

/-- The text of a term. -/
def text (term : Term) : String :=
  toString term.count ++ term.name

/-- The length of a term in nanoseconds. -/
def nanos (term : Term) : Nat :=
  term.count * term.unit.1

theorem name_mem_names (term : Term) : term.name ∈ names term.unit := by
  rcases term with ⟨count, length, name, _ | _⟩
  · exact List.mem_singleton.mpr String.append_empty
  · by_cases hcount : 1 < count
    · simp [Term.name, names, hcount]
    · simp [Term.name, names, hcount]

end Term

/-- A number of nanoseconds in terms of the units, as far as it goes. -/
def counted (nanos : Nat) : List WrittenUnit → List Term
  | [] => []
  | unit :: units =>
    if nanos / unit.1 == 0 then counted (nanos % unit.1) units
    else ⟨nanos / unit.1, unit⟩ :: counted (nanos % unit.1) units

/-- What is left of a number of nanoseconds behind its terms. -/
def leftOver (nanos : Nat) (units : List WrittenUnit) : Nat :=
  units.foldl (fun rest unit ↦ rest % unit.1) nanos

section Counting

variable {nanos : Nat} {units : List WrittenUnit} {term : Term}

theorem terms_eq_counted (nanos : Nat) (units : List WrittenUnit) :
    terms nanos units = (counted nanos units).map Term.text := by
  induction units generalizing nanos with
  | nil => rfl
  | cons unit units ih =>
    obtain ⟨length, name, plural⟩ := unit
    rw [terms, counted, ih]
    split
    · rfl
    · rw [List.map_cons, Term.text, Term.name, String.append_assoc]

/-- The terms and what is left add up to the number. -/
theorem sum_counted (nanos : Nat) (units : List WrittenUnit) :
    ((counted nanos units).map Term.nanos).sum + leftOver nanos units = nanos := by
  induction units generalizing nanos with
  | nil => exact Nat.zero_add nanos
  | cons unit units ih =>
    have hrest : ((counted (nanos % unit.1) units).map Term.nanos).sum +
        leftOver nanos (unit :: units) = nanos % unit.1 := ih (nanos % unit.1)
    have hsplit : nanos / unit.1 * unit.1 + nanos % unit.1 = nanos := Nat.div_add_mod' nanos unit.1
    rw [counted]
    split
    · next hnone =>
      rw [beq_iff_eq.mp hnone, Nat.zero_mul, Nat.zero_add] at hsplit
      rw [hrest, hsplit]
    · rw [List.map_cons, List.sum_cons, Nat.add_assoc, hrest]
      exact hsplit

theorem counted_append (nanos : Nat) (first second : List WrittenUnit) :
    counted nanos (first ++ second) =
      counted nanos first ++ counted (leftOver nanos first) second := by
  induction first generalizing nanos with
  | nil => rfl
  | cons unit first ih =>
    rw [List.cons_append, counted, counted, ih]
    split <;> rfl

/-- A term counts one of the units and is not longer than the whole. -/
theorem mem_counted (hterm : term ∈ counted nanos units) :
    term.unit ∈ units ∧ term.nanos ≤ nanos := by
  induction units generalizing nanos with
  | nil => cases hterm
  | cons unit units ih =>
    have hrest : term ∈ counted (nanos % unit.1) units →
        term.unit ∈ unit :: units ∧ term.nanos ≤ nanos := fun hmem ↦
      ⟨List.mem_cons_of_mem unit (ih hmem).1, (ih hmem).2.trans (Nat.mod_le nanos unit.1)⟩
    rw [counted] at hterm
    split at hterm
    · exact hrest hterm
    · rcases List.mem_cons.mp hterm with rfl | hmem
      · exact ⟨List.mem_cons_self, Nat.div_mul_le_self nanos unit.1⟩
      · exact hrest hmem

end Counting

/-! ### Adding terms -/

section Adding

variable {total : Duration} {count seconds nanos : Nat} {unit : TimeUnit}

theorem within64_of_lt {value : Nat} (hvalue : value < Nat.pow 2 64) : within64 value = .ok value :=
  if_pos hvalue

theorem subsecond_lt (duration : Duration) : duration.subsecond < nanosPerSecond :=
  Nat.mod_lt _ (by decide)

/-- A sum of which both parts are known. The numbers are any, so that checking this computes
nothing. -/
theorem sum_of_parts {read : Except Fault Nat} {whole below : Nat} {sum : Duration}
    (hread : read = .ok below) (hsum : Duration.ofNanos? (whole + below) = some sum) :
    (match read with
      | .error fault => Except.error fault
      | .ok below =>
        match Duration.ofNanos? (whole + below) with
        | some sum => Except.ok sum
        | none => Except.error Fault.tooLarge) = Except.ok sum := by
  rw [hread]
  simp only [hsum]

theorem accumulate_eq (hnanos : nanos < nanosPerSecond)
    (hsum : total.nanos + (seconds * nanosPerSecond + nanos) < Nat.pow 2 64 * 1000000000) :
    accumulate total seconds nanos =
      .ok ⟨total.nanos + (seconds * nanosPerSecond + nanos), hsum⟩ := by
  have hbelow : total.subsecond + nanos < Nat.pow 2 64 :=
    Nat.lt_trans (Nat.add_lt_add (subsecond_lt total) hnanos) (by decide)
  have hsplit : total.seconds * nanosPerSecond + total.subsecond = total.nanos :=
    Nat.div_add_mod' total.nanos nanosPerSecond
  have hwhole : (total.seconds + seconds) * nanosPerSecond + (total.subsecond + nanos) =
      total.nanos + (seconds * nanosPerSecond + nanos) := by
    rw [Nat.add_mul, Nat.add_add_add_comm, hsplit]
  refine sum_of_parts (within64_of_lt hbelow) ?_
  rw [hwhole]
  exact dif_pos hsum

theorem nanos_eq_seconds (hlarge : ¬ unit.nanos < nanosPerSecond) :
    unit.nanos / nanosPerSecond * nanosPerSecond = unit.nanos := by
  cases unit <;> first | rfl | exact absurd (by decide) hlarge

/-- Units are added without loss where the sum is a duration, those below a second only up to a
second. -/
theorem addWhole_eq
    (hsmall : unit.nanos < nanosPerSecond → count * unit.nanos < nanosPerSecond)
    (hsum : total.nanos + count * unit.nanos < Nat.pow 2 64 * 1000000000) :
    addWhole total count unit = .ok ⟨total.nanos + count * unit.nanos, hsum⟩ := by
  rw [addWhole]
  split
  · next hbelow =>
    have hfits : count * unit.nanos < Nat.pow 2 64 :=
      Nat.lt_trans (hsmall hbelow) (by decide)
    have hsame : 0 * nanosPerSecond + count * unit.nanos = count * unit.nanos := by
      rw [Nat.zero_mul, Nat.zero_add]
    simp only [within64_of_lt hfits, bind, Except.bind]
    rw [accumulate_eq (hsmall hbelow) (by rw [hsame]; exact hsum)]
    simp only [hsame]
  · next hlarge =>
    have hsame : count * (unit.nanos / nanosPerSecond) * nanosPerSecond + 0 =
        count * unit.nanos := by
      rw [Nat.add_zero, Nat.mul_assoc, nanos_eq_seconds hlarge]
    have hfits : count * (unit.nanos / nanosPerSecond) < Nat.pow 2 64 := by
      have hbound := Nat.lt_of_le_of_lt (Nat.le_add_left _ total.nanos) hsum
      rw [← hsame, Nat.add_zero] at hbound
      exact Nat.lt_of_mul_lt_mul_right hbound
    simp only [within64_of_lt hfits, bind, Except.bind]
    rw [accumulate_eq (by decide) (by rw [hsame]; exact hsum)]
    simp only [hsame]

end Adding

/-! ### Reading terms -/

section Reading

variable {term : Term} {unit : TimeUnit} {total : Duration} {c : Char}

/-- A term can be read back: its unit is known by its name, its number has 64 bits, and it is not
longer than a second where its unit is shorter. -/
structure Term.Readable (term : Term) (unit : TimeUnit) : Prop where
  named : TimeUnit.named? term.name = some unit
  letters : ∀ c ∈ term.name.toList, isUnitChar c = true
  nonempty : term.name.toList ≠ []
  length : unit.nanos = term.unit.1
  count : term.count < Nat.pow 2 64
  small : unit.nanos < nanosPerSecond → term.nanos < nanosPerSecond

theorem isAsciiDigit_of_isUnitChar (hc : isUnitChar c = true) : isAsciiDigit c = false := by
  simp only [isUnitChar, isAsciiLetter, isAsciiDigit, Bool.or_eq_true, Bool.and_eq_true,
    decide_eq_true_eq, beq_iff_eq, Bool.and_eq_false_iff, decide_eq_false_iff_not] at hc ⊢
  rcases hc with hletter | rfl
  · omega
  · decide

theorem isWhite_of_isAsciiDigit (hc : isAsciiDigit c = true) : isWhite c = false := by
  simp only [isAsciiDigit, Bool.and_eq_true, decide_eq_true_eq] at hc
  simp only [isWhite, Bool.or_eq_false_iff, Bool.and_eq_false_iff, decide_eq_false_iff_not,
    beq_eq_false_iff_ne]
  omega

theorem isWhite_of_isUnitChar (hc : isUnitChar c = true) : isWhite c = false := by
  simp only [isUnitChar, isAsciiLetter, Bool.or_eq_true, Bool.and_eq_true, decide_eq_true_eq,
    beq_iff_eq] at hc
  rcases hc with hletter | rfl
  · simp only [isWhite, Bool.or_eq_false_iff, Bool.and_eq_false_iff, decide_eq_false_iff_not,
      beq_eq_false_iff_ne]
    omega
  · decide

theorem run_digits (total : Duration) {digits rest : List Char} {count : Nat}
    (hdigits : ∀ c ∈ digits, isAsciiDigit c = true)
    (hfits : digits.foldl (fun total c ↦ total * 10 + digitValue c) count < Nat.pow 2 64) :
    run (.whole total count) (digits ++ rest) =
      run (.whole total (digits.foldl (fun total c ↦ total * 10 + digitValue c) count)) rest := by
  induction digits generalizing count with
  | nil => rfl
  | cons c digits ih =>
    rw [List.forall_mem_cons] at hdigits
    have hnext : count * 10 + digitValue c < Nat.pow 2 64 :=
      Nat.lt_of_le_of_lt (Json.le_foldl_digits digits _) hfits
    rw [List.cons_append, run, step, if_pos hdigits.1]
    simp only [within64_of_lt hnext, bind, Except.bind]
    exact ih hdigits.2 hfits

theorem run_letters (total : Duration) (count : Nat) {letters rest name : List Char}
    (hletters : ∀ c ∈ letters, isUnitChar c = true) :
    run (.unit total count none name) (letters ++ rest) =
      run (.unit total count none (letters.reverse ++ name)) rest := by
  induction letters generalizing name with
  | nil => rfl
  | cons c letters ih =>
    rw [List.forall_mem_cons] at hletters
    rw [List.cons_append, run, step, isAsciiDigit_of_isUnitChar hletters.1,
      isWhite_of_isUnitChar hletters.1, if_pos hletters.1]
    simp only [Bool.false_eq_true, if_false]
    rw [ih hletters.2, List.reverse_cons, List.append_assoc, List.singleton_append]

/-- A term is read up to the end of its unit. -/
theorem run_text (hterm : term.Readable unit) (total? : Option Duration) (rest : List Char) :
    run (.start total?) (term.text.toList ++ rest) =
      run (.unit (total?.getD .zero) term.count none term.name.toList.reverse) rest := by
  obtain ⟨first, digits, hdigits⟩ := List.exists_cons_of_ne_nil (@Nat.toDigits_ne_nil term.count 10)
  obtain ⟨letter, letters, hletters⟩ := List.exists_cons_of_ne_nil hterm.nonempty
  have hall := all_isAsciiDigit_toDigits term.count
  have hvalue : digits.foldl (fun total c ↦ total * 10 + digitValue c) (digitValue first) =
      term.count := by
    have hnumber := numberOf_toDigits term.count
    rw [hdigits, numberOf, List.foldl_cons, Nat.zero_mul, Nat.zero_add] at hnumber
    exact hnumber
  have hunit := hterm.letters
  rw [hdigits, List.forall_mem_cons] at hall
  rw [hletters, List.forall_mem_cons] at hunit
  rw [Term.text, String.toList_append, show (toString term.count).toList = first :: digits from
    hdigits ▸ Nat.toList_repr, List.append_assoc, List.cons_append, run, step, if_pos hall.1]
  simp only
  rw [run_digits _ hall.2 (hvalue.symm ▸ hterm.count), hvalue, hletters, List.cons_append, run,
    step, isAsciiDigit_of_isUnitChar hunit.1, isWhite_of_isUnitChar hunit.1, if_pos hunit.1]
  simp only [Bool.false_eq_true, if_false]
  rw [run_letters _ _ hunit.2, List.reverse_cons]

theorem addTerm_eq (hterm : term.Readable unit)
    (hsum : total.nanos + term.nanos < Nat.pow 2 64 * 1000000000) :
    addTerm total term.count none term.name.toList.reverse.reverse =
      .ok ⟨total.nanos + term.nanos, hsum⟩ := by
  have hnanos : term.count * unit.nanos = term.nanos := by rw [hterm.length, Term.nanos]
  rw [List.reverse_reverse, addTerm, String.ofList_toList, hterm.named]
  simp only
  rw [addWhole_eq (hnanos ▸ hterm.small) (hnanos ▸ hsum)]
  simp only [hnanos]

/-- Terms with blanks between them are read as their sum. -/
theorem run_terms {terms : List Term} (hterms : ∀ term ∈ terms, ∃ unit, term.Readable unit)
    (hsome : terms ≠ []) (total? : Option Duration)
    (hsum : (total?.getD .zero).nanos + (terms.map Term.nanos).sum <
      Nat.pow 2 64 * 1000000000) :
    run (.start total?) (String.intercalate " " (terms.map Term.text)).toList =
      .ok ⟨(total?.getD .zero).nanos + (terms.map Term.nanos).sum, hsum⟩ := by
  induction terms generalizing total? with
  | nil => exact absurd rfl hsome
  | cons term rest ih =>
    rw [List.forall_mem_cons] at hterms
    obtain ⟨⟨unit, hterm⟩, hrest⟩ := hterms
    have hfirst : (total?.getD .zero).nanos + term.nanos < Nat.pow 2 64 * 1000000000 := by
      rw [List.map_cons, List.sum_cons] at hsum
      exact Nat.lt_of_le_of_lt (Nat.add_le_add_left (Nat.le_add_right _ _) _) hsum
    cases rest with
    | nil =>
      have hread := run_text hterm total? []
      rw [List.append_nil] at hread
      rw [List.map_singleton, String.intercalate_singleton, hread]
      exact addTerm_eq hterm hfirst
    | cons next rest =>
      have hbehind := ih hrest (List.cons_ne_nil _ _) (some ⟨_, hfirst⟩)
        (by simpa only [List.map_cons, List.sum_cons, Option.getD_some, Nat.add_assoc] using hsum)
      rw [List.map_cons, List.map_cons, String.intercalate_cons_cons, String.toList_append,
        String.toList_append, List.append_assoc, run_text hterm]
      show run _ (' ' :: (String.intercalate " " ((next :: rest).map Term.text)).toList) = _
      rw [run, step, if_neg (by decide), if_pos (by decide), addTerm_eq hterm hfirst]
      simp only [bind, Except.bind]
      rw [hbehind]
      simp only [List.map_cons, List.sum_cons, Option.getD_some, Nat.add_assoc]

/-- A text that begins with no white space and ends in a letter. -/
structure Framed (text : List Char) : Prop where
  head : ∀ c ∈ text.head?, isWhite c = false
  last : ∃ letter, text.getLast? = some letter ∧ isUnitChar letter = true

theorem Framed.append {first second : List Char} (hfirst : Framed first) (hsecond : Framed second)
    (between : List Char) : Framed (first ++ (between ++ second)) := by
  obtain ⟨last, hlast, -⟩ := hfirst.last
  obtain ⟨letter, hletter, hunit⟩ := hsecond.last
  constructor
  · cases first with
    | nil => cases hlast
    | cons c rest => exact hfirst.head
  · refine ⟨letter, ?_, hunit⟩
    rw [List.getLast?_append, List.getLast?_append, hletter, Option.some_or, Option.some_or]

theorem Term.Readable.framed (hterm : term.Readable unit) : Framed term.text.toList := by
  rw [Term.text, String.toList_append]
  constructor
  · obtain ⟨first, digits, hdigits⟩ :=
      List.exists_cons_of_ne_nil (@Nat.toDigits_ne_nil term.count 10)
    have hfirst := all_isAsciiDigit_toDigits term.count first (hdigits ▸ List.mem_cons_self)
    rw [show (toString term.count).toList = first :: digits from hdigits ▸ Nat.toList_repr]
    rintro c hc
    obtain rfl := Option.some.inj hc
    exact isWhite_of_isAsciiDigit hfirst
  · refine ⟨term.name.toList.getLast hterm.nonempty, ?_, hterm.letters _ (List.getLast_mem _)⟩
    rw [List.getLast?_append, List.getLast?_eq_some_getLast hterm.nonempty, Option.some_or]

theorem framed_terms {terms : List Term} (hterms : ∀ term ∈ terms, ∃ unit, term.Readable unit)
    (hsome : terms ≠ []) :
    Framed (String.intercalate " " (terms.map Term.text)).toList := by
  induction terms with
  | nil => exact absurd rfl hsome
  | cons term rest ih =>
    rw [List.forall_mem_cons] at hterms
    obtain ⟨⟨unit, hterm⟩, hrest⟩ := hterms
    cases rest with
    | nil =>
      rw [List.map_singleton, String.intercalate_singleton]
      exact hterm.framed
    | cons next rest =>
      rw [List.map_cons, List.map_cons, String.intercalate_cons_cons, String.toList_append,
        String.toList_append, List.append_assoc]
      exact hterm.framed.append (ih hrest (List.cons_ne_nil _ _)) _

theorem Framed.trim_eq {text : String} (htext : Framed text.toList) : trim text = text := by
  obtain ⟨letter, hletter, hunit⟩ := htext.last
  refine trim_eq_self htext.head fun c hc ↦ ?_
  obtain rfl := Option.some.inj (hletter.symm.trans hc)
  exact isWhite_of_isUnitChar hunit

end Reading

/-! ### Terms of a duration -/

section Terms

variable {term : Term} {duration : Duration}

/-- The units of a second or more. -/
def wholeUnits : List WrittenUnit :=
  writtenUnits.filter fun unit ↦ nanosPerSecond ≤ unit.1

/-- The units below a second. -/
def fractionUnits : List WrittenUnit :=
  writtenUnits.filter fun unit ↦ unit.1 < nanosPerSecond

/-- Every unit is known by the names under which it is written. -/
theorem known_of_mem_names : ∀ unit ∈ writtenUnits, ∀ name ∈ names unit,
    (TimeUnit.named? name).map TimeUnit.nanos = some unit.1 ∧
      name.toList.all isUnitChar = true ∧ name.toList ≠ [] := by
  decide

theorem pos_of_mem_writtenUnits : ∀ unit ∈ writtenUnits, 0 < unit.1 := by
  decide

theorem counted_writtenUnits (nanos : Nat) :
    counted nanos writtenUnits =
      counted nanos wholeUnits ++ counted (leftOver nanos wholeUnits) fractionUnits :=
  counted_append nanos wholeUnits fractionUnits

theorem leftOver_wholeUnits_lt (nanos : Nat) : leftOver nanos wholeUnits < nanosPerSecond :=
  Nat.mod_lt _ (by decide)

theorem leftOver_writtenUnits (nanos : Nat) : leftOver nanos writtenUnits = 0 :=
  Nat.mod_one _

/-- The terms of a duration can be read back. -/
theorem readable_of_mem_counted (hterm : term ∈ counted duration.nanos writtenUnits) :
    ∃ unit, term.Readable unit := by
  have hunit := (mem_counted hterm).1
  obtain ⟨hnamed, hletters, hnonempty⟩ := known_of_mem_names _ hunit _ term.name_mem_names
  obtain ⟨unit, hname, hlength⟩ := Option.map_eq_some_iff.mp hnamed
  -- Both the number and the length of a term are bounded by what is left when it is counted.
  obtain ⟨hcount, hsmall⟩ : term.nanos < Nat.pow 2 64 * term.unit.1 ∧
      (term.unit.1 < nanosPerSecond → term.nanos < nanosPerSecond) := by
    rw [counted_writtenUnits, List.mem_append] at hterm
    rcases hterm with hwhole | hfraction
    · obtain ⟨hmem, hle⟩ := mem_counted hwhole
      have hlarge : nanosPerSecond ≤ term.unit.1 := by
        simpa only [decide_eq_true_eq] using (List.mem_filter.mp hmem).2
      refine ⟨?_, fun hless ↦ absurd hless (Nat.not_lt.mpr hlarge)⟩
      exact Nat.lt_of_le_of_lt hle
        (Nat.lt_of_lt_of_le duration.bounded (Nat.mul_le_mul_left _ hlarge))
    · have hless := Nat.lt_of_le_of_lt (mem_counted hfraction).2 (leftOver_wholeUnits_lt _)
      refine ⟨?_, fun _ ↦ hless⟩
      exact Nat.lt_of_lt_of_le (Nat.lt_trans hless (by decide))
        (Nat.le_mul_of_pos_right _ (pos_of_mem_writtenUnits _ hunit))
  exact ⟨unit, {
    named := hname
    letters := List.all_eq_true.mp hletters
    nonempty := hnonempty
    length := hlength
    count := Nat.lt_of_mul_lt_mul_right hcount
    small := hlength ▸ hsmall }⟩

end Terms

/-! ### Durations -/

/-- The written form of a duration reads back. -/
theorem parseTrimmed_format (duration : Duration) :
    parseTrimmed (format duration) = .ok duration := by
  by_cases hzero : duration.nanos = 0
  · obtain ⟨nanos, hbounded⟩ := duration
    obtain rfl : nanos = 0 := hzero
    show parseTrimmed (format .zero) = .ok .zero
    decide
  · have hsum : ((counted duration.nanos writtenUnits).map Term.nanos).sum = duration.nanos := by
      have htotal := sum_counted duration.nanos writtenUnits
      rwa [leftOver_writtenUnits, Nat.add_zero] at htotal
    have hterms : ∀ term ∈ counted duration.nanos writtenUnits, ∃ unit, term.Readable unit :=
      fun term hterm ↦ readable_of_mem_counted hterm
    have hsome : counted duration.nanos writtenUnits ≠ [] := by
      intro hnone
      rw [hnone] at hsum
      exact hzero hsum.symm
    have hformat : format duration =
        String.intercalate " " ((counted duration.nanos writtenUnits).map Term.text) := by
      rw [format, if_neg (by simpa using hzero), terms_eq_counted]
    have hframed := framed_terms hterms hsome
    rw [← hformat] at hframed
    rw [parseTrimmed, hframed.trim_eq, parse, if_neg, hformat,
      run_terms hterms hsome none (by rw [hsum]; exact (Nat.zero_add _).symm ▸ duration.bounded)]
    · simp only [hsum, Option.getD_none, Duration.zero, Nat.zero_add]
    · -- A zero alone does not end in a letter.
      intro hdigit
      obtain ⟨letter, hletter, hunit⟩ := hframed.last
      rw [beq_iff_eq.mp hdigit] at hletter
      obtain rfl : '0' = letter := Option.some.inj hletter
      exact absurd hunit (by decide)

example : format (Duration.ofSeconds 90) = "1m 30s" := by decide

/-- A duration in a settings value reads back. -/
theorem decode_encode (duration : Duration) : decode (encode duration) = .ok duration := by
  rw [encode, decode, parseTrimmed_format]

/-- A duration that may be absent reads back, too. -/
theorem asOption_decode_ofOption_encode (duration? : Option Duration) :
    Json.asOption decode (Json.ofOption encode duration?) = .ok duration? := by
  cases duration? with
  | none => rfl
  | some duration =>
    show (decode (encode duration)).map some = .ok (some duration)
    rw [decode_encode]
    rfl

end ResourceLookup.HumanDuration
