import ResourceLookup.Proofs.TextEnds
import ResourceLookup.Settings.Service

/-!
# Which key decides the base address

A key holds a text if a text stands under it that is not blank (`HoldsText`); nothing else counts
that may stand there. The first key that holds one (`FirstText`) decides, for better or worse:
`resolveBaseUri_decided_by_first` says what is resolved in terms of this key, its text, and whether
other keys come before it.

Keys that hold no text are those that the search passes over (`baseUriAt?_eq_none_iff`), and it ends
at the first one that does (`firstBaseUri?_of_firstText`).
-/

set_option autoImplicit false
set_option relaxedAutoImplicit false

namespace ResourceLookup

/-! ### Slashes at the end -/

/-- The text `stripped` is `text` without the slashes at its end. -/
structure StripsSlashes (text stripped : String) : Prop where
  slashes : ∃ count, text.toList = stripped.toList ++ List.replicate count '/'
  last : stripped.toList.getLast? ≠ some '/'

theorem stripsSlashes_trimEnd (text : String) : StripsSlashes text (Text.trimEnd '/' text) where
  slashes := by
    rw [Text.toList_trimEnd]
    exact Text.exists_eq_rdropWhile_append_replicate '/' text.toList
  last := by
    rw [Text.toList_trimEnd]
    intro hlast
    have hne : text.toList.rdropWhile (· == '/') ≠ [] := by
      intro hnil
      rw [hnil] at hlast
      cases hlast
    rw [List.getLast?_eq_some_getLast hne] at hlast
    exact List.rdropWhile_last_not _ _ hne (beq_iff_eq.mpr (Option.some.inj hlast))

/-! ### Keys that hold a text -/

/-- A text that is not blank stands in the configuration under a key. -/
def HoldsText (config : Json) (key text : String) : Prop :=
  Tree.find? config key = some (.string text) ∧ Text.isBlank text = false

/-- Of the keys, `key` is the first one that holds a text. -/
structure FirstText (config : Json) (keys before : List String) (key : String)
    (after : List String) (text : String) : Prop where
  split : keys = before ++ key :: after
  skipped : ∀ other ∈ before, ∀ text, ¬ HoldsText config other text
  holds : HoldsText config key text

variable {config : Json} {key text : String} {keys before after : List String}

theorem baseUriAt?_of_holdsText (hholds : HoldsText config key text) :
    baseUriAt? config key = some (Text.trim text) := by
  rw [baseUriAt?, hholds.1]
  dsimp only
  rw [hholds.2]
  rfl

/-- Exactly the keys that hold no text have no address under them. -/
theorem baseUriAt?_eq_none_iff :
    baseUriAt? config key = none ↔ ∀ text, ¬ HoldsText config key text := by
  constructor
  · intro hnone text hholds
    cases (baseUriAt?_of_holdsText hholds).symm.trans hnone
  · intro hnone
    unfold baseUriAt?
    split
    · next text hfound =>
      split
      · rfl
      · next hfull => exact absurd ⟨hfound, Bool.eq_false_iff.mpr hfull⟩ (hnone text)
    · rfl

/-- The search for an address ends at the first key that holds a text. -/
theorem firstBaseUri?_of_firstText (hfirst : FirstText config keys before key after text) :
    firstBaseUri? config 0 keys = some (before.length, key, Text.trim text) := by
  have hpassed : ∀ other ∈ before, baseUriAt? config other = none := fun other hother ↦
    baseUriAt?_eq_none_iff.mpr (hfirst.skipped other hother)
  rw [hfirst.split, firstBaseUri?_append hpassed, firstBaseUri?,
    baseUriAt?_of_holdsText hfirst.holds, Nat.zero_add]

/-- What the text of the first key makes of the base address: its check decides. -/
theorem resolveBaseUri_of_firstText (service : String)
    (hfirst : FirstText config keys before key after text) :
    resolveBaseUri config service keys =
      match validateBaseUri service key (Text.trim text) with
      | .error error => (.error error, [])
      | .ok () =>
        (.ok ⟨Text.trimEnd '/' (Text.trim text), key⟩,
          if before.length = 0 then [] else [.deprecatedBaseUriKey]) := by
  cases hcheck : validateBaseUri service key (Text.trim text) with
  | error error =>
    rw [resolveBaseUri, firstBaseUri?_of_firstText hfirst]
    dsimp only
    rw [hcheck]
  | ok _ =>
    rw [resolveBaseUri, firstBaseUri?_of_firstText hfirst]
    dsimp only
    rw [hcheck]

/-- The base address is decided by the first key that holds a text. If there is none, all keys are
listed as missing. If its text without white space around it is no absolute address of the web with
a host, that is the error, with this key, and nothing is reported. Otherwise the address is that
text without slashes at its end, found under this key, and it is reported exactly if there are keys
before this one. Whatever stands under other keys makes no difference to the result. -/
theorem resolveBaseUri_decided_by_first (config : Json) (service : String) (keys : List String) :
    ((∀ key ∈ keys, ∀ text, ¬ HoldsText config key text) →
        resolveBaseUri config service keys = (.error (.missingBaseUri service keys), [])) ∧
      ∀ before key after text, FirstText config keys before key after text →
        (¬ IsWebAddress (Text.trim text) → ∃ fault,
          baseUriFault? (Text.trim text) = some fault ∧
            resolveBaseUri config service keys =
              (.error (.invalidBaseUri service (Text.trim text) key fault.message), [])) ∧
        (IsWebAddress (Text.trim text) → ∃ uri, StripsSlashes (Text.trim text) uri ∧
          resolveBaseUri config service keys =
            (.ok ⟨uri, key⟩, if before = [] then [] else [.deprecatedBaseUriKey])) ∧
        ∀ other others earlier later, FirstText other others earlier key later text →
          (resolveBaseUri other service others).1 = (resolveBaseUri config service keys).1 := by
  refine ⟨fun hnone ↦ ?_, fun before key after text hfirst ↦ ⟨fun hfault ↦ ?_, fun hweb ↦ ?_,
    fun other others earlier later hother ↦ ?_⟩⟩
  · have hkeys : ∀ key ∈ keys, baseUriAt? config key = none := fun key hkey ↦
      baseUriAt?_eq_none_iff.mpr (hnone key hkey)
    rw [resolveBaseUri, firstBaseUri?_eq_none hkeys]
  · obtain ⟨fault, hsome⟩ := Option.ne_none_iff_exists'.mp
      (mt baseUriFault?_eq_none_iff.mp hfault)
    refine ⟨fault, hsome, ?_⟩
    rw [resolveBaseUri_of_firstText service hfirst, validateBaseUri, hsome]
  · refine ⟨_, stripsSlashes_trimEnd (Text.trim text), ?_⟩
    rw [resolveBaseUri_of_firstText service hfirst, validateBaseUri_eq_ok_iff.mpr hweb]
    simp only [List.length_eq_zero_iff]
  · rw [resolveBaseUri_of_firstText service hother, resolveBaseUri_of_firstText service hfirst]
    cases validateBaseUri service key (Text.trim text) <;> rfl

/-! ### Older keys -/

/-- A configuration with null under the key that belongs first, a text under the key behind it, and
an address under the last one. -/
def olderKeys (middle : String) : Json :=
  .object
    [("catalog", .object [("base_uri", .string " http://[::1]:8080// ")]),
     ("remote_repository", .object
      [("services", .object [("catalog", .object [("base_uri", .null)])])]),
     ("services", .object [("catalog", .object [("base_uri", .string middle)])])]

/-- A blank text in the middle is skipped, an address that is none of the web is not. -/
theorem resolveBaseUri_decided_by_first_older :
    (∃ uri, StripsSlashes "http://[::1]:8080//" uri ∧
        resolveBaseUri (olderKeys "  ") "catalog" (defaultBaseUriKeys "catalog") =
          (.ok ⟨uri, "catalog.base_uri"⟩, [.deprecatedBaseUriKey])) ∧
      ∃ fault, resolveBaseUri (olderKeys "mailto:ops") "catalog" (defaultBaseUriKeys "catalog") =
        (.error (.invalidBaseUri "catalog" "mailto:ops" "services.catalog.base_uri" fault),
          []) := by
  have hskipped : ∀ key ∈ ["remote_repository.services.catalog.base_uri",
      "services.catalog.base_uri"], baseUriAt? (olderKeys "  ") key = none := by decide
  have hlast : FirstText (olderKeys "  ") (defaultBaseUriKeys "catalog")
      ["remote_repository.services.catalog.base_uri", "services.catalog.base_uri"]
      "catalog.base_uri" [] " http://[::1]:8080// " :=
    ⟨rfl, fun key hkey ↦ baseUriAt?_eq_none_iff.mp (hskipped key hkey), rfl, rfl⟩
  have hnull : ∀ key ∈ ["remote_repository.services.catalog.base_uri"],
      baseUriAt? (olderKeys "mailto:ops") key = none := by decide
  have hmiddle : FirstText (olderKeys "mailto:ops") (defaultBaseUriKeys "catalog")
      ["remote_repository.services.catalog.base_uri"] "services.catalog.base_uri"
      ["catalog.base_uri"] "mailto:ops" :=
    ⟨rfl, fun key hkey ↦ baseUriAt?_eq_none_iff.mp (hnull key hkey), rfl, rfl⟩
  obtain ⟨-, hfound⟩ := resolveBaseUri_decided_by_first (olderKeys "  ") "catalog"
    (defaultBaseUriKeys "catalog")
  obtain ⟨-, hrefused⟩ := resolveBaseUri_decided_by_first (olderKeys "mailto:ops") "catalog"
    (defaultBaseUriKeys "catalog")
  have hweb : IsWebAddress (Text.trim " http://[::1]:8080// ") := ⟨_, rfl, .inl rfl, rfl⟩
  have hother : ¬ IsWebAddress (Text.trim "mailto:ops") := by
    rw [← baseUriFault?_eq_none_iff]
    decide
  obtain ⟨fault, -, hresult⟩ := (hrefused _ _ _ _ hmiddle).1 hother
  exact ⟨(hfound _ _ _ _ hlast).2.1 hweb, fault.message, hresult⟩

end ResourceLookup
