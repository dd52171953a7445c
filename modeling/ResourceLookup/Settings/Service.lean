import ResourceLookup.Error
import ResourceLookup.Event
import ResourceLookup.Settings.Client

/-!
# Settings of a service

The base address of a service is the first text that is not blank under a list of keys, the one that
belongs there first and older ones behind it. `resolveBaseUri` finds it and checks that it is an
absolute web address with a host (`validateBaseUri`); the check of the first text found decides,
whatever stands under later keys. An address from any but the first key is reported.
`ServiceSettings.load` adds the settings of the client.

Here it is proved that the check passes web addresses with a host and nothing else
(`validateBaseUri_eq_ok_iff`), and that keys without an address are passed over
(`firstBaseUri?_append`).
-/

set_option autoImplicit false
set_option relaxedAutoImplicit false

namespace ResourceLookup

/-- A base address and the key under which it was found. -/
structure ResolvedBaseUri where
  uri : String
  sourceKey : String
  deriving DecidableEq

/-- The keys under which the base address of a service is looked for. -/
def defaultBaseUriKeys (service : String) : List String :=
  [ClientSettings.serviceSection service ++ ".base_uri", "services." ++ service ++ ".base_uri",
    service ++ ".base_uri"]

/-- Why an address cannot be a base address, if it cannot. -/
def baseUriFault? (uri : String) : Option BaseUriFault :=
  match Url.parse uri with
  | .error fault => some (.malformed fault)
  | .ok address =>
    if address.scheme = "http".toList || address.scheme = "https".toList then
      if address.host.isSome then none else some .missingHost
    else some (.unsupportedScheme (String.ofList address.scheme))

/-- Whether an address is an absolute web address with a host. -/
def validateBaseUri (service key uri : String) : Except ConfigurationError Unit :=
  match baseUriFault? uri with
  | none => .ok ()
  | some fault => .error (.invalidBaseUri service uri key fault.message)

/-- The text under a key without white space around it, if it is a text and not blank. -/
def baseUriAt? (config : Json) (key : String) : Option String :=
  match Tree.find? config key with
  | some (.string text) => if Text.isBlank text then none else some (Text.trim text)
  | _ => none

/-- The first key with an address under it, with the address and the number of keys before it. -/
def firstBaseUri? (config : Json) (position : Nat) : List String → Option (Nat × String × String)
  | [] => none
  | key :: rest =>
    match baseUriAt? config key with
    | some uri => some (position, key, uri)
    | none => firstBaseUri? config (position + 1) rest

/-- The base address of a service, and what is reported on the way. -/
def resolveBaseUri (config : Json) (service : String) (keys : List String) :
    Except ConfigurationError ResolvedBaseUri × List Event :=
  match firstBaseUri? config 0 keys with
  | none => (.error (.missingBaseUri service keys), [])
  | some (position, key, uri) =>
    match validateBaseUri service key uri with
    | .error error => (.error error, [])
    | .ok () =>
      (.ok ⟨Text.trimEnd '/' uri, key⟩,
        if position = 0 then [] else [.deprecatedBaseUriKey])

/-- Everything that is needed to build the client of a service. -/
structure ServiceSettings where
  service : String
  baseUri : ResolvedBaseUri
  client : ClientSettings

namespace ServiceSettings

/-- The settings of a service with its base address looked for under the given keys, and what is
reported on the way. -/
def loadWithKeys (config : Json) (service : String) (keys : List String) :
    Except ConfigurationError ServiceSettings × List Event :=
  match resolveBaseUri config service keys with
  | (.error error, events) => (.error error, events)
  | (.ok baseUri, events) =>
    match ClientSettings.ofConfig config service with
    | .error mismatch => (.error (.invalidConfig mismatch.message), events)
    | .ok client => (.ok ⟨service, baseUri, client⟩, events ++ [.settingsLoaded])

/-- The settings of a service, and what is reported on the way. -/
def load (config : Json) (service : String) :
    Except ConfigurationError ServiceSettings × List Event :=
  loadWithKeys config service (defaultBaseUriKeys service)

end ServiceSettings

/-! ### What passes the check, and what is passed over -/

/-- The text is an absolute address of the web with a host. -/
def IsWebAddress (uri : String) : Prop :=
  ∃ address, Url.parse uri = .ok address ∧
    (address.scheme = "http".toList ∨ address.scheme = "https".toList) ∧ address.host.isSome = true

theorem baseUriFault?_eq_none_iff {uri : String} : baseUriFault? uri = none ↔ IsWebAddress uri := by
  unfold baseUriFault? IsWebAddress
  cases Url.parse uri with
  | error fault => simp
  | ok address =>
    simp only [Bool.or_eq_true, decide_eq_true_eq, Except.ok.injEq, exists_eq_left']
    split
    · next hscheme =>
      rw [and_iff_right hscheme]
      cases address.host <;> simp
    · next hscheme => exact ⟨fun hnone ↦ (by cases hnone), fun hweb ↦ absurd hweb.1 hscheme⟩

/-- The check passes absolute addresses of the web with a host. -/
theorem validateBaseUri_eq_ok_iff {service key uri : String} :
    validateBaseUri service key uri = .ok () ↔ IsWebAddress uri := by
  rw [← baseUriFault?_eq_none_iff, validateBaseUri]
  cases baseUriFault? uri with
  | none => simp
  | some fault => simp

section Passing

variable {config : Json}

/-- Keys without an address are passed over, and counted. -/
theorem firstBaseUri?_append {before : List String}
    (hbefore : ∀ key ∈ before, baseUriAt? config key = none) (position : Nat)
    (rest : List String) :
    firstBaseUri? config position (before ++ rest) =
      firstBaseUri? config (position + before.length) rest := by
  induction before generalizing position with
  | nil => rfl
  | cons key before ih =>
    have hlater := ih (fun other hother ↦ hbefore other (List.mem_cons_of_mem key hother))
      (position + 1)
    rw [List.cons_append, firstBaseUri?, hbefore key List.mem_cons_self, List.length_cons,
      Nat.add_comm before.length, ← Nat.add_assoc]
    exact hlater

theorem firstBaseUri?_eq_none {keys : List String}
    (hkeys : ∀ key ∈ keys, baseUriAt? config key = none) (position : Nat) :
    firstBaseUri? config position keys = none := by
  have hpassed := firstBaseUri?_append hkeys position []
  rwa [List.append_nil] at hpassed

end Passing

end ResourceLookup
