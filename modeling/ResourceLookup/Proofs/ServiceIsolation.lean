import ResourceLookup.Proofs.SettingParts
import ResourceLookup.Settings.Service

/-!
# Services keep to their own sections

The settings of a service come from the section that all services share and from its own section,
which stands below the shared one next to those of the other services. What stands in the section of
another service does not matter to them: every path that is followed for one service parts from the
section of the other (`Tree.Parted`), and among the members of the shared section the one with the
sections of the services is unknown to the settings.

What a service gives for itself decides. A value that is no section hides what the shared section
holds in its place, whatever that is; where the service gives nothing, the shared value stays, and
the standard where there is none (`ServiceSettings.load_of_sections`). Sections are laid over each
other member by member, other values as a whole: a record that the shared section gives as a list is
replaced by a section for it, with everything in the list (`ServiceSettings.load_listedRetries`).
-/

set_option autoImplicit false
set_option relaxedAutoImplicit false

namespace ResourceLookup

/-! ### Paths -/

namespace Tree

open Json

/-- A text that is a single name of a path. -/
def IsName (text : String) : Prop :=
  text ≠ "" ∧ '.' ∉ text.toList

instance (text : String) : Decidable (IsName text) :=
  inferInstanceAs (Decidable (_ ∧ _))

section Paths

variable {name path : String} {names rest : List String} {config : Json}

theorem pathNames_of_isName (hname : IsName name) : pathNames name = [name] := by
  unfold pathNames
  rw [Text.splitWhere_eq_singleton, List.map_singleton, String.ofList_toList]
  intro character hcharacter
  exact beq_false_of_ne fun hpoint ↦ hname.2 (hpoint ▸ hcharacter)

/-- A point parts the names of a path. -/
theorem pathNames_append (path rest : String) :
    pathNames (path ++ ("." ++ rest)) = pathNames path ++ pathNames rest := by
  have htext : (path ++ ("." ++ rest)).toList = path.toList ++ '.' :: rest.toList := by
    rw [String.toList_append, String.toList_append]
    rfl
  have hsplit := @Text.splitWhere_append_cons Char (· == '.') '.' (beq_self_eq_true '.')
    path.toList rest.toList
  unfold pathNames
  rw [htext, hsplit, List.map_append]

theorem find?_of_isLeaf (hleaf : IsLeaf config) : find? config path = none := by
  cases config with
  | object members => exact absurd rfl (hleaf members)
  | _ => rfl

theorem find?_eq_bind (hpath : pathNames path = name :: rest) (hname : name ≠ "") :
    find? config path = (some config).bind (follow? (name :: rest)) := by
  rw [← hpath]
  rcases isLeaf_or_object config with hleaf | ⟨members, rfl⟩
  · rw [find?_of_isLeaf hleaf, hpath, bind_follow?_cons hname, below?, membersOf_of_isLeaf hleaf]
    rfl
  · rfl

theorem find?_of_isName (hname : IsName name) : find? config name = below? name (some config) := by
  rw [find?_eq_bind (pathNames_of_isName hname) hname.1, bind_follow?_cons hname.1]
  rcases below? name (some config) with _ | below <;> rfl

/-- What is found under a path does not change with what stands under names that part from it. -/
theorem find?_changed (hparted : Parted names (pathNames path)) (edit? : Option Json) :
    find? (changed edit? names config) path = find? config path := by
  have hfollow := @bind_follow?_edited edit? (some config) _ _ hparted
  generalize hpath : pathNames path = others at hparted hfollow
  cases hparted with
  | here hother hdifferent rest behind =>
    rw [find?_eq_bind hpath hother, find?_eq_bind hpath hother, some_changed]
    exact hfollow
  | there hname hparted =>
    rw [find?_eq_bind hpath hname, find?_eq_bind hpath hname, some_changed]
    exact hfollow

theorem Parted.append {names others : List String} (hparted : Parted names others)
    (more : List String) : Parted names (others ++ more) := by
  induction hparted with
  | here hother hdifferent rest behind => exact .here hother hdifferent rest (behind ++ more)
  | there hname hparted ih => exact .there hname ih

theorem Ascending.find? (hconfig : Ascending (some config)) (path : String) :
    Ascending (find? config path) := by
  rcases isLeaf_or_object config with hleaf | ⟨members, rfl⟩
  · rw [find?_of_isLeaf hleaf]
    intro names members hplace
    exact absurd ((placeAt_none names).symm.trans hplace) (by simp)
  · exact hconfig.bind_follow? (pathNames path)

theorem sectionAt_eq_membersOf : sectionAt config path = membersOf (find? config path) := by
  unfold sectionAt membersOf
  rcases find? config path with _ | value
  · rfl
  · cases value <;> rfl

theorem Ascending.sectionAt (hconfig : Ascending (some config)) (path : String) :
    Ascending (some (.object (sectionAt config path))) := by
  rw [sectionAt_eq_membersOf]
  exact (hconfig.find? path).section

theorem exists_object_changed (edit? : Option Json) (name : String) (rest : List String)
    (members : List (String × Json)) :
    ∃ after, changed edit? (name :: rest) (.object members) = .object after := by
  unfold changed edited
  rcases edited edit? rest (below? name (some (.object members))) with _ | below
  · exact ⟨_, rfl⟩
  · exact ⟨_, rfl⟩

end Paths

end Tree

open ResourceLookup.Tree

/-! ### Two configurations -/

namespace ServiceSettings

variable {service : String} {first second : Json}

/-- The base address depends on nothing but what is found under its keys. -/
theorem resolveBaseUri_congr {keys : List String}
    (hkeys : ∀ key ∈ keys, find? first key = find? second key) :
    resolveBaseUri first service keys = resolveBaseUri second service keys := by
  have hfirst : ∀ position, firstBaseUri? first position keys =
      firstBaseUri? second position keys := by
    induction keys with
    | nil => exact fun _ ↦ rfl
    | cons key rest ih =>
      intro position
      have hkey : baseUriAt? first key = baseUriAt? second key := by
        rw [baseUriAt?, hkeys key List.mem_cons_self, baseUriAt?]
      rw [firstBaseUri?, hkey, ih fun other hother ↦ hkeys other (List.mem_cons_of_mem key hother)]
      rfl
  rw [resolveBaseUri, hfirst 0, resolveBaseUri]

theorem firstBaseUri?_of_isLeaf {config : Json} (hleaf : IsLeaf config) (position : Nat)
    (keys : List String) : firstBaseUri? config position keys = none := by
  refine firstBaseUri?_eq_none (fun key _ ↦ ?_) position
  rw [baseUriAt?, find?_of_isLeaf hleaf]

/-- Assumes: two configurations with the same under every key of the base address of a service and,
where the second is a section, with the same settings of its client. Then they make the same
settings of the service. -/
theorem load_congr (hkeys : ∀ key ∈ defaultBaseUriKeys service, find? first key = find? second key)
    (hclient : ∀ members, second = .object members →
      ClientSettings.ofConfig first service = ClientSettings.ofConfig second service) :
    load first service = load second service := by
  rw [load, loadWithKeys, resolveBaseUri_congr hkeys, load, loadWithKeys]
  rcases isLeaf_or_object second with hleaf | ⟨members, hmembers⟩
  · rw [resolveBaseUri, firstBaseUri?_of_isLeaf hleaf]
  · rw [hclient members hmembers]

end ServiceSettings

/-! ### Changes of the shared section -/

namespace ClientSettings

variable {service : String} {config : Json} {names : List String} {edit? : Option Json}

theorem isName_sharedSection : IsName sharedSection := by
  decide

theorem isName_services : IsName "services" := by
  decide

theorem isName_baseUri : IsName "base_uri" := by
  decide

theorem pathNames_serviceSection (hservice : IsName service) :
    pathNames (serviceSection service) = [sharedSection, "services", service] := by
  have hpath : serviceSection service =
      sharedSection ++ ("." ++ ("services" ++ ("." ++ service))) := by
    unfold serviceSection
    rw [String.append_assoc]
    rfl
  rw [hpath, pathNames_append, pathNames_append, pathNames_of_isName isName_sharedSection,
    pathNames_of_isName isName_services, pathNames_of_isName hservice]
  rfl

/-- Names below the shared section that part from the section of a service and from the base
address part from every path that is followed for the service. -/
theorem parted_of_mem_keys (hservice : IsName service)
    (hsection : Parted names ["services", service]) (hbase : Parted names ["base_uri"])
    {key : String} (hkey : key ∈ defaultBaseUriKeys service) :
    Parted (sharedSection :: names) (pathNames key) := by
  have hshared := isName_sharedSection.1
  simp only [defaultBaseUriKeys, List.mem_cons, List.not_mem_nil, or_false] at hkey
  rcases hkey with rfl | rfl | rfl
  · have hpath : pathNames (serviceSection service ++ ".base_uri") =
        [sharedSection, "services", service] ++ ["base_uri"] := by
      rw [← pathNames_serviceSection hservice, ← pathNames_of_isName isName_baseUri]
      exact pathNames_append (serviceSection service) "base_uri"
    rw [hpath]
    exact (Parted.there hshared hsection).append ["base_uri"]
  · have hpath : pathNames ("services." ++ service ++ ".base_uri") =
        ["services", service, "base_uri"] := by
      have hparts : "services." ++ service ++ ".base_uri" =
          "services" ++ ("." ++ (service ++ ("." ++ "base_uri"))) := by
        rw [String.append_assoc]
        rfl
      rw [hparts, pathNames_append, pathNames_append, pathNames_of_isName isName_services,
        pathNames_of_isName hservice, pathNames_of_isName isName_baseUri]
      rfl
    rw [hpath]
    exact .here isName_services.1 (by decide) _ _
  · have hpath : pathNames (service ++ ".base_uri") = [service, "base_uri"] := by
      have happend := pathNames_append service "base_uri"
      rw [pathNames_of_isName hservice, pathNames_of_isName isName_baseUri] at happend
      exact happend
    rw [hpath]
    by_cases hsame : sharedSection = service
    · rw [← hsame]
      exact .there hshared hbase
    · exact .here hservice.1 hsame _ _

theorem mergedSection_eq (config : Json) (service : String) :
    mergedSection config service =
      overlayMembers (membersOf (below? sharedSection (some config)))
        (sectionAt config (serviceSection service)) := by
  unfold mergedSection merge
  rw [@sectionAt_eq_membersOf sharedSection, find?_of_isName isName_sharedSection]

end ClientSettings

namespace ServiceSettings

open ClientSettings (sharedSection serviceSection memberNames)

variable {service other : String} {config : Json} {names : List String}

/-- Assumes: names below the shared section that part from the section of a service and from the
base address, and what is put there leaves the settings of the client as they are. Then it leaves
the settings of the service as they are. -/
theorem load_changed (hservice : IsName service) (hsection : Parted names ["services", service])
    (hbase : Parted names ["base_uri"]) (edit? : Option Json)
    (hdecode : ClientSettings.decode (.object (overlayMembers
        (membersOf (edited edit? names (below? sharedSection (some config))))
        (sectionAt config (serviceSection service)))) =
      ClientSettings.decode (.object (overlayMembers
        (membersOf (below? sharedSection (some config)))
        (sectionAt config (serviceSection service))))) :
    load (changed edit? (sharedSection :: names) config) service = load config service := by
  refine load_congr (fun key hkey ↦ find?_changed
    (ClientSettings.parted_of_mem_keys hservice hsection hbase hkey) edit?) ?_
  rintro members rfl
  obtain ⟨after, hafter⟩ := exists_object_changed edit? sharedSection names members
  have hown : sectionAt (.object after) (serviceSection service) =
      sectionAt (.object members) (serviceSection service) := by
    rw [← hafter, sectionAt_eq_membersOf, find?_changed, sectionAt_eq_membersOf]
    rw [ClientSettings.pathNames_serviceSection hservice]
    exact .there ClientSettings.isName_sharedSection.1 hsection
  have hshared : below? sharedSection (some (.object after)) =
      edited edit? names (below? sharedSection (some (.object members))) := by
    rw [← hafter, some_changed, below?_edited, if_pos rfl]
  rw [hafter]
  show ClientSettings.decode (.object (ClientSettings.mergedSection (.object after) service)) =
    ClientSettings.decode (.object (ClientSettings.mergedSection (.object members) service))
  rw [ClientSettings.mergedSection_eq, ClientSettings.mergedSection_eq, hown, hshared]
  exact hdecode

/-- Nothing that stands in the section of another service matters. -/
theorem load_changed_service (hconfig : Ascending (some config)) (hservice : IsName service)
    (hdistinct : service ≠ other) (edit? : Option Json) :
    load (changed edit? [sharedSection, "services", other] config) service =
      load config service := by
  have hshared := hconfig.below? sharedSection
  have hown := hconfig.sectionAt (serviceSection service) [] _ rfl
  refine load_changed hservice (.there (by decide) (.here hservice.1 (Ne.symm hdistinct) _ _))
    (.here (by decide) (by decide) _ _) edit? ?_
  refine ClientSettings.decode_congr (pairwise_overlayMembers (hshared.edited _ _))
    (pairwise_overlayMembers hshared.members) fun name hname ↦ ?_
  have hservices : "services" ≠ name := by
    rintro rfl
    exact absurd hname (by decide)
  rw [lookup_overlayMembers hown, lookup_overlayMembers hown]
  show overlaid (below? name (edited edit? ["services", other] _)) _ = overlaid (below? name _) _
  rw [below?_edited, if_neg hservices]

/-- What the shared section holds under a value that a service gives for itself does not matter. -/
theorem load_changed_shared {part : Part ClientSettings} {value : Json}
    (hconfig : Ascending (some config)) (hservice : IsName service)
    (hpart : ClientSettings.IsPart part) (hvalue : IsLeaf value)
    (hplace : placeAt part.names (some (.object (sectionAt config (serviceSection service)))) =
      .found value) (edit? : Option Json) :
    load (changed edit? (sharedSection :: part.names) config) service = load config service := by
  obtain ⟨name, hname, rest, hnames⟩ := ClientSettings.names_of_isPart hpart
  have hservices : name ≠ "services" := by
    rintro rfl
    exact absurd hname (by decide)
  have hbase : name ≠ "base_uri" := by
    rintro rfl
    exact absurd hname (by decide)
  have hown := hconfig.sectionAt (serviceSection service)
  have hoverlaid := overlaid_edited (hconfig.below? sharedSection) hown hvalue hplace edit?
  rw [overlaid_object (hown [] _ rfl), overlaid_object (hown [] _ rfl)] at hoverlaid
  refine load_changed hservice ?_ ?_ edit? (congrArg ClientSettings.decode
    (Option.some.inj hoverlaid))
  · rw [hnames]
    exact .here ClientSettings.isName_services.1 hservices _ _
  · rw [hnames]
    exact .here ClientSettings.isName_baseUri.1 hbase _ _

/-! ### What a service gives for itself -/

/-- Settings that are loaded have the part as it is read from the value: one that cannot be read so
makes the loading fail. -/
def Decides (config : Json) (service : String) (part : Part ClientSettings) (value : Json) : Prop :=
  ∀ settings, (load config service).1 = .ok settings →
    part.read value = .ok (part.get settings.client)

/-- Settings that are loaded have the part as it is where nothing is configured. -/
def KeepsStandard (config : Json) (service : String) (part : Part ClientSettings) : Prop :=
  ∀ settings, (load config service).1 = .ok settings →
    part.get settings.client = part.get ClientSettings.standard

theorem decode_of_load {settings : ServiceSettings}
    (hload : (load config service).1 = .ok settings) :
    ClientSettings.decode (.object (ClientSettings.mergedSection config service)) =
      .ok settings.client := by
  unfold load loadWithKeys at hload
  split at hload
  · exact absurd hload (by simp)
  · split at hload
    · exact absurd hload (by simp)
    · next client hclient =>
      obtain rfl := Except.ok.inj hload
      unfold ClientSettings.ofConfig at hclient
      split at hclient
      · exact hclient
      · exact absurd hclient (by simp)

theorem some_mergedSection (hconfig : Ascending (some config)) (service : String) :
    some (.object (ClientSettings.mergedSection config service)) =
      overlaid (some (.object (sectionAt config sharedSection)))
        (some (.object (sectionAt config (serviceSection service)))) :=
  (overlaid_object (hconfig.sectionAt (serviceSection service) [] _ rfl)
    (some (.object (sectionAt config sharedSection)))).symm

/-- Assumes: ascending sections and a part. What is met under the names of the part once the section
of the service is laid over the shared one tells the part of loaded settings. -/
theorem readBy_of_load {part : Part ClientSettings} (hconfig : Ascending (some config))
    (hpart : ClientSettings.IsPart part) :
    let merged := overlaid (some (.object (sectionAt config sharedSection)))
      (some (.object (sectionAt config (serviceSection service))))
    (∀ value, placeAt part.names merged = .found value → Decides config service part value) ∧
      (placeAt part.names merged = .absent → KeepsStandard config service part) := by
  intro merged
  have hmerged : merged = some (.object (ClientSettings.mergedSection config service)) :=
    (some_mergedSection hconfig service).symm
  have hascending : Ascending merged := by
    exact (hconfig.sectionAt sharedSection).overlaid (hconfig.sectionAt (serviceSection service))
  have hread := ClientSettings.readBy_of_isPart hpart
  rw [hmerged] at hascending ⊢
  exact ⟨fun value hplace settings hload ↦
      hread.of_found hascending (decode_of_load hload) hplace,
    fun hplace settings hload ↦ hread.of_absent hascending (decode_of_load hload) hplace⟩

/-- The settings of a service and the sections of a configuration, canonical as configurations are
stored.

* What stands in the section of another service does not matter: put in, replaced or taken out, it
  leaves what is loaded, the error and the events as they are.
* A value that is no section and stands under the names of a part in the section of the service
  decides the part, and what the shared section holds under these names does not matter.
* Where the section of the service has nothing, the value in the shared section decides, and the
  part is standard if there is nothing either, or if the names lead through something in the shared
  section that is no section itself and is replaced by one. -/
theorem load_of_sections (written : Json) {service other : String} (hservice : IsName service)
    (hdistinct : service ≠ other) :
    let config := written.canonical
    (∀ edit?, load (changed edit? [sharedSection, "services", other] config) service =
        load config service) ∧
      ∀ part, ClientSettings.IsPart part →
        let shared := some (.object (sectionAt config sharedSection))
        let own := some (.object (sectionAt config (serviceSection service)))
        (∀ value, IsLeaf value → placeAt part.names own = .found value →
            (∀ edit?, load (changed edit? (sharedSection :: part.names) config) service =
                load config service) ∧
              Decides config service part value) ∧
          (placeAt part.names own = .absent →
            (∀ value, placeAt part.names shared = .found value →
                Decides config service part value) ∧
              (placeAt part.names shared = .absent → KeepsStandard config service part) ∧
              ∀ above value members, above <+: part.names → IsLeaf value →
                placeAt above shared = .found value → placeAt above own = .found (.object members) →
                  KeepsStandard config service part) := by
  intro config
  have hconfig : Ascending (some config) := ascending_canonical written
  refine ⟨load_changed_service hconfig hservice hdistinct, fun part hpart ↦ ?_⟩
  intro shared own
  have hown : Ascending own := hconfig.sectionAt (serviceSection service)
  obtain ⟨hfound, habsent⟩ := @readBy_of_load service config part hconfig hpart
  refine ⟨fun value hvalue hplace ↦ ⟨load_changed_shared hconfig hservice hpart hvalue hplace,
    hfound value (placeAt_overlaid_of_isLeaf hown hvalue hplace _)⟩, fun hplace ↦ ⟨?_, ?_, ?_⟩⟩
  · intro value hshared
    refine hfound value ?_
    rw [placeAt_overlaid_of_absent hown hplace (by rw [hshared]; simp)]
    exact hshared
  · intro hshared
    refine habsent ?_
    rw [placeAt_overlaid_of_absent hown hplace (by rw [hshared]; simp)]
    exact hshared
  · rintro above value members ⟨rest, hnames⟩ hvalue hshared hcovered
    refine habsent ?_
    rw [← hnames] at hplace ⊢
    rw [placeAt_overlaid_of_covered hown hvalue hshared hcovered]
    exact hplace

/-- A configuration with settings that all services share and with sections for two services. -/
def layeredConfig : Json :=
  .object
    [("remote_repository", .object
      [("max_url_length", Json.ofNat 1024), ("retry", .object [("retries", Json.ofNat 2)]),
       ("services", .object
        [("billing", .object
          [("base_uri", .string "http://[::1]:8081/"), ("retry", .string "often")]),
         ("catalog", .object
          [("base_uri", .string "http://[::1]:8080/"),
           ("retry", .object [("retries", Json.ofNat 4)])])])])]

theorem load_of_sections_layered :
    IsName "catalog" ∧ "catalog" ≠ "billing" ∧
      (∀ edit?, load (changed edit? [sharedSection, "services", "billing"] layeredConfig.canonical)
        "catalog" = load layeredConfig.canonical "catalog") ∧
      ∃ settings, (load layeredConfig.canonical "catalog").1 = .ok settings ∧
        settings.client.retry.retries = 4 ∧ settings.client.maxUrlLength = 1024 ∧
          settings.client.logRequests = false := by
  have hname : IsName "catalog" := by decide
  obtain ⟨hunchanged, hparts⟩ := load_of_sections layeredConfig hname
    (show "catalog" ≠ "billing" by decide)
  obtain ⟨settings, hload⟩ : ∃ settings, (load layeredConfig.canonical "catalog").1 =
      .ok settings := ⟨_, rfl⟩
  have hretries := ((hparts _ (.retry .retries)).1 (Json.ofNat 4) (fun _ ↦ by simp [Json.ofNat])
    rfl).2 settings hload
  have hlength := ((hparts _ .maxUrlLength).2 rfl).1 (Json.ofNat 1024) rfl settings hload
  have hlog := ((hparts _ .logRequests).2 rfl).2.1 rfl settings hload
  exact ⟨hname, by decide, hunchanged, settings, hload, (Except.ok.inj hretries).symm,
    (Except.ok.inj hlength).symm, hlog⟩

/-- A configuration whose shared section gives the settings for retries as a list, and a service
that gives a section for them. -/
def listedRetries : Json :=
  .object
    [("remote_repository", .object
      [("retry", .array [Json.ofNat 7]),
       ("services", .object
        [("catalog", .object
          [("base_uri", .string "http://[::1]:8080/"),
           ("retry", .object [("backoff", .object [("initial", .string "10ms")])])])])])]

/-- The number of retries is seven in the shared section and absent in that of the service, and the
service gets the standard number. -/
theorem load_listedRetries :
    placeAt ["retry", "retries"]
        (some (.object (sectionAt listedRetries (serviceSection "catalog")))) = .absent ∧
      (∃ settings, ClientSettings.decode (.object (sectionAt listedRetries sharedSection)) =
        .ok settings ∧ settings.retry.retries = 7) ∧
      ∃ settings, (load listedRetries "catalog").1 = .ok settings ∧
        settings.client.retry.retries = 1 :=
  ⟨rfl, ⟨_, rfl, rfl⟩, _, rfl, rfl⟩

end ServiceSettings

end ResourceLookup
