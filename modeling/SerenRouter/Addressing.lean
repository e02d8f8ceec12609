import SerenRouter.Startup
import SerenRouter.Policy.Rewriting

/-! The slugs of the catalog as models of requests, plain and with each shortcut. Slugs and
shortcuts share one string: a slug that ends in a shortcut is read as another model. -/
namespace SerenRouter
open Kernel Kernel.Json

/-- A request with a model and no other field. -/
def modelRequest (model : String) : Value := .object [("model",.string model)]

/-- A slug that ends in one of the shortcuts. -/
def Reserved (slug : String) : Prop :=
  (∃ canonical, slug = canonical ++ ":nitro") ∨ ∃ canonical, slug = canonical ++ ":floor"

/-- A model that is read as a canonical one with a preference, and that is not unknown. -/
structure Resolves {G : Type} (arithmetic : Decimal.Arithmetic) (randomness : Randomness G)
    (policy : RoutingPolicy G) (profile : RoutingProfile) (model canonical : String) (preference : Preference) :
    Prop where
  parsed : ∃ left, parseRequest (modelRequest model) = .ok (⟨canonical,preference⟩,left)
  known : ∀ endpoint left after, policy.routeForEndpoint arithmetic randomness profile endpoint (modelRequest model) ≠
    .ok ((.error .unknownModel,left),after)

/-- A slug that requests can name plainly and with each shortcut. -/
structure Addressable {G : Type} (arithmetic : Decimal.Arithmetic) (randomness : Randomness G)
    (policy : RoutingPolicy G) (profile : RoutingProfile) (slug : String) : Prop where
  plain : Resolves arithmetic randomness policy profile slug slug .default
  nitro : Resolves arithmetic randomness policy profile (slug ++ ":nitro") slug .throughput
  floor : Resolves arithmetic randomness policy profile (slug ++ ":floor") slug .price

theorem splitShortcut_nitro (slug : String) : splitShortcut (slug ++ ":nitro") = (slug,.throughput) := by
  have found : Text.stripSuffix (slug ++ ":nitro") nitroSuffix = some slug := (Text.stripSuffix_success _ _ _).mpr rfl
  simp [splitShortcut,found]

theorem splitShortcut_floor (slug : String) : splitShortcut (slug ++ ":floor") = (slug,.price) := by
  have slow : Text.stripSuffix (slug ++ ":floor") nitroSuffix = none :=
    (Text.stripSuffix_none _ _).mpr (fun rest => Text.append_ne slug rest ":floor" ":nitro" 'r' 'o' rfl rfl (by decide))
  have found : Text.stripSuffix (slug ++ ":floor") floorSuffix = some slug := (Text.stripSuffix_success _ _ _).mpr rfl
  simp [splitShortcut,slow,found]

/-- A plain slug is its own canonical model exactly when it is not reserved. -/
theorem splitShortcut_plain (slug : String) : splitShortcut slug = (slug,.default) ↔ ¬ Reserved slug := by
  constructor
  · rintro same (⟨canonical,rfl⟩ | ⟨canonical,rfl⟩)
    · rw [splitShortcut_nitro] at same
      cases congrArg Prod.snd same
    · rw [splitShortcut_floor] at same
      cases congrArg Prod.snd same
  · intro free
    have slow := (Text.stripSuffix_none slug nitroSuffix).mpr (fun rest same => free (.inl ⟨rest,same⟩))
    have dear := (Text.stripSuffix_none slug floorSuffix).mpr (fun rest same => free (.inr ⟨rest,same⟩))
    simp [splitShortcut,slow,dear]

theorem parseRequest_model (model : String) : parseRequest (modelRequest model) =
    .ok (⟨(splitShortcut model).1,(splitShortcut model).2⟩,modelRequest (splitShortcut model).1) := by
  simp [parseRequest,modelRequest,explicitPreference,sortOf,SortedMap.get_cons,Value.asStr,Value.setIndex,
    SortedMap.insert,pure,Except.pure]

section Known
variable {G : Type} (arithmetic : Decimal.Arithmetic) (randomness : Randomness G) (policy : RoutingPolicy G)
  (profile : RoutingProfile) (slug : String) (known : policy.routes (profile,slug) ≠ none)
include known

theorem resolves_iff (model : String) (preference : Preference) :
    Resolves arithmetic randomness policy profile model slug preference ↔ splitShortcut model = (slug,preference) := by
  constructor
  · rintro ⟨⟨left,parsed⟩,_⟩
    rw [parseRequest_model] at parsed
    cases parsed
    rfl
  · intro split
    refine ⟨⟨_,by rw [parseRequest_model,split]⟩,fun endpoint left after refused => ?_⟩
    have ended := (RoutingPolicy.routeForEndpoint_iff _ _ _ _ _ _ _ _).mp refused
    have read : readRequest arithmetic (modelRequest model) =
        .ok (⟨none,false,⟨slug,preference⟩⟩,modelRequest slug) := by
      simp only [readRequest,parseRequest_model,split]
      rfl
    generalize equal : (Except.error RouteRequestError.unknownModel,left) = result at ended
    cases ended with
    | unread error rejected =>
      rw [read] at rejected
      cases rejected
    | unknown reading rest readAs absent =>
      rw [read] at readAs
      cases readAs
      exact known absent
    | incompatible reading rest descriptors reaches => cases equal
    | planned reading rest descriptors listed share next chosen rng reaches compatible window chose =>
      cases chosen <;> cases equal

theorem addressable_iff : Addressable arithmetic randomness policy profile slug ↔ ¬ Reserved slug := by
  rw [← splitShortcut_plain,← resolves_iff arithmetic randomness policy profile slug known slug .default]
  constructor
  · exact Addressable.plain
  · intro plain
    exact ⟨plain,(resolves_iff arithmetic randomness policy profile slug known _ _).mpr (splitShortcut_nitro slug),
      (resolves_iff arithmetic randomness policy profile slug known _ _).mpr (splitShortcut_floor slug)⟩

end Known

theorem advertised_served (arithmetic : Decimal.Arithmetic) (registry : Registry) (catalog : Catalog)
    (built : Catalog.fromRegistry arithmetic registry = .ok catalog) (profile : RoutingProfile)
    (snapshot : CatalogSnapshot) (shown : catalog.snapshot profile = .ok snapshot) (slug : String)
    (advertised : ∃ model ∈ snapshot.response.data, model.id = slug) :
    ∃ provider mapping, Serves registry (profile,slug) provider mapping := by
  obtain ⟨other,same,snapped⟩ := Catalog.snapshot_built arithmetic registry catalog built profile
  rw [shown] at same
  cases same
  have nonempty := (snapshot_models arithmetic registry profile snapshot snapped slug).mp advertised
  obtain ⟨candidate,rest,listed⟩ := List.exists_cons_of_ne_nil nonempty
  obtain ⟨member,named⟩ := List.mem_filter.mp (show candidate ∈ slugCandidates registry profile slug by simp [listed])
  obtain ⟨known,accepted,maps⟩ := (mem_endpointCandidates registry profile candidate).mp member
  obtain ⟨enabled,supported⟩ := Bool.and_eq_true_iff.mp accepted
  exact ⟨candidate.provider,candidate.mapping,known,enabled,of_decide_eq_true supported,maps,of_decide_eq_true named⟩

/-- A slug of the catalog is addressable exactly when it does not end in a shortcut itself. -/
theorem advertised_addressable_iff {G : Type} (arithmetic : Decimal.Arithmetic) (randomness : Randomness G)
    (registry : Registry) (config : RoutingConfig) (rng : G) (policy reached : RoutingPolicy G)
    (built : RoutingPolicy.fromRegistryWithRng arithmetic registry config .empty rng = .ok policy)
    (operations : List (Operation G)) (trace : List (Operation G × OperationResult))
    (ran : policy.run arithmetic randomness operations = .ok (trace,reached)) (catalog : Catalog)
    (listed : Catalog.fromRegistry arithmetic registry = .ok catalog) (profile : RoutingProfile)
    (snapshot : CatalogSnapshot) (shown : catalog.snapshot profile = .ok snapshot) (slug : String)
    (advertised : ∃ model ∈ snapshot.response.data, model.id = slug) :
    Addressable arithmetic randomness reached profile slug ↔ ¬ Reserved slug := by
  obtain ⟨provider,mapping,serves⟩ :=
    advertised_served arithmetic registry catalog listed profile snapshot shown slug advertised
  refine addressable_iff arithmetic randomness reached profile slug (fun unknown => ?_)
  rw [(RoutingPolicy.reached_frame arithmetic randomness registry config rng policy reached built operations trace
    ran).1] at unknown
  exact (RoutingPolicy.fromRegistry_unknown arithmetic registry config _ rng policy built _).mp unknown provider mapping
    serves

section Sample

/-- A registry that starts, with one model. -/
def soleRegistry (slug : String) : Registry := ⟨[sampleProvider "alpha" 0 [slug]]⟩

theorem soleRegistry_starts (slug : String) (valid : (soleRegistry slug).validate.toOption = some ()) :
    Starts Decimal.exact (soleRegistry slug) sampleConfig .empty () := by
  rw [starts_iff Decimal.exact Decimal.exact_divides]
  refine ⟨(toOption_some _ _).mp valid,fun provider member _ => ?_⟩
  rw [List.mem_singleton.mp member]
  exact sampleProvider_serviceable _ _ _ (by simp)

theorem soleRegistry_shown (slug : String) (valid : (soleRegistry slug).validate.toOption = some ())
    (served : (slugCandidates (soleRegistry slug) .production slug).isEmpty = false) :
    ∃ catalog snapshot, Catalog.fromRegistry Decimal.exact (soleRegistry slug) = .ok catalog ∧
      catalog.snapshot .production = .ok snapshot ∧ ∃ model ∈ snapshot.response.data, model.id = slug := by
  obtain ⟨catalog,listed⟩ := (soleRegistry_starts slug valid).catalog
  obtain ⟨snapshot,shown,snapped⟩ := Catalog.snapshot_built Decimal.exact _ catalog listed .production
  exact ⟨catalog,snapshot,listed,shown,(snapshot_models Decimal.exact _ .production snapshot snapped slug).mpr
    (by simpa using served)⟩

end Sample

theorem advertised_addressable_sample :
    ∃ policy catalog snapshot,
      RoutingPolicy.fromRegistryWithRng Decimal.exact (soleRegistry "vendor/model:free") sampleConfig .empty () =
        .ok policy ∧
      Catalog.fromRegistry Decimal.exact (soleRegistry "vendor/model:free") = .ok catalog ∧
      catalog.snapshot .production = .ok snapshot ∧
      (∃ model ∈ snapshot.response.data, model.id = "vendor/model:free") ∧
      Addressable Decimal.exact firstIndex policy .production "vendor/model:free" := by
  obtain ⟨catalog,snapshot,listed,shown,advertised⟩ := soleRegistry_shown "vendor/model:free" (by decide +kernel)
    (by decide +kernel)
  obtain ⟨policy,built⟩ := (soleRegistry_starts "vendor/model:free" (by decide +kernel)).policy
  refine ⟨policy,catalog,snapshot,built,listed,shown,advertised,?_⟩
  refine (advertised_addressable_iff Decimal.exact firstIndex (soleRegistry "vendor/model:free") sampleConfig () policy
    policy built [] [] rfl catalog listed .production snapshot shown _ advertised).mpr ?_
  rw [← splitShortcut_plain]
  decide +kernel

/-- A slug of the catalog that ends in a shortcut: the request for it names an unknown model. -/
theorem reserved_slug_unknown :
    Starts Decimal.exact (soleRegistry "vendor/model:nitro") sampleConfig .empty () ∧
    ∃ policy catalog snapshot,
      RoutingPolicy.fromRegistryWithRng Decimal.exact (soleRegistry "vendor/model:nitro") sampleConfig .empty () =
        .ok policy ∧
      Catalog.fromRegistry Decimal.exact (soleRegistry "vendor/model:nitro") = .ok catalog ∧
      catalog.snapshot .production = .ok snapshot ∧
      (∃ model ∈ snapshot.response.data, model.id = "vendor/model:nitro") ∧
      ¬ Addressable Decimal.exact firstIndex policy .production "vendor/model:nitro" := by
  obtain ⟨catalog,snapshot,listed,shown,advertised⟩ := soleRegistry_shown "vendor/model:nitro" (by decide +kernel)
    (by decide +kernel)
  obtain ⟨policy,left,after,built,refused⟩ := answerTo_success (soleRegistry "vendor/model:nitro")
    (modelRequest "vendor/model:nitro") (.error .unknownModel) (by decide +kernel)
  exact ⟨soleRegistry_starts _ (by decide +kernel),policy,catalog,snapshot,built,listed,shown,advertised,
    fun addressable => addressable.plain.known .chat left after refused⟩

end SerenRouter
