import SerenRouter.Catalog
import SerenRouter.UpstreamCatalog
import SerenRouter.Policy.RouteGuarantees

/-! Startup: the registry is hydrated from the upstream catalogs, validated, and read by the
catalog, the price table and the routing policy. What these four ask of a registry, and which
upstream models keep it. -/
namespace SerenRouter
open Kernel

section Startup
variable (arithmetic : Decimal.Arithmetic)

/-- The enabled providers that declare an upstream catalog, with its url. -/
def catalogSources (registry : Registry) : List (String × String) :=
  (registry.providers.filter Provider.enabled).filterMap (fun provider =>
    provider.catalogUrl.map (fun url => (provider.id,url)))

/-- One fetch: the models of the response, or a failure that leaves the registry as it is. -/
def hydrateSource (registry : Registry) (fetched : (String × String) × Option (List UpstreamModel)) : Registry :=
  match fetched.2 with
  | some models => (hydrateProvider registry fetched.1.1 (mappingsFromCatalog arithmetic models).mappings).2
  | none => registry

/-- The answers are those of the sources in turn. -/
def hydrateUpstreamCoverage (registry : Registry) (answers : List (Option (List UpstreamModel))) : Registry :=
  ((catalogSources registry).zip answers).foldl (hydrateSource arithmetic) registry

/-- The four constructions from the registry succeed. -/
structure Starts {G : Type} (registry : Registry) (config : RoutingConfig) (measurements : MeasurementStore) (rng : G) :
    Prop where
  valid : registry.validate = .ok ()
  catalog : ∃ catalog, Catalog.fromRegistry arithmetic registry = .ok catalog
  table : ∃ table, PriceTable.fromRegistry registry = .ok table
  policy : ∃ policy, RoutingPolicy.fromRegistryWithRng arithmetic registry config measurements rng = .ok policy

/-- What startup asks of an enabled provider, beyond validation. -/
structure Serviceable (provider : Provider) : Prop where
  distinct : provider.slugs.Nodup
  nonnegative : ∀ mapping ∈ provider.models, mapping.prices.Nonnegative
  summed : ∀ mapping ∈ provider.models, Summed arithmetic mapping

structure Ready (registry : Registry) : Prop where
  valid : registry.validate = .ok ()
  serviceable : ∀ provider ∈ registry.providers, provider.enabled = true → Serviceable arithmetic provider

/-- Exactly what startup asks of a registry. -/
theorem starts_iff {G : Type} (divides : arithmetic.Divides) (registry : Registry) (config : RoutingConfig)
    (measurements : MeasurementStore) (rng : G) :
    Starts arithmetic registry config measurements rng ↔ Ready arithmetic registry := by
  constructor
  · rintro ⟨valid,_,table,policy⟩
    have tabled := ((PriceTable.fromRegistry_accepts registry).mp table).2
    have priced := (RoutingPolicy.fromRegistry_accepts arithmetic registry config measurements rng).mp policy
    refine ⟨valid,fun provider member enabled => ?_⟩
    obtain ⟨distinct,nonnegative⟩ := tabled provider member enabled
    exact ⟨distinct,nonnegative,fun mapping maps =>
      ((priced_iff arithmetic provider mapping).mp (priced provider member enabled mapping maps)).2.2⟩
  · rintro ⟨valid,serviceable⟩
    refine ⟨valid,?_,?_,?_⟩
    · exact Catalog.fromRegistry_total arithmetic registry divides (fun provider member enabled =>
        (serviceable provider member enabled).summed)
    · exact (PriceTable.fromRegistry_accepts registry).mpr ⟨valid,fun provider member enabled =>
        ⟨(serviceable provider member enabled).distinct,(serviceable provider member enabled).nonnegative⟩⟩
    · refine (RoutingPolicy.fromRegistry_accepts arithmetic registry config measurements rng).mpr
        (fun provider member enabled mapping maps => ?_)
      have nonnegative := (serviceable provider member enabled).nonnegative mapping maps
      exact (priced_iff arithmetic provider mapping).mpr ⟨nonnegative.input,nonnegative.output,
        (serviceable provider member enabled).summed mapping maps⟩

end Startup

section Safety
variable (arithmetic : Decimal.Arithmetic)

/-- The upstream model is one that hydration adds to the provider. -/
def Adds (provider : Provider) (model : UpstreamModel) : Prop :=
  model.id ∉ provider.slugs ∧ ∃ input output, model.Offers arithmetic input output

/-- What the upstream models must keep to for one provider. -/
structure CoverageSafe (provider : Provider) (models : List UpstreamModel) : Prop where
  named : ∀ model ∈ models, Adds arithmetic provider model → ¬ model.Nameless
  distinct : provider.enabled = true → models.Pairwise (fun left right =>
    Adds arithmetic provider left → Adds arithmetic provider right → left.id ≠ right.id)
  summed : provider.enabled = true → ∀ model ∈ models, model.id ∉ provider.slugs →
    ∀ input output, model.Offers arithmetic input output → ∃ sum, arithmetic.add input output = some sum

def HydrationSafe (registry : Registry) (providerId : String) (models : List UpstreamModel) : Prop :=
  ∀ provider ∈ registry.providers, provider.id = providerId → CoverageSafe arithmetic provider models

def discovered (provider : Provider) (models : List UpstreamModel) : List ModelMapping :=
  newMappings provider (mappingsFromCatalog arithmetic models).mappings

theorem mem_discovered (provider : Provider) (models : List UpstreamModel) (mapping : ModelMapping) :
    mapping ∈ discovered arithmetic provider models ↔
      ∃ model ∈ models, mappingFromModel arithmetic model = some mapping ∧ model.id ∉ provider.slugs := by
  rw [discovered,newMappings,mappingsFromCatalog,List.mem_filter,List.mem_filterMap,decide_eq_true_iff]
  constructor
  · rintro ⟨⟨model,member,mapped⟩,fresh⟩
    rw [(mappingFromModel_offers arithmetic model mapping mapped).1] at fresh
    exact ⟨model,member,mapped,fresh⟩
  · rintro ⟨model,member,mapped,fresh⟩
    rw [← (mappingFromModel_offers arithmetic model mapping mapped).1] at fresh
    exact ⟨⟨model,member,mapped⟩,fresh⟩

theorem adds_iff (provider : Provider) (model : UpstreamModel) : Adds arithmetic provider model ↔
    model.id ∉ provider.slugs ∧ ∃ mapping, mappingFromModel arithmetic model = some mapping := by
  refine and_congr_right (fun _ => ⟨?_,?_⟩)
  · rintro ⟨input,output,offers⟩
    obtain ⟨mapping,mapped,_⟩ := mappingFromModel_total arithmetic model input output offers
    exact ⟨mapping,mapped⟩
  · rintro ⟨mapping,mapped⟩
    exact ⟨_,_,(mappingFromModel_offers arithmetic model mapping mapped).2.1⟩

theorem discovered_valid (provider : Provider) (models : List UpstreamModel) :
    (∀ mapping ∈ discovered arithmetic provider models, Registry.MappingValid mapping) ↔
      ∀ model ∈ models, Adds arithmetic provider model → ¬ model.Nameless := by
  constructor
  · intro lawful model member adds
    obtain ⟨fresh,mapping,mapped⟩ := (adds_iff arithmetic provider model).mp adds
    exact (mappingFromModel_valid arithmetic model mapping mapped).mp
      (lawful mapping ((mem_discovered arithmetic provider models mapping).mpr ⟨model,member,mapped,fresh⟩))
  · intro named mapping present
    obtain ⟨model,member,mapped,fresh⟩ := (mem_discovered arithmetic provider models mapping).mp present
    exact (mappingFromModel_valid arithmetic model mapping mapped).mpr
      (named model member ((adds_iff arithmetic provider model).mpr ⟨fresh,mapping,mapped⟩))

theorem discovered_distinct (provider : Provider) (models : List UpstreamModel) :
    ((discovered arithmetic provider models).map ModelMapping.slug).Nodup ↔ models.Pairwise (fun left right =>
      Adds arithmetic provider left → Adds arithmetic provider right → left.id ≠ right.id) := by
  rw [List.Nodup,List.pairwise_map,discovered,newMappings,List.pairwise_filter,mappingsFromCatalog,
    List.pairwise_filterMap]
  refine List.Pairwise.iff (fun left right => ?_)
  simp only [adds_iff]
  constructor
  · rintro distinct ⟨leftFresh,leftMapping,leftMapped⟩ ⟨rightFresh,rightMapping,rightMapped⟩
    have leftSlug := (mappingFromModel_offers arithmetic left leftMapping leftMapped).1
    have rightSlug := (mappingFromModel_offers arithmetic right rightMapping rightMapped).1
    rw [← leftSlug,← rightSlug]
    exact distinct leftMapping leftMapped rightMapping rightMapped (decide_eq_true (by rwa [leftSlug]))
      (decide_eq_true (by rwa [rightSlug]))
  · intro distinct leftMapping leftMapped rightMapping rightMapped leftFresh rightFresh
    have leftSlug := (mappingFromModel_offers arithmetic left leftMapping leftMapped).1
    have rightSlug := (mappingFromModel_offers arithmetic right rightMapping rightMapped).1
    rw [leftSlug,rightSlug]
    exact distinct ⟨by rw [← leftSlug]; exact of_decide_eq_true leftFresh,leftMapping,leftMapped⟩
      ⟨by rw [← rightSlug]; exact of_decide_eq_true rightFresh,rightMapping,rightMapped⟩

theorem discovered_summed (provider : Provider) (models : List UpstreamModel) :
    (∀ mapping ∈ discovered arithmetic provider models, Summed arithmetic mapping) ↔
      ∀ model ∈ models, model.id ∉ provider.slugs → ∀ input output, model.Offers arithmetic input output →
        ∃ sum, arithmetic.add input output = some sum := by
  constructor
  · intro summed model member fresh input output offers
    obtain ⟨mapping,mapped,rfl,rfl⟩ := mappingFromModel_total arithmetic model input output offers
    exact summed mapping ((mem_discovered arithmetic provider models mapping).mpr ⟨model,member,mapped,fresh⟩)
  · intro summed mapping present
    obtain ⟨model,member,mapped,fresh⟩ := (mem_discovered arithmetic provider models mapping).mp present
    exact summed model member fresh _ _ (mappingFromModel_offers arithmetic model mapping mapped).2.1

/-- New mappings leave a provider serviceable exactly when their slugs are distinct and their
prices have sums. -/
theorem serviceable_extend (signed : arithmetic.Signed) (provider : Provider) (models : List UpstreamModel)
    (serviceable : Serviceable arithmetic provider) :
    Serviceable arithmetic (provider.extend (discovered arithmetic provider models)) ↔
      ((discovered arithmetic provider models).map ModelMapping.slug).Nodup ∧
        ∀ mapping ∈ discovered arithmetic provider models, Summed arithmetic mapping := by
  have slugs : (provider.extend (discovered arithmetic provider models)).slugs =
      provider.slugs ++ (discovered arithmetic provider models).map ModelMapping.slug := List.map_append
  constructor
  · intro extended
    refine ⟨(List.nodup_append.mp (slugs ▸ extended.distinct)).2.1,fun mapping member => ?_⟩
    exact extended.summed mapping (List.mem_append_right _ member)
  · rintro ⟨distinct,summed⟩
    refine ⟨?_,?_,?_⟩
    · rw [slugs,List.nodup_append]
      refine ⟨serviceable.distinct,distinct,?_⟩
      rintro slug known _ added rfl
      obtain ⟨mapping,member,rfl⟩ := List.mem_map.mp added
      obtain ⟨model,_,mapped,fresh⟩ := (mem_discovered arithmetic provider models mapping).mp member
      rw [(mappingFromModel_offers arithmetic model mapping mapped).1] at known
      exact fresh known
    · intro mapping member
      rcases List.mem_append.mp member with own | added
      · exact serviceable.nonnegative mapping own
      · obtain ⟨model,_,mapped,_⟩ := (mem_discovered arithmetic provider models mapping).mp added
        exact mappingFromModel_nonnegative arithmetic signed model mapping mapped
    · intro mapping member
      rcases List.mem_append.mp member with own | added
      · exact serviceable.summed mapping own
      · exact summed mapping added

/-- Hydration keeps a registry ready exactly when the upstream models are safe for it. -/
theorem hydrate_ready (signed : arithmetic.Signed) (registry : Registry) (ready : Ready arithmetic registry)
    (providerId : String) (models : List UpstreamModel) :
    Ready arithmetic (hydrateProvider registry providerId (mappingsFromCatalog arithmetic models).mappings).2 ↔
      HydrationSafe arithmetic registry providerId models := by
  have validated := validateFrom_extend [] registry.providers
    (additions providerId (mappingsFromCatalog arithmetic models).mappings)
  rw [hydrateProvider_eq registry providerId _ (registry.validate_distinct ready.valid)]
  constructor
  · rintro ⟨valid,serviceable⟩ provider member named
    have lawful := (validated.mp valid).2 provider member
    have extended := serviceable _ (List.mem_map.mpr ⟨provider,member,rfl⟩)
    rw [additions,if_pos named] at lawful extended
    have kept (enabled : provider.enabled = true) := (serviceable_extend arithmetic signed provider models
      (ready.serviceable provider member enabled)).mp (extended enabled)
    exact ⟨(discovered_valid arithmetic provider models).mp lawful,
      fun enabled => (discovered_distinct arithmetic provider models).mp (kept enabled).1,
      fun enabled => (discovered_summed arithmetic provider models).mp (kept enabled).2⟩
  · intro safe
    refine ⟨validated.mpr ⟨ready.valid,fun provider member => ?_⟩,?_⟩
    · unfold additions
      split
      · rename_i named
        exact (discovered_valid arithmetic provider models).mpr (safe provider member named).named
      · simp
    · intro hydrated member enabled
      obtain ⟨provider,present,rfl⟩ := List.mem_map.mp member
      have serviceable := ready.serviceable provider present enabled
      unfold additions
      split
      · rename_i named
        have covered := safe provider present named
        exact (serviceable_extend arithmetic signed provider models serviceable).mpr
          ⟨(discovered_distinct arithmetic provider models).mpr (covered.distinct enabled),
            (discovered_summed arithmetic provider models).mpr (covered.summed enabled)⟩
      · simpa [Provider.extend] using serviceable

theorem hydrate_safe_other (registry : Registry) (distinct : (registry.providers.map Provider.id).Nodup)
    (providerId other : String) (apart : other ≠ providerId) (upstream : List ModelMapping) (models : List UpstreamModel)
    (safe : HydrationSafe arithmetic registry other models) :
    HydrationSafe arithmetic (hydrateProvider registry providerId upstream).2 other models := by
  rw [hydrateProvider_eq registry providerId upstream distinct]
  intro hydrated member named
  obtain ⟨provider,present,rfl⟩ := List.mem_map.mp member
  have different : provider.id ≠ providerId := fun same => apart (named.symm.trans same)
  simpa [Provider.extend,additions,different] using safe provider present named

theorem catalogSources_distinct (registry : Registry) (distinct : (registry.providers.map Provider.id).Nodup) :
    ((catalogSources registry).map Prod.fst).Nodup := by
  have named : (catalogSources registry).map Prod.fst = ((registry.providers.filter (fun provider =>
      provider.enabled && provider.catalogUrl.isSome)).map Provider.id) := by
    unfold catalogSources
    induction registry.providers with
    | nil => rfl
    | cons provider rest ih =>
      cases enabled : provider.enabled <;> cases declared : provider.catalogUrl <;> simp [enabled,declared,ih]
  rw [named]
  exact List.Nodup.sublist (List.Sublist.map _ List.filter_sublist) distinct

theorem hydrateSources_ready (signed : arithmetic.Signed)
    (fetched : List ((String × String) × Option (List UpstreamModel)))
    (distinct : (fetched.map (fun source => source.1.1)).Nodup) (registry : Registry) (ready : Ready arithmetic registry)
    (safe : ∀ source ∈ fetched, ∀ models, source.2 = some models → HydrationSafe arithmetic registry source.1.1 models) :
    Ready arithmetic (fetched.foldl (hydrateSource arithmetic) registry) := by
  induction fetched generalizing registry with
  | nil => exact ready
  | cons source rest ih =>
    obtain ⟨fresh,distinct⟩ := List.nodup_cons.mp distinct
    rw [List.foldl_cons,hydrateSource]
    split
    · rename_i models answered
      have own := safe source (by simp) models answered
      refine ih distinct _ ((hydrate_ready arithmetic signed registry ready source.1.1 models).mpr own) ?_
      intro later member others answered
      have apart : later.1.1 ≠ source.1.1 := fun same => fresh (List.mem_map.mpr ⟨later,member,same⟩)
      exact hydrate_safe_other arithmetic registry (registry.validate_distinct ready.valid) _ _ apart _ others
        (safe later (by simp [member]) others answered)
    · exact ih distinct registry ready (fun later member => safe later (by simp [member]))

/-- A registry that is ready stays so through all the catalogs, when each is safe for its provider
of the reviewed registry; catalogs that are not available do not count. -/
theorem coverage_ready (signed : arithmetic.Signed) (registry : Registry) (ready : Ready arithmetic registry)
    (answers : List (Option (List UpstreamModel)))
    (safe : ∀ source models, (source,some models) ∈ (catalogSources registry).zip answers →
      HydrationSafe arithmetic registry source.1 models) :
    Ready arithmetic (hydrateUpstreamCoverage arithmetic registry answers) := by
  have firsts (sources : List (String × String)) (answers : List (Option (List UpstreamModel))) :
      ((sources.zip answers).map Prod.fst).Sublist sources := by
    induction sources generalizing answers with
    | nil => simp
    | cons source rest ih =>
      cases answers with
      | nil => simp
      | cons answer answers => simpa using ih answers
  have ids := (firsts (catalogSources registry) answers).map Prod.fst
  rw [List.map_map] at ids
  refine hydrateSources_ready arithmetic signed _ (List.Nodup.sublist ids
    (catalogSources_distinct registry (registry.validate_distinct ready.valid))) registry ready ?_
  rintro ⟨source,_⟩ member models rfl
  exact safe source models member

end Safety

/-- After hydration the service starts exactly when the upstream models are safe: every model that
is added has a name or an id to show, and for an enabled provider no two of them share an id and
the two prices of each have a sum. -/
theorem hydration_safe_iff {G : Type} (arithmetic : Decimal.Arithmetic) (signed : arithmetic.Signed)
    (divides : arithmetic.Divides) (registry : Registry) (config : RoutingConfig) (measurements : MeasurementStore)
    (rng : G) (starts : Starts arithmetic registry config measurements rng) (providerId : String)
    (models : List UpstreamModel) :
    Starts arithmetic (hydrateProvider registry providerId (mappingsFromCatalog arithmetic models).mappings).2
        config measurements rng ↔
      HydrationSafe arithmetic registry providerId models := by
  rw [starts_iff arithmetic divides] at starts ⊢
  exact hydrate_ready arithmetic signed registry starts providerId models

section Sample

theorem sampleProvider_serviceable (id : String) (priority : Nat) (slugs : List String) (distinct : slugs.Nodup) :
    Serviceable Decimal.exact (sampleProvider id priority slugs) := by
  have mapped (mapping : ModelMapping) (maps : mapping ∈ (sampleProvider id priority slugs).models) :
      ∃ slug, mapping = sampleModel slug := by
    obtain ⟨slug,_,rfl⟩ := List.mem_map.mp maps
    exact ⟨slug,rfl⟩
  refine ⟨?_,?_,?_⟩
  · have named : (sampleProvider id priority slugs).slugs = slugs := by
      simp [Provider.slugs,sampleProvider,sampleModel,Function.comp_def]
    rwa [named]
  · intro mapping maps
    obtain ⟨slug,rfl⟩ := mapped mapping maps
    exact ⟨Decimal.zero_le_ofNat _ _,Decimal.zero_le_ofNat _ _,by rintro price ⟨⟩⟩
  · intro mapping maps
    obtain ⟨slug,rfl⟩ := mapped mapping maps
    have summed : Decimal.exact.add Decimal.one Decimal.one = some (Decimal.ofNat 2) := by decide +kernel
    exact ⟨_,summed⟩

theorem sampleRegistry_starts : Starts Decimal.exact sampleRegistry sampleConfig .empty () := by
  rw [starts_iff Decimal.exact Decimal.exact_divides]
  have accepted : sampleRegistry.validate.toOption = some () := by decide +kernel
  refine ⟨(toOption_some _ _).mp accepted,fun provider member _ => ?_⟩
  simp only [sampleRegistry,List.mem_cons,List.not_mem_nil,or_false] at member
  rcases member with rfl | rfl
  · exact sampleProvider_serviceable _ _ _ (by decide)
  · exact sampleProvider_serviceable _ _ _ (by decide)

def listedModel (id : String) (name : Option String) (price : String) : UpstreamModel :=
  ⟨id,name,some 1024,some ⟨some price,some price,none⟩⟩

def hydratedSample (models : List UpstreamModel) : Registry :=
  (hydrateProvider sampleRegistry "alpha" (mappingsFromCatalog Decimal.exact models).mappings).2

def sampleFeed : List UpstreamModel :=
  [listedModel "vendor/new" (some "New") "0.000001",listedModel "vendor/model" none "0.000002"]

theorem hydration_safe_sample : Starts Decimal.exact (hydratedSample sampleFeed) sampleConfig .empty () := by
  refine (hydration_safe_iff Decimal.exact Decimal.exact_signed Decimal.exact_divides sampleRegistry sampleConfig .empty
    () sampleRegistry_starts "alpha" sampleFeed).mpr (fun provider _ _ => ⟨?_,?_,?_⟩)
  · intro model member _ nameless
    have shown : ∀ model ∈ sampleFeed, Text.isBlank model.id = false := by decide
    have blank := nameless.id
    rw [shown model member] at blank
    cases blank
  · intro _
    have distinct : sampleFeed.Pairwise (fun left right => left.id ≠ right.id) := by decide
    exact distinct.imp (fun apart _ _ => apart)
  · intro _ model member _ input output offers
    have sums : ∀ model ∈ sampleFeed, (model.pricing.bind (fun pricing =>
        (pricePerMtok Decimal.exact pricing.prompt).bind (fun input =>
          (pricePerMtok Decimal.exact pricing.completion).bind (Decimal.exact.add input)))).isSome = true := by
      decide +kernel
    obtain ⟨pricing,present,inputRead,outputRead⟩ := offers.priced
    have summed := sums model member
    rw [present,Option.bind_some,inputRead,Option.bind_some,outputRead,Option.bind_some] at summed
    exact Option.isSome_iff_exists.mp summed

/-- One model listed twice, one without anything to show and one whose prices have no sum: each
stops the startup of a registry that starts without the upstream. -/
theorem upstream_stops_startup :
    Starts Decimal.exact sampleRegistry sampleConfig .empty () ∧
    ¬ Starts Decimal.exact (hydratedSample [listedModel "vendor/new" (some "New") "0.000001",
      listedModel "vendor/new" (some "New") "0.000001"]) sampleConfig .empty () ∧
    ¬ Starts Decimal.exact (hydratedSample [listedModel " " none "0.000001"]) sampleConfig .empty () ∧
    ¬ Starts Decimal.exact (hydratedSample [listedModel "vendor/new" (some "New") "79228162514264337593543"])
      sampleConfig .empty () := by
  refine ⟨sampleRegistry_starts,?_,?_,?_⟩
  · rintro ⟨_,_,⟨table,built⟩,_⟩
    have refused : (PriceTable.fromRegistry (hydratedSample [listedModel "vendor/new" (some "New") "0.000001",
      listedModel "vendor/new" (some "New") "0.000001"])).toOption.isNone = true := by decide +kernel
    rw [built] at refused
    cases refused
  · rintro ⟨valid,_⟩
    have refused : (hydratedSample [listedModel " " none "0.000001"]).validate.toOption.isNone = true := by decide +kernel
    rw [valid] at refused
    cases refused
  · rintro ⟨_,_,_,policy,built⟩
    have refused : (RoutingPolicy.fromRegistryWithRng Decimal.exact
      (hydratedSample [listedModel "vendor/new" (some "New") "79228162514264337593543"]) sampleConfig .empty
      ()).toOption.isNone = true := by decide +kernel
    rw [built] at refused
    cases refused

end Sample

end SerenRouter
