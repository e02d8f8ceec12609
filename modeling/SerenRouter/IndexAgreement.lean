import SerenRouter.Catalog
import SerenRouter.SidecarConfig
import SerenRouter.Pricing
import SerenRouter.Policy.RouteGuarantees

/-! The catalog, the routing policy, the sidecar's configuration and the price table, built from
one registry. All four read the same mappings for a profile and a slug. -/
namespace SerenRouter
open Kernel

/-- The mappings that serve a profile and a slug, in registry order. -/
def servingMappings (registry : Registry) (profile : RoutingProfile) (slug : String) : List (Provider × ModelMapping) :=
  (enabledMappings registry).filter (fun entry => profile ∈ entry.1.profiles ∧ entry.2.slug = slug)

section Serving
variable (registry : Registry) (profile : RoutingProfile) (slug : String)

theorem mem_servingMappings (provider : Provider) (mapping : ModelMapping) :
    (provider,mapping) ∈ servingMappings registry profile slug ↔ Serves registry (profile,slug) provider mapping := by
  simp only [servingMappings,enabledMappings,List.mem_filter,List.mem_flatMap,List.mem_map,Prod.mk.injEq,
    decide_eq_true_iff]
  constructor
  · rintro ⟨⟨_,⟨listed,enabled⟩,_,mapped,rfl,rfl⟩,allowed,slugged⟩
    exact ⟨listed,enabled,allowed,mapped,slugged⟩
  · rintro ⟨listed,enabled,allowed,mapped,slugged⟩
    exact ⟨⟨provider,⟨listed,enabled⟩,mapping,mapped,rfl,rfl⟩,allowed,slugged⟩

theorem slugCandidates_eq : slugCandidates registry profile slug =
    (servingMappings registry profile slug).map (fun entry => ⟨entry.1,entry.2⟩) := by
  unfold slugCandidates endpointCandidates servingMappings enabledMappings
  simp only [Provider.supports,Bool.decide_and]
  induction registry.providers with
  | nil => rfl
  | cons provider providers ih =>
    by_cases enabled : provider.enabled = true
    · by_cases allowed : profile ∈ provider.profiles
      · simp [enabled,allowed,ih,List.filter_map,Function.comp_def]
      · simp [enabled,allowed,ih,List.filter_map,Function.comp_def]
    · simp [enabled,ih]

theorem contributions_eq : contributions (registry.providers.filter Provider.enabled) (profile,slug) =
    (servingMappings registry profile slug).map (fun entry => entry.2.descriptor entry.1) := by
  unfold contributions servingMappings enabledMappings
  induction registry.providers.filter Provider.enabled with
  | nil => rfl
  | cons provider providers ih =>
    rw [List.flatMap_cons,ih,List.flatMap_cons,List.filter_append,List.map_append,List.filter_map,List.map_map]
    rfl

theorem valuesOf_profileTargets (entry : Provider × ModelMapping) :
    SortedMap.valuesOf (toLex (profile,slug)) (profileTargets entry) =
      if profile ∈ entry.1.profiles ∧ entry.2.slug = slug then
        [⟨(ModelRoute.new entry.1 entry.2).name,entry.1.priority⟩] else [] := by
  have keyed (other : RoutingProfile) :
      (toLex (other,entry.2.slug) = toLex (profile,slug)) ↔ other = profile ∧ entry.2.slug = slug := by
    simp
  unfold SortedMap.valuesOf profileTargets
  simp only [List.filter_map,List.map_map,Function.comp_def,keyed,List.filter_filter]
  have chosen : RoutingProfile.all.filter (fun other => decide (other = profile ∧ entry.2.slug = slug) &&
      decide (other ∈ entry.1.profiles)) = if profile ∈ entry.1.profiles ∧ entry.2.slug = slug then [profile] else [] := by
    by_cases slugged : entry.2.slug = slug
    · by_cases allowed : profile ∈ entry.1.profiles
      · cases profile <;> simp [RoutingProfile.all,slugged,allowed]
      · cases profile <;> simp [RoutingProfile.all,slugged,allowed]
    · simp [slugged]
  rw [chosen]
  split <;> rfl

theorem targets_eq : SortedMap.valuesOf (toLex (profile,slug)) ((enabledMappings registry).flatMap profileTargets) =
    (servingMappings registry profile slug).map (fun entry =>
      ⟨(ModelRoute.new entry.1 entry.2).name,entry.1.priority⟩) := by
  unfold servingMappings
  induction enabledMappings registry with
  | nil => rfl
  | cons entry entries ih =>
    rw [List.flatMap_cons,SortedMap.valuesOf_append,ih,valuesOf_profileTargets]
    by_cases serves : profile ∈ entry.1.profiles ∧ entry.2.slug = slug
    · simp [serves]
    · rw [if_neg serves,List.filter_cons_of_neg (by simpa using serves)]
      rfl

theorem mem_slugCandidates (candidate : EndpointCandidate) : candidate ∈ slugCandidates registry profile slug ↔
    Serves registry (profile,slug) candidate.provider candidate.mapping := by
  rw [slugCandidates_eq,← mem_servingMappings,List.mem_map]
  constructor
  · rintro ⟨entry,member,rfl⟩
    exact member
  · intro member
    exact ⟨_,member,rfl⟩

theorem serves_unique (table : PriceTable) (accepted : PriceTable.fromRegistry registry = .ok table)
    (left right : EndpointCandidate) (first : left ∈ slugCandidates registry profile slug)
    (second : right ∈ slugCandidates registry profile slug) (same : left.provider.id = right.provider.id) :
    left = right := by
  rw [mem_slugCandidates] at first second
  obtain ⟨provider,mapping⟩ := left
  obtain ⟨other,otherMapping⟩ := right
  have ids := registry.validate_distinct (PriceTable.fromRegistry_validates registry table accepted)
  obtain rfl : provider = other := List.inj_on_of_nodup_map ids first.listed second.listed same
  have slugs := PriceTable.slugs_distinct registry table accepted provider first.listed first.enabled
  obtain rfl : mapping = otherMapping := List.inj_on_of_nodup_map slugs first.mapped second.mapped
    (first.slug.trans second.slug.symm)
  rfl

theorem serves_priced (table : PriceTable) (accepted : PriceTable.fromRegistry registry = .ok table)
    (provider : Provider) (mapping : ModelMapping) (serves : Serves registry (profile,slug) provider mapping) :
    table.get provider.id slug = some mapping.prices := by
  have found := PriceTable.get_mapping registry table accepted provider serves.listed serves.enabled mapping serves.mapped
  rwa [serves.slug] at found

theorem slugCandidates_nodup (table : PriceTable) (accepted : PriceTable.fromRegistry registry = .ok table) :
    (slugCandidates registry profile slug).Nodup := by
  have ids := registry.validate_distinct (PriceTable.fromRegistry_validates registry table accepted)
  refine List.Nodup.filter _ (List.nodup_flatMap.mpr ⟨fun provider member => ?_,?_⟩)
  · obtain ⟨listed,supported⟩ := List.mem_filter.mp member
    have slugs := PriceTable.slugs_distinct registry table accepted provider listed (Bool.and_eq_true_iff.mp supported).1
    exact List.Nodup.map (fun left right same => by cases same; rfl) (List.Nodup.of_map _ slugs)
  · refine List.Pairwise.imp ?_ (List.Nodup.filter _ (List.Nodup.of_map _ ids))
    intro left right apart candidate first second
    obtain ⟨_,_,rfl⟩ := List.mem_map.mp first
    obtain ⟨_,_,same⟩ := List.mem_map.mp second
    exact apart (congrArg EndpointCandidate.provider same).symm

/-- The candidates of a slug in the catalog's order. -/
def sortedCandidates : List EndpointCandidate :=
  (slugCandidates registry profile slug).insertionSort (fun left right => left.precedes right)

theorem mem_sortedCandidates (candidate : EndpointCandidate) :
    candidate ∈ sortedCandidates registry profile slug ↔
      Serves registry (profile,slug) candidate.provider candidate.mapping := by
  rw [sortedCandidates,List.mem_insertionSort,mem_slugCandidates]

theorem sortedCandidates_empty :
    sortedCandidates registry profile slug = [] ↔ slugCandidates registry profile slug = [] := by
  rw [← List.length_eq_zero_iff,sortedCandidates,List.length_insertionSort,List.length_eq_zero_iff]

theorem stored_sorted (routes : List RouteDescriptor) :
    (stored routes).map (List.insertionSort (fun left right => left.precedes right)) =
      stored (routes.insertionSort (fun left right => left.precedes right)) := by
  unfold stored
  by_cases empty : routes = []
  · rw [empty]
    rfl
  · have kept : routes.insertionSort (fun left right => left.precedes right) ≠ [] := by
      rw [Ne,← List.length_eq_zero_iff,List.length_insertionSort,List.length_eq_zero_iff]
      exact empty
    rw [if_neg empty,if_neg kept]
    rfl

/-- The catalog and the routing policy sort alike: their keys differ only in what one provider
would map twice. -/
theorem sorted_routes (table : PriceTable) (accepted : PriceTable.fromRegistry registry = .ok table) :
    (contributions (registry.providers.filter Provider.enabled) (profile,slug)).insertionSort
        (fun left right => left.precedes right) =
      (sortedCandidates registry profile slug).map (fun candidate => candidate.mapping.descriptor candidate.provider) := by
  have listed : contributions (registry.providers.filter Provider.enabled) (profile,slug) =
      (slugCandidates registry profile slug).map (fun candidate => candidate.mapping.descriptor candidate.provider) := by
    rw [contributions_eq,slugCandidates_eq,List.map_map]
    rfl
  rw [listed,sortedCandidates]
  refine (List.map_insertionSort _ _ _ _ (fun left first right second => ?_)).symm
  by_cases same : left.provider.id = right.provider.id
  · obtain rfl := serves_unique registry profile slug table accepted left right first second same
    simp [EndpointCandidate.precedes,RouteDescriptor.precedes,ModelMapping.descriptor]
  · have apart : compare left.provider.id right.provider.id ≠ .eq := fun equal => same (compare_eq_iff_eq.mp equal)
    have settled : (compare left.provider.id right.provider.id).then
        (compare left.mapping.providerModelId right.mapping.providerModelId) =
          compare left.provider.id right.provider.id := by
      cases compared : compare left.provider.id right.provider.id with
      | eq => exact absurd compared apart
      | lt => rfl
      | gt => rfl
    simp only [EndpointCandidate.precedes,RouteDescriptor.precedes,ModelMapping.descriptor,settled]

end Serving

section Agreement
variable {G : Type} (arithmetic : Decimal.Arithmetic) (registry : Registry) (catalog : Catalog)
  (policy : RoutingPolicy G) (sidecar : AgentGatewayConfig) (table : PriceTable) (profile : RoutingProfile)
  (slug : String) (candidates : List EndpointCandidate)

/-- The four indexes hold the same candidates for a profile and a slug. -/
structure IndexesAgree : Prop where
  serving : ∀ candidate, candidate ∈ candidates ↔
    Serves registry (profile,slug) candidate.provider candidate.mapping
  distinct : (candidates.map (fun candidate => candidate.provider.id)).Nodup
  catalogued : ∃ snapshot, catalog.snapshot profile = .ok snapshot ∧
    (∀ response, snapshot.endpointResponse slug = .ok response →
      candidates.mapM (EndpointCandidate.intoEndpoint arithmetic) = .ok response.data.endpoints) ∧
    ((∃ response, snapshot.endpointResponse slug = .ok response) ↔ candidates ≠ []) ∧
    ((∃ model ∈ snapshot.response.data, model.id = slug) ↔ candidates ≠ [])
  routed : policy.routes (profile,slug) =
    stored (candidates.map (fun candidate => candidate.mapping.descriptor candidate.provider))
  targeted : ∀ model ∈ sidecar.llm.virtualModels, model.name = profile.sidecarAlias slug →
    model.routing.failover.targets.Perm (candidates.map (fun candidate =>
      ⟨routeName candidate.provider.id slug,candidate.provider.priority⟩)) ∧
    model.routing.failover.targets.Pairwise (fun left right => left.priority ≤ right.priority)
  aliased : (∃ model ∈ sidecar.llm.virtualModels, model.name = profile.sidecarAlias slug) ↔ candidates ≠ []
  concrete : ∀ candidate ∈ candidates, ∃ route ∈ sidecar.llm.models,
    route.name = routeName candidate.provider.id slug ∧ route.params.baseUrl = candidate.provider.baseUrl ∧
    route.params.model = candidate.mapping.providerModelId ∧
    route.overrides.model = candidate.mapping.providerModelId ∧
    route.responseHeaders.set = [(servedProviderHeader,candidate.provider.id)]
  priced : ∀ candidate ∈ candidates, table.get candidate.provider.id slug = some candidate.mapping.prices
  unpriced : (∃ provider ∈ registry.providers, provider.enabled = true ∧ profile ∈ provider.profiles ∧
    (table.get provider.id slug).isSome = true) ↔ candidates ≠ []

end Agreement

section Indexes
variable (registry : Registry) (profile : RoutingProfile) (slug : String)

theorem candidates_nonempty :
    sortedCandidates registry profile slug ≠ [] ↔ ∃ provider mapping, Serves registry (profile,slug) provider mapping := by
  constructor
  · intro nonempty
    obtain ⟨candidate,rest,split⟩ := List.exists_cons_of_ne_nil nonempty
    exact ⟨_,_,(mem_sortedCandidates registry profile slug candidate).mp (by simp [split])⟩
  · rintro ⟨provider,mapping,serves⟩
    exact List.ne_nil_of_mem ((mem_sortedCandidates registry profile slug ⟨provider,mapping⟩).mpr serves)

section Priced
variable (table : PriceTable) (accepted : PriceTable.fromRegistry registry = .ok table)
include accepted

theorem candidates_distinct :
    ((sortedCandidates registry profile slug).map (fun candidate => candidate.provider.id)).Nodup := by
  have nodup : (sortedCandidates registry profile slug).Nodup :=
    ((List.perm_insertionSort _ _).nodup_iff).mpr (slugCandidates_nodup registry profile slug table accepted)
  refine List.Nodup.map_on (fun left first right second same => ?_) nodup
  exact serves_unique registry profile slug table accepted left right
    ((mem_slugCandidates _ _ _ _).mpr ((mem_sortedCandidates registry profile slug left).mp first))
    ((mem_slugCandidates _ _ _ _).mpr ((mem_sortedCandidates registry profile slug right).mp second)) same

theorem priced_serves : (∃ provider ∈ registry.providers, provider.enabled = true ∧ profile ∈ provider.profiles ∧
    (table.get provider.id slug).isSome = true) ↔
      ∃ provider mapping, Serves registry (profile,slug) provider mapping := by
  constructor
  · rintro ⟨provider,member,enabled,allowed,priced⟩
    obtain ⟨prices,found⟩ := Option.isSome_iff_exists.mp priced
    obtain ⟨mapping,mapped,slugged,_⟩ :=
      (PriceTable.get_provider registry table accepted provider member enabled slug prices).mp found
    exact ⟨provider,mapping,member,enabled,allowed,mapped,slugged⟩
  · rintro ⟨provider,mapping,serves⟩
    have found := serves_priced registry profile slug table accepted provider mapping serves
    exact ⟨provider,serves.listed,serves.enabled,serves.profile,by rw [found]; rfl⟩

end Priced

theorem virtualModels_alias (model : VirtualModel) :
    model ∈ (SortedMap.gather ((enabledMappings registry).flatMap profileTargets)).map virtualModel ∧
        model.name = profile.sidecarAlias slug ↔
      servingMappings registry profile slug ≠ [] ∧ model = virtualModel (toLex (profile,slug),
        (servingMappings registry profile slug).map (fun entry =>
          ⟨(ModelRoute.new entry.1 entry.2).name,entry.1.priority⟩)) := by
  constructor
  · rintro ⟨member,named⟩
    obtain ⟨⟨key,targets⟩,listed,rfl⟩ := List.mem_map.mp member
    obtain ⟨nonempty,rfl⟩ := (SortedMap.mem_gather _ key targets).mp listed
    obtain ⟨first,second⟩ := (RoutingProfile.sidecarAlias_inj _ _ _ _).mp named
    obtain rfl : key = toLex (profile,slug) := by
      rw [← first,← second]
      rfl
    rw [targets_eq] at nonempty ⊢
    exact ⟨by simpa using nonempty,rfl⟩
  · rintro ⟨nonempty,rfl⟩
    refine ⟨List.mem_map.mpr ⟨_,(SortedMap.mem_gather _ _ _).mpr ⟨by simpa using nonempty,targets_eq registry profile slug⟩,rfl⟩,rfl⟩

theorem failoverTargets_sorted (targets : List VirtualTarget) :
    (targets.insertionSort (fun left right => left.priority ≤ right.priority)).Pairwise
      (fun left right => left.priority ≤ right.priority) := by
  have total : Std.Total (fun left right : VirtualTarget => left.priority ≤ right.priority) :=
    ⟨fun left right => Nat.le_total left.priority right.priority⟩
  have trans : IsTrans VirtualTarget (fun left right => left.priority ≤ right.priority) :=
    ⟨fun left middle right => Nat.le_trans⟩
  exact List.pairwise_insertionSort _ targets

theorem targets_candidates : ((servingMappings registry profile slug).map (fun entry =>
      (⟨(ModelRoute.new entry.1 entry.2).name,entry.1.priority⟩ : VirtualTarget))).Perm
    ((sortedCandidates registry profile slug).map (fun candidate =>
      ⟨routeName candidate.provider.id slug,candidate.provider.priority⟩)) := by
  have unsorted := (List.perm_insertionSort (fun left right => EndpointCandidate.precedes left right)
    (slugCandidates registry profile slug)).map (fun candidate =>
      (⟨routeName candidate.provider.id slug,candidate.provider.priority⟩ : VirtualTarget))
  refine List.Perm.trans ?_ unsorted.symm
  rw [slugCandidates_eq,List.map_map]
  refine List.Perm.of_eq (List.map_congr_left (fun entry member => ?_))
  have serves := (mem_servingMappings registry profile slug entry.1 entry.2).mp member
  simp [ModelRoute.new,routeName,serves.slug]

end Indexes

/-- Built from one registry, the four indexes agree on every profile and slug. -/
theorem indexes_agree {G : Type} (arithmetic : Decimal.Arithmetic) (divides : arithmetic.Divides) (registry : Registry)
    (config : RoutingConfig) (measurements : MeasurementStore) (rng : G) (policy : RoutingPolicy G)
    (routed : RoutingPolicy.fromRegistryWithRng arithmetic registry config measurements rng = .ok policy)
    (table : PriceTable) (accepted : PriceTable.fromRegistry registry = .ok table) (options : SidecarConfigOptions) :
    ∃ catalog sidecar, Catalog.fromRegistry arithmetic registry = .ok catalog ∧
      buildConfig registry options = .ok sidecar ∧
      ∀ profile slug, ∃ candidates,
        IndexesAgree arithmetic registry catalog policy sidecar table profile slug candidates := by
  have valid := PriceTable.fromRegistry_validates registry table accepted
  obtain ⟨catalog,built⟩ := Catalog.fromRegistry_total arithmetic registry divides (fun provider listed enabled mapping mapped =>
    RoutingPolicy.fromRegistry_priced arithmetic registry config measurements rng policy routed provider mapping listed
      enabled mapped)
  refine ⟨catalog,_,built,(buildConfig_success registry options _).mpr ⟨valid,rfl⟩,fun profile slug =>
    ⟨sortedCandidates registry profile slug,?_⟩⟩
  have members := mem_sortedCandidates registry profile slug
  obtain ⟨snapshot,found,snapped⟩ := Catalog.snapshot_built arithmetic registry catalog built profile
  have listed : slugCandidates registry profile slug ≠ [] ↔ sortedCandidates registry profile slug ≠ [] :=
    not_congr (sortedCandidates_empty registry profile slug).symm
  have empty : servingMappings registry profile slug ≠ [] ↔ sortedCandidates registry profile slug ≠ [] := by
    rw [← listed,slugCandidates_eq]
    simp
  have aliases := virtualModels_alias registry profile slug
  refine ⟨members,candidates_distinct registry profile slug table accepted,⟨snapshot,found,?_,?_,?_⟩,?_,?_,?_,?_,?_,?_⟩
  · intro response served
    rw [CatalogSnapshot.endpointResponse] at served
    split at served
    · rename_i stored known
      cases served
      exact (snapshot_endpoints arithmetic registry profile snapshot snapped slug _ known).2
    · cases served
  · rw [← listed,← snapshot_known arithmetic registry profile snapshot snapped slug,CatalogSnapshot.endpointResponse]
    cases SortedMap.get slug snapshot.endpointsBySlug with
    | none => simp
    | some response => simp
  · rw [snapshot_models arithmetic registry profile snapshot snapped slug,listed]
  · obtain ⟨_,_,_,_,routes⟩ := RoutingPolicy.fromRegistry_fields arithmetic registry config measurements rng policy routed
    rw [routes,← sorted_routes registry profile slug table accepted,stored_sorted]
  · intro model member named
    obtain ⟨_,rfl⟩ := (aliases model).mp ⟨member,named⟩
    exact ⟨(List.perm_insertionSort _ _).trans (targets_candidates registry profile slug),failoverTargets_sorted _⟩
  · rw [← empty]
    constructor
    · rintro ⟨model,member,named⟩
      exact ((aliases model).mp ⟨member,named⟩).1
    · intro present
      obtain ⟨member,named⟩ := (aliases _).mpr ⟨present,rfl⟩
      exact ⟨_,member,named⟩
  · intro candidate member
    have serves := (members candidate).mp member
    refine ⟨ModelRoute.new candidate.provider candidate.mapping,?_,?_,rfl,rfl,rfl,rfl⟩
    · have inside := (List.mem_filter.mp ((mem_servingMappings registry profile slug _ _).mpr serves)).1
      exact List.mem_map.mpr ⟨_,inside,rfl⟩
    · simp [ModelRoute.new,routeName,serves.slug]
  · exact fun candidate member => serves_priced registry profile slug table accepted _ _ ((members candidate).mp member)
  · rw [candidates_nonempty registry profile slug]
    exact priced_serves registry profile slug table accepted

theorem indexes_agree_sample :
    ∃ policy table catalog sidecar,
      RoutingPolicy.fromRegistryWithRng Decimal.exact sampleRegistry sampleConfig .empty () = .ok policy ∧
      PriceTable.fromRegistry sampleRegistry = .ok table ∧
      Catalog.fromRegistry Decimal.exact sampleRegistry = .ok catalog ∧
      buildConfig sampleRegistry .default = .ok sidecar ∧
      ∃ candidates, IndexesAgree Decimal.exact sampleRegistry catalog policy sidecar table .production "vendor/model"
        candidates := by
  have routes : (RoutingPolicy.fromRegistryWithRng Decimal.exact sampleRegistry sampleConfig .empty ()).toOption.isSome =
      true := by decide +kernel
  have prices : (PriceTable.fromRegistry sampleRegistry).toOption.isSome = true := by decide +kernel
  obtain ⟨policy,routed⟩ := Option.isSome_iff_exists.mp routes
  obtain ⟨table,priced⟩ := Option.isSome_iff_exists.mp prices
  rw [toOption_some] at routed priced
  obtain ⟨catalog,sidecar,listed,compiled,agree⟩ := indexes_agree Decimal.exact Decimal.exact_divides sampleRegistry
    sampleConfig .empty () policy routed table priced .default
  exact ⟨policy,table,catalog,sidecar,routed,priced,listed,compiled,agree .production "vendor/model"⟩

end SerenRouter
