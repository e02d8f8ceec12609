import SerenRouter.UpstreamCatalog

/-! Hydration as a step on registries: the reviewed mappings of the target stay in front, the
upstream slugs are all there afterwards, and no price that was admitted changes. -/
namespace SerenRouter
open Kernel

section Target
variable (providerId : String) (upstream : List ModelMapping)

theorem hydrateFirst_absent (providers : List Provider) (absent : ∀ provider ∈ providers, provider.id ≠ providerId) :
    hydrateFirst providerId upstream providers = (.default,providers) := by
  induction providers with
  | nil => rfl
  | cons provider rest ih =>
    rw [hydrateFirst,if_neg (absent provider (by simp)),ih (fun other member => absent other (by simp [member]))]

theorem hydrateFirst_target (before after : List Provider) (target : Provider) (named : target.id = providerId)
    (first : ∀ provider ∈ before, provider.id ≠ providerId) :
    hydrateFirst providerId upstream (before ++ target :: after) =
      ((target.hydrate upstream).1,before ++ (target.hydrate upstream).2 :: after) := by
  induction before with
  | nil => rw [List.nil_append,hydrateFirst,if_pos named,List.nil_append]
  | cons provider rest ih =>
    rw [List.cons_append,hydrateFirst,if_neg (first provider (by simp)),
      ih (fun other member => first other (by simp [member]))]
    rfl

/-- The mappings of the target stay in front of those that are added, and are joined by those
of every upstream slug. -/
structure Provider.Covers (target extended : Provider) (outcome : HydrationOutcome) : Prop where
  appended : ∃ added, extended = target.extend added ∧ outcome.added = added.length
  slugs : ∀ slug, slug ∈ extended.slugs ↔ slug ∈ target.slugs ∨ slug ∈ upstream.map ModelMapping.slug

/-- Only the first provider of the id changes, and it covers the upstream. -/
inductive Hydrates (registry hydrated : Registry) (outcome : HydrationOutcome) : Prop where
  | absent (absent : ∀ provider ∈ registry.providers, provider.id ≠ providerId) (same : hydrated = registry)
      (nothing : outcome = .default)
  | target (before after : List Provider) (target extended : Provider)
      (listed : registry.providers = before ++ target :: after) (named : target.id = providerId)
      (first : ∀ provider ∈ before, provider.id ≠ providerId)
      (replaced : hydrated.providers = before ++ extended :: after) (covers : target.Covers upstream extended outcome)

theorem mem_newMappings (target : Provider) (mapping : ModelMapping) :
    mapping ∈ newMappings target upstream ↔ mapping ∈ upstream ∧ mapping.slug ∉ target.slugs := by
  simp [newMappings]

theorem slugs_extend (target : Provider) (slug : String) :
    slug ∈ (target.extend (newMappings target upstream)).slugs ↔
      slug ∈ target.slugs ∨ slug ∈ upstream.map ModelMapping.slug := by
  have split : (target.extend (newMappings target upstream)).slugs =
      target.slugs ++ (newMappings target upstream).map ModelMapping.slug := List.map_append
  rw [split,List.mem_append]
  constructor
  · rintro (reviewed | added)
    · exact .inl reviewed
    · obtain ⟨mapping,member,rfl⟩ := List.mem_map.mp added
      exact .inr (List.mem_map_of_mem ((mem_newMappings upstream target mapping).mp member).1)
  · rintro (reviewed | listed)
    · exact .inl reviewed
    · by_cases known : slug ∈ target.slugs
      · exact .inl known
      · obtain ⟨mapping,member,rfl⟩ := List.mem_map.mp listed
        exact .inr (List.mem_map_of_mem ((mem_newMappings upstream target mapping).mpr ⟨member,known⟩))

theorem newMappings_extend (target : Provider) :
    newMappings (target.extend (newMappings target upstream)) upstream = [] := by
  apply List.filter_eq_nil_iff.mpr
  intro mapping member
  have covered := (slugs_extend upstream target mapping.slug).mpr (.inr (List.mem_map_of_mem member))
  simp [covered]

theorem hydrate_covers (target : Provider) :
    target.Covers upstream (target.hydrate upstream).2 (target.hydrate upstream).1 := by
  rw [hydrate_eq]
  exact ⟨⟨_,rfl,rfl⟩,slugs_extend upstream target⟩

theorem hydrate_again (target : Provider) : ((target.hydrate upstream).2.hydrate upstream).1.added = 0 ∧
    ((target.hydrate upstream).2.hydrate upstream).2 = (target.hydrate upstream).2 := by
  simp only [hydrate_eq,newMappings_extend]
  exact ⟨rfl,by simp [Provider.extend]⟩

theorem target_cases (providers : List Provider) : (∀ provider ∈ providers, provider.id ≠ providerId) ∨
    ∃ before target after, providers = before ++ target :: after ∧ target.id = providerId ∧
      ∀ provider ∈ before, provider.id ≠ providerId := by
  cases found : providers.find? (fun provider => provider.id = providerId) with
  | none =>
    refine .inl fun provider member same => ?_
    exact absurd (decide_eq_true same) (List.find?_eq_none.mp found provider member)
  | some target =>
    obtain ⟨named,before,after,split,earlier⟩ := List.find?_eq_some_iff_append.mp found
    refine .inr ⟨before,target,after,split,of_decide_eq_true named,fun provider member same => ?_⟩
    simpa [same] using earlier provider member

variable (registry : Registry)

theorem hydrateProvider_hydrates : Hydrates providerId upstream registry (hydrateProvider registry providerId upstream).2
    (hydrateProvider registry providerId upstream).1 := by
  obtain ⟨providers⟩ := registry
  rcases target_cases providerId providers with absent | ⟨before,target,after,rfl,named,first⟩
  · rw [hydrateProvider,hydrateFirst_absent providerId upstream providers absent]
    exact .absent absent rfl rfl
  · rw [hydrateProvider,hydrateFirst_target providerId upstream before after target named first]
    exact .target before after target _ rfl named first rfl (hydrate_covers upstream target)

theorem hydrateProvider_again :
    (hydrateProvider (hydrateProvider registry providerId upstream).2 providerId upstream).1.added = 0 ∧
      (hydrateProvider (hydrateProvider registry providerId upstream).2 providerId upstream).2 =
        (hydrateProvider registry providerId upstream).2 := by
  obtain ⟨providers⟩ := registry
  rcases target_cases providerId providers with absent | ⟨before,target,after,rfl,named,first⟩
  · have once : hydrateProvider ⟨providers⟩ providerId upstream = (.default,⟨providers⟩) := by
      rw [hydrateProvider,hydrateFirst_absent providerId upstream providers absent]
    rw [once,once]
    exact ⟨rfl,rfl⟩
  · have kept : (target.hydrate upstream).2.id = providerId := by
      rw [hydrate_eq]
      exact named
    have once : hydrateProvider ⟨before ++ target :: after⟩ providerId upstream =
        ((target.hydrate upstream).1,⟨before ++ (target.hydrate upstream).2 :: after⟩) := by
      rw [hydrateProvider,hydrateFirst_target providerId upstream before after target named first]
    have twice := hydrateFirst_target providerId upstream before after (target.hydrate upstream).2 kept first
    obtain ⟨nothing,same⟩ := hydrate_again upstream target
    rw [same] at twice
    rw [once,hydrateProvider,twice]
    exact ⟨nothing,rfl⟩

theorem Hydrates.keeps {hydrated : Registry} {outcome : HydrationOutcome}
    (hydrates : Hydrates providerId upstream registry hydrated outcome) (provider : Provider)
    (member : provider ∈ registry.providers) : ∃ kept ∈ hydrated.providers, kept.id = provider.id ∧
      kept.enabled = provider.enabled ∧ ∀ mapping ∈ provider.models, mapping ∈ kept.models := by
  cases hydrates with
  | absent _ same => exact ⟨provider,same ▸ member,rfl,rfl,fun _ maps => maps⟩
  | target before after target extended listed _ _ replaced covers =>
    obtain ⟨added,rfl,_⟩ := covers.appended
    rw [listed,List.mem_append,List.mem_cons] at member
    rw [replaced]
    rcases member with earlier | rfl | later
    · exact ⟨provider,by simp [earlier],rfl,rfl,fun _ maps => maps⟩
    · exact ⟨provider.extend added,by simp,rfl,rfl,fun _ maps => List.mem_append_left _ maps⟩
    · exact ⟨provider,by simp [later],rfl,rfl,fun _ maps => maps⟩

theorem Hydrates.prices {hydrated : Registry} {outcome : HydrationOutcome}
    (hydrates : Hydrates providerId upstream registry hydrated outcome) (before after : PriceTable)
    (accepted : PriceTable.fromRegistry registry = .ok before) (still : PriceTable.fromRegistry hydrated = .ok after)
    (id slug : String) (prices : ProviderPrices) (found : before.get id slug = some prices) :
    after.get id slug = some prices := by
  obtain ⟨provider,member,enabled,rfl⟩ := PriceTable.get_enabled registry before accepted id slug prices found
  obtain ⟨mapping,maps,rfl,rfl⟩ :=
    (PriceTable.get_provider registry before accepted provider member enabled slug prices).mp found
  obtain ⟨kept,present,id,on,models⟩ := hydrates.keeps providerId upstream registry provider member
  rw [← id]
  exact PriceTable.get_mapping hydrated after still kept present (on.trans enabled) mapping (models mapping maps)

end Target

/-- Hydration appends the missing upstream mappings to its target and counts them, adds nothing the
second time, and leaves every admitted price as it was. -/
theorem hydration_keeps_reviewed (registry hydrated : Registry) (providerId : String) (upstream : List ModelMapping)
    (outcome : HydrationOutcome) (ran : hydrateProvider registry providerId upstream = (outcome,hydrated)) :
    Hydrates providerId upstream registry hydrated outcome ∧
    (∃ again, hydrateProvider hydrated providerId upstream = (again,hydrated) ∧ again.added = 0) ∧
    ∀ before after, PriceTable.fromRegistry registry = .ok before → PriceTable.fromRegistry hydrated = .ok after →
      ∀ id slug prices, before.get id slug = some prices → after.get id slug = some prices := by
  have hydrates := hydrateProvider_hydrates providerId upstream registry
  obtain ⟨nothing,same⟩ := hydrateProvider_again providerId upstream registry
  rw [ran] at hydrates nothing same
  exact ⟨hydrates,⟨_,Prod.ext rfl same,nothing⟩,fun before after accepted still =>
    hydrates.prices providerId upstream registry before after accepted still⟩

section Sample

def mappingAt (slug : String) (price : Decimal) : ModelMapping :=
  ⟨slug,"Reviewed Name",42,"model",price,none,price,RequestConstraints.default⟩

def hydratedProvider (models : List ModelMapping) : Provider :=
  ⟨"openrouter","Provider",none,none,"https://provider.example","PROVIDER_KEY",true,0,none,{.production},models⟩

def reviewedRegistry : Registry := ⟨[hydratedProvider [mappingAt "vendor/kept" (Decimal.ofNat 7)]]⟩

/-- The reviewed slug at another price, and a new one. -/
def upstreamModels : List ModelMapping :=
  [mappingAt "vendor/kept" Decimal.one,mappingAt "vendor/added" Decimal.one]

end Sample

theorem hydration_keeps_reviewed_sample : ∃ outcome hydrated before after,
    hydrateProvider reviewedRegistry "openrouter" upstreamModels = (outcome,hydrated) ∧ outcome.added = 1 ∧
    PriceTable.fromRegistry reviewedRegistry = .ok before ∧ PriceTable.fromRegistry hydrated = .ok after ∧
    after.get "openrouter" "vendor/kept" = some ⟨⟨Decimal.ofNat 7,Decimal.ofNat 7⟩,none⟩ := by
  have once : (PriceTable.fromRegistry reviewedRegistry).toOption.isSome = true := by decide +kernel
  have twice : (PriceTable.fromRegistry
      (hydrateProvider reviewedRegistry "openrouter" upstreamModels).2).toOption.isSome = true := by decide +kernel
  obtain ⟨before,first⟩ := Option.isSome_iff_exists.mp once
  obtain ⟨after,second⟩ := Option.isSome_iff_exists.mp twice
  have accepted := (toOption_some _ _).mp first
  have still := (toOption_some _ _).mp second
  refine ⟨_,_,before,after,rfl,by decide +kernel,accepted,still,?_⟩
  refine (hydration_keeps_reviewed reviewedRegistry _ "openrouter" upstreamModels _ rfl).2.2 before after accepted still
    "openrouter" "vendor/kept" _ ?_
  exact PriceTable.get_mapping reviewedRegistry before accepted
    (hydratedProvider [mappingAt "vendor/kept" (Decimal.ofNat 7)]) (List.mem_singleton.mpr rfl) rfl
    (mappingAt "vendor/kept" (Decimal.ofNat 7)) (List.mem_singleton.mpr rfl)

end SerenRouter
