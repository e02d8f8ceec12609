import SerenRouter.Policy.Routing

/-! The routes that the registry gives to a key: one for each mapping of an enabled provider
of the profile, in the order of priorities, every one a valid candidate. -/
namespace SerenRouter
open Kernel

/-- The routes of a key in registry order. -/
def contributions (providers : List Provider) (key : RouteKey) : List RouteDescriptor :=
  providers.flatMap (fun provider =>
    (provider.models.filter (fun model => key.1 ∈ provider.profiles ∧ model.slug = key.2)).map
      (fun model => model.descriptor provider))

/-- A key with no routes is absent. -/
def stored (routes : List RouteDescriptor) : Option (List RouteDescriptor) :=
  if routes = [] then none else some routes

theorem stored_some (routes found : List RouteDescriptor) :
    stored routes = some found ↔ routes ≠ [] ∧ routes = found := by
  unfold stored
  split
  · simp_all
  · simp_all

theorem addRoute_stored (routes : Routes) (listing : RouteKey → List RouteDescriptor) (key : RouteKey)
    (route : RouteDescriptor) (holds : ∀ other, routes other = stored (listing other)) (other : RouteKey) :
    addRoute routes key route other = stored (listing other ++ if other = key then [route] else []) := by
  have read : (routes key).getD [] = listing key := by
    rw [holds,stored]
    split <;> simp [*]
  rw [addRoute,HashMap.insert_apply,read]
  by_cases same : other = key
  · simp [same,stored]
  · simp [same,holds]

theorem addRoutes_stored (profiles : List RoutingProfile) (slug : String) (route : RouteDescriptor)
    (distinct : profiles.Nodup) (routes : Routes) (listing : RouteKey → List RouteDescriptor)
    (holds : ∀ other, routes other = stored (listing other)) (other : RouteKey) :
    profiles.foldl (fun routes profile => addRoute routes (profile,slug) route) routes other =
      stored (listing other ++ if other.1 ∈ profiles ∧ slug = other.2 then [route] else []) := by
  induction profiles generalizing routes listing with
  | nil => simp [holds]
  | cons profile profiles ih =>
    obtain ⟨fresh,distinct⟩ := List.nodup_cons.mp distinct
    rw [List.foldl_cons,ih distinct _ _ (addRoute_stored routes listing (profile,slug) route holds)]
    congr 1
    rw [List.append_assoc]
    congr 1
    obtain ⟨otherProfile,otherSlug⟩ := other
    by_cases here : otherProfile = profile
    · subst here
      by_cases same : slug = otherSlug
      · simp [fresh,same]
      · simp [fresh,same,Ne.symm same]
    · simp [here]

section Table
variable (arithmetic : Decimal.Arithmetic)

/-- A mapping whose prices make a candidate. -/
def Priced (provider : Provider) (model : ModelMapping) : Prop :=
  ∃ candidate, (model.descriptor provider).candidate arithmetic none = .ok candidate

theorem priced_iff (provider : Provider) (model : ModelMapping) : Priced arithmetic provider model ↔
    Decimal.zero ≤ model.inputPricePerMtok ∧ Decimal.zero ≤ model.outputPricePerMtok ∧
      ∃ combined, arithmetic.add model.inputPricePerMtok model.outputPricePerMtok = some combined := by
  simp [Priced,RouteDescriptor.candidate,ModelMapping.descriptor,Candidate.new_success,Decimal.not_lt_iff]

theorem addModelRoutes_stored (provider : Provider) (routes result : Routes) (model : ModelMapping)
    (listing : RouteKey → List RouteDescriptor) (holds : ∀ other, routes other = stored (listing other))
    (added : addModelRoutes arithmetic provider routes model = .ok result) :
    Priced arithmetic provider model ∧ ∀ other, result other = stored (listing other ++
      if other.1 ∈ provider.profiles ∧ model.slug = other.2 then [model.descriptor provider] else []) := by
  unfold addModelRoutes at added
  split at added
  · cases added
  · rename_i candidate priced
    cases added
    refine ⟨⟨candidate,priced⟩,fun other => ?_⟩
    rw [addRoutes_stored _ model.slug _ (List.Nodup.filter _ (by decide)) routes listing holds]
    simp [RoutingProfile.mem_all]

theorem addProviderRoutes_stored (provider : Provider) (models : List ModelMapping) (routes result : Routes)
    (listing : RouteKey → List RouteDescriptor) (holds : ∀ other, routes other = stored (listing other))
    (added : models.foldlM (addModelRoutes arithmetic provider) routes = .ok result) :
    (∀ model ∈ models, Priced arithmetic provider model) ∧ ∀ other, result other = stored (listing other ++
      (models.filter (fun model => other.1 ∈ provider.profiles ∧ model.slug = other.2)).map
        (fun model => model.descriptor provider)) := by
  induction models generalizing routes listing with
  | nil =>
    cases added
    exact ⟨by simp,by simpa using holds⟩
  | cons model models ih =>
    rw [List.foldlM_cons,bind_success] at added
    obtain ⟨middle,first,added⟩ := added
    obtain ⟨priced,kept⟩ := addModelRoutes_stored arithmetic provider routes middle model listing holds first
    obtain ⟨rest,final⟩ := ih middle _ kept added
    refine ⟨fun later member => ?_,fun other => ?_⟩
    · rcases List.mem_cons.mp member with rfl | inside
      · exact priced
      · exact rest later inside
    · rw [final,List.append_assoc]
      congr 2
      by_cases here : other.1 ∈ provider.profiles ∧ model.slug = other.2
      · simp [here]
      · rw [if_neg here,List.filter_cons_of_neg (by simpa using here)]
        rfl

theorem providers_stored (providers : List Provider) (routes result : Routes)
    (listing : RouteKey → List RouteDescriptor) (holds : ∀ other, routes other = stored (listing other))
    (added : providers.foldlM (addProviderRoutes arithmetic) routes = .ok result) :
    (∀ provider ∈ providers, ∀ model ∈ provider.models, Priced arithmetic provider model) ∧
      ∀ other, result other = stored (listing other ++ contributions providers other) := by
  induction providers generalizing routes listing with
  | nil =>
    cases added
    exact ⟨by simp,by simpa [contributions] using holds⟩
  | cons provider providers ih =>
    rw [List.foldlM_cons,bind_success] at added
    obtain ⟨middle,first,added⟩ := added
    obtain ⟨priced,kept⟩ := addProviderRoutes_stored arithmetic provider provider.models routes middle listing
      holds first
    obtain ⟨rest,final⟩ := ih middle _ kept added
    refine ⟨fun later member => ?_,fun other => ?_⟩
    · rcases List.mem_cons.mp member with rfl | inside
      · exact priced
      · exact rest later inside
    · rw [final,List.append_assoc]
      rfl

end Table

/-- An enabled provider of the profile maps the model. -/
structure Serves (registry : Registry) (key : RouteKey) (provider : Provider) (model : ModelMapping) : Prop where
  listed : provider ∈ registry.providers
  enabled : provider.enabled = true
  profile : key.1 ∈ provider.profiles
  mapped : model ∈ provider.models
  slug : model.slug = key.2

private theorem mem_contributions (registry : Registry) (key : RouteKey) (route : RouteDescriptor) :
    route ∈ contributions (registry.providers.filter Provider.enabled) key ↔
      ∃ provider model, Serves registry key provider model ∧ route = model.descriptor provider := by
  simp only [contributions,List.mem_flatMap,List.mem_filter,List.mem_map,decide_eq_true_iff]
  constructor
  · rintro ⟨provider,⟨listed,enabled⟩,model,⟨mapped,profile,slug⟩,rfl⟩
    exact ⟨provider,model,⟨listed,enabled,profile,mapped,slug⟩,rfl⟩
  · rintro ⟨provider,model,⟨listed,enabled,profile,mapped,slug⟩,rfl⟩
    exact ⟨provider,⟨listed,enabled⟩,model,⟨mapped,profile,slug⟩,rfl⟩

namespace RoutingPolicy

section Build
variable {G : Type} (arithmetic : Decimal.Arithmetic) (registry : Registry) (config : RoutingConfig)
  (measurements : MeasurementStore) (rng : G) (policy : RoutingPolicy G)
  (built : fromRegistryWithRng arithmetic registry config measurements rng = .ok policy)
include built

theorem fromRegistry_fields :
    policy.config = config ∧ policy.measurements = measurements ∧ policy.state = ⟨.empty,rng⟩ ∧
    (∀ provider ∈ registry.providers, provider.enabled = true →
      ∀ model ∈ provider.models, Priced arithmetic provider model) ∧
    ∀ key, policy.routes key = (stored (contributions (registry.providers.filter Provider.enabled) key)).map
      (List.insertionSort (fun left right => left.precedes right)) := by
  rw [fromRegistryWithRng,bind_success] at built
  obtain ⟨routes,added,equal⟩ := built
  cases equal
  obtain ⟨priced,listed⟩ := providers_stored arithmetic _ _ routes (fun _ => []) (fun _ => rfl) added
  refine ⟨rfl,rfl,rfl,fun provider member enabled => priced provider (by simp [member,enabled]),fun key => ?_⟩
  dsimp only
  rw [listed,List.nil_append]

theorem fromRegistry_priced (provider : Provider) (model : ModelMapping) (listed : provider ∈ registry.providers)
    (enabled : provider.enabled = true) (mapped : model ∈ provider.models) :
    ∃ combined, arithmetic.add model.inputPricePerMtok model.outputPricePerMtok = some combined := by
  obtain ⟨_,_,_,priced,_⟩ := fromRegistry_fields arithmetic registry config measurements rng policy built
  obtain ⟨_,candidate⟩ := priced provider listed enabled model mapped
  obtain ⟨_,_,_,combined,added,_⟩ := (Candidate.new_success _ _ _ _ _ _ _ _).mp candidate
  exact ⟨combined,added⟩

theorem fromRegistry_known (key : RouteKey) (descriptors : List RouteDescriptor)
    (known : policy.routes key = some descriptors) (route : RouteDescriptor) :
    route ∈ descriptors ↔
      ∃ provider model, Serves registry key provider model ∧ route = model.descriptor provider := by
  obtain ⟨_,_,_,_,routes⟩ := fromRegistry_fields arithmetic registry config measurements rng policy built
  rw [routes,Option.map_eq_some_iff] at known
  obtain ⟨listed,found,rfl⟩ := known
  obtain ⟨_,rfl⟩ := (stored_some _ _).mp found
  rw [List.mem_insertionSort]
  exact mem_contributions registry key route

theorem fromRegistry_unknown (key : RouteKey) :
    policy.routes key = none ↔ ∀ provider model, ¬ Serves registry key provider model := by
  obtain ⟨_,_,_,_,routes⟩ := fromRegistry_fields arithmetic registry config measurements rng policy built
  rw [routes,Option.map_eq_none_iff,stored]
  constructor
  · intro absent provider model serves
    have member := (mem_contributions registry key _).mpr
      ⟨provider,model,serves,rfl⟩
    split at absent
    · rename_i empty
      rw [empty] at member
      cases member
    · cases absent
  · intro none
    rw [if_pos (List.eq_nil_iff_forall_not_mem.mpr (fun route member => ?_))]
    obtain ⟨provider,model,serves,_⟩ :=
      (mem_contributions registry key route).mp member
    exact none provider model serves

end Build

theorem fromRegistry_accepts {G : Type} (arithmetic : Decimal.Arithmetic) (registry : Registry) (config : RoutingConfig)
    (measurements : MeasurementStore) (rng : G) :
    (∃ policy, fromRegistryWithRng arithmetic registry config measurements rng = .ok policy) ↔
      ∀ provider ∈ registry.providers, provider.enabled = true →
        ∀ model ∈ provider.models, Priced arithmetic provider model := by
  constructor
  · rintro ⟨policy,built⟩
    exact (fromRegistry_fields arithmetic registry config measurements rng policy built).2.2.2.1
  · intro priced
    obtain ⟨routes,added⟩ := foldlM_total (addProviderRoutes arithmetic) (registry.providers.filter Provider.enabled)
      .empty (fun provider member routes => by
        obtain ⟨listed,enabled⟩ := List.mem_filter.mp member
        refine foldlM_total (addModelRoutes arithmetic provider) provider.models routes (fun model mapped routes => ?_)
        obtain ⟨candidate,built⟩ := priced provider listed enabled model mapped
        exact ⟨_,by rw [addModelRoutes,built]⟩)
    exact ⟨_,by rw [fromRegistryWithRng,added,ok_bind]; rfl⟩

end RoutingPolicy

end SerenRouter
