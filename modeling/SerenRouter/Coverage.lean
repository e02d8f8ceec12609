import SerenRouter.Startup
import SerenRouter.Hydration
import SerenRouter.RouteNames

/-! The coverage of two processes that have read one registry file. Whatever the upstream catalogs answer to either of
them, the reviewed mappings stay as they are, and each keeps its route in the configuration that the other renders. -/
namespace SerenRouter
open Kernel

/-- Every provider has kept its mappings, and has got none for a slug that it had. -/
def Registry.Extends (reviewed hydrated : Registry) : Prop :=
  ∃ added : Provider → List ModelMapping,
    hydrated.providers = reviewed.providers.map (fun provider => provider.extend (added provider)) ∧
    ∀ provider, ∀ mapping ∈ added provider, mapping.slug ∉ provider.slugs

namespace Registry.Extends

theorem refl (registry : Registry) : registry.Extends registry := by
  refine ⟨fun _ => [],?_,fun _ _ nothing => by cases nothing⟩
  refine ((List.map_congr_left (fun provider _ => ?_)).trans (List.map_id _)).symm
  simp [Provider.extend]

theorem trans {reviewed middle hydrated : Registry} (first : reviewed.Extends middle) (second : middle.Extends hydrated) :
    reviewed.Extends hydrated := by
  obtain ⟨added,listed,fresh⟩ := first
  obtain ⟨more,again,still⟩ := second
  refine ⟨fun provider => added provider ++ more (provider.extend (added provider)),?_,?_⟩
  · rw [again,listed,List.map_map]
    apply List.map_congr_left
    intro provider _
    simp [Provider.extend]
  · intro provider mapping member
    rcases List.mem_append.mp member with early | late
    · exact fresh provider mapping early
    · intro known
      apply still (provider.extend (added provider)) mapping late
      obtain ⟨own,maps,same⟩ := List.mem_map.mp known
      exact List.mem_map.mpr ⟨own,List.mem_append_left _ maps,same⟩

variable {reviewed hydrated : Registry} (extension : reviewed.Extends hydrated)
include extension

theorem ids : hydrated.providers.map Provider.id = reviewed.providers.map Provider.id := by
  obtain ⟨added,listed,_⟩ := extension
  rw [listed,List.map_map]
  rfl

/-- A mapping of a slug that was reviewed for its provider is the reviewed one. -/
theorem reviewed_mapping (provider : Provider) (mapping : ModelMapping)
    (member : (provider,mapping) ∈ enabledMappings hydrated) : ∃ original ∈ reviewed.providers,
      original.id = provider.id ∧ ModelRoute.new original mapping = ModelRoute.new provider mapping ∧
      (mapping.slug ∈ original.slugs → (original,mapping) ∈ enabledMappings reviewed) := by
  obtain ⟨added,providers,fresh⟩ := extension
  obtain ⟨listed,enabled,maps⟩ := (mem_enabledMappings hydrated provider mapping).mp member
  rw [providers] at listed
  obtain ⟨original,present,rfl⟩ := List.mem_map.mp listed
  refine ⟨original,present,rfl,rfl,fun known => ?_⟩
  rcases List.mem_append.mp maps with own | new
  · exact (mem_enabledMappings reviewed original mapping).mpr ⟨present,enabled,own⟩
  · exact absurd known (fresh original mapping new)

/-- A reviewed mapping is covered, by the same route. -/
theorem covered_mapping (original : Provider) (mapping : ModelMapping)
    (member : (original,mapping) ∈ enabledMappings reviewed) : ∃ provider, provider.id = original.id ∧
      (provider,mapping) ∈ enabledMappings hydrated ∧ ModelRoute.new provider mapping = ModelRoute.new original mapping := by
  obtain ⟨added,providers,_⟩ := extension
  obtain ⟨listed,enabled,maps⟩ := (mem_enabledMappings reviewed original mapping).mp member
  refine ⟨original.extend (added original),rfl,?_,rfl⟩
  apply (mem_enabledMappings hydrated _ mapping).mpr
  exact ⟨providers ▸ List.mem_map_of_mem listed,enabled,List.mem_append_left _ maps⟩

end Registry.Extends

section Hydrated
variable (arithmetic : Decimal.Arithmetic)

theorem hydrateProvider_extends (registry : Registry) (providerId : String) (upstream : List ModelMapping)
    (distinct : (registry.providers.map Provider.id).Nodup) :
    registry.Extends (hydrateProvider registry providerId upstream).2 := by
  rw [hydrateProvider_eq registry providerId upstream distinct]
  refine ⟨additions providerId upstream,rfl,fun provider mapping member => ?_⟩
  unfold additions at member
  split at member
  · exact ((mem_newMappings upstream provider mapping).mp member).2
  · cases member

theorem hydrateProvider_ids (registry : Registry) (providerId : String) (upstream : List ModelMapping) :
    (hydrateProvider registry providerId upstream).2.providers.map Provider.id =
      registry.providers.map Provider.id := by
  cases hydrateProvider_hydrates providerId upstream registry with
  | absent _ same => rw [same]
  | target before after target extended listed _ _ replaced covers =>
    obtain ⟨added,rfl,_⟩ := covers.appended
    rw [listed,replaced,List.map_append,List.map_append,List.map_cons,List.map_cons]
    rfl

theorem hydrateSource_ids (registry : Registry) (fetched : (String × String) × Option (List UpstreamModel)) :
    (hydrateSource arithmetic registry fetched).providers.map Provider.id = registry.providers.map Provider.id := by
  unfold hydrateSource
  split
  · exact hydrateProvider_ids registry _ _
  · rfl

theorem hydrateSources_ids (fetched : List ((String × String) × Option (List UpstreamModel))) (registry : Registry) :
    (fetched.foldl (hydrateSource arithmetic) registry).providers.map Provider.id =
      registry.providers.map Provider.id := by
  induction fetched generalizing registry with
  | nil => rfl
  | cons source rest ih => rw [List.foldl_cons,ih,hydrateSource_ids]

theorem hydrateSources_extends (fetched : List ((String × String) × Option (List UpstreamModel))) (registry : Registry)
    (distinct : (registry.providers.map Provider.id).Nodup) :
    registry.Extends (fetched.foldl (hydrateSource arithmetic) registry) := by
  induction fetched generalizing registry with
  | nil => exact .refl registry
  | cons source rest ih =>
    have first : registry.Extends (hydrateSource arithmetic registry source) := by
      unfold hydrateSource
      split
      · exact hydrateProvider_extends registry _ _ distinct
      · exact .refl registry
    exact first.trans (ih _ (first.ids ▸ distinct))

/-- What the service has loaded extends what was reviewed. -/
theorem coverage_extends (registry : Registry) (answers : List (Option (List UpstreamModel)))
    (valid : (hydrateUpstreamCoverage arithmetic registry answers).validate = .ok ()) :
    registry.Extends (hydrateUpstreamCoverage arithmetic registry answers) := by
  apply hydrateSources_extends
  rw [← hydrateSources_ids arithmetic ((catalogSources registry).zip answers) registry]
  exact Registry.validate_distinct _ valid

end Hydrated

end SerenRouter
