import SerenRouter.UsageCost
import SerenRouter.Policy.RouteGuarantees

/-! The prices that a routed response is costed with: when the lookup under the canonical
model and the served provider finds the mapping that served it. -/
namespace SerenRouter
open Kernel Kernel.Json

theorem canonicalSlug_prefixed (providerId suffix : String) (nonempty : suffix ≠ "") :
    canonicalSlug (routeName providerId suffix) providerId = suffix := by
  have first : Text.stripPrefix (routeName providerId suffix) providerId = some ("/" ++ suffix) :=
    (Text.stripPrefix_success _ _ _).mpr (by rw [routeName,String.append_assoc])
  have second : Text.stripPrefix ("/" ++ suffix) "/" = some suffix := (Text.stripPrefix_success _ _ _).mpr rfl
  simp [canonicalSlug,first,second,nonempty]

theorem canonicalSlug_plain (slug providerId : String) (plain : ∀ suffix, slug = routeName providerId suffix → suffix = "") :
    canonicalSlug slug providerId = slug := by
  unfold canonicalSlug
  split
  · rename_i suffix found
    obtain ⟨rest,first,second⟩ := Option.bind_eq_some_iff.mp found
    rw [Text.stripPrefix_success] at first second
    have empty := plain suffix (by rw [first,second,routeName,String.append_assoc])
    simp [empty]
  · rfl

/-- A routed response is priced from the mapping that served it exactly when its slug does not
read as a prefixed slug, unless that one has the same prices with the provider. -/
theorem routed_prices_iff (registry : Registry) (table : PriceTable)
    (accepted : PriceTable.fromRegistry registry = .ok table) (profile : RoutingProfile) (provider : Provider)
    (model : ModelMapping) (serves : Serves registry (profile,model.slug) provider model) :
    pricesForRequest model.slug provider.id table = .ok model.prices ↔
      ∀ suffix, model.slug = routeName provider.id suffix → suffix ≠ "" →
        ∃ other ∈ provider.models, other.slug = suffix ∧ other.prices = model.prices := by
  have stored := PriceTable.get_provider registry table accepted provider serves.listed serves.enabled
  rw [pricesForRequest_success,stored]
  constructor
  · intro found suffix spelled nonempty
    rwa [spelled,canonicalSlug_prefixed provider.id suffix nonempty] at found
  · intro condition
    by_cases overlap : ∃ suffix, model.slug = routeName provider.id suffix ∧ suffix ≠ ""
    · obtain ⟨suffix,spelled,nonempty⟩ := overlap
      rw [spelled,canonicalSlug_prefixed provider.id suffix nonempty]
      exact condition suffix spelled nonempty
    · push Not at overlap
      rw [canonicalSlug_plain model.slug provider.id overlap]
      exact ⟨model,serves.mapped,rfl,rfl⟩

section Sample

theorem sampleRegistry_priced : ∃ table, PriceTable.fromRegistry sampleRegistry = .ok table := by
  have accepted : (PriceTable.fromRegistry sampleRegistry).toOption.isSome = true := by decide +kernel
  obtain ⟨table,found⟩ := Option.isSome_iff_exists.mp accepted
  exact ⟨table,(toOption_some _ _).mp found⟩

theorem routed_prices_sample :
    ∃ table, PriceTable.fromRegistry sampleRegistry = .ok table ∧
      pricesForRequest "vendor/sole" "alpha" table = .ok (sampleModel "vendor/sole").prices := by
  obtain ⟨table,accepted⟩ := sampleRegistry_priced
  refine ⟨table,accepted,(routed_prices_iff sampleRegistry table accepted .production
    (sampleProvider "alpha" 0 ["vendor/model","vendor/sole"]) (sampleModel "vendor/sole")
    sampleProvider_compatible.toServes).mpr ?_⟩
  intro suffix spelled
  have front := congrArg (fun text => text.toList.head?) spelled
  simp [sampleModel,routeName,sampleProvider] at front

/-- One provider whose id is the vendor part of its slug. -/
def overlapRegistry : Registry := ⟨[sampleProvider "openai" 0 ["openai/gpt-4"]]⟩

/-- The router selects the provider for the slug, but the lookup strips the slug's own vendor
part and finds no price. -/
theorem routed_price_unknown :
    ∃ policy left after table,
      RoutingPolicy.fromRegistryWithRng Decimal.exact overlapRegistry sampleConfig .empty () = .ok policy ∧
      (policy.withDraw ()).routeForEndpoint Decimal.exact firstIndex .production .chat
        (sampleRequest "openai/gpt-4") = .ok ((.ok ⟨.production,"openai/gpt-4","openai",[],false⟩,left),after) ∧
      PriceTable.fromRegistry overlapRegistry = .ok table ∧
      pricesForRequest "openai/gpt-4" "openai" table = .error .unknownPrice := by
  obtain ⟨policy,trace,reached,left,after,built,ran,routed⟩ := answerAfter_success overlapRegistry [] "openai/gpt-4"
    (.ok ⟨.production,"openai/gpt-4","openai",[],false⟩) (by decide +kernel)
  cases ran
  have unknown : (PriceTable.fromRegistry overlapRegistry).toOption.map (pricesForRequest "openai/gpt-4" "openai") =
      some (.error .unknownPrice) := by decide +kernel
  obtain ⟨table,accepted,missing⟩ := Option.map_eq_some_iff.mp unknown
  exact ⟨policy,left,after,table,built,routed,(toOption_some _ _).mp accepted,missing⟩

end Sample

end SerenRouter
