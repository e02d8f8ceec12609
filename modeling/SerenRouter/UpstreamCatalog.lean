import SerenRouter.Pricing

/-! Coverage that an upstream catalog adds to a provider before startup. A reviewed slug keeps
its mapping; any other slug is added as often as the upstream lists it with usable prices. -/
namespace SerenRouter
open Kernel

structure UpstreamPricing where
  prompt : Option String
  completion : Option String
  inputCacheRead : Option String

structure UpstreamModel where
  id : String
  name : Option String
  contextLength : Option Nat
  pricing : Option UpstreamPricing

structure UpstreamCatalog where
  mappings : List ModelMapping
  advertised : Nat

structure HydrationOutcome where
  added : Nat
  explicitRetained : Nat
  deriving DecidableEq

/-- `HydrationOutcome::default()`. -/
def HydrationOutcome.default : HydrationOutcome := ⟨0,0⟩

section Discovery
variable (arithmetic : Decimal.Arithmetic)

def pricePerMtok (pricePerToken : Option String) : Option Decimal := do
  let text ← pricePerToken
  let parsed ← arithmetic.fromStr (Text.trim text)
  if parsed.negative then none
  else arithmetic.mul parsed Decimal.million

def mappingFromModel (model : UpstreamModel) : Option ModelMapping := do
  let pricing ← model.pricing
  let inputPricePerMtok ← pricePerMtok arithmetic pricing.prompt
  let outputPricePerMtok ← pricePerMtok arithmetic pricing.completion
  let cachedInputPricePerMtok := pricePerMtok arithmetic pricing.inputCacheRead
  let contextLength ← model.contextLength.filter (fun length => 0 < length)
  let name := (model.name.filter (fun name => !Text.isBlank name)).getD model.id
  return {
    slug := model.id
    name := name
    contextLength := contextLength
    providerModelId := model.id
    inputPricePerMtok := inputPricePerMtok
    cachedInputPricePerMtok := cachedInputPricePerMtok
    outputPricePerMtok := outputPricePerMtok
    requestConstraints := RequestConstraints.default }

def mappingsFromCatalog (models : List UpstreamModel) : UpstreamCatalog :=
  ⟨models.filterMap (mappingFromModel arithmetic),models.length⟩

end Discovery

def Provider.slugs (provider : Provider) : List String := provider.models.map ModelMapping.slug

/-- One turn of the loop over the upstream mappings; the explicit slugs are those from before it. -/
def pushMapping (explicit : Finset String) (pushed : List ModelMapping × Nat) (mapping : ModelMapping) :
    List ModelMapping × Nat :=
  if mapping.slug ∈ explicit then pushed else (pushed.1 ++ [mapping],pushed.2 + 1)

def Provider.hydrate (provider : Provider) (upstream : List ModelMapping) : HydrationOutcome × Provider :=
  let explicit := provider.slugs.toFinset
  let (models,added) := upstream.foldl (pushMapping explicit) (provider.models,0)
  (⟨added,explicit.card⟩,{provider with models := models})

/-- The first provider with the id is hydrated. -/
def hydrateFirst (providerId : String) (upstream : List ModelMapping) : List Provider → HydrationOutcome × List Provider
  | [] => (.default,[])
  | provider :: rest =>
    if provider.id = providerId then
      let (outcome,hydrated) := provider.hydrate upstream
      (outcome,hydrated :: rest)
    else
      let (outcome,rest) := hydrateFirst providerId upstream rest
      (outcome,provider :: rest)

def hydrateProvider (registry : Registry) (providerId : String) (upstream : List ModelMapping) :
    HydrationOutcome × Registry :=
  let (outcome,providers) := hydrateFirst providerId upstream registry.providers
  (outcome,⟨providers⟩)

def Provider.extend (provider : Provider) (added : List ModelMapping) : Provider :=
  {provider with models := provider.models ++ added}

/-- The upstream mappings whose slugs are not explicit. -/
def newMappings (provider : Provider) (upstream : List ModelMapping) : List ModelMapping :=
  upstream.filter (fun mapping => mapping.slug ∉ provider.slugs)

theorem pushMappings_eq (explicit : Finset String) (upstream models : List ModelMapping) (added : Nat) :
    upstream.foldl (pushMapping explicit) (models,added) =
      (models ++ upstream.filter (fun mapping => mapping.slug ∉ explicit),
        added + (upstream.filter (fun mapping => mapping.slug ∉ explicit)).length) := by
  induction upstream generalizing models added with
  | nil => simp
  | cons mapping upstream ih =>
    rw [List.foldl_cons,pushMapping]
    by_cases known : mapping.slug ∈ explicit
    · simp [known,ih]
    · simp [known,ih,Nat.add_assoc,Nat.add_comm 1]

theorem hydrate_eq (provider : Provider) (upstream : List ModelMapping) :
    provider.hydrate upstream = (⟨(newMappings provider upstream).length,provider.slugs.toFinset.card⟩,
      provider.extend (newMappings provider upstream)) := by
  simp [Provider.hydrate,pushMappings_eq,newMappings,Provider.extend]

/-- What hydration adds to a provider of the registry. -/
def additions (providerId : String) (upstream : List ModelMapping) (provider : Provider) : List ModelMapping :=
  if provider.id = providerId then newMappings provider upstream else []

theorem hydrateProvider_eq (registry : Registry) (providerId : String) (upstream : List ModelMapping)
    (distinct : (registry.providers.map Provider.id).Nodup) :
    (hydrateProvider registry providerId upstream).2 =
      ⟨registry.providers.map (fun provider => provider.extend (additions providerId upstream provider))⟩ := by
  have unchanged (provider : Provider) (different : provider.id ≠ providerId) :
      provider.extend (additions providerId upstream provider) = provider := by
    simp [Provider.extend,additions,different]
  suffices ∀ providers : List Provider, (providers.map Provider.id).Nodup →
      (hydrateFirst providerId upstream providers).2 =
        providers.map (fun provider => provider.extend (additions providerId upstream provider)) by
    rw [← this registry.providers distinct]
    rfl
  intro providers distinct
  induction providers with
  | nil => rfl
  | cons provider rest ih =>
    obtain ⟨fresh,distinct⟩ := List.nodup_cons.mp distinct
    rw [hydrateFirst,List.map_cons]
    split
    · rename_i same
      have others : rest.map (fun provider => provider.extend (additions providerId upstream provider)) = rest := by
        refine (List.map_congr_left (fun other member => unchanged other (fun equal => fresh ?_))).trans (List.map_id rest)
        exact List.mem_map.mpr ⟨other,member,equal.trans same.symm⟩
      rw [others,hydrate_eq,additions,if_pos same]
    · rename_i different
      rw [unchanged provider different,← ih distinct]

section Validation
open Registry

theorem validateProvider_extend (seen : List String) (provider : Provider) (added : List ModelMapping) :
    validateProvider seen (provider.extend added) = .ok () ↔
      validateProvider seen provider = .ok () ∧ ∀ mapping ∈ added, MappingValid mapping := by
  simp only [validateProvider,guard_success,forM_success,validateMapping_success]
  simp only [Provider.extend,List.forall_mem_append,and_assoc]

theorem validateFrom_extend (seen : List String) (providers : List Provider) (added : Provider → List ModelMapping) :
    validateFrom seen (providers.map (fun provider => provider.extend (added provider))) = .ok () ↔
      validateFrom seen providers = .ok () ∧ ∀ provider ∈ providers, ∀ mapping ∈ added provider, MappingValid mapping := by
  induction providers generalizing seen with
  | nil => simp [validateFrom]
  | cons provider rest ih =>
    have rest_extended := ih (provider.id :: seen)
    rw [List.map_cons,validateFrom,validateFrom,bind_success,bind_success,List.forall_mem_cons]
    constructor
    · rintro ⟨_,first,rest⟩
      obtain ⟨own,lawful⟩ := (validateProvider_extend seen provider (added provider)).mp first
      obtain ⟨others,lawful_rest⟩ := rest_extended.mp rest
      exact ⟨⟨(),own,others⟩,lawful,lawful_rest⟩
    · rintro ⟨⟨_,own,others⟩,lawful,lawful_rest⟩
      exact ⟨(),(validateProvider_extend seen provider (added provider)).mpr ⟨own,lawful⟩,
        rest_extended.mpr ⟨others,lawful_rest⟩⟩

end Validation

section Reading
variable (arithmetic : Decimal.Arithmetic)

/-- The upstream gives the model a context length and these prices. -/
structure UpstreamModel.Offers (model : UpstreamModel) (input output : Decimal) : Prop where
  priced : ∃ pricing, model.pricing = some pricing ∧ pricePerMtok arithmetic pricing.prompt = some input ∧
    pricePerMtok arithmetic pricing.completion = some output
  sized : ∃ length, model.contextLength = some length ∧ 0 < length

/-- Neither the display name nor the id shows anything. -/
structure UpstreamModel.Nameless (model : UpstreamModel) : Prop where
  id : Text.isBlank model.id = true
  name : ∀ name, model.name = some name → Text.isBlank name = true

theorem mappingFromModel_offers (model : UpstreamModel) (mapping : ModelMapping)
    (mapped : mappingFromModel arithmetic model = some mapping) :
    mapping.slug = model.id ∧ model.Offers arithmetic mapping.inputPricePerMtok mapping.outputPricePerMtok ∧
      (∃ pricing, model.pricing = some pricing ∧
        mapping.cachedInputPricePerMtok = pricePerMtok arithmetic pricing.inputCacheRead) ∧
      mapping.name = (model.name.filter (fun name => !Text.isBlank name)).getD model.id ∧
      mapping.contextLength ≠ 0 ∧ mapping.requestConstraints = RequestConstraints.default := by
  unfold mappingFromModel at mapped
  obtain ⟨pricing,present,mapped⟩ := Option.bind_eq_some_iff.mp mapped
  obtain ⟨input,inputRead,mapped⟩ := Option.bind_eq_some_iff.mp mapped
  obtain ⟨output,outputRead,mapped⟩ := Option.bind_eq_some_iff.mp mapped
  obtain ⟨length,sized,mapped⟩ := Option.bind_eq_some_iff.mp mapped
  cases mapped
  obtain ⟨context,positive⟩ := Option.filter_eq_some_iff.mp sized
  have positive := of_decide_eq_true positive
  exact ⟨rfl,⟨⟨pricing,present,inputRead,outputRead⟩,length,context,positive⟩,⟨pricing,present,rfl⟩,rfl,
    Nat.pos_iff_ne_zero.mp positive,rfl⟩

theorem mappingFromModel_total (model : UpstreamModel) (input output : Decimal)
    (offers : model.Offers arithmetic input output) : ∃ mapping, mappingFromModel arithmetic model = some mapping ∧
      mapping.inputPricePerMtok = input ∧ mapping.outputPricePerMtok = output := by
  obtain ⟨⟨pricing,present,inputRead,outputRead⟩,length,context,positive⟩ := offers
  have sized : model.contextLength.filter (fun length => 0 < length) = some length :=
    Option.filter_eq_some_iff.mpr ⟨context,decide_eq_true positive⟩
  refine ⟨_,by
    rw [mappingFromModel,present,Option.bind_eq_bind,Option.bind_some,inputRead,Option.bind_eq_bind,Option.bind_some,
      outputRead,Option.bind_eq_bind,Option.bind_some,sized]
    rfl,by rfl,by rfl⟩

theorem fallbackName_blank (model : UpstreamModel) :
    Text.isBlank ((model.name.filter (fun name => !Text.isBlank name)).getD model.id) = true ↔ model.Nameless := by
  cases named : model.name with
  | none =>
    rw [Option.filter_none,Option.getD_none]
    constructor
    · intro blank
      refine ⟨blank,fun name same => ?_⟩
      rw [named] at same
      cases same
    · intro nameless
      exact nameless.id
  | some name =>
    rw [Option.filter_some]
    cases blank : Text.isBlank name with
    | true =>
      rw [Bool.not_true,if_neg (by decide),Option.getD_none]
      constructor
      · intro fallback
        refine ⟨fallback,fun other same => ?_⟩
        rw [named] at same
        cases same
        exact blank
      · intro nameless
        exact nameless.id
    | false =>
      rw [Bool.not_false,if_pos rfl,Option.getD_some,blank]
      constructor
      · intro shown
        cases shown
      · intro nameless
        rw [← blank,nameless.name name named]

theorem pricePerMtok_nonnegative (signed : arithmetic.Signed) (text : Option String) (price : Decimal)
    (read : pricePerMtok arithmetic text = some price) : Decimal.zero ≤ price := by
  unfold pricePerMtok at read
  obtain ⟨text,_,read⟩ := Option.bind_eq_some_iff.mp read
  obtain ⟨parsed,_,read⟩ := Option.bind_eq_some_iff.mp read
  split at read
  · cases read
  · rename_i nonnegative
    exact signed.mul parsed _ price ((Decimal.zero_le_iff parsed).mpr (.inl (by simpa using nonnegative)))
      (Decimal.zero_le_ofNat _ _) read

theorem mappingFromModel_nonnegative (signed : arithmetic.Signed) (model : UpstreamModel) (mapping : ModelMapping)
    (mapped : mappingFromModel arithmetic model = some mapping) : mapping.prices.Nonnegative := by
  obtain ⟨_,⟨⟨_,_,inputRead,outputRead⟩,_⟩,⟨_,_,cached⟩,_⟩ := mappingFromModel_offers arithmetic model mapping mapped
  refine ⟨pricePerMtok_nonnegative arithmetic signed _ _ inputRead,pricePerMtok_nonnegative arithmetic signed _ _ outputRead,?_⟩
  intro price present
  exact pricePerMtok_nonnegative arithmetic signed _ price (cached.symm.trans present)

theorem mappingFromModel_valid (model : UpstreamModel) (mapping : ModelMapping)
    (mapped : mappingFromModel arithmetic model = some mapping) :
    Registry.MappingValid mapping ↔ ¬ model.Nameless := by
  obtain ⟨_,_,_,named,sized,constraints⟩ := mappingFromModel_offers arithmetic model mapping mapped
  rw [← fallbackName_blank,← named,Bool.not_eq_true]
  constructor
  · intro lawful
    exact lawful.named
  · intro shown
    refine ⟨shown,sized,?_,?_⟩
    · rw [constraints]
      decide
    · intro bounds present
      rw [constraints] at present
      cases present

end Reading

end SerenRouter
