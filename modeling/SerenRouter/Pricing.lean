import SerenRouter.Registry
import SerenRouter.Kernel.HashMap

/-! The price table built from the registry, and the exact cost formulas. Every operator
that overflows panics, as the decimal library's does. -/
namespace SerenRouter
open Kernel

structure ModelPrices where
  inputPricePerMtok : Decimal
  outputPricePerMtok : Decimal
  deriving DecidableEq

structure ProviderPrices where
  providerCost : ModelPrices
  providerCachedInputPricePerMtok : Option Decimal
  deriving DecidableEq

/-- No price is negative. -/
structure ProviderPrices.Nonnegative (prices : ProviderPrices) : Prop where
  input : Decimal.zero ≤ prices.providerCost.inputPricePerMtok
  output : Decimal.zero ≤ prices.providerCost.outputPricePerMtok
  cached : ∀ cached, prices.providerCachedInputPricePerMtok = some cached → Decimal.zero ≤ cached

structure Usage where
  promptTokens : UInt64
  completionTokens : UInt64
  deriving DecidableEq

structure PriceTable where
  pricesByProvider : HashMap String (HashMap String ProviderPrices)

inductive PriceSide where
  | input
  | cachedInput
  | output
  deriving DecidableEq

inductive PriceTableError where
  | invalidRegistry (error : RegistryValidationError)
  | duplicateMapping (providerId canonicalSlug : String)
  | negativePrice (providerId canonicalSlug : String) (priceSide : PriceSide)

namespace ModelMapping

/-- The prices of one mapping, as the table stores them. -/
def prices (mapping : ModelMapping) : ProviderPrices :=
  ⟨⟨mapping.inputPricePerMtok,mapping.outputPricePerMtok⟩,mapping.cachedInputPricePerMtok⟩

/-- The first negative price, in the order input, cached input, output. -/
def negativeSide (mapping : ModelMapping) : Option PriceSide :=
  [(PriceSide.input,some mapping.inputPricePerMtok),
    (PriceSide.cachedInput,mapping.cachedInputPricePerMtok),
    (PriceSide.output,some mapping.outputPricePerMtok)].findSome? (fun (side,price) =>
      price.bind (fun price => if price < Decimal.zero then some side else none))

theorem negativeSide_none (mapping : ModelMapping) : mapping.negativeSide = none ↔ mapping.prices.Nonnegative := by
  unfold negativeSide
  simp only [List.findSome?_eq_none_iff,List.mem_cons,List.not_mem_nil,or_false,forall_eq_or_imp,
    forall_eq,Option.bind_eq_none_iff,Option.some.injEq,ite_eq_right_iff,reduceCtorEq,imp_false,
    forall_eq',Decimal.not_lt_iff]
  constructor
  · rintro ⟨input,cached,output⟩
    exact ⟨input,output,cached⟩
  · intro nonnegative
    exact ⟨nonnegative.input,nonnegative.cached,nonnegative.output⟩

end ModelMapping

namespace PriceTable
open PriceTableError

def addModel (provider : Provider) (prices : HashMap String ProviderPrices) (model : ModelMapping) :
    Except PriceTableError (HashMap String ProviderPrices) :=
  match model.negativeSide with
  | some side => .error (negativePrice provider.id model.slug side)
  | none =>
    if (prices model.slug).isSome then .error (duplicateMapping provider.id model.slug)
    else .ok (prices.insert model.slug model.prices)

def addProvider (table : HashMap String (HashMap String ProviderPrices)) (provider : Provider) :
    Except PriceTableError (HashMap String (HashMap String ProviderPrices)) := do
  let prices ← provider.models.foldlM (addModel provider) ((table provider.id).getD .empty)
  .ok (table.insert provider.id prices)

def fromRegistry (registry : Registry) : Except PriceTableError PriceTable :=
  match registry.validate with
  | .error error => .error (invalidRegistry error)
  | .ok () => do
    let prices ← (registry.providers.filter Provider.enabled).foldlM addProvider .empty
    .ok ⟨prices⟩

def get (table : PriceTable) (providerId canonicalSlug : String) : Option ProviderPrices :=
  (table.pricesByProvider providerId).bind (fun prices => prices canonicalSlug)

private theorem addModel_success (provider : Provider) (prices result : HashMap String ProviderPrices)
    (model : ModelMapping) (added : addModel provider prices model = .ok result) :
    model.negativeSide = none ∧ prices model.slug = none ∧ result = prices.insert model.slug model.prices := by
  unfold addModel at added
  split at added
  · cases added
  rename_i nonnegative
  split at added
  · cases added
  rename_i fresh
  cases added
  exact ⟨nonnegative,by simpa using fresh,rfl⟩

/-- What the loop over the models of one provider adds to the prices it starts from. -/
structure ModelsAdded (models : List ModelMapping) (before after : HashMap String ProviderPrices) : Prop where
  stored : ∀ model ∈ models, after model.slug = some model.prices
  kept : ∀ slug, (∀ model ∈ models, model.slug ≠ slug) → after slug = before slug
  fresh : ∀ model ∈ models, before model.slug = none
  nonnegative : ∀ model ∈ models, model.negativeSide = none
  distinct : (models.map ModelMapping.slug).Nodup

private theorem addModels_added (provider : Provider) (models : List ModelMapping)
    (before after : HashMap String ProviderPrices)
    (added : models.foldlM (addModel provider) before = .ok after) : ModelsAdded models before after := by
  induction models generalizing before with
  | nil =>
    cases added
    exact ⟨by simp,fun _ _ => rfl,by simp,by simp,by simp⟩
  | cons model models ih =>
    rw [List.foldlM_cons,bind_success] at added
    obtain ⟨middle,first,added⟩ := added
    obtain ⟨nonnegative,fresh,rfl⟩ := addModel_success provider before middle model first
    have rest := ih _ added
    have other : ∀ later ∈ models, later.slug ≠ model.slug := by
      intro later member same
      have absent := rest.fresh later member
      rw [same,HashMap.insert_self] at absent
      cases absent
    refine ⟨?_,?_,?_,?_,?_⟩
    · intro later member
      rcases List.mem_cons.mp member with rfl | inside
      · rw [rest.kept _ other,HashMap.insert_self]
      · exact rest.stored later inside
    · intro slug apart
      rw [rest.kept slug (fun later member => apart later (by simp [member])),
        HashMap.insert_ne _ _ _ _ (Ne.symm (apart model (by simp)))]
    · intro later member
      rcases List.mem_cons.mp member with rfl | inside
      · exact fresh
      · rw [← HashMap.insert_ne before model.slug later.slug model.prices (other later inside)]
        exact rest.fresh later inside
    · intro later member
      rcases List.mem_cons.mp member with rfl | inside
      · exact nonnegative
      · exact rest.nonnegative later inside
    · refine List.nodup_cons.mpr ⟨?_,rest.distinct⟩
      intro member
      obtain ⟨later,inside,same⟩ := List.mem_map.mp member
      exact other later inside same

private theorem addProviders_added (providers : List Provider)
    (before after : HashMap String (HashMap String ProviderPrices))
    (distinct : (providers.map Provider.id).Nodup)
    (fresh : ∀ provider ∈ providers, before provider.id = none)
    (added : providers.foldlM addProvider before = .ok after) :
    (∀ provider ∈ providers, ∃ prices, after provider.id = some prices ∧
      ModelsAdded provider.models .empty prices) ∧
    ∀ id, (∀ provider ∈ providers, provider.id ≠ id) → after id = before id := by
  induction providers generalizing before with
  | nil =>
    cases added
    exact ⟨by simp,fun _ _ => rfl⟩
  | cons provider providers ih =>
    rw [List.foldlM_cons,bind_success] at added
    obtain ⟨middle,first,added⟩ := added
    rw [addProvider,bind_success,fresh provider (by simp)] at first
    obtain ⟨prices,models,first⟩ := first
    cases first
    obtain ⟨absent,distinct⟩ := List.nodup_cons.mp distinct
    have other : ∀ later ∈ providers, later.id ≠ provider.id := by
      intro later member same
      exact absent (List.mem_map.mpr ⟨later,member,same⟩)
    obtain ⟨stored,kept⟩ := ih (before.insert provider.id prices) distinct (by
      intro later member
      rw [HashMap.insert_ne _ _ _ _ (other later member)]
      exact fresh later (by simp [member])) added
    refine ⟨?_,?_⟩
    · intro later member
      rcases List.mem_cons.mp member with rfl | inside
      · exact ⟨prices,by rw [kept _ other,HashMap.insert_self],addModels_added later _ _ _ models⟩
      · exact stored later inside
    · intro id apart
      rw [kept id (fun later member => apart later (by simp [member])),
        HashMap.insert_ne _ _ _ _ (Ne.symm (apart provider (by simp)))]

private theorem addModels_accepts (provider : Provider) (models : List ModelMapping)
    (before : HashMap String ProviderPrices) (nonnegative : ∀ model ∈ models, model.negativeSide = none)
    (distinct : (models.map ModelMapping.slug).Nodup) (fresh : ∀ model ∈ models, before model.slug = none) :
    ∃ after, models.foldlM (addModel provider) before = .ok after := by
  induction models generalizing before with
  | nil => exact ⟨before,rfl⟩
  | cons model models ih =>
    obtain ⟨absent,distinct⟩ := List.nodup_cons.mp distinct
    have first : addModel provider before model = .ok (before.insert model.slug model.prices) := by
      simp [addModel,nonnegative model (by simp),fresh model (by simp)]
    obtain ⟨after,added⟩ := ih (before.insert model.slug model.prices) (fun later member => nonnegative later (by simp [member]))
      distinct (fun later member => by
        rw [HashMap.insert_ne _ _ _ _ (fun same => absent (List.mem_map.mpr ⟨later,member,same⟩))]
        exact fresh later (by simp [member]))
    exact ⟨after,by rw [List.foldlM_cons,first,ok_bind,added]⟩

private theorem addProviders_accepts (providers : List Provider)
    (before : HashMap String (HashMap String ProviderPrices)) (distinct : (providers.map Provider.id).Nodup)
    (fresh : ∀ provider ∈ providers, before provider.id = none)
    (lawful : ∀ provider ∈ providers, (provider.models.map ModelMapping.slug).Nodup ∧
      ∀ model ∈ provider.models, model.negativeSide = none) :
    ∃ after, providers.foldlM addProvider before = .ok after := by
  induction providers generalizing before with
  | nil => exact ⟨before,rfl⟩
  | cons provider providers ih =>
    obtain ⟨absent,distinct⟩ := List.nodup_cons.mp distinct
    obtain ⟨slugs,nonnegative⟩ := lawful provider (by simp)
    obtain ⟨prices,added⟩ := addModels_accepts provider provider.models .empty nonnegative slugs (fun _ _ => rfl)
    have first : addProvider before provider = .ok (before.insert provider.id prices) := by
      rw [addProvider,fresh provider (by simp),Option.getD_none,added]
      rfl
    obtain ⟨after,rest⟩ := ih (before.insert provider.id prices) distinct (fun later member => by
        rw [HashMap.insert_ne _ _ _ _ (fun same => absent (List.mem_map.mpr ⟨later,member,same⟩))]
        exact fresh later (by simp [member])) (fun later member => lawful later (by simp [member]))
    exact ⟨after,by rw [List.foldlM_cons,first,ok_bind,rest]⟩

section Table
variable (registry : Registry) (table : PriceTable) (accepted : fromRegistry registry = .ok table)
include accepted

theorem fromRegistry_validates : registry.validate = .ok () := by
  unfold fromRegistry at accepted
  split at accepted
  · cases accepted
  · assumption

private theorem fromRegistry_added :
    (∀ provider ∈ registry.providers, provider.enabled = true →
      ∃ prices, table.pricesByProvider provider.id = some prices ∧
        ModelsAdded provider.models .empty prices) ∧
    ∀ id, (∀ provider ∈ registry.providers, provider.enabled = true → provider.id ≠ id) →
      table.pricesByProvider id = none := by
  have valid := fromRegistry_validates registry table accepted
  rw [fromRegistry,valid] at accepted
  dsimp only at accepted
  rw [bind_success] at accepted
  obtain ⟨prices,added,equal⟩ := accepted
  cases equal
  have distinct : ((registry.providers.filter Provider.enabled).map Provider.id).Nodup :=
    List.Nodup.sublist (List.Sublist.map _ List.filter_sublist) (registry.validate_distinct valid)
  obtain ⟨stored,kept⟩ := addProviders_added _ _ _ distinct (fun _ _ => rfl) added
  refine ⟨fun provider member enabled => stored provider (by simp [member,enabled]),?_⟩
  intro id apart
  refine kept id (fun provider member => ?_)
  obtain ⟨present,enabled⟩ := List.mem_filter.mp member
  exact apart provider present enabled

theorem get_mapping (provider : Provider) (member : provider ∈ registry.providers)
    (enabled : provider.enabled = true) (mapping : ModelMapping) (maps : mapping ∈ provider.models) :
    table.get provider.id mapping.slug = some mapping.prices := by
  obtain ⟨prices,found,added⟩ := (fromRegistry_added registry table accepted).1 provider member enabled
  simp [get,found,added.stored mapping maps]

theorem get_provider (provider : Provider) (member : provider ∈ registry.providers)
    (enabled : provider.enabled = true) (slug : String) (prices : ProviderPrices) :
    table.get provider.id slug = some prices ↔
      ∃ mapping ∈ provider.models, mapping.slug = slug ∧ mapping.prices = prices := by
  constructor
  · intro found
    obtain ⟨stored,read,added⟩ := (fromRegistry_added registry table accepted).1 provider member enabled
    by_cases maps : ∃ mapping ∈ provider.models, mapping.slug = slug
    · obtain ⟨mapping,present,rfl⟩ := maps
      rw [get_mapping registry table accepted provider member enabled mapping present] at found
      exact ⟨mapping,present,rfl,by simpa using found⟩
    · have absent := added.kept slug (fun mapping present same => maps ⟨mapping,present,same⟩)
      simp [get,read,absent] at found
  · rintro ⟨mapping,present,rfl,rfl⟩
    exact get_mapping registry table accepted provider member enabled mapping present

theorem get_enabled (id slug : String) (prices : ProviderPrices) (found : table.get id slug = some prices) :
    ∃ provider ∈ registry.providers, provider.enabled = true ∧ provider.id = id := by
  by_contra absent
  push Not at absent
  have missing := (fromRegistry_added registry table accepted).2 id absent
  simp [get,missing] at found

theorem slugs_distinct (provider : Provider) (member : provider ∈ registry.providers)
    (enabled : provider.enabled = true) : (provider.models.map ModelMapping.slug).Nodup := by
  obtain ⟨_,_,added⟩ := (fromRegistry_added registry table accepted).1 provider member enabled
  exact added.distinct

theorem prices_nonnegative (id slug : String) (prices : ProviderPrices)
    (found : table.get id slug = some prices) : prices.Nonnegative := by
  obtain ⟨provider,member,enabled,rfl⟩ := get_enabled registry table accepted id slug prices found
  obtain ⟨mapping,maps,_,rfl⟩ :=
    (get_provider registry table accepted provider member enabled slug prices).mp found
  obtain ⟨_,_,added⟩ := (fromRegistry_added registry table accepted).1 provider member enabled
  exact (ModelMapping.negativeSide_none mapping).mp (added.nonnegative mapping maps)

end Table

theorem fromRegistry_accepts (registry : Registry) : (∃ table, fromRegistry registry = .ok table) ↔
    registry.validate = .ok () ∧ ∀ provider ∈ registry.providers, provider.enabled = true →
      (provider.models.map ModelMapping.slug).Nodup ∧ ∀ model ∈ provider.models, model.prices.Nonnegative := by
  constructor
  · rintro ⟨table,accepted⟩
    refine ⟨fromRegistry_validates registry table accepted,fun provider member enabled => ?_⟩
    obtain ⟨_,_,added⟩ := (fromRegistry_added registry table accepted).1 provider member enabled
    exact ⟨added.distinct,fun model maps => (ModelMapping.negativeSide_none model).mp (added.nonnegative model maps)⟩
  · rintro ⟨valid,lawful⟩
    have distinct : ((registry.providers.filter Provider.enabled).map Provider.id).Nodup :=
      List.Nodup.sublist (List.Sublist.map _ List.filter_sublist) (registry.validate_distinct valid)
    obtain ⟨prices,added⟩ := addProviders_accepts (registry.providers.filter Provider.enabled) .empty distinct
      (fun _ _ => rfl) (fun provider member => by
        obtain ⟨present,enabled⟩ := List.mem_filter.mp member
        obtain ⟨slugs,nonnegative⟩ := lawful provider present enabled
        exact ⟨slugs,fun model maps => (ModelMapping.negativeSide_none model).mpr (nonnegative model maps)⟩)
    refine ⟨⟨prices⟩,?_⟩
    rw [fromRegistry,valid]
    change ((registry.providers.filter Provider.enabled).foldlM addProvider .empty >>= _) = _
    rw [added]
    rfl

end PriceTable

/-- The number of fractional digits of the ledger's cost column. -/
def costScale : Nat := 10

def normalizeCostUsd (cost : Decimal) : Option Decimal :=
  if cost < Decimal.zero then none else some ((cost.roundDp costScale).rescale costScale)

section Cost
variable (arithmetic : Decimal.Arithmetic)

def roundedCost (costPerMillion : Decimal) : Except Panic Decimal := do
  let cost ← orOverflow (arithmetic.div costPerMillion (Decimal.ofNat 1000000)) "/"
  expect (normalizeCostUsd cost) "validated non-negative prices and usage produce a non-negative cost"

def costUsd (prices : ModelPrices) (usage : Usage) : Except Panic Decimal := do
  let promptCost ← orOverflow
    (arithmetic.mul (Decimal.ofU64 usage.promptTokens) prices.inputPricePerMtok) "*"
  let completionCost ← orOverflow
    (arithmetic.mul (Decimal.ofU64 usage.completionTokens) prices.outputPricePerMtok) "*"
  roundedCost arithmetic (← orOverflow (arithmetic.add promptCost completionCost) "+")

/-- `checked_sub` on unsigned 64-bit integers. -/
def checkedSub (left right : UInt64) : Option UInt64 :=
  if right ≤ left then some (left - right) else none

def providerCostUsd (prices : ProviderPrices) (usage : Usage) (cachedPromptTokens : Option UInt64) :
    Except Panic (Option Decimal) :=
  match prices.providerCachedInputPricePerMtok with
  | none => do return some (← costUsd arithmetic prices.providerCost usage)
  | some cachedInputPrice =>
    match cachedPromptTokens with
    | none => .ok none
    | some cachedPromptTokens =>
      match checkedSub usage.promptTokens cachedPromptTokens with
      | none => .ok none
      | some uncachedPromptTokens => do
        let uncachedCost ← orOverflow
          (arithmetic.mul (Decimal.ofU64 uncachedPromptTokens) prices.providerCost.inputPricePerMtok) "*"
        let cachedCost ← orOverflow
          (arithmetic.mul (Decimal.ofU64 cachedPromptTokens) cachedInputPrice) "*"
        let promptCost ← orOverflow (arithmetic.add uncachedCost cachedCost) "+"
        let completionCost ← orOverflow
          (arithmetic.mul (Decimal.ofU64 usage.completionTokens) prices.providerCost.outputPricePerMtok) "*"
        return some (← roundedCost arithmetic (← orOverflow (arithmetic.add promptCost completionCost) "+"))

/-- The division by a million fits. -/
def QuotientFits (costPerMillion : Decimal) : Prop :=
  ∃ cost, arithmetic.div costPerMillion (Decimal.ofNat 1000000) = some cost

/-- The products, sums and the quotient of the formula without cached tokens fit. -/
def CostFits (prices : ModelPrices) (usage : Usage) : Prop :=
  ∃ promptCost completionCost total,
    arithmetic.mul (Decimal.ofU64 usage.promptTokens) prices.inputPricePerMtok = some promptCost ∧
    arithmetic.mul (Decimal.ofU64 usage.completionTokens) prices.outputPricePerMtok = some completionCost ∧
    arithmetic.add promptCost completionCost = some total ∧ QuotientFits arithmetic total

/-- The products, sums and the quotient of the formula with cached tokens fit. -/
def CachedCostFits (prices : ModelPrices) (cachedInputPrice : Decimal) (usage : Usage)
    (cachedPromptTokens uncachedPromptTokens : UInt64) : Prop :=
  ∃ uncachedCost cachedCost promptCost completionCost total,
    arithmetic.mul (Decimal.ofU64 uncachedPromptTokens) prices.inputPricePerMtok = some uncachedCost ∧
    arithmetic.mul (Decimal.ofU64 cachedPromptTokens) cachedInputPrice = some cachedCost ∧
    arithmetic.add uncachedCost cachedCost = some promptCost ∧
    arithmetic.mul (Decimal.ofU64 usage.completionTokens) prices.outputPricePerMtok = some completionCost ∧
    arithmetic.add promptCost completionCost = some total ∧ QuotientFits arithmetic total

/-- The registry's formula does not overflow on the tokens of a response. -/
def FormulaFits (prices : ProviderPrices) (usage : Usage) (cachedPromptTokens : Option UInt64) : Prop :=
  match prices.providerCachedInputPricePerMtok with
  | none => CostFits arithmetic prices.providerCost usage
  | some cachedInputPrice => ∀ cached uncached, cachedPromptTokens = some cached →
      checkedSub usage.promptTokens cached = some uncached →
      CachedCostFits arithmetic prices.providerCost cachedInputPrice usage cached uncached

section Fits
variable (signed : arithmetic.Signed)
include signed

theorem roundedCost_fits (costPerMillion : Decimal) (nonnegative : Decimal.zero ≤ costPerMillion) :
    (∃ cost, roundedCost arithmetic costPerMillion = .ok cost) ↔ QuotientFits arithmetic costPerMillion := by
  unfold roundedCost QuotientFits
  cases divided : arithmetic.div costPerMillion (Decimal.ofNat 1000000) with
  | none => simp [orOverflow]
  | some cost =>
    have sign := signed.div _ _ cost nonnegative (Decimal.zero_le_ofNat _ _) divided
    have accepted : ¬ cost < Decimal.zero := (Decimal.not_lt_iff _ _).mpr sign
    simp [normalizeCostUsd,accepted]

theorem costUsd_fits (prices : ModelPrices) (usage : Usage) (input : Decimal.zero ≤ prices.inputPricePerMtok)
    (output : Decimal.zero ≤ prices.outputPricePerMtok) :
    (∃ cost, costUsd arithmetic prices usage = .ok cost) ↔ CostFits arithmetic prices usage := by
  unfold costUsd CostFits
  simp only [bind_success,orOverflow_success]
  constructor
  · rintro ⟨cost,promptCost,prompt,completionCost,completion,total,sum,rounded⟩
    have nonnegative := signed.add _ _ total (signed.mul _ _ _ (Decimal.zero_le_ofNat _ _) input prompt)
      (signed.mul _ _ _ (Decimal.zero_le_ofNat _ _) output completion) sum
    exact ⟨promptCost,completionCost,total,prompt,completion,sum,
      (roundedCost_fits arithmetic signed total nonnegative).mp ⟨cost,rounded⟩⟩
  · rintro ⟨promptCost,completionCost,total,prompt,completion,sum,quotient⟩
    have nonnegative := signed.add _ _ total (signed.mul _ _ _ (Decimal.zero_le_ofNat _ _) input prompt)
      (signed.mul _ _ _ (Decimal.zero_le_ofNat _ _) output completion) sum
    obtain ⟨cost,rounded⟩ := (roundedCost_fits arithmetic signed total nonnegative).mpr quotient
    exact ⟨cost,promptCost,prompt,completionCost,completion,total,sum,rounded⟩

theorem providerCostUsd_fits (prices : ProviderPrices) (usage : Usage) (cachedPromptTokens : Option UInt64)
    (nonnegative : prices.Nonnegative) :
    (∃ cost, providerCostUsd arithmetic prices usage cachedPromptTokens = .ok cost) ↔
      FormulaFits arithmetic prices usage cachedPromptTokens := by
  unfold providerCostUsd FormulaFits
  split
  · rw [← costUsd_fits arithmetic signed prices.providerCost usage nonnegative.input nonnegative.output]
    simp only [bind_success]
    constructor
    · rintro ⟨_,cost,computed,_⟩
      exact ⟨cost,computed⟩
    · rintro ⟨cost,computed⟩
      exact ⟨some cost,cost,computed,rfl⟩
  rename_i cachedInputPrice declared
  cases cachedPromptTokens with
  | none => simp
  | some cached =>
    cases subtracted : checkedSub usage.promptTokens cached with
    | none =>
      simp only [subtracted]
      refine ⟨fun _ other uncached same found => ?_,fun _ => ⟨none,rfl⟩⟩
      cases same
      rw [subtracted] at found
      cases found
    | some uncached =>
      have cachedPrice := nonnegative.cached cachedInputPrice declared
      have total_nonnegative {uncachedCost cachedCost promptCost completionCost total : Decimal}
          (uncachedProduct : arithmetic.mul (Decimal.ofU64 uncached) prices.providerCost.inputPricePerMtok =
            some uncachedCost)
          (cachedProduct : arithmetic.mul (Decimal.ofU64 cached) cachedInputPrice = some cachedCost)
          (promptSum : arithmetic.add uncachedCost cachedCost = some promptCost)
          (completion : arithmetic.mul (Decimal.ofU64 usage.completionTokens)
            prices.providerCost.outputPricePerMtok = some completionCost)
          (sum : arithmetic.add promptCost completionCost = some total) : Decimal.zero ≤ total :=
        signed.add _ _ _ (signed.add _ _ _ (signed.mul _ _ _ (Decimal.zero_le_ofNat _ _) nonnegative.input uncachedProduct)
          (signed.mul _ _ _ (Decimal.zero_le_ofNat _ _) cachedPrice cachedProduct) promptSum)
          (signed.mul _ _ _ (Decimal.zero_le_ofNat _ _) nonnegative.output completion) sum
      simp only [subtracted,bind_success,orOverflow_success,pure_success]
      constructor
      · rintro ⟨_,uncachedCost,uncachedProduct,cachedCost,cachedProduct,promptCost,promptSum,completionCost,
          completion,total,sum,cost,rounded,_⟩ _ _ ⟨⟩ same
        rw [subtracted] at same
        cases same
        exact ⟨uncachedCost,cachedCost,promptCost,completionCost,total,uncachedProduct,cachedProduct,promptSum,
          completion,sum,(roundedCost_fits arithmetic signed total
            (total_nonnegative uncachedProduct cachedProduct promptSum completion sum)).mp ⟨cost,rounded⟩⟩
      · intro fits
        obtain ⟨uncachedCost,cachedCost,promptCost,completionCost,total,uncachedProduct,cachedProduct,promptSum,
          completion,sum,quotient⟩ := fits cached uncached rfl subtracted
        obtain ⟨cost,rounded⟩ := (roundedCost_fits arithmetic signed total
          (total_nonnegative uncachedProduct cachedProduct promptSum completion sum)).mpr quotient
        exact ⟨some cost,uncachedCost,uncachedProduct,cachedCost,cachedProduct,promptCost,promptSum,completionCost,
          completion,total,sum,cost,rounded,rfl⟩

end Fits

end Cost

end SerenRouter
