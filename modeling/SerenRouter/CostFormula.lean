import SerenRouter.Pricing
import SerenRouter.Kernel.Rounding
import SerenRouter.Kernel.DecimalArithmetic

/-! The registry's cost formula against exact arithmetic. Decimal operators round to fit before
the amount is rounded to the ledger's places, and panic when it does not fit at all. -/
namespace SerenRouter
open Kernel

theorem normalizeCostUsd_some (cost normalized : Decimal) : normalizeCostUsd cost = some normalized ↔
    Decimal.zero ≤ cost ∧ normalized = (cost.roundDp costScale).rescale costScale := by
  unfold normalizeCostUsd
  split
  · rename_i negative
    exact iff_of_false (by simp) (fun both => (Decimal.not_lt_iff _ _).mpr both.1 negative)
  · rename_i accepted
    rw [Decimal.not_lt_iff] at accepted
    simp [accepted,eq_comm]

theorem normalizeCostUsd_value (cost normalized : Decimal) (normalizes : normalizeCostUsd cost = some normalized) :
    normalized.value = roundAway costScale cost.value := by
  obtain ⟨_,rfl⟩ := (normalizeCostUsd_some _ _).mp normalizes
  exact cost.rounded_value costScale

/-- No cached price is declared, or the cached tokens are reported and are part of the prompt. -/
def FormulaDefined (prices : ProviderPrices) (usage : Usage) (cachedPromptTokens : Option UInt64) : Prop :=
  prices.providerCachedInputPricePerMtok = none ∨
    ∃ cached, cachedPromptTokens = some cached ∧ cached ≤ usage.promptTokens

/-- A million times the cost, in rationals. -/
def exactPerMillion (prices : ProviderPrices) (usage : Usage) (cachedPromptTokens : Option UInt64) : ℚ :=
  let completion := usage.completionTokens.toNat * prices.providerCost.outputPricePerMtok.value
  match prices.providerCachedInputPricePerMtok with
  | none => usage.promptTokens.toNat * prices.providerCost.inputPricePerMtok.value + completion
  | some cachedInputPrice =>
    let cached := cachedPromptTokens.getD 0
    (usage.promptTokens - cached).toNat * prices.providerCost.inputPricePerMtok.value +
      cached.toNat * cachedInputPrice.value + completion

def exactCost (prices : ProviderPrices) (usage : Usage) (cachedPromptTokens : Option UInt64) : ℚ :=
  exactPerMillion prices usage cachedPromptTokens / 1000000

section Formula
variable (arithmetic : Decimal.Arithmetic) (prices : ProviderPrices) (usage : Usage)
  (cachedPromptTokens : Option UInt64)

/-- A million times the cost, as the decimal operators compute it. -/
inductive PerMillion : Decimal → Prop where
  | plain (undeclared : prices.providerCachedInputPricePerMtok = none) (promptCost completionCost total : Decimal)
      (prompt : arithmetic.mul (Decimal.ofU64 usage.promptTokens) prices.providerCost.inputPricePerMtok =
        some promptCost)
      (completion : arithmetic.mul (Decimal.ofU64 usage.completionTokens) prices.providerCost.outputPricePerMtok =
        some completionCost)
      (sum : arithmetic.add promptCost completionCost = some total) : PerMillion total
  | cached (cachedInputPrice : Decimal) (declared : prices.providerCachedInputPricePerMtok = some cachedInputPrice)
      (cached uncached : UInt64) (reported : cachedPromptTokens = some cached)
      (rest : checkedSub usage.promptTokens cached = some uncached)
      (uncachedCost cachedCost promptCost completionCost total : Decimal)
      (uncachedProduct : arithmetic.mul (Decimal.ofU64 uncached) prices.providerCost.inputPricePerMtok =
        some uncachedCost)
      (cachedProduct : arithmetic.mul (Decimal.ofU64 cached) cachedInputPrice = some cachedCost)
      (prompt : arithmetic.add uncachedCost cachedCost = some promptCost)
      (completion : arithmetic.mul (Decimal.ofU64 usage.completionTokens) prices.providerCost.outputPricePerMtok =
        some completionCost)
      (sum : arithmetic.add promptCost completionCost = some total) : PerMillion total

/-- The amount that is rounded to the ledger's places. -/
def Quotient (quotient : Decimal) : Prop :=
  ∃ total, PerMillion arithmetic prices usage cachedPromptTokens total ∧
    arithmetic.div total Decimal.million = some quotient

theorem roundedCost_success (total cost : Decimal) : roundedCost arithmetic total = .ok cost ↔
    ∃ quotient, arithmetic.div total Decimal.million = some quotient ∧ normalizeCostUsd quotient = some cost := by
  simp only [roundedCost,bind_success,orOverflow_success,expect_success]
  rfl

theorem providerCostUsd_some (cost : Decimal) :
    providerCostUsd arithmetic prices usage cachedPromptTokens = .ok (some cost) ↔
      ∃ quotient, Quotient arithmetic prices usage cachedPromptTokens quotient ∧
        normalizeCostUsd quotient = some cost := by
  unfold providerCostUsd Quotient
  constructor
  · intro ran
    split at ran
    · rename_i undeclared
      simp only [costUsd,bind_success,orOverflow_success,roundedCost_success] at ran
      obtain ⟨_,⟨promptCost,prompt,completionCost,completion,total,sum,quotient,divided,normal⟩,equal⟩ := ran
      cases equal
      exact ⟨quotient,⟨total,.plain undeclared promptCost completionCost total prompt completion sum,divided⟩,normal⟩
    rename_i cachedInputPrice declared
    split at ran
    · cases ran
    rename_i cached
    split at ran
    · cases ran
    rename_i uncached rest
    simp only [bind_success,orOverflow_success,roundedCost_success] at ran
    obtain ⟨uncachedCost,uncachedProduct,cachedCost,cachedProduct,promptCost,prompt,completionCost,completion,total,sum,
      _,⟨quotient,divided,normal⟩,equal⟩ := ran
    cases equal
    exact ⟨quotient,⟨total,.cached cachedInputPrice declared cached uncached rfl rest uncachedCost cachedCost promptCost
      completionCost total uncachedProduct cachedProduct prompt completion sum,divided⟩,normal⟩
  · rintro ⟨quotient,⟨total,summed,divided⟩,normal⟩
    have rounded : roundedCost arithmetic total = .ok cost :=
      (roundedCost_success arithmetic total cost).mpr ⟨quotient,divided,normal⟩
    cases summed with
    | plain undeclared promptCost completionCost total prompt completion sum =>
      simp [undeclared,costUsd,prompt,completion,sum,rounded,pure,Except.pure]
    | cached cachedInputPrice declared cached uncached reported rest uncachedCost cachedCost promptCost completionCost
        total uncachedProduct cachedProduct prompt completion sum =>
      simp [declared,reported,rest,uncachedProduct,cachedProduct,prompt,completion,sum,rounded,pure,Except.pure]

theorem checkedSub_some (left right rest : UInt64) : checkedSub left right = some rest ↔ right ≤ left ∧ rest = left - right := by
  unfold checkedSub
  split <;> simp [eq_comm, *]

theorem providerCostUsd_none :
    providerCostUsd arithmetic prices usage cachedPromptTokens = .ok none ↔
      ¬ FormulaDefined prices usage cachedPromptTokens := by
  unfold providerCostUsd FormulaDefined
  cases prices.providerCachedInputPricePerMtok with
  | none =>
    refine iff_of_false (fun ran => ?_) (by simp)
    simp only [bind_success] at ran
    obtain ⟨_,_,equal⟩ := ran
    cases equal
  | some cachedInputPrice =>
    cases cachedPromptTokens with
    | none => simp
    | some cached =>
      cases rest : checkedSub usage.promptTokens cached with
      | none =>
        have beyond : ¬ cached ≤ usage.promptTokens := fun within => by
          simp [checkedSub,within] at rest
        simp [rest,beyond]
      | some uncached =>
        refine iff_of_false (fun ran => ?_) ?_
        · simp only [rest,bind_success] at ran
          obtain ⟨_,_,_,_,_,_,_,_,_,_,_,_,equal⟩ := ran
          cases equal
        · simp [((checkedSub_some _ _ _).mp rest).1]

theorem formulaFits_iff : FormulaFits arithmetic prices usage cachedPromptTokens ↔
    (FormulaDefined prices usage cachedPromptTokens →
      ∃ quotient, Quotient arithmetic prices usage cachedPromptTokens quotient) := by
  unfold FormulaFits FormulaDefined Quotient
  cases declared : prices.providerCachedInputPricePerMtok with
  | none =>
    simp only [CostFits,QuotientFits,true_or,true_imp_iff]
    constructor
    · rintro ⟨promptCost,completionCost,total,prompt,completion,sum,quotient,divided⟩
      exact ⟨quotient,total,.plain declared promptCost completionCost total prompt completion sum,divided⟩
    · rintro ⟨quotient,total,summed,divided⟩
      cases summed with
      | plain undeclared promptCost completionCost total prompt completion sum =>
        exact ⟨promptCost,completionCost,total,prompt,completion,sum,quotient,divided⟩
      | cached cachedInputPrice other =>
        rw [declared] at other
        cases other
  | some cachedInputPrice =>
    simp only [CachedCostFits,QuotientFits,reduceCtorEq,false_or]
    constructor
    · rintro fits ⟨cached,reported,within⟩
      obtain ⟨uncachedCost,cachedCost,promptCost,completionCost,total,uncachedProduct,cachedProduct,prompt,completion,sum,
        quotient,divided⟩ := fits cached _ reported ((checkedSub_some _ _ _).mpr ⟨within,rfl⟩)
      exact ⟨quotient,total,.cached cachedInputPrice declared cached _ reported ((checkedSub_some _ _ _).mpr ⟨within,rfl⟩)
        uncachedCost cachedCost promptCost completionCost total uncachedProduct cachedProduct prompt completion sum,divided⟩
    · intro quotients cached uncached reported rest
      obtain ⟨quotient,total,summed,divided⟩ := quotients ⟨cached,reported,((checkedSub_some _ _ _).mp rest).1⟩
      cases summed with
      | plain undeclared =>
        rw [declared] at undeclared
        cases undeclared
      | cached otherPrice other tokens remaining again difference uncachedCost cachedCost promptCost completionCost total
          uncachedProduct cachedProduct prompt completion sum =>
        rw [declared] at other
        cases other
        rw [reported] at again
        cases again
        rw [rest] at difference
        cases difference
        exact ⟨uncachedCost,cachedCost,promptCost,completionCost,total,uncachedProduct,cachedProduct,prompt,completion,sum,
          quotient,divided⟩

theorem PerMillion.defined (total : Decimal) (summed : PerMillion arithmetic prices usage cachedPromptTokens total) :
    FormulaDefined prices usage cachedPromptTokens := by
  cases summed with
  | plain undeclared => exact .inl undeclared
  | cached cachedInputPrice declared cached uncached reported rest =>
    exact .inr ⟨cached,reported,((checkedSub_some _ _ _).mp rest).1⟩

theorem perMillion_unique (total other : Decimal) (first : PerMillion arithmetic prices usage cachedPromptTokens total)
    (second : PerMillion arithmetic prices usage cachedPromptTokens other) : total = other := by
  cases first with
  | plain undeclared promptCost completionCost total prompt completion sum =>
    cases second with
    | plain _ otherPromptCost otherCompletionCost _ otherPrompt otherCompletion otherSum =>
      obtain rfl := Option.some.inj (prompt.symm.trans otherPrompt)
      obtain rfl := Option.some.inj (completion.symm.trans otherCompletion)
      exact Option.some.inj (sum.symm.trans otherSum)
    | cached cachedInputPrice declared =>
      rw [undeclared] at declared
      cases declared
  | cached cachedInputPrice declared cached uncached reported rest uncachedCost cachedCost promptCost completionCost
      total uncachedProduct cachedProduct prompt completion sum =>
    cases second with
    | plain undeclared =>
      rw [undeclared] at declared
      cases declared
    | cached otherPrice otherDeclared otherCached otherUncached otherReported otherRest otherUncachedCost otherCachedCost
        otherPromptCost otherCompletionCost _ otherUncachedProduct otherCachedProduct otherPrompt otherCompletion
        otherSum =>
      obtain rfl := Option.some.inj (declared.symm.trans otherDeclared)
      obtain rfl := Option.some.inj (reported.symm.trans otherReported)
      obtain rfl := Option.some.inj (rest.symm.trans otherRest)
      obtain rfl := Option.some.inj (uncachedProduct.symm.trans otherUncachedProduct)
      obtain rfl := Option.some.inj (cachedProduct.symm.trans otherCachedProduct)
      obtain rfl := Option.some.inj (prompt.symm.trans otherPrompt)
      obtain rfl := Option.some.inj (completion.symm.trans otherCompletion)
      exact Option.some.inj (sum.symm.trans otherSum)

theorem Quotient.defined (quotient : Decimal) (divided : Quotient arithmetic prices usage cachedPromptTokens quotient) :
    FormulaDefined prices usage cachedPromptTokens := by
  obtain ⟨total,summed,_⟩ := divided
  exact summed.defined

theorem quotient_unique (quotient other : Decimal) (first : Quotient arithmetic prices usage cachedPromptTokens quotient)
    (second : Quotient arithmetic prices usage cachedPromptTokens other) : quotient = other := by
  obtain ⟨total,summed,divided⟩ := first
  obtain ⟨otherTotal,otherSummed,otherDivided⟩ := second
  obtain rfl := perMillion_unique arithmetic prices usage cachedPromptTokens _ _ summed otherSummed
  exact Option.some.inj (divided.symm.trans otherDivided)

/-- Rounding products, sums and the quotient to fit does not carry the amount over a midpoint
of the ledger's last place. -/
def AmountKept : Prop :=
  ∀ quotient, Quotient arithmetic prices usage cachedPromptTokens quotient →
    SameSide costScale quotient.value (exactCost prices usage cachedPromptTokens)

/-- No panic, and every cost is the exact amount rounded once. -/
def RoundsOnce : Prop :=
  ∃ result, providerCostUsd arithmetic prices usage cachedPromptTokens = .ok result ∧
    ∀ cost, result = some cost → cost.value = roundAway costScale (exactCost prices usage cachedPromptTokens)

end Formula

section Signed
variable (arithmetic : Decimal.Arithmetic) (signed : arithmetic.Signed) (prices : ProviderPrices)
  (nonnegative : prices.Nonnegative) (usage : Usage) (cachedPromptTokens : Option UInt64)
include signed nonnegative

theorem perMillion_nonnegative (total : Decimal)
    (summed : PerMillion arithmetic prices usage cachedPromptTokens total) : Decimal.zero ≤ total := by
  have product (tokens : UInt64) (price cost : Decimal) (unsigned : Decimal.zero ≤ price)
      (multiplied : arithmetic.mul (Decimal.ofU64 tokens) price = some cost) : Decimal.zero ≤ cost :=
    signed.mul _ _ cost (Decimal.zero_le_ofNat _ _) unsigned multiplied
  cases summed with
  | plain undeclared promptCost completionCost total prompt completion sum =>
    exact signed.add _ _ _ (product _ _ _ nonnegative.input prompt) (product _ _ _ nonnegative.output completion) sum
  | cached cachedInputPrice declared cached uncached reported rest uncachedCost cachedCost promptCost completionCost
      total uncachedProduct cachedProduct prompt completion sum =>
    have cachedSign := product _ _ _ (nonnegative.cached _ declared) cachedProduct
    have promptSign := signed.add _ _ _ (product _ _ _ nonnegative.input uncachedProduct) cachedSign prompt
    exact signed.add _ _ _ promptSign (product _ _ _ nonnegative.output completion) sum

theorem quotient_nonnegative (quotient : Decimal)
    (divided : Quotient arithmetic prices usage cachedPromptTokens quotient) : Decimal.zero ≤ quotient := by
  obtain ⟨total,summed,divided⟩ := divided
  exact signed.div _ _ quotient (perMillion_nonnegative arithmetic signed prices nonnegative usage cachedPromptTokens
    total summed) (Decimal.zero_le_ofNat _ _) divided

end Signed

/-- Prices that some accepted registry puts into its table. -/
def ProviderPrices.Admitted (prices : ProviderPrices) : Prop :=
  ∃ registry table, PriceTable.fromRegistry registry = .ok table ∧
    ∃ providerId canonicalSlug, table.get providerId canonicalSlug = some prices

theorem ProviderPrices.Admitted.nonnegative {prices : ProviderPrices} (admitted : prices.Admitted) :
    prices.Nonnegative := by
  obtain ⟨registry,table,accepted,providerId,canonicalSlug,found⟩ := admitted
  exact PriceTable.prices_nonnegative registry table accepted providerId canonicalSlug prices found

def pricedRegistry (prices : ProviderPrices) : Registry :=
  ⟨[⟨"alpha","Alpha",none,none,"https://alpha.test","ALPHA_KEY",true,0,none,{.production},
    [⟨"m","Model",1,"m",prices.providerCost.inputPricePerMtok,prices.providerCachedInputPricePerMtok,
      prices.providerCost.outputPricePerMtok,RequestConstraints.default⟩]⟩]⟩

/-- Every nonnegative price is admitted, however large. -/
theorem ProviderPrices.admitted_iff (prices : ProviderPrices) : prices.Admitted ↔ prices.Nonnegative := by
  refine ⟨Admitted.nonnegative,fun nonnegative => ?_⟩
  have valid : (pricedRegistry prices).validate = .ok () := by
    have named : Text.isBlank "Model" = false := by decide
    simp [pricedRegistry,Registry.validate,Registry.validateFrom,Registry.validateProvider,Registry.validateMapping,
      RequestConstraints.default,named]
  obtain ⟨table,accepted⟩ := (PriceTable.fromRegistry_accepts (pricedRegistry prices)).mpr ⟨valid,by
    intro provider member _
    rw [List.mem_singleton.mp member]
    refine ⟨List.nodup_singleton _,fun model maps => ?_⟩
    rw [List.mem_singleton.mp maps]
    exact nonnegative⟩
  refine ⟨pricedRegistry prices,table,accepted,"alpha","m",?_⟩
  exact PriceTable.get_mapping (pricedRegistry prices) table accepted _ (List.mem_singleton.mpr rfl) rfl _
    (List.mem_singleton.mpr rfl)

section Exact
variable (arithmetic : Decimal.Arithmetic) (faithful : arithmetic.Faithful) (places : Nat)
include faithful

private theorem product_exact (tokens : UInt64) (price : Decimal) (nonnegative : Decimal.zero ≤ price)
    (within : price.scale ≤ places) (digits : places ≤ 28)
    (room : tokens.toNat * price.value * 10^places < 2^96) :
    ∃ product, arithmetic.mul (Decimal.ofU64 tokens) price = some product ∧
      product.value = tokens.toNat * price.value ∧ Decimal.AtPlaces places product.value := by
  have short := (Decimal.atPlaces_value price nonnegative places within).natMul tokens.toNat
  obtain ⟨held,value⟩ := short.held digits room
  obtain ⟨product,multiplied,equal⟩ := faithful.mul (Decimal.ofU64 tokens) price held (by simp [value])
  have exactly := equal.trans value
  exact ⟨product,multiplied,exactly,exactly ▸ short⟩

private theorem sum_exact (left right : Decimal) (first : Decimal.AtPlaces places left.value)
    (second : Decimal.AtPlaces places right.value) (digits : places ≤ 28)
    (room : (left.value + right.value) * 10^places < 2^96) :
    ∃ sum, arithmetic.add left right = some sum ∧ sum.value = left.value + right.value ∧
      Decimal.AtPlaces places sum.value := by
  obtain ⟨held,value⟩ := (first.add second).held digits room
  obtain ⟨sum,added,equal⟩ := faithful.add left right held value
  have exactly := equal.trans value
  exact ⟨sum,added,exactly,exactly ▸ first.add second⟩

variable (prices : ProviderPrices) (nonnegative : prices.Nonnegative) (usage : Usage)
  (cachedPromptTokens : Option UInt64) (defined : FormulaDefined prices usage cachedPromptTokens)
  (digits : places ≤ 28) (input : prices.providerCost.inputPricePerMtok.scale ≤ places)
  (output : prices.providerCost.outputPricePerMtok.scale ≤ places)
  (cachedInput : ∀ cachedInputPrice, prices.providerCachedInputPricePerMtok = some cachedInputPrice →
    cachedInputPrice.scale ≤ places)
  (room : exactPerMillion prices usage cachedPromptTokens * 10^places < 2^96)
include nonnegative defined digits input output cachedInput room

/-- With short prices and room for the total, nothing is rounded on the way to it. -/
theorem perMillion_exact : ∃ total, PerMillion arithmetic prices usage cachedPromptTokens total ∧
    total.value = exactPerMillion prices usage cachedPromptTokens ∧ Decimal.AtPlaces places total.value := by
  have power : (0 : ℚ) < 10^places := by positivity
  have unsigned (price : Decimal) (sign : Decimal.zero ≤ price) : 0 ≤ price.value := by
    simpa [Decimal.le_def] using sign
  have inputSign := unsigned _ nonnegative.input
  have outputSign := unsigned _ nonnegative.output
  -- A part of the total leaves as much room as the total does.
  have part (number : ℚ) (below : number ≤ exactPerMillion prices usage cachedPromptTokens) :
      number * 10^places < 2^96 := lt_of_le_of_lt (mul_le_mul_of_nonneg_right below power.le) room
  cases declared : prices.providerCachedInputPricePerMtok with
  | none =>
    have total : exactPerMillion prices usage cachedPromptTokens =
        usage.promptTokens.toNat * prices.providerCost.inputPricePerMtok.value +
          usage.completionTokens.toNat * prices.providerCost.outputPricePerMtok.value := by
      simp [exactPerMillion,declared]
    have promptSign : 0 ≤ usage.promptTokens.toNat * prices.providerCost.inputPricePerMtok.value := by positivity
    have completionSign : 0 ≤ usage.completionTokens.toNat * prices.providerCost.outputPricePerMtok.value := by
      positivity
    obtain ⟨promptCost,prompt,promptValue,promptPlaces⟩ := product_exact arithmetic faithful places usage.promptTokens _
      nonnegative.input input digits (part _ (by linarith))
    obtain ⟨completionCost,completion,completionValue,completionPlaces⟩ := product_exact arithmetic faithful places
      usage.completionTokens _ nonnegative.output output digits (part _ (by linarith))
    obtain ⟨sum,added,sumValue,sumPlaces⟩ := sum_exact arithmetic faithful places promptCost completionCost promptPlaces
      completionPlaces digits (part _ (by linarith))
    exact ⟨sum,.plain declared promptCost completionCost sum prompt completion added,
      by rw [sumValue,promptValue,completionValue,total],sumPlaces⟩
  | some cachedInputPrice =>
    obtain undeclared | ⟨cached,reported,within⟩ := defined
    · rw [declared] at undeclared
      cases undeclared
    have total : exactPerMillion prices usage cachedPromptTokens =
        (usage.promptTokens - cached).toNat * prices.providerCost.inputPricePerMtok.value +
          cached.toNat * cachedInputPrice.value +
          usage.completionTokens.toNat * prices.providerCost.outputPricePerMtok.value := by
      simp [exactPerMillion,declared,reported]
    have cachedPriceSign := unsigned _ (nonnegative.cached cachedInputPrice declared)
    have uncachedSign : 0 ≤ (usage.promptTokens - cached).toNat * prices.providerCost.inputPricePerMtok.value := by
      positivity
    have cachedSign : 0 ≤ cached.toNat * cachedInputPrice.value := by positivity
    have completionSign : 0 ≤ usage.completionTokens.toNat * prices.providerCost.outputPricePerMtok.value := by
      positivity
    obtain ⟨uncachedCost,uncachedProduct,uncachedValue,uncachedPlaces⟩ := product_exact arithmetic faithful places
      (usage.promptTokens - cached) _ nonnegative.input input digits (part _ (by linarith))
    obtain ⟨cachedCost,cachedProduct,cachedValue,cachedPlaces⟩ := product_exact arithmetic faithful places cached _
      (nonnegative.cached cachedInputPrice declared) (cachedInput cachedInputPrice declared) digits
      (part _ (by linarith))
    obtain ⟨completionCost,completion,completionValue,completionPlaces⟩ := product_exact arithmetic faithful places
      usage.completionTokens _ nonnegative.output output digits (part _ (by linarith))
    obtain ⟨promptCost,prompt,promptValue,promptPlaces⟩ := sum_exact arithmetic faithful places uncachedCost cachedCost
      uncachedPlaces cachedPlaces digits (part _ (by linarith))
    obtain ⟨sum,added,sumValue,sumPlaces⟩ := sum_exact arithmetic faithful places promptCost completionCost promptPlaces
      completionPlaces digits (part _ (by linarith))
    exact ⟨sum,.cached cachedInputPrice declared cached _ reported ((checkedSub_some _ _ _).mpr ⟨within,rfl⟩)
        uncachedCost cachedCost promptCost completionCost sum uncachedProduct cachedProduct prompt completion added,
      by rw [sumValue,promptValue,uncachedValue,cachedValue,completionValue,total],sumPlaces⟩

end Exact

/-- Prices of at most 22 places and a total that leaves room are never rounded before the end. -/
theorem short_prices_kept (arithmetic : Decimal.Arithmetic) (faithful : arithmetic.Faithful) (places : Nat)
    (digits : places ≤ 22) (prices : ProviderPrices) (nonnegative : prices.Nonnegative) (usage : Usage)
    (cachedPromptTokens : Option UInt64) (input : prices.providerCost.inputPricePerMtok.scale ≤ places)
    (output : prices.providerCost.outputPricePerMtok.scale ≤ places)
    (cachedInput : ∀ cachedInputPrice, prices.providerCachedInputPricePerMtok = some cachedInputPrice →
      cachedInputPrice.scale ≤ places)
    (room : exactPerMillion prices usage cachedPromptTokens * 10^places < 2^96) :
    FormulaFits arithmetic prices usage cachedPromptTokens ∧
      AmountKept arithmetic prices usage cachedPromptTokens := by
  have computed (defined : FormulaDefined prices usage cachedPromptTokens) :
      ∃ total quotient, PerMillion arithmetic prices usage cachedPromptTokens total ∧
        arithmetic.div total Decimal.million = some quotient ∧
        quotient.value = exactCost prices usage cachedPromptTokens := by
    obtain ⟨total,summed,value,short⟩ := perMillion_exact arithmetic faithful places prices nonnegative usage
      cachedPromptTokens defined (by omega) input output cachedInput room
    have million : (10 : ℚ)^6 = 1000000 := by norm_num
    have quotientPlaces := short.shift 6
    rw [value,million] at quotientPlaces
    obtain ⟨held,heldValue⟩ := quotientPlaces.held (by omega) (by
      rw [pow_add,million]
      calc exactPerMillion prices usage cachedPromptTokens / 1000000 * (10^places * 1000000)
          = exactPerMillion prices usage cachedPromptTokens * 10^places := by ring
        _ < 2^96 := room)
    obtain ⟨quotient,divided,equal⟩ := faithful.div total Decimal.million held (by simp) (by simp [heldValue,value])
    exact ⟨total,quotient,summed,divided,by rw [equal,heldValue,exactCost]⟩
  constructor
  · rw [formulaFits_iff]
    intro defined
    obtain ⟨total,quotient,summed,divided,_⟩ := computed defined
    exact ⟨quotient,total,summed,divided⟩
  · intro other divided
    obtain ⟨total,quotient,summed,equal,value⟩ := computed divided.defined
    obtain rfl := quotient_unique arithmetic prices usage cachedPromptTokens _ _ ⟨total,summed,equal⟩ divided
    rw [value]
    exact fun _ => ⟨Iff.rfl,Iff.rfl⟩

section Sample

def largestPrices : ProviderPrices := ⟨⟨Decimal.largest,Decimal.zero⟩,none⟩

/-- A price whose cost for one token is just below half of the ledger's last place. -/
def midpointPrices : ProviderPrices :=
  ⟨⟨⟨false,499999999999999999999999,28,by decide,by decide⟩,Decimal.zero⟩,none⟩

end Sample

end SerenRouter
