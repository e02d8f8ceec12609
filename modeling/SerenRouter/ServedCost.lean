import SerenRouter.CostFormula
import SerenRouter.UsageCost

/-! Which amount a response is billed. The reported fields, the policy, the registry's exact
formula and the ledger's column are stated here without the decimal operators, and compared
with what the injection computes. -/
namespace SerenRouter
open Kernel Kernel.Json
open Kernel.SortedMap (get)

def Unset (field : Option Value) : Prop := field = none ∨ field = some .null

section Charge
variable (arithmetic : Decimal.Arithmetic)

def Reads (field : Option Value) (amount : Decimal) : Prop :=
  ∃ number, field = some (.number number) ∧
    (arithmetic.fromStr number.text).or (arithmetic.fromScientific number.text) = some amount

theorem reportedCost_none (field : Option Value) : reportedCost arithmetic field = .ok none ↔ Unset field := by
  unfold reportedCost Unset
  split
  · simp
  · simp
  · rename_i cost
    refine iff_of_false (fun read => ?_) (by simp)
    split at read
    · cases read
    · split at read <;> cases read
  · simp_all

theorem reportedCost_some (field : Option Value) (cost : Decimal) : reportedCost arithmetic field = .ok (some cost) ↔
    ∃ amount, Reads arithmetic field amount ∧ normalizeCostUsd amount = some cost := by
  unfold reportedCost Reads
  split
  · simp
  · simp
  · rename_i number
    simp only [Option.some.injEq,Value.number.injEq,exists_eq_left']
    split
    · simp [*]
    · rename_i amount parsed
      simp only [parsed,Option.some.injEq,exists_eq_left']
      split <;> simp [*]
  · simp_all

theorem reportedCost_error (field : Option Value) (isSet : ¬ Unset field)
    (invalid : ∀ amount, Reads arithmetic field amount → ¬ Decimal.zero ≤ amount) :
    ∃ omission, reportedCost arithmetic field = .error omission := by
  cases reported : reportedCost arithmetic field with
  | error omission => exact ⟨omission,rfl⟩
  | ok resolved =>
    cases resolved with
    | none => exact absurd ((reportedCost_none arithmetic field).mp reported) isSet
    | some cost =>
      obtain ⟨amount,reads,normal⟩ := (reportedCost_some arithmetic field cost).mp reported
      exact absurd ((normalizeCostUsd_some amount cost).mp normal).1 (invalid amount reads)

theorem Reads.isSet {field : Option Value} {amount : Decimal} (reads : Reads arithmetic field amount) : ¬ Unset field := by
  obtain ⟨number,rfl,_⟩ := reads
  simp [Unset]

section Usage
variable (usage : List (String × Value)) (prices : ProviderPrices) (policy : ProviderReportedCostPolicy)
  (tokens : Usage)

/-- The estimate is no amount of its own: the policy does not trust it, or it is unset. -/
def EstimateUnset : Prop :=
  policy = .deepInfraEstimatedCost → Unset (get "estimated_cost" usage)

/-- What is owed: the provider's own amount, else its trusted estimate, else the registry's formula,
each rounded once. -/
inductive CostDue : ℚ → Prop where
  | reported (amount : Decimal) (reads : Reads arithmetic (get "cost" usage) amount)
      (nonnegative : Decimal.zero ≤ amount) : CostDue (roundAway costScale amount.value)
  | estimated (unset : Unset (get "cost" usage)) (trusted : policy = .deepInfraEstimatedCost) (amount : Decimal)
      (reads : Reads arithmetic (get "estimated_cost" usage) amount) (nonnegative : Decimal.zero ≤ amount) :
      CostDue (roundAway costScale amount.value)
  | formula (unset : Unset (get "cost" usage)) (unestimated : EstimateUnset usage policy)
      (defined : FormulaDefined prices tokens (cachedTokens usage)) :
      CostDue (roundAway costScale (exactCost prices tokens (cachedTokens usage)))

/-- The amount that the injection rounds. -/
inductive Billed : Decimal → Prop where
  | reported (amount : Decimal) (reads : Reads arithmetic (get "cost" usage) amount) : Billed amount
  | estimated (unset : Unset (get "cost" usage)) (trusted : policy = .deepInfraEstimatedCost) (amount : Decimal)
      (reads : Reads arithmetic (get "estimated_cost" usage) amount) : Billed amount
  | formula (unset : Unset (get "cost" usage)) (unestimated : EstimateUnset usage policy) (amount : Decimal)
      (quotient : Quotient arithmetic prices tokens (cachedTokens usage) amount) : Billed amount

theorem estimatedCost_none : estimatedCost arithmetic usage policy = .ok none ↔ EstimateUnset usage policy := by
  unfold estimatedCost EstimateUnset
  split
  · rw [reportedCost_none]
    simp [*]
  · simp [*]

theorem estimatedCost_some (cost : Decimal) : estimatedCost arithmetic usage policy = .ok (some cost) ↔
    policy = .deepInfraEstimatedCost ∧ ∃ amount, Reads arithmetic (get "estimated_cost" usage) amount ∧
      normalizeCostUsd amount = some cost := by
  unfold estimatedCost
  split
  · rw [reportedCost_some]
    simp [*]
  · simp [*]

theorem providerCost_success (cost : Decimal) :
    providerCost arithmetic usage tokens (cachedTokens usage) prices policy = .ok (.ok cost) ↔
      ∃ amount, Billed arithmetic usage prices policy tokens amount ∧ normalizeCostUsd amount = some cost := by
  unfold providerCost
  constructor
  · intro computed
    split at computed
    · cases computed
    · rename_i reported
      cases computed
      obtain ⟨amount,reads,normal⟩ := (reportedCost_some arithmetic _ _).mp reported
      exact ⟨amount,.reported amount reads,normal⟩
    rename_i unreported
    rw [reportedCost_none] at unreported
    split at computed
    · cases computed
    · rename_i estimated
      cases computed
      obtain ⟨trusted,amount,reads,normal⟩ := (estimatedCost_some arithmetic usage policy _).mp estimated
      exact ⟨amount,.estimated unreported trusted amount reads,normal⟩
    rename_i unestimated
    rw [estimatedCost_none] at unestimated
    rw [bind_success] at computed
    obtain ⟨resolved,formula,computed⟩ := computed
    cases resolved with
    | none => cases computed
    | some other =>
      cases computed
      obtain ⟨quotient,divided,normal⟩ := (providerCostUsd_some arithmetic prices tokens _ cost).mp formula
      exact ⟨quotient,.formula unreported unestimated quotient divided,normal⟩
  · rintro ⟨amount,billed,normal⟩
    cases billed with
    | reported _ reads => rw [(reportedCost_some arithmetic _ cost).mpr ⟨amount,reads,normal⟩]
    | estimated unset trusted _ reads =>
      rw [(reportedCost_none arithmetic _).mpr unset,
        (estimatedCost_some arithmetic usage policy cost).mpr ⟨trusted,amount,reads,normal⟩]
    | formula unset unestimated _ quotient =>
      rw [(reportedCost_none arithmetic _).mpr unset,(estimatedCost_none arithmetic usage policy).mpr unestimated,
        (providerCostUsd_some arithmetic prices tokens _ cost).mpr ⟨amount,quotient,normal⟩]
      rfl

end Usage

end Charge

section Response
variable (arithmetic : Decimal.Arithmetic) (response : Value) (prices : ProviderPrices)
  (policy : ProviderReportedCostPolicy)

def Counted (usage : List (String × Value)) (tokens : Usage) : Prop :=
  response.get "usage" = some (.object usage) ∧ tokenUsage usage = some tokens

theorem Counted.unique {usage other : List (String × Value)} {tokens otherTokens : Usage}
    (first : Counted response usage tokens) (second : Counted response other otherTokens) :
    usage = other ∧ tokens = otherTokens := by
  have same := first.1.symm.trans second.1
  cases same
  exact ⟨rfl,Option.some.inj (first.2.symm.trans second.2)⟩

theorem inject_outcome (usage : List (String × Value)) (tokens : Usage) (counted : Counted response usage tokens) :
    (injectUsageCostValueWithPolicy arithmetic response prices policy).map Prod.fst =
      (providerCost arithmetic usage tokens (cachedTokens usage) prices policy).map (fun resolved =>
        resolved.map (fun cost => ⟨(response.get "id").bind Value.asStr,tokens,cost⟩)) := by
  have isObject : (response.get "usage").bind Value.asObject = some usage := by
    rw [counted.1]
    rfl
  unfold injectUsageCostValueWithPolicy
  simp only [isObject,counted.2]
  cases providerCost arithmetic usage tokens (cachedTokens usage) prices policy with
  | error panic => rfl
  | ok resolved =>
    cases resolved with
    | error omission => rfl
    | ok cost =>
      simp only [ok_bind,fromStr_toText,expect_some]
      rfl

/-- Some response is served with a cost of that value. -/
def ServedAt (cost : ℚ) : Prop :=
  ∃ costed value, injectUsageCostValueWithPolicy arithmetic response prices policy = .ok (.ok costed,value) ∧
    costed.costUsd.value = cost

theorem inject_billed (costed : CostedUsage) (value : Value)
    (ran : injectUsageCostValueWithPolicy arithmetic response prices policy = .ok (.ok costed,value)) :
    ∃ usage tokens amount, Counted response usage tokens ∧
      Billed arithmetic usage prices policy tokens amount ∧ normalizeCostUsd amount = some costed.costUsd := by
  obtain ⟨usage,read,counted,computed,_,_⟩ := inject_success arithmetic response value prices policy costed ran
  obtain ⟨amount,billed,normal⟩ := (providerCost_success arithmetic usage prices policy _ _).mp computed
  exact ⟨usage,costed.usage,amount,⟨read,counted⟩,billed,normal⟩

theorem billed_injects (usage : List (String × Value)) (tokens : Usage) (amount : Decimal)
    (counted : Counted response usage tokens) (billed : Billed arithmetic usage prices policy tokens amount)
    (nonnegative : Decimal.zero ≤ amount) :
    ∃ costed value, injectUsageCostValueWithPolicy arithmetic response prices policy = .ok (.ok costed,value) ∧
      normalizeCostUsd amount = some costed.costUsd := by
  have normal := (normalizeCostUsd_some amount _).mpr ⟨nonnegative,rfl⟩
  have outcome := inject_outcome arithmetic response prices policy usage tokens counted
  rw [(providerCost_success arithmetic usage prices policy tokens _).mpr ⟨amount,billed,normal⟩] at outcome
  cases ran : injectUsageCostValueWithPolicy arithmetic response prices policy with
  | error panic =>
    rw [ran] at outcome
    cases outcome
  | ok result =>
    obtain ⟨resolved,value⟩ := result
    rw [ran] at outcome
    cases outcome
    exact ⟨_,value,rfl,normal⟩

theorem served_cost (cost : Decimal) (computed : ((injectUsageCostValueWithPolicy arithmetic response prices
    policy).toOption.bind (fun result => result.1.toOption)).map CostedUsage.costUsd = some cost) :
    ∃ costed value, injectUsageCostValueWithPolicy arithmetic response prices policy = .ok (.ok costed,value) ∧
      costed.costUsd = cost := by
  obtain ⟨costed,present,same⟩ := Option.map_eq_some_iff.mp computed
  obtain ⟨⟨answer,value⟩,injected,resolves⟩ := Option.bind_eq_some_iff.mp present
  obtain rfl : answer = .ok costed := (toOption_some _ _).mp resolves
  exact ⟨costed,value,(toOption_some _ _).mp injected,same⟩

/-- A response is served exactly the billed amounts that are not negative, rounded. -/
theorem servedAt_iff (cost : ℚ) : ServedAt arithmetic response prices policy cost ↔
    ∃ usage tokens amount, Counted response usage tokens ∧ Billed arithmetic usage prices policy tokens amount ∧
      Decimal.zero ≤ amount ∧ cost = roundAway costScale amount.value := by
  constructor
  · rintro ⟨costed,value,ran,rfl⟩
    obtain ⟨usage,tokens,amount,counted,billed,normal⟩ :=
      inject_billed arithmetic response prices policy costed value ran
    exact ⟨usage,tokens,amount,counted,billed,((normalizeCostUsd_some _ _).mp normal).1,
      normalizeCostUsd_value _ _ normal⟩
  · rintro ⟨usage,tokens,amount,counted,billed,nonnegative,rfl⟩
    obtain ⟨costed,value,ran,normal⟩ :=
      billed_injects arithmetic response prices policy usage tokens amount counted billed nonnegative
    exact ⟨costed,value,ran,normalizeCostUsd_value _ _ normal⟩

/-- The rule for the cost of a response. -/
structure Precedence : Prop where
  exactly : ∀ cost, ServedAt arithmetic response prices policy cost ↔
    ∃ usage tokens, Counted response usage tokens ∧ CostDue arithmetic usage prices policy tokens cost
  unrescued : ∀ usage, response.get "usage" = some (.object usage) → ¬ Unset (get "cost" usage) →
    (∀ amount, Reads arithmetic (get "cost" usage) amount → ¬ Decimal.zero ≤ amount) →
    ∃ omission, injectUsageCostValueWithPolicy arithmetic response prices policy = .ok (.error omission,response)
  unreplaced : policy = .deepInfraEstimatedCost → ∀ usage, response.get "usage" = some (.object usage) →
    Unset (get "cost" usage) → ¬ Unset (get "estimated_cost" usage) →
    (∀ amount, Reads arithmetic (get "estimated_cost" usage) amount → ¬ Decimal.zero ≤ amount) →
    ∃ omission, injectUsageCostValueWithPolicy arithmetic response prices policy = .ok (.error omission,response)
  ignored : policy = .usageCostOnly → ∀ usage other otherUsage, response.get "usage" = some (.object usage) →
    other.get "usage" = some (.object otherUsage) → other.get "id" = response.get "id" →
    (∀ key, key ≠ "estimated_cost" → get key otherUsage = get key usage) →
    (injectUsageCostValueWithPolicy arithmetic other prices policy).map Prod.fst =
      (injectUsageCostValueWithPolicy arithmetic response prices policy).map Prod.fst

/-- Where the formula is needed and defined, it has a quotient that is not negative and that
fitting has not carried over a midpoint. -/
def FormulaServed : Prop :=
  ∀ usage tokens, Counted response usage tokens → Unset (get "cost" usage) → EstimateUnset usage policy →
    FormulaDefined prices tokens (cachedTokens usage) →
    ∃ quotient, Quotient arithmetic prices tokens (cachedTokens usage) quotient ∧ Decimal.zero ≤ quotient ∧
      SameSide costScale quotient.value (exactCost prices tokens (cachedTokens usage))

theorem servedAt_exactly_iff : (∀ cost, ServedAt arithmetic response prices policy cost ↔
      ∃ usage tokens, Counted response usage tokens ∧ CostDue arithmetic usage prices policy tokens cost) ↔
    FormulaServed arithmetic response prices policy := by
  constructor
  · intro exactly usage tokens counted unset unestimated defined
    have due : CostDue arithmetic usage prices policy tokens _ := .formula unset unestimated defined
    obtain ⟨other,otherTokens,amount,recounted,billed,nonnegative,equal⟩ :=
      (servedAt_iff arithmetic response prices policy _).mp ((exactly _).mpr ⟨usage,tokens,counted,due⟩)
    obtain ⟨rfl,rfl⟩ := recounted.unique response counted
    cases billed with
    | reported _ reads => exact absurd unset (reads.isSet arithmetic)
    | estimated _ trusted _ reads => exact absurd (unestimated trusted) (reads.isSet arithmetic)
    | formula _ _ _ quotient =>
      exact ⟨amount,quotient,nonnegative,(roundAway_eq_iff _ _ _).mp equal.symm⟩
  · intro served cost
    rw [servedAt_iff]
    constructor
    · rintro ⟨usage,tokens,amount,counted,billed,nonnegative,rfl⟩
      refine ⟨usage,tokens,counted,?_⟩
      cases billed with
      | reported _ reads => exact .reported amount reads nonnegative
      | estimated unset trusted _ reads => exact .estimated unset trusted amount reads nonnegative
      | formula unset unestimated _ quotient =>
        have defined := quotient.defined
        obtain ⟨other,divided,_,same⟩ := served usage tokens counted unset unestimated defined
        obtain rfl := quotient_unique _ _ _ _ _ _ divided quotient
        rw [(roundAway_eq_iff _ _ _).mpr same]
        exact .formula unset unestimated defined
    · rintro ⟨usage,tokens,counted,due⟩
      cases due with
      | reported amount reads nonnegative =>
        exact ⟨usage,tokens,amount,counted,.reported amount reads,nonnegative,rfl⟩
      | estimated unset trusted amount reads nonnegative =>
        exact ⟨usage,tokens,amount,counted,.estimated unset trusted amount reads,nonnegative,rfl⟩
      | formula unset unestimated defined =>
        obtain ⟨amount,divided,nonnegative,same⟩ := served usage tokens counted unset unestimated defined
        exact ⟨usage,tokens,amount,counted,.formula unset unestimated amount divided,nonnegative,
          ((roundAway_eq_iff _ _ _).mpr same).symm⟩

theorem inject_refuses (usage : List (String × Value)) (read : response.get "usage" = some (.object usage))
    (refuses : ∀ tokens, ∃ omission,
      providerCost arithmetic usage tokens (cachedTokens usage) prices policy = .ok (.error omission)) :
    ∃ omission, injectUsageCostValueWithPolicy arithmetic response prices policy = .ok (.error omission,response) := by
  have isObject : (response.get "usage").bind Value.asObject = some usage := by
    rw [read]
    rfl
  unfold injectUsageCostValueWithPolicy
  simp only [isObject]
  cases tokenUsage usage with
  | none => exact ⟨_,rfl⟩
  | some tokens =>
    obtain ⟨omission,refused⟩ := refuses tokens
    exact ⟨omission,by simp only [refused]; rfl⟩

theorem invalid_cost_unrescued (usage : List (String × Value)) (read : response.get "usage" = some (.object usage))
    (isSet : ¬ Unset (get "cost" usage))
    (invalid : ∀ amount, Reads arithmetic (get "cost" usage) amount → ¬ Decimal.zero ≤ amount) :
    ∃ omission, injectUsageCostValueWithPolicy arithmetic response prices policy = .ok (.error omission,response) := by
  obtain ⟨omission,refused⟩ := reportedCost_error arithmetic _ isSet invalid
  exact inject_refuses arithmetic response prices policy usage read (fun tokens =>
    ⟨omission,by simp only [providerCost,refused]⟩)

theorem invalid_estimate_unreplaced (trusted : policy = .deepInfraEstimatedCost) (usage : List (String × Value))
    (read : response.get "usage" = some (.object usage)) (unset : Unset (get "cost" usage))
    (isSet : ¬ Unset (get "estimated_cost" usage))
    (invalid : ∀ amount, Reads arithmetic (get "estimated_cost" usage) amount → ¬ Decimal.zero ≤ amount) :
    ∃ omission, injectUsageCostValueWithPolicy arithmetic response prices policy = .ok (.error omission,response) := by
  obtain ⟨omission,refused⟩ := reportedCost_error arithmetic _ isSet invalid
  refine inject_refuses arithmetic response prices policy usage read (fun tokens => ⟨omission,?_⟩)
  rw [← reportedCost_none arithmetic] at unset
  simp only [providerCost,unset,estimatedCost,if_pos trusted,refused]

theorem estimate_ignored (untrusted : policy = .usageCostOnly) (usage : List (String × Value)) (other : Value)
    (otherUsage : List (String × Value)) (read : response.get "usage" = some (.object usage))
    (otherRead : other.get "usage" = some (.object otherUsage)) (id : other.get "id" = response.get "id")
    (same : ∀ key, key ≠ "estimated_cost" → get key otherUsage = get key usage) :
    (injectUsageCostValueWithPolicy arithmetic other prices policy).map Prod.fst =
      (injectUsageCostValueWithPolicy arithmetic response prices policy).map Prod.fst := by
  have tokens : tokenUsage otherUsage = tokenUsage usage := by
    simp only [tokenUsage,same "prompt_tokens" (by decide),same "completion_tokens" (by decide)]
  have cached : cachedTokens otherUsage = cachedTokens usage := by
    simp only [cachedTokens,same "prompt_tokens_details" (by decide)]
  have resolved (counts : Usage) : providerCost arithmetic otherUsage counts (cachedTokens otherUsage) prices policy =
      providerCost arithmetic usage counts (cachedTokens usage) prices policy := by
    simp only [providerCost,estimatedCost,untrusted,cached,same "cost" (by decide),reduceCtorEq,if_false]
  cases counted : tokenUsage usage with
  | none =>
    simp only [injectUsageCostValueWithPolicy,read,otherRead,Option.bind_some,Value.asObject,tokens,counted]
    rfl
  | some counts =>
    rw [inject_outcome arithmetic other prices policy otherUsage counts ⟨otherRead,tokens.trans counted⟩,
      inject_outcome arithmetic response prices policy usage counts ⟨read,counted⟩,resolved,id]

/-- The column holds eighteen digits, ten of them after the point. -/
structure InColumn (cost : Decimal) : Prop where
  nonnegative : Decimal.zero ≤ cost
  places : cost.scale = costScale
  below : cost.value < (10^8 : Nat)

/-- Every cost that is served is written as it is, and fits the ledger's column. -/
def LedgerFits : Prop :=
  ∀ costed value, injectUsageCostValueWithPolicy arithmetic response prices policy = .ok (.ok costed,value) →
    Carries value costed ∧ InColumn costed.costUsd

theorem normalized_inColumn (amount cost : Decimal) (normal : normalizeCostUsd amount = some cost) :
    InColumn cost ↔ amount.value < (10^8 : Nat) - 1 / (2 * 10^costScale) := by
  obtain ⟨nonnegative,equal⟩ := (normalizeCostUsd_some amount cost).mp normal
  have value := normalizeCostUsd_value amount cost normal
  have sign : 0 ≤ amount.value := by simpa [Decimal.le_def] using nonnegative
  rw [← roundAway_lt_iff costScale amount.value sign,← value]
  refine ⟨InColumn.below,fun below => ⟨?_,?_,below⟩⟩
  · rw [Decimal.le_def,Decimal.value_zero,value]
    exact roundAway_nonnegative costScale _ sign
  · rw [equal]
    exact amount.rounded_scale costScale (10^8) (by decide) (by decide) nonnegative (value ▸ below)

/-- Served costs fit the column exactly when every billed amount is below its bound by half a
last place. -/
theorem ledger_fits_iff : LedgerFits arithmetic response prices policy ↔
    ∀ usage tokens amount, Counted response usage tokens → Billed arithmetic usage prices policy tokens amount →
      Decimal.zero ≤ amount → amount.value < (10^8 : Nat) - 1 / (2 * 10^costScale) := by
  constructor
  · intro fits usage tokens amount counted billed nonnegative
    obtain ⟨costed,value,ran,normal⟩ :=
      billed_injects arithmetic response prices policy usage tokens amount counted billed nonnegative
    exact (normalized_inColumn amount _ normal).mp (fits costed value ran).2
  · intro bounded costed value ran
    obtain ⟨usage,tokens,amount,counted,billed,normal⟩ :=
      inject_billed arithmetic response prices policy costed value ran
    refine ⟨inject_carries arithmetic response value prices policy costed ran,(normalized_inColumn amount _ normal).mpr ?_⟩
    exact bounded usage tokens amount counted billed ((normalizeCostUsd_some amount _).mp normal).1

end Response

section Sample

def billedResponse (cost : Value) : Value :=
  .object [("usage",.object [("completion_tokens",.number ⟨"0",by decide⟩),("cost",cost),
    ("prompt_tokens",.number ⟨"2",by decide⟩)])]

theorem billion_beyond_column :
    (∃ costed value, injectUsageCostValueWithPolicy Decimal.exact
        (billedResponse (.number ⟨"1000000000",by decide⟩)) largestPrices .usageCostOnly = .ok (.ok costed,value) ∧
      costed.costUsd.value = 10^9) ∧
    ¬ LedgerFits Decimal.exact (billedResponse (.number ⟨"1000000000",by decide⟩)) largestPrices .usageCostOnly := by
  obtain ⟨costed,value,ran,cost⟩ := served_cost Decimal.exact (billedResponse (.number ⟨"1000000000",by decide⟩))
    largestPrices .usageCostOnly ⟨false,10^19,10,by decide,by decide⟩ (by decide +kernel)
  have amount : costed.costUsd.value = 10^9 := by
    rw [cost]
    norm_num [Decimal.value]
  refine ⟨⟨costed,value,ran,amount⟩,fun fits => ?_⟩
  have below := (fits costed value ran).2.below
  rw [amount] at below
  norm_num at below

end Sample

end SerenRouter
