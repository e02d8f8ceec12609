import SerenRouter.ServedCost
import SerenRouter.Kernel.Numeral

/-! The injection of a cost as a step on response values: it writes the cost and nothing else, a
second step finds its own cost and writes it again, and a failed step writes nothing. -/
namespace SerenRouter
open Kernel Kernel.Json
open Kernel.SortedMap (get insert remove retain)

theorem normalizeCostUsd_again (amount cost : Decimal) (normal : normalizeCostUsd amount = some cost) :
    normalizeCostUsd cost = some cost := by
  obtain ⟨nonnegative,equal⟩ := (normalizeCostUsd_some amount cost).mp normal
  apply (normalizeCostUsd_some cost cost).mpr
  refine ⟨?_,?_⟩
  · rw [Decimal.le_def,Decimal.value_zero,normalizeCostUsd_value amount cost normal]
    exact roundAway_nonnegative costScale _ (by simpa [Decimal.le_def] using nonnegative)
  · rw [equal,amount.rounded_again costScale]

theorem normalizeCostUsd_unsigned (amount cost : Decimal) (signless : amount.Signless)
    (normal : normalizeCostUsd amount = some cost) : cost.negative = false := by
  obtain ⟨nonnegative,rfl⟩ := (normalizeCostUsd_some amount cost).mp normal
  have unsigned : amount.negative = false := by
    rcases (Decimal.zero_le_iff amount).mp nonnegative with positive | empty
    · exact positive
    · exact signless empty
  rw [Decimal.rescale,if_pos (amount.roundDp_scale costScale),Decimal.appendZeros_negative,Decimal.roundDp_negative,
    unsigned]

theorem costedFields_again (usage : List (String × Value)) (cost : Number) (policy : ProviderReportedCostPolicy) :
    costedFields (costedFields usage cost policy) cost policy = costedFields usage cost policy := by
  unfold costedFields
  split
  · dsimp only
    rw [SortedMap.insert_remove_insert _ _ _ _ (by decide),SortedMap.remove_remove]
  · exact SortedMap.insert_insert _ _ _ _

section Injection
variable (arithmetic : Decimal.Arithmetic) (response value : Value) (prices : ProviderPrices)
  (policy : ProviderReportedCostPolicy) (costed : CostedUsage)

theorem Billed.signless {usage : List (String × Value)} {tokens : Usage} {amount : Decimal}
    (rereads : arithmetic.Rereads) (billed : Billed arithmetic usage prices policy tokens amount) :
    amount.Signless := by
  have read (field : Option Value) (reads : Reads arithmetic field amount) : amount.Signless := by
    obtain ⟨number,_,parsed⟩ := reads
    rcases Option.or_eq_some_iff.mp parsed with plain | ⟨_,scientific⟩
    · exact rereads.fromStr _ _ plain
    · exact rereads.fromScientific _ _ scientific
  cases billed with
  | reported _ reads => exact read _ reads
  | estimated _ _ _ reads => exact read _ reads
  | formula _ _ _ quotient =>
    obtain ⟨total,_,divided⟩ := quotient
    exact rereads.div _ _ _ divided

/-- The value differs from the response in the cost of its usage and, where estimates are
trusted, in that no estimate is left. -/
structure OnlyCostWritten : Prop where
  others : ∀ key, key ≠ "usage" → value.get key = response.get key
  usage : ∃ before after cost, response.get "usage" = some (.object before) ∧
    value.get "usage" = some (.object after) ∧ get "cost" after = some (.number cost) ∧
    cost.text = costed.costUsd.toText ∧
    (policy = .deepInfraEstimatedCost → get "estimated_cost" after = none) ∧
    ∀ key, key ≠ "cost" → (policy = .deepInfraEstimatedCost → key ≠ "estimated_cost") →
      get key after = get key before
  wellFormed : response.WellFormed → value.WellFormed

theorem inject_writes (ran : injectUsageCostValueWithPolicy arithmetic response prices policy =
    .ok (.ok costed,value)) : OnlyCostWritten response value policy costed := by
  obtain ⟨usage,read,_,_,_,rfl⟩ := inject_success arithmetic response value prices policy costed ran
  obtain ⟨fields,rfl,_⟩ := Value.get_some_object response _ "usage" read
  refine ⟨?_,⟨usage,_,⟨costed.costUsd.toText,costed.costUsd.toText_number⟩,read,?_,costedFields_cost usage _ policy,
    rfl,?_,?_⟩,?_⟩
  · intro key other
    rw [Value.get_setIndex,if_neg other]
  · rw [Value.get_setIndex,if_pos rfl]
  · intro trusted
    rw [costedFields,if_pos trusted,SortedMap.get_remove,if_pos rfl]
  · intro key notCost notEstimate
    by_cases trusted : policy = .deepInfraEstimatedCost
    · exact costedFields_other usage _ policy key notCost (notEstimate trusted)
    · rw [costedFields,if_neg trusted,SortedMap.get_insert_ne _ _ _ _ notCost]
  · intro wellFormed
    exact Value.wellFormed_setIndex _ "usage" _ wellFormed
      (costedFields_wellFormed usage _ policy (Value.wellFormed_get _ _ "usage" wellFormed read))

/-- The cost that was written is the one that is read, and it is not rounded again. -/
theorem reportedCost_written (rereads : arithmetic.Rereads) (usage : List (String × Value)) (amount cost : Decimal)
    (tokens : Usage) (billed : Billed arithmetic usage prices policy tokens amount)
    (normal : normalizeCostUsd amount = some cost) :
    reportedCost arithmetic (some (.number ⟨cost.toText,cost.toText_number⟩)) = .ok (some cost) := by
  have unsigned := normalizeCostUsd_unsigned amount cost (billed.signless arithmetic prices policy rereads) normal
  have read : arithmetic.fromStr cost.toText = some cost := rereads.toText cost (fun _ => unsigned)
  simp only [reportedCost,read,Option.some_or,normalizeCostUsd_again amount cost normal]

theorem inject_again (rereads : arithmetic.Rereads)
    (ran : injectUsageCostValueWithPolicy arithmetic response prices policy = .ok (.ok costed,value))
    (otherPrices : ProviderPrices) :
    injectUsageCostValueWithPolicy arithmetic value otherPrices policy = .ok (.ok costed,value) := by
  obtain ⟨usage,read,counted,computed,identified,rfl⟩ :=
    inject_success arithmetic response value prices policy costed ran
  obtain ⟨fields,rfl,_⟩ := Value.get_some_object response _ "usage" read
  obtain ⟨amount,billed,normal⟩ := (providerCost_success arithmetic usage prices policy _ _).mp computed
  have reported := reportedCost_written arithmetic prices policy rereads usage amount costed.costUsd costed.usage billed
    normal
  obtain ⟨responseId,tokens,cost⟩ := costed
  dsimp only at counted identified reported ⊢
  have resolved : providerCost arithmetic (costedFields usage ⟨cost.toText,cost.toText_number⟩ policy) tokens
      (cachedTokens (costedFields usage ⟨cost.toText,cost.toText_number⟩ policy)) otherPrices policy =
      .ok (.ok cost) := by
    rw [providerCost,costedFields_cost,reported]
  have same : (Value.object fields).get "id" =
      ((Value.object fields).setIndex "usage" (.object (costedFields usage ⟨cost.toText,cost.toText_number⟩ policy))).get
        "id" := by
    rw [Value.get_setIndex,if_neg (by decide)]
  unfold injectUsageCostValueWithPolicy
  rw [← same,Value.get_setIndex,if_pos rfl]
  simp only [Option.bind_some,Value.asObject,tokenUsage_costedFields,counted,resolved,ok_bind,fromStr_toText,
    expect_some,costedFields_again]
  rw [identified,Value.setIndex,Value.setIndex,SortedMap.insert_insert]
  rfl

end Injection

/-- The injection writes its cost and nothing else, once: again it answers the same and changes
nothing, whatever the prices. An omission leaves the response as it was. -/
theorem injection_idempotent (arithmetic : Decimal.Arithmetic) (rereads : arithmetic.Rereads) (response value : Value)
    (prices : ProviderPrices) (policy : ProviderReportedCostPolicy) (answer : Except CostOmission CostedUsage)
    (ran : injectUsageCostValueWithPolicy arithmetic response prices policy = .ok (answer,value)) :
    (∀ costed, answer = .ok costed → OnlyCostWritten response value policy costed ∧
      ∀ otherPrices, injectUsageCostValueWithPolicy arithmetic value otherPrices policy = .ok (.ok costed,value)) ∧
    (∀ omission, answer = .error omission → value = response) := by
  constructor
  · rintro costed rfl
    exact ⟨inject_writes arithmetic response value prices policy costed ran,
      inject_again arithmetic response value prices policy costed rereads ran⟩
  · rintro omission rfl
    exact inject_failure arithmetic response value prices policy omission ran

section Sample

/-- An estimate with an exponent, and no cost. -/
def estimatedResponse : Value :=
  .object [("id",.string "gen-1"),("usage",.object [("completion_tokens",.number ⟨"17",by decide⟩),
    ("estimated_cost",.number ⟨"5.415e-5",by decide⟩),("prompt_tokens",.number ⟨"21",by decide⟩)])]

end Sample

theorem injection_idempotent_sample : ∃ costed value,
    injectUsageCostValueWithPolicy Decimal.exact estimatedResponse largestPrices .deepInfraEstimatedCost =
      .ok (.ok costed,value) ∧ OnlyCostWritten estimatedResponse value .deepInfraEstimatedCost costed ∧
    injectUsageCostValueWithPolicy Decimal.exact value midpointPrices .deepInfraEstimatedCost =
      .ok (.ok costed,value) := by
  obtain ⟨costed,value,ran,_⟩ := served_cost Decimal.exact estimatedResponse largestPrices .deepInfraEstimatedCost
    ⟨false,541500,10,by decide,by decide⟩ (by decide +kernel)
  obtain ⟨written,again⟩ := (injection_idempotent Decimal.exact Decimal.exact_rereads estimatedResponse value
    largestPrices .deepInfraEstimatedCost (.ok costed) ran).1 costed rfl
  exact ⟨costed,value,ran,written,again midpointPrices⟩

end SerenRouter
