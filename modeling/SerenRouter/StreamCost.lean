import SerenRouter.CostInjection
import SerenRouter.Ledger
import SerenRouter.StreamDriver

/-! The costs of a public stream: whatever it completes is the rounded amount that is billed for a usage, at the
prices and under the policy that its transformer was made with. -/
namespace SerenRouter
open Kernel Kernel.Json Kernel.Framing

section Stream
variable (codec : Codec) (arithmetic : Decimal.Arithmetic) (prices : ProviderPrices)
  (policy : ProviderReportedCostPolicy) (canonicalModel : String)

/-- The cost of the tokens of a usage. -/
def BilledCost (costed : CostedUsage) : Prop :=
  ∃ usage amount, tokenUsage usage = some costed.usage ∧
    Billed arithmetic usage prices policy costed.usage amount ∧ normalizeCostUsd amount = some costed.costUsd

theorem inject_billedCost (response value : Value) (costed : CostedUsage)
    (ran : injectUsageCostValueWithPolicy arithmetic response prices policy = .ok (.ok costed,value)) :
    BilledCost arithmetic prices policy costed := by
  obtain ⟨usage,_,counted,computed,_,_⟩ := inject_success arithmetic response value prices policy costed ran
  obtain ⟨amount,billed,normal⟩ := (providerCost_success arithmetic usage prices policy _ _).mp computed
  exact ⟨usage,amount,counted,billed,normal⟩

/-- A public transformer with its prices, and with a cost that it has billed if it has one. -/
structure Bound (state : EventState) : Prop where
  serves : ServesModel canonicalModel state
  priced : state.prices = some prices
  policed : state.providerCostPolicy = policy
  stored : ∀ costed, state.costedUsage = some costed → BilledCost arithmetic prices policy costed

theorem priceEvent_billedCost (state : EventState) (bound : Bound arithmetic prices policy canonicalModel state)
    (value result : Value) (costed : CostedUsage)
    (ran : state.priceEvent arithmetic value = .ok (.ok (some costed),result)) :
    BilledCost arithmetic prices policy costed := by
  simp only [EventState.priceEvent,bound.priced] at ran
  split at ran
  · rw [bind_success] at ran
    obtain ⟨⟨outcome,injected⟩,computed,ran⟩ := ran
    rw [bound.policed] at computed
    cases outcome with
    | error omission => cases ran
    | ok made =>
      cases ran
      exact inject_billedCost arithmetic prices policy _ _ costed computed
  · cases ran

theorem step_bound (state : EventState) (event : List UInt8) (next : EventState) (output : List UInt8) (completion : Option CostedUsage)
    (bound : Bound arithmetic prices policy canonicalModel state)
    (ran : (eventMachine codec arithmetic).step state event = .ok (next,output,completion)) :
    Bound arithmetic prices policy canonicalModel next ∧
      ∀ costed, completion = some costed → BilledCost arithmetic prices policy costed := by
  have step := eventMachine_step codec arithmetic canonicalModel state next event output completion bound.serves ran
  have configured := step.configuration
  have stepped : state.transformPublicEvent codec arithmetic event canonicalModel = .ok (next,output,completion) := by
    rw [← ran]
    simp only [eventMachine,EventState.transformEvent]
    rw [bound.serves]
  suffices told : (∀ costed, next.costedUsage = some costed → BilledCost arithmetic prices policy costed) ∧
      ∀ costed, completion = some costed → BilledCost arithmetic prices policy costed from
    ⟨⟨configured.1.trans bound.serves,configured.2.1.trans bound.priced,configured.2.2.trans bound.policed,told.1⟩,told.2⟩
  have refused (ran : state.closeWithGenericError codec canonicalModel = .ok (next,output,completion)) :
      (∀ costed, next.costedUsage = some costed → BilledCost arithmetic prices policy costed) ∧
        ∀ costed, completion = some costed → BilledCost arithmetic prices policy costed := by
    rw [EventState.closeWithGenericError,bind_success] at ran
    obtain ⟨text,_,ran⟩ := ran
    cases ran
    exact ⟨by simp,by simp⟩
  simp only [EventState.transformPublicEvent] at stepped
  split at stepped
  · exact refused stepped
  split at stepped
  · split at stepped
    · exact refused stepped
    · cases stepped
      exact ⟨by simp,bound.stored⟩
  split at stepped
  · exact refused stepped
  split at stepped
  · exact refused stepped
  rw [bind_success] at stepped
  obtain ⟨⟨outcome,value⟩,priced,stepped⟩ := stepped
  cases outcome with
  | error omission => exact refused stepped
  | ok costed =>
    dsimp only at stepped
    split at stepped
    · exact refused stepped
    · cases stepped
      refine ⟨fun other stored => ?_,by simp⟩
      rcases Option.or_eq_some_iff.mp stored with here | ⟨_,before⟩
      · rw [here] at priced
        exact priceEvent_billedCost arithmetic prices policy canonicalModel state bound _ _ other priced
      · exact bound.stored other before

theorem run_billedCost (chunks : List (List UInt8)) (result : StreamRun)
    (ran : (UsageCostTransformer.priced prices policy canonicalModel).run codec arithmetic chunks = .ok result)
    (costed : CostedUsage) (completed : costed ∈ result.completed) : BilledCost arithmetic prices policy costed := by
  have fresh : Bound arithmetic prices policy canonicalModel
      (UsageCostTransformer.priced prices policy canonicalModel).toEventState := ⟨rfl,rfl,rfl,fun _ none => by cases none⟩
  rw [run_consume codec arithmetic canonicalModel _ chunks fresh.serves rfl rfl,bind_success] at ran
  obtain ⟨progress,consumed,ran⟩ := ran
  rw [bind_success] at ran
  obtain ⟨⟨remainder,final⟩,finished,ran⟩ := ran
  cases ran
  obtain ⟨bound,told⟩ := (eventMachine codec arithmetic).consume_yields
    (Bound arithmetic prices policy canonicalModel) (BilledCost arithmetic prices policy)
    (step_bound codec arithmetic prices policy canonicalModel) _ _ _ progress fresh consumed
  rcases List.mem_append.mp completed with here | last
  · exact told costed (Option.mem_toList.mp here)
  · have finishes : final = some costed := Option.mem_toList.mp last
    subst finishes
    cases active : progress.state.closed with
    | true =>
      rw [UsageCostTransformer.finish,if_pos active] at finished
      cases finished
    | false =>
      rcases finish_public codec canonicalModel _ remainder (some costed) bound.serves (by simp [bound.priced]) active
        finished with ⟨none,_⟩ | ⟨other,same,stored,_⟩
      · cases none
      · cases same
        exact bound.stored costed stored

end Stream

/-- A billed cost is written to its column as it is. -/
theorem BilledCost.column (arithmetic : Decimal.Arithmetic) (rereads : arithmetic.Rereads) (prices : ProviderPrices)
    (policy : ProviderReportedCostPolicy) (costed : CostedUsage) (billed : BilledCost arithmetic prices policy costed) :
    numericColumn costed.costUsd = costed.costUsd := by
  obtain ⟨usage,amount,_,charged,normal⟩ := billed
  have unsigned := normalizeCostUsd_unsigned amount _ (charged.signless arithmetic prices policy rereads) normal
  obtain ⟨_,rounded⟩ := (normalizeCostUsd_some amount costed.costUsd).mp normal
  have same : (costed.costUsd.roundDp costScale).rescale costScale = costed.costUsd := by
    rw [rounded,amount.rounded_again costScale]
  rw [numericColumn,same]
  exact Decimal.fromParts_self costed.costUsd (fun _ => unsigned)

end SerenRouter
