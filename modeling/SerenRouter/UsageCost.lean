import SerenRouter.Attribution
import SerenRouter.Pricing

/-! The cost written into a completion's usage, and the public form of a completion.
The updates in place return the value they leave behind next to their result. -/
namespace SerenRouter
open Kernel Kernel.Json
open Kernel.SortedMap (get insert remove retain)

structure CostedUsage where
  responseId : Option String
  usage : Usage
  costUsd : Decimal
  deriving DecidableEq

structure CostedResponse where
  body : List UInt8
  usage : CostedUsage
  deriving DecidableEq

inductive ProviderReportedCostPolicy where
  | usageCostOnly
  | deepInfraEstimatedCost
  deriving DecidableEq

inductive CostOmission where
  | invalidJson
  | missingUsage
  | invalidUsage
  | invalidProviderCost
  | unknownPrice
  | unresolvedProviderCost
  deriving DecidableEq

inductive PublicResponseRejection where
  | invalidJson
  | embeddedError
  | unrecognizedShape
  deriving DecidableEq

/-- The model without the prefix `provider/`, when something is left behind it. -/
def canonicalSlug (requestedModel servedProvider : String) : String :=
  match (Text.stripPrefix requestedModel servedProvider).bind (fun suffix => Text.stripPrefix suffix "/") with
  | some slug => if slug.isEmpty then requestedModel else slug
  | none => requestedModel

def pricesForRequest (requestedModel servedProvider : String) (priceTable : PriceTable) :
    Except CostOmission ProviderPrices :=
  match priceTable.get servedProvider (canonicalSlug requestedModel servedProvider) with
  | some prices => .ok prices
  | none => .error .unknownPrice

theorem pricesForRequest_success (requestedModel servedProvider : String) (priceTable : PriceTable)
    (prices : ProviderPrices) :
    pricesForRequest requestedModel servedProvider priceTable = .ok prices ↔
      priceTable.get servedProvider (canonicalSlug requestedModel servedProvider) = some prices := by
  unfold pricesForRequest
  cases priceTable.get servedProvider (canonicalSlug requestedModel servedProvider) <;> simp

def providerReportedCostPolicy (servedProvider : String) : ProviderReportedCostPolicy :=
  if servedProvider = "deepinfra" ∨ servedProvider = "deepinfra-glm" then .deepInfraEstimatedCost
  else .usageCostOnly

/-- The value without the vendor's private fields, and whether there were any. -/
def stripProviderSpecificFields (value : Value) : Value × Bool :=
  (value.prune "provider_specific_fields",value.mentions "provider_specific_fields")

section Cost
variable (arithmetic : Decimal.Arithmetic)

def reportedCost (value : Option Value) : Except CostOmission (Option Decimal) :=
  match value with
  | none => .ok none
  | some .null => .ok none
  | some (.number cost) =>
    match (arithmetic.fromStr cost.text).or (arithmetic.fromScientific cost.text) with
    | none => .error .invalidProviderCost
    | some cost =>
      match normalizeCostUsd cost with
      | some cost => .ok (some cost)
      | none => .error .invalidProviderCost
  | some _ => .error .invalidProviderCost

def estimatedCost (usage : List (String × Value)) (policy : ProviderReportedCostPolicy) :
    Except CostOmission (Option Decimal) :=
  if policy = .deepInfraEstimatedCost then reportedCost arithmetic (get "estimated_cost" usage)
  else .ok none

/-- The cost of a usage object: what the provider reports, else its estimate where the
policy trusts one, else the registry's formula. -/
def providerCost (usage : List (String × Value)) (tokenUsage : Usage) (cachedPromptTokens : Option UInt64)
    (prices : ProviderPrices) (policy : ProviderReportedCostPolicy) :
    Except Panic (Except CostOmission Decimal) :=
  match reportedCost arithmetic (get "cost" usage) with
  | .error omission => .ok (.error omission)
  | .ok (some cost) => .ok (.ok cost)
  | .ok none =>
    match estimatedCost arithmetic usage policy with
    | .error omission => .ok (.error omission)
    | .ok (some cost) => .ok (.ok cost)
    | .ok none => do
      match ← providerCostUsd arithmetic prices tokenUsage cachedPromptTokens with
      | some cost => return .ok cost
      | none => return .error .unresolvedProviderCost

def cachedTokens (usage : List (String × Value)) : Option UInt64 :=
  (((get "prompt_tokens_details" usage).bind Value.asObject).bind (get "cached_tokens")).bind Value.asU64

def tokenUsage (usage : List (String × Value)) : Option Usage := do
  let promptTokens ← (get "prompt_tokens" usage).bind Value.asU64
  let completionTokens ← (get "completion_tokens" usage).bind Value.asU64
  return ⟨promptTokens,completionTokens⟩

/-- The usage object with its cost; a trusted estimate is taken out. -/
def costedFields (usage : List (String × Value)) (cost : Number) (policy : ProviderReportedCostPolicy) :
    List (String × Value) :=
  let usage := insert "cost" (.number cost) usage
  if policy = .deepInfraEstimatedCost then remove "estimated_cost" usage else usage

def injectUsageCostValueWithPolicy (response : Value) (prices : ProviderPrices)
    (policy : ProviderReportedCostPolicy) : Except Panic (Except CostOmission CostedUsage × Value) :=
  let responseId := (response.get "id").bind Value.asStr
  match (response.get "usage").bind Value.asObject with
  | none => .ok (.error .missingUsage,response)
  | some usage =>
    match tokenUsage usage with
    | none => .ok (.error .invalidUsage,response)
    | some tokens => do
      match ← providerCost arithmetic usage tokens (cachedTokens usage) prices policy with
      | .error omission => return (.error omission,response)
      | .ok cost =>
        let costNumber ← expect (Number.fromStr cost.toText) "Decimal always serializes as a JSON number"
        return (.ok ⟨responseId,tokens,cost⟩,
          response.setIndex "usage" (.object (costedFields usage costNumber policy)))

def injectUsageCost (codec : Codec) (body : List UInt8) (requestedModel servedProvider : String)
    (priceTable : PriceTable) : Except Panic (Except CostOmission CostedResponse) :=
  match codec.fromSlice body with
  | none => .ok (.error .invalidJson)
  | some response =>
    let response := (stripProviderSpecificFields response).1
    match pricesForRequest requestedModel servedProvider priceTable with
    | .error omission => .ok (.error omission)
    | .ok prices => do
      let (costed,response) ← injectUsageCostValueWithPolicy arithmetic response prices
        (providerReportedCostPolicy servedProvider)
      match costed with
      | .error omission => return .error omission
      | .ok usage =>
        match codec.toVec response with
        | none => return .error .invalidJson
        | some body => return .ok ⟨body,usage⟩

theorem costedFields_cost (usage : List (String × Value)) (cost : Number) (policy : ProviderReportedCostPolicy) :
    get "cost" (costedFields usage cost policy) = some (.number cost) := by
  unfold costedFields
  split
  · rw [SortedMap.get_remove,if_neg (by decide),SortedMap.get_insert_self]
  · rw [SortedMap.get_insert_self]

theorem costedFields_other (usage : List (String × Value)) (cost : Number)
    (policy : ProviderReportedCostPolicy) (key : String) (notCost : key ≠ "cost")
    (notEstimate : key ≠ "estimated_cost") : get key (costedFields usage cost policy) = get key usage := by
  unfold costedFields
  split
  · rw [SortedMap.get_remove,if_neg notEstimate,SortedMap.get_insert_ne _ _ _ _ notCost]
  · rw [SortedMap.get_insert_ne _ _ _ _ notCost]

@[simp] theorem tokenUsage_costedFields (usage : List (String × Value)) (cost : Number)
    (policy : ProviderReportedCostPolicy) : tokenUsage (costedFields usage cost policy) = tokenUsage usage := by
  unfold tokenUsage
  rw [costedFields_other _ _ _ _ (by decide) (by decide),costedFields_other _ _ _ _ (by decide) (by decide)]

theorem costedFields_wellFormed (usage : List (String × Value)) (cost : Number)
    (policy : ProviderReportedCostPolicy) (wellFormed : (Value.object usage).WellFormed) :
    (Value.object (costedFields usage cost policy)).WellFormed := by
  have inserted := Value.wellFormed_insert usage "cost" (.number cost) wellFormed trivial
  unfold costedFields
  split
  · exact Value.wellFormed_retain _ _ inserted
  · exact inserted

theorem costedFields_freeOf (key : String) (usage : List (String × Value)) (cost : Number)
    (policy : ProviderReportedCostPolicy) (free : (Value.object usage).FreeOf key) (notCost : key ≠ "cost") :
    (Value.object (costedFields usage cost policy)).FreeOf key := by
  have inserted := Value.freeOf_insert key "cost" (.number cost) usage free (Ne.symm notCost) trivial
  unfold costedFields
  split
  · exact Value.freeOf_retain key _ _ inserted
  · exact inserted

theorem fromStr_toText (cost : Decimal) : Number.fromStr cost.toText = some ⟨cost.toText,cost.toText_number⟩ := by
  simp [Number.fromStr,cost.toText_number]

theorem inject_success (response value : Value) (prices : ProviderPrices)
    (policy : ProviderReportedCostPolicy) (costed : CostedUsage)
    (ran : injectUsageCostValueWithPolicy arithmetic response prices policy = .ok (.ok costed,value)) :
    ∃ usage, response.get "usage" = some (.object usage) ∧ tokenUsage usage = some costed.usage ∧
      providerCost arithmetic usage costed.usage (cachedTokens usage) prices policy = .ok (.ok costed.costUsd) ∧
      costed.responseId = (response.get "id").bind Value.asStr ∧
      value = response.setIndex "usage" (.object (costedFields usage
        ⟨costed.costUsd.toText,costed.costUsd.toText_number⟩ policy)) := by
  unfold injectUsageCostValueWithPolicy at ran
  split at ran
  · cases ran
  rename_i usage found
  obtain ⟨member,read,isObject⟩ := Option.bind_eq_some_iff.mp found
  rw [Value.asObject_success] at isObject
  subst isObject
  split at ran
  · cases ran
  rename_i tokens counted
  rw [bind_success] at ran
  obtain ⟨resolved,priced,ran⟩ := ran
  cases resolved with
  | error omission => cases ran
  | ok cost =>
    simp only [fromStr_toText,expect_some,ok_bind] at ran
    cases ran
    exact ⟨usage,read,counted,priced,rfl,rfl⟩

theorem inject_failure (response value : Value) (prices : ProviderPrices)
    (policy : ProviderReportedCostPolicy) (omission : CostOmission)
    (ran : injectUsageCostValueWithPolicy arithmetic response prices policy = .ok (.error omission,value)) :
    value = response := by
  unfold injectUsageCostValueWithPolicy at ran
  split at ran
  · cases ran
    rfl
  split at ran
  · cases ran
    rfl
  rw [bind_success] at ran
  obtain ⟨resolved,_,ran⟩ := ran
  cases resolved with
  | error omission =>
    cases ran
    rfl
  | ok cost =>
    simp only [fromStr_toText,expect_some,ok_bind] at ran
    cases ran

/-- A cost is resolved without a panic unless the registry's formula is needed and panics. -/
theorem providerCost_answers (usage : List (String × Value)) (tokens : Usage) (cached : Option UInt64)
    (prices : ProviderPrices) (policy : ProviderReportedCostPolicy) :
    (∃ cost, providerCost arithmetic usage tokens cached prices policy = .ok cost) ↔
      (reportedCost arithmetic (get "cost" usage) = .ok none → estimatedCost arithmetic usage policy = .ok none →
        ∃ cost, providerCostUsd arithmetic prices tokens cached = .ok cost) := by
  unfold providerCost
  split
  · simp [*]
  · simp [*]
  rename_i unreported
  split
  · simp [*]
  · simp [*]
  rename_i unestimated
  simp only [unreported,unestimated,true_imp_iff,bind_success]
  constructor
  · rintro ⟨_,cost,computed,_⟩
    exact ⟨cost,computed⟩
  · rintro ⟨cost,computed⟩
    cases cost with
    | none => exact ⟨_,none,computed,rfl⟩
    | some cost => exact ⟨_,some cost,computed,rfl⟩

theorem inject_answers (response : Value) (prices : ProviderPrices) (policy : ProviderReportedCostPolicy) :
    (∃ result, injectUsageCostValueWithPolicy arithmetic response prices policy = .ok result) ↔
      ∀ usage tokens, response.get "usage" = some (.object usage) → tokenUsage usage = some tokens →
        ∃ cost, providerCost arithmetic usage tokens (cachedTokens usage) prices policy = .ok cost := by
  unfold injectUsageCostValueWithPolicy
  cases found : (response.get "usage").bind Value.asObject with
  | none =>
    refine ⟨fun _ usage tokens read => ?_,fun _ => ⟨_,rfl⟩⟩
    rw [read] at found
    cases found
  | some usage =>
    obtain ⟨member,read,isObject⟩ := Option.bind_eq_some_iff.mp found
    rw [Value.asObject_success] at isObject
    subst isObject
    cases counted : tokenUsage usage with
    | none =>
      refine ⟨fun _ other tokens same count => ?_,fun _ => ⟨_,by simp only [counted]; rfl⟩⟩
      rw [read] at same
      cases same
      rw [counted] at count
      cases count
    | some tokens =>
      simp only [counted,bind_success]
      constructor
      · rintro ⟨_,cost,computed,_⟩ other same_tokens same count
        rw [read] at same
        cases same
        rw [counted] at count
        cases count
        exact ⟨cost,computed⟩
      · intro answers
        obtain ⟨cost,computed⟩ := answers usage tokens read counted
        cases cost with
        | error omission => exact ⟨_,_,computed,rfl⟩
        | ok cost => exact ⟨_,_,computed,by simp only [fromStr_toText,expect_some,ok_bind]; rfl⟩

theorem injectUsageCost_answers (codec : Codec) (body : List UInt8) (requestedModel servedProvider : String)
    (priceTable : PriceTable) :
    (∃ result, injectUsageCost arithmetic codec body requestedModel servedProvider priceTable = .ok result) ↔
      ∀ response prices, codec.fromSlice body = some response →
        pricesForRequest requestedModel servedProvider priceTable = .ok prices →
        ∃ result, injectUsageCostValueWithPolicy arithmetic (stripProviderSpecificFields response).1 prices
          (providerReportedCostPolicy servedProvider) = .ok result := by
  unfold injectUsageCost
  cases read : codec.fromSlice body with
  | none => simp
  | some response =>
    cases priced : pricesForRequest requestedModel servedProvider priceTable with
    | error omission => simp
    | ok prices =>
      simp only [bind_success,Option.some.injEq,Except.ok.injEq]
      constructor
      · rintro ⟨_,result,injected,_⟩ _ _ rfl rfl
        exact ⟨result,injected⟩
      · intro answers
        obtain ⟨⟨costed,value⟩,injected⟩ := answers response prices rfl rfl
        cases costed with
        | error omission => exact ⟨_,_,injected,rfl⟩
        | ok usage =>
          cases written : codec.toVec value with
          | none => exact ⟨_,_,injected,by simp only [written]; rfl⟩
          | some bytes => exact ⟨_,_,injected,by simp only [written]; rfl⟩

theorem inject_total (response : Value) (prices : ProviderPrices) (policy : ProviderReportedCostPolicy)
    (defined : ∀ usage cached, ∃ cost, providerCostUsd arithmetic prices usage cached = .ok cost) :
    ∃ result, injectUsageCostValueWithPolicy arithmetic response prices policy = .ok result :=
  (inject_answers arithmetic response prices policy).mpr (fun usage tokens _ _ =>
    (providerCost_answers arithmetic usage tokens (cachedTokens usage) prices policy).mpr
      (fun _ _ => defined tokens (cachedTokens usage)))

end Cost

/-- A value whose usage states the tokens and the cost of a costed usage. -/
def Carries (value : Value) (costed : CostedUsage) : Prop :=
  ∃ usage cost, value.get "usage" = some (.object usage) ∧ get "cost" usage = some (.number cost) ∧
    cost.text = costed.costUsd.toText ∧ tokenUsage usage = some costed.usage

theorem inject_carries (arithmetic : Decimal.Arithmetic) (response value : Value) (prices : ProviderPrices)
    (policy : ProviderReportedCostPolicy) (costed : CostedUsage)
    (ran : injectUsageCostValueWithPolicy arithmetic response prices policy = .ok (.ok costed,value)) :
    Carries value costed := by
  obtain ⟨usage,read,counted,_,_,rfl⟩ := inject_success arithmetic response value prices policy costed ran
  obtain ⟨fields,rfl,_⟩ := Value.get_some_object response _ "usage" read
  refine ⟨_,⟨costed.costUsd.toText,costed.costUsd.toText_number⟩,?_,costedFields_cost usage _ policy,rfl,?_⟩
  · rw [Value.get_setIndex,if_pos rfl]
  · rw [tokenUsage_costedFields,counted]

/-- The fields a public completion may have. -/
def isPublicField (field : String) : Bool :=
  field ∈ ["id","object","created","model","choices","usage","service_tier","system_fingerprint"]

def isCompletionObject (object : String) : Bool :=
  object ∈ ["chat.completion","chat.completion.chunk","text_completion"]

/-- An error member that is not null. -/
def embedsError (fields : List (String × Value)) : Bool :=
  (get "error" fields).any (fun error => !error.isNull)

/-- A completion has a nonempty id, a known object kind and an array of choices. -/
def recognized (fields : List (String × Value)) : Bool :=
  ((get "id" fields).bind Value.asStr).any (fun id => !id.isEmpty) &&
    ((get "object" fields).bind Value.asStr).any isCompletionObject &&
    (get "choices" fields).any Value.isArray

def stripValues (fields : List (String × Value)) : List (String × Value) :=
  fields.map (fun (field,value) => (field,(stripProviderSpecificFields value).1))

def publicFields (fields : List (String × Value)) (canonicalModel : String) : List (String × Value) :=
  insert "model" (.string canonicalModel) (retain isPublicField (stripValues fields))

def sanitizePublicCompletionValue (response : Value) (canonicalModel : String) :
    Except PublicResponseRejection Value :=
  match response with
  | .object fields =>
    if embedsError fields then .error .embeddedError
    else if recognized fields then .ok (.object (publicFields fields canonicalModel))
    else .error .unrecognizedShape
  | _ => .error .unrecognizedShape

def sanitizeAliasedJsonResponse (codec : Codec) (body : List UInt8) (canonicalModel : String) :
    Except PublicResponseRejection (List UInt8) :=
  match codec.fromSlice body with
  | none => .error .invalidJson
  | some response =>
    match sanitizePublicCompletionValue response canonicalModel with
    | .error rejection => .error rejection
    | .ok response =>
      match codec.toVec response with
      | none => .error .invalidJson
      | some body => .ok body

theorem get_stripValues (key : String) (fields : List (String × Value)) :
    get key (stripValues fields) = (get key fields).map (Value.prune "provider_specific_fields") := by
  induction fields with
  | nil => rfl
  | cons field fields ih =>
    obtain ⟨k,value⟩ := field
    rw [stripValues,List.map_cons,SortedMap.get_cons,SortedMap.get_cons,← stripValues,ih]
    split <;> rfl

theorem stripValues_wellFormed (fields : List (String × Value)) (wellFormed : (Value.object fields).WellFormed) :
    (Value.object (stripValues fields)).WellFormed := by
  rw [Value.wellFormed_object] at wellFormed ⊢
  refine ⟨?_,?_⟩
  · have keys : (stripValues fields).map Prod.fst = fields.map Prod.fst := by
      simp [stripValues,List.map_map,Function.comp_def]
    unfold SortedMap.Sorted
    rw [keys]
    exact wellFormed.1
  · intro field member
    obtain ⟨⟨k,value⟩,present,rfl⟩ := List.mem_map.mp member
    exact Value.prune_wellFormed _ value (wellFormed.2 _ present)

theorem get_publicFields (key canonicalModel : String) (fields : List (String × Value)) :
    get key (publicFields fields canonicalModel) =
      if key = "model" then some (.string canonicalModel)
      else if isPublicField key then (get key fields).map (Value.prune "provider_specific_fields")
      else none := by
  rw [publicFields,SortedMap.get_insert,SortedMap.get_retain,get_stripValues]

theorem publicFields_wellFormed (fields : List (String × Value)) (canonicalModel : String)
    (wellFormed : (Value.object fields).WellFormed) :
    (Value.object (publicFields fields canonicalModel)).WellFormed :=
  Value.wellFormed_insert _ _ _ (Value.wellFormed_retain _ _ (stripValues_wellFormed fields wellFormed)) trivial

theorem publicFields_allowed (fields : List (String × Value)) (canonicalModel : String) :
    ∀ field ∈ publicFields fields canonicalModel, isPublicField field.1 = true := by
  intro field member
  rcases SortedMap.keys_insert _ _ _ field member with rfl | kept
  · rfl
  · exact (List.mem_filter.mp kept).2

theorem publicFields_freeOf (fields : List (String × Value)) (canonicalModel : String) :
    (Value.object (publicFields fields canonicalModel)).FreeOf "provider_specific_fields" := by
  rw [Value.freeOf_object]
  intro field member
  have allowed := publicFields_allowed fields canonicalModel field member
  refine ⟨fun same => absurd (same ▸ allowed) (by decide),?_⟩
  rcases SortedMap.keys_insert _ _ _ field member with rfl | kept
  · trivial
  · obtain ⟨⟨k,value⟩,_,rfl⟩ := List.mem_map.mp (List.mem_filter.mp kept).1
    exact Value.prune_freeOf _ value

theorem sanitize_success (response value : Value) (canonicalModel : String) :
    sanitizePublicCompletionValue response canonicalModel = .ok value ↔
      ∃ fields, response = .object fields ∧ embedsError fields = false ∧ recognized fields = true ∧
        value = .object (publicFields fields canonicalModel) := by
  cases response with
  | object fields =>
    constructor
    · intro accepted
      simp only [sanitizePublicCompletionValue] at accepted
      cases embedded : embedsError fields with
      | true =>
        rw [embedded,if_pos rfl] at accepted
        cases accepted
      | false =>
        rw [embedded,if_neg (by simp)] at accepted
        cases known : recognized fields with
        | true =>
          rw [known,if_pos rfl] at accepted
          cases accepted
          exact ⟨fields,rfl,embedded,known,rfl⟩
        | false =>
          rw [known,if_neg (by simp)] at accepted
          cases accepted
    · rintro ⟨_,equal,clean,known,rfl⟩
      cases equal
      simp [sanitizePublicCompletionValue,clean,known]
  | _ => simp [sanitizePublicCompletionValue]

end SerenRouter
