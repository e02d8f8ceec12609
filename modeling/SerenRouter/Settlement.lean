import SerenRouter.Proxy
import SerenRouter.RoutedPricing
import SerenRouter.Kernel.JsonText

/-! Settlement of successful upstream responses that are not streamed: each is refused with a
generic error, or delivered with its cost and recorded once with the figures it carries. -/
namespace SerenRouter
open Kernel Kernel.Json
open Kernel.SortedMap (get)

section Settlement
variable (codec : Codec) (reader : List UInt8 → Option Value) (arithmetic : Decimal.Arithmetic) (proxy : ProxyState)
  (profile : RoutingProfile)
  (stream : Bool) (decision : RouteDecision) (requestStartedAt responseCompletedAt : Nat)
  (response : UpstreamResponse)

/-- A generic error of the router with status 502, and nothing recorded. -/
structure Refused (outcome : Reply × List Recording) : Prop where
  status : outcome.1.status = .badGateway
  generic : outcome.1.body = upstreamUnavailable.body ∨
    outcome.1.body = .json (aliasedUpstreamErrorBody .badGateway decision.canonicalModel)
  unrecorded : outcome.2 = []

/-- The usage object of the response that is costed for a served provider. -/
structure Costs (served : ServedProvider) (prices : ProviderPrices) (usage : List (String × Value))
    (tokens : Usage) : Prop where
  attributed : ServedProvider.fromHeaders response.headers = some served
  priced : pricesForRequest decision.canonicalModel served.asStr proxy.priceTable = .ok prices
  read : ∃ body prepared original, response.body = some body ∧
    upstreamBody codec (responseUsesPublicAlias proxy.publicProviderAliases (some served) decision.selectedProvider)
      body decision.canonicalModel = .ok prepared ∧
    codec.fromSlice prepared = some original ∧
    (stripProviderSpecificFields original).1.get "usage" = some (.object usage)
  counted : tokenUsage usage = some tokens

/-- The ledger row states what the delivered body states. -/
structure RowMatches (served : ServedProvider) (value : Value) (costed : CostedUsage) (row : GenerationWrite) :
    Prop where
  id : value.get "id" = some (.string row.id)
  promptTokens : row.promptTokens = costed.usage.promptTokens.toNat
  completionTokens : row.completionTokens = costed.usage.completionTokens.toNat
  costUsd : row.costUsd = costed.costUsd
  canonicalSlug : row.canonicalSlug = decision.canonicalModel
  providerId : row.providerId = served.asStr
  routingProfile : row.routingProfile = profile

/-- A body whose usage carries the cost computed for the served provider, recorded once; the
ledger row, if there is one, matches the body. -/
def Delivered (outcome : Reply × List Recording) : Prop :=
  ∃ served prices usage costed body value recording,
    Costs codec proxy decision response served prices usage costed.usage ∧
    providerCost arithmetic usage costed.usage (cachedTokens usage) prices
      (providerReportedCostPolicy served.asStr) = .ok (.ok costed.costUsd) ∧
    outcome.1.status = response.status ∧ outcome.1.body = .bytes body ∧ reader body = some value ∧
    Carries value costed ∧ outcome.2 = [recording] ∧
    ∀ row, recording.write = some row → RowMatches profile decision served value costed row

theorem toI64_success (number : UInt64) (integer : Int) (converted : GenerationContext.toI64 number = some integer) :
    integer = number.toNat := by
  unfold GenerationContext.toI64 at converted
  split at converted
  · cases converted
    rfl
  · cases converted

theorem generationWrite_success (generation : GenerationContext) (costed : CostedUsage) (completedAt : Nat)
    (row : GenerationWrite) (written : generation.generationWrite costed completedAt = some row) :
    costed.responseId = some row.id ∧ row.promptTokens = costed.usage.promptTokens.toNat ∧
      row.completionTokens = costed.usage.completionTokens.toNat ∧ row.costUsd = costed.costUsd ∧
      row.canonicalSlug = generation.canonicalSlug ∧ row.providerId = generation.providerId ∧
      row.routingProfile = generation.profile := by
  unfold GenerationContext.generationWrite at written
  obtain ⟨id,identified,written⟩ := Option.bind_eq_some_iff.mp written
  obtain ⟨prompt,promptFits,written⟩ := Option.bind_eq_some_iff.mp written
  obtain ⟨completion,completionFits,written⟩ := Option.bind_eq_some_iff.mp written
  cases written
  exact ⟨identified,toI64_success _ _ promptFits,toI64_success _ _ completionFits,rfl,rfl,rfl,rfl⟩

theorem injectUsageCost_delivers (lawful : codec.Lawful reader) (served : ServedProvider) (prepared : List UInt8)
    (costed : CostedResponse)
    (injected : injectUsageCost arithmetic codec prepared decision.canonicalModel served.asStr proxy.priceTable =
      .ok (.ok costed)) :
    ∃ prices usage original value, codec.fromSlice prepared = some original ∧
      pricesForRequest decision.canonicalModel served.asStr proxy.priceTable = .ok prices ∧
      (stripProviderSpecificFields original).1.get "usage" = some (.object usage) ∧
      tokenUsage usage = some costed.usage.usage ∧
      providerCost arithmetic usage costed.usage.usage (cachedTokens usage) prices
        (providerReportedCostPolicy served.asStr) = .ok (.ok costed.usage.costUsd) ∧
      reader costed.body = some value ∧ Carries value costed.usage ∧
      costed.usage.responseId = (value.get "id").bind Value.asStr := by
  unfold injectUsageCost at injected
  split at injected
  · cases injected
  rename_i original read
  dsimp only at injected
  split at injected
  · cases injected
  rename_i prices priced
  rw [bind_success] at injected
  obtain ⟨⟨result,value⟩,ran,injected⟩ := injected
  cases result with
  | error omission => cases injected
  | ok usageCost =>
    dsimp only at injected
    split at injected
    · cases injected
    rename_i body written
    cases injected
    obtain ⟨usage,member,counted,computed,identified,equal⟩ :=
      inject_success arithmetic _ value prices _ usageCost ran
    have pruned := Value.prune_wellFormed "provider_specific_fields" original (lawful.ordered _ _ read)
    have wellFormed : value.WellFormed := by
      rw [equal]
      exact Value.wellFormed_setIndex _ "usage" _ pruned
        (costedFields_wellFormed usage _ _ (Value.wellFormed_get _ _ "usage" pruned member))
    refine ⟨prices,usage,original,value,read,priced,member,counted,computed,
      lawful.understood value body wellFormed written,inject_carries arithmetic _ value prices _ usageCost ran,?_⟩
    obtain ⟨fields,object,_⟩ := Value.get_some_object _ _ "usage" member
    rw [identified,equal,object,Value.get_setIndex,if_neg (by decide)]

/-- Delivery ends in one of the two settlements, or panics in the registry's formula. -/
theorem deliver_settles (lawful : codec.Lawful reader) (served : ServedProvider) (body prepared : List UInt8)
    (contentType : Option (List UInt8)) (outcome : Reply × List Recording)
    (attributed : ServedProvider.fromHeaders response.headers = some served) (present : response.body = some body)
    (made : upstreamBody codec (responseUsesPublicAlias proxy.publicProviderAliases (some served)
      decision.selectedProvider) body decision.canonicalModel = .ok prepared)
    (ran : deliver codec arithmetic proxy profile decision requestStartedAt responseCompletedAt response contentType
      served prepared = .ok outcome) :
    Refused decision outcome ∨ Delivered codec reader arithmetic proxy profile decision response outcome := by
  rw [deliver,bind_success] at ran
  obtain ⟨result,injected,ran⟩ := ran
  cases result with
  | error omission =>
    cases ran
    exact .inl ⟨rfl,.inr rfl,rfl⟩
  | ok costed =>
    cases ran
    obtain ⟨prices,usage,original,value,read,priced,member,counted,computed,readable,carries,identified⟩ :=
      injectUsageCost_delivers codec reader arithmetic proxy decision lawful served prepared costed injected
    refine .inr ⟨served,prices,usage,costed.usage,costed.body,value,_,
      ⟨attributed,priced,⟨body,prepared,original,present,made,read,member⟩,counted⟩,computed,rfl,rfl,readable,carries,
      rfl,?_⟩
    intro row written
    obtain ⟨id,promptTokens,completionTokens,costUsd,canonicalSlug,providerId,routingProfile⟩ :=
      generationWrite_success _ costed.usage responseCompletedAt row written
    rw [id] at identified
    obtain ⟨name,found,isString⟩ := Option.bind_eq_some_iff.mp identified.symm
    refine ⟨?_,promptTokens,completionTokens,costUsd,canonicalSlug,providerId,routingProfile⟩
    cases name with
    | string text =>
      cases isString
      exact found
    | _ => cases isString

theorem respond_success (success : response.status.isSuccess = true)
    (plain : (stream && isEventStream (response.headers.get contentTypeHeader)) = false) :
    (∃ outcome, respond codec arithmetic proxy profile stream decision requestStartedAt responseCompletedAt response =
        .ok outcome ∧ Refused decision outcome ∧
        ∀ served prices usage tokens, ¬ Costs codec proxy decision response served prices usage tokens) ∨
      ∃ served body prepared contentType, ServedProvider.fromHeaders response.headers = some served ∧
        response.body = some body ∧
        upstreamBody codec (responseUsesPublicAlias proxy.publicProviderAliases (some served)
          decision.selectedProvider) body decision.canonicalModel = .ok prepared ∧
        respond codec arithmetic proxy profile stream decision requestStartedAt responseCompletedAt response =
          deliver codec arithmetic proxy profile decision requestStartedAt responseCompletedAt response contentType
            served prepared := by
  unfold respond
  cases attributed : ServedProvider.fromHeaders response.headers with
  | none =>
    refine .inl ⟨_,by simp [success]; rfl,⟨rfl,.inr rfl,rfl⟩,fun served _ _ _ costs => ?_⟩
    rw [costs.attributed] at attributed
    cases attributed
  | some served =>
    simp only [success,plain,Option.isNone_some,Bool.and_false,Bool.not_true,Bool.false_eq_true,if_false]
    cases present : response.body with
    | none =>
      refine .inl ⟨_,rfl,⟨rfl,.inl rfl,rfl⟩,fun _ _ _ _ costs => ?_⟩
      obtain ⟨body,_,_,same,_⟩ := costs.read
      rw [present] at same
      cases same
    | some body =>
      cases made : upstreamBody codec (responseUsesPublicAlias proxy.publicProviderAliases (some served)
          decision.selectedProvider) body decision.canonicalModel with
      | error rejection =>
        refine .inl ⟨_,by simp only [made]; rfl,⟨rfl,.inr rfl,rfl⟩,fun other _ _ _ costs => ?_⟩
        have same := costs.attributed
        rw [attributed] at same
        cases same
        obtain ⟨_,prepared,_,equal,prepares,_⟩ := costs.read
        rw [present] at equal
        cases equal
        rw [made] at prepares
        cases prepares
      | ok prepared => exact .inr ⟨served,body,prepared,_,rfl,rfl,made,by simp only [made]; rfl⟩

/-- The registry's formula, where a response needs it, does not overflow on its tokens. -/
def RatesFit : Prop :=
  ∀ served prices usage tokens, Costs codec proxy decision response served prices usage tokens →
    reportedCost arithmetic (get "cost" usage) = .ok none →
    estimatedCost arithmetic usage (providerReportedCostPolicy served.asStr) = .ok none →
    FormulaFits arithmetic prices tokens (cachedTokens usage)

theorem ratesFit_iff (signed : arithmetic.Signed) (registry : Registry)
    (accepted : PriceTable.fromRegistry registry = .ok proxy.priceTable) (served : ServedProvider)
    (body prepared : List UInt8) (attributed : ServedProvider.fromHeaders response.headers = some served)
    (present : response.body = some body)
    (made : upstreamBody codec (responseUsesPublicAlias proxy.publicProviderAliases (some served)
      decision.selectedProvider) body decision.canonicalModel = .ok prepared) :
    RatesFit codec arithmetic proxy decision response ↔
      ∃ result, injectUsageCost arithmetic codec prepared decision.canonicalModel served.asStr proxy.priceTable =
        .ok result := by
  have fits (prices : ProviderPrices)
      (priced : pricesForRequest decision.canonicalModel served.asStr proxy.priceTable = .ok prices) (tokens : Usage)
      (cached : Option UInt64) := providerCostUsd_fits arithmetic signed prices tokens cached
        (PriceTable.prices_nonnegative registry proxy.priceTable accepted _ _ prices
          ((pricesForRequest_success _ _ _ _).mp priced))
  rw [injectUsageCost_answers]
  simp only [inject_answers,providerCost_answers]
  constructor
  · intro fit original prices read priced usage tokens member counted unreported unestimated
    rw [fits prices priced]
    exact fit served prices usage tokens ⟨attributed,priced,⟨body,prepared,original,present,made,read,member⟩,counted⟩
      unreported unestimated
  · intro answers other prices usage tokens costs unreported unestimated
    have same := costs.attributed
    rw [attributed] at same
    cases same
    obtain ⟨otherBody,otherPrepared,original,equal,prepares,read,member⟩ := costs.read
    rw [present] at equal
    cases equal
    rw [made] at prepares
    cases prepares
    rw [← fits prices costs.priced]
    exact answers original prices read costs.priced usage tokens member costs.counted unreported unestimated

end Settlement

/-- A successful response that is not streamed is settled exactly when the registry's formula,
where it is needed, does not overflow: it is refused with a generic 502 and not recorded,
or delivered with the cost of its served provider and recorded once. -/
theorem settled_iff (codec : Codec) (reader : List UInt8 → Option Value) (lawful : codec.Lawful reader) (arithmetic : Decimal.Arithmetic)
    (signed : arithmetic.Signed) (registry : Registry) (proxy : ProxyState)
    (accepted : PriceTable.fromRegistry registry = .ok proxy.priceTable) (profile : RoutingProfile) (stream : Bool)
    (decision : RouteDecision) (requestStartedAt responseCompletedAt : Nat) (response : UpstreamResponse)
    (success : response.status.isSuccess = true)
    (plain : (stream && isEventStream (response.headers.get contentTypeHeader)) = false) :
    (Refused decision (catchPanic (respond codec arithmetic proxy profile stream decision requestStartedAt
        responseCompletedAt response)) ∨
      Delivered codec reader arithmetic proxy profile decision response (catchPanic (respond codec arithmetic proxy profile
        stream decision requestStartedAt responseCompletedAt response))) ↔
      RatesFit codec arithmetic proxy decision response := by
  rcases respond_success codec arithmetic proxy profile stream decision requestStartedAt responseCompletedAt response
    success plain with ⟨outcome,ran,refused,uncosted⟩ | ⟨served,body,prepared,contentType,attributed,present,made,ran⟩
  · rw [ran]
    exact ⟨fun _ served prices usage tokens costs => absurd costs (uncosted served prices usage tokens),
      fun _ => .inl refused⟩
  · rw [ran,ratesFit_iff codec arithmetic proxy decision response signed registry accepted served body prepared
      attributed present made]
    cases injected : injectUsageCost arithmetic codec prepared decision.canonicalModel served.asStr
        proxy.priceTable with
    | error panic =>
      -- The panic is answered with status 500, which is neither settlement.
      have panicked : deliver codec arithmetic proxy profile decision requestStartedAt responseCompletedAt response
          contentType served prepared = .error panic := by rw [deliver,injected]; rfl
      rw [panicked]
      refine ⟨fun settled => ?_,fun ⟨_,answered⟩ => by cases answered⟩
      rcases settled with refused | ⟨_,_,_,_,_,_,_,_,_,same,_⟩
      · cases congrArg StatusCode.code refused.status
      · rw [← same] at success
        cases success
    | ok result =>
      obtain ⟨outcome,delivered⟩ : ∃ outcome, deliver codec arithmetic proxy profile decision requestStartedAt
          responseCompletedAt response contentType served prepared = .ok outcome := by
        rw [deliver,injected,ok_bind]
        cases result <;> exact ⟨_,rfl⟩
      rw [delivered]
      exact ⟨fun _ => ⟨result,rfl⟩,fun _ => deliver_settles codec reader arithmetic proxy profile decision requestStartedAt
        responseCompletedAt response lawful served body prepared contentType outcome attributed present made delivered⟩

section Sample

/-- A response that names its provider and counts two prompt tokens. -/
def sampleResponse : UpstreamResponse :=
  ⟨⟨200,by decide⟩,⟨[(servedProviderHeader,utf8 "alpha")]⟩,
    some (utf8 "\x7b\"id\":\"g\",\"usage\":\x7b\"completion_tokens\":0,\"prompt_tokens\":2\x7d\x7d"),0,0⟩

def sampleServed : ServedProvider := ⟨"alpha",by decide,by decide⟩

theorem sampleServed_attributed : ServedProvider.fromHeaders sampleResponse.headers = some sampleServed := by rfl

def sampleDecision : RouteDecision := ⟨.production,"vendor/sole","alpha",[],false⟩

/-- Whether the body of the response can be costed with the table of a registry. -/
def costs (registry : Registry) : Option (Except Panic Unit) :=
  (PriceTable.fromRegistry registry).toOption.bind (fun table => sampleResponse.body.map (fun body =>
    (injectUsageCost Decimal.exact JsonText.codec body "vendor/sole" "alpha" table).map (fun _ => ())))

theorem costs_success (registry : Registry) (result : Except Panic Unit) (evaluated : costs registry = some result) :
    ∃ table body, PriceTable.fromRegistry registry = .ok table ∧ sampleResponse.body = some body ∧
      (injectUsageCost Decimal.exact JsonText.codec body "vendor/sole" "alpha" table).map (fun _ => ()) = result := by
  obtain ⟨table,accepted,evaluated⟩ := Option.bind_eq_some_iff.mp evaluated
  obtain ⟨body,present,equal⟩ := Option.map_eq_some_iff.mp evaluated
  exact ⟨table,body,(toOption_some _ _).mp accepted,present,equal⟩

theorem sampleResponse_fits (registry : Registry) (table : PriceTable)
    (accepted : PriceTable.fromRegistry registry = .ok table) (body : List UInt8)
    (present : sampleResponse.body = some body) :
    RatesFit JsonText.codec Decimal.exact ⟨table,∅⟩ sampleDecision sampleResponse ↔
      ∃ result, injectUsageCost Decimal.exact JsonText.codec body "vendor/sole" "alpha" table = .ok result :=
  ratesFit_iff JsonText.codec Decimal.exact ⟨table,∅⟩ sampleDecision sampleResponse Decimal.exact_signed registry
    accepted sampleServed body body sampleServed_attributed present rfl

theorem settled_sample :
    ∃ table, PriceTable.fromRegistry sampleRegistry = .ok table ∧
      (Refused sampleDecision (catchPanic (respond JsonText.codec Decimal.exact ⟨table,∅⟩ .production false
          sampleDecision 0 1 sampleResponse)) ∨
        Delivered JsonText.codec JsonText.codec.fromSlice Decimal.exact ⟨table,∅⟩ .production sampleDecision sampleResponse
          (catchPanic (respond JsonText.codec Decimal.exact ⟨table,∅⟩ .production false sampleDecision 0 1
            sampleResponse))) := by
  obtain ⟨table,body,accepted,present,answered⟩ := costs_success sampleRegistry (.ok ()) (by decide +kernel)
  refine ⟨table,accepted,(settled_iff JsonText.codec _ JsonText.codec_lawful Decimal.exact Decimal.exact_signed
    sampleRegistry ⟨table,∅⟩ accepted .production false sampleDecision 0 1 sampleResponse rfl rfl).mpr ?_⟩
  rw [sampleResponse_fits sampleRegistry table accepted body present]
  cases ran : injectUsageCost Decimal.exact JsonText.codec body "vendor/sole" "alpha" table with
  | error panic =>
    rw [ran] at answered
    cases answered
  | ok result => exact ⟨result,rfl⟩

/-- A mapping with the largest price that a decimal holds. -/
def costlyModel : ModelMapping :=
  { sampleModel "vendor/sole" with
    inputPricePerMtok := Decimal.ofNat (2^96 - 1), outputPricePerMtok := Decimal.zero }

def costlyRegistry : Registry :=
  ⟨[{ sampleProvider "alpha" 0 [] with models := [costlyModel] }]⟩

/-- Two prompt tokens at the largest price overflow: the client gets status 500. -/
theorem costly_unsettled :
    ∃ policy left after table,
      RoutingPolicy.fromRegistryWithRng Decimal.exact costlyRegistry sampleConfig .empty () = .ok policy ∧
      PriceTable.fromRegistry costlyRegistry = .ok table ∧
      (policy.withDraw ()).routeForEndpoint Decimal.exact firstIndex .production .chat
        (.object [("model",.string "vendor/sole:floor")]) = .ok ((.ok sampleDecision,left),after) ∧
      (catchPanic (respond JsonText.codec Decimal.exact ⟨table,∅⟩ .production false sampleDecision 0 1
        sampleResponse)).1.status.code = 500 ∧
      ¬ (Refused sampleDecision (catchPanic (respond JsonText.codec Decimal.exact ⟨table,∅⟩ .production false
          sampleDecision 0 1 sampleResponse)) ∨
        Delivered JsonText.codec JsonText.codec.fromSlice Decimal.exact ⟨table,∅⟩ .production sampleDecision sampleResponse
          (catchPanic (respond JsonText.codec Decimal.exact ⟨table,∅⟩ .production false sampleDecision 0 1
            sampleResponse))) := by
  obtain ⟨policy,trace,reached,left,after,built,ran,routed⟩ := answerAfter_success costlyRegistry []
    "vendor/sole:floor" (.ok sampleDecision) (by decide +kernel)
  cases ran
  obtain ⟨table,body,accepted,present,answered⟩ := costs_success costlyRegistry (.error (.overflow "*"))
    (by decide +kernel)
  have panicked : injectUsageCost Decimal.exact JsonText.codec body "vendor/sole" "alpha" table =
      .error (.overflow "*") := by
    cases injected : injectUsageCost Decimal.exact JsonText.codec body "vendor/sole" "alpha" table with
    | error panic =>
      rw [injected] at answered
      cases answered
      rfl
    | ok result =>
      rw [injected] at answered
      cases answered
  have delivering : respond JsonText.codec Decimal.exact ⟨table,∅⟩ .production false sampleDecision 0 1
      sampleResponse = deliver JsonText.codec Decimal.exact ⟨table,∅⟩ .production sampleDecision 0 1 sampleResponse
        none sampleServed body := by
    cases Option.some.inj present
    rfl
  have failed : respond JsonText.codec Decimal.exact ⟨table,∅⟩ .production false sampleDecision 0 1
      sampleResponse = .error (.overflow "*") := by
    rw [delivering,deliver]
    change (injectUsageCost Decimal.exact JsonText.codec body "vendor/sole" "alpha" table >>= _) = _
    rw [panicked]
    rfl
  refine ⟨policy,left,after,table,built,accepted,routed,by rw [failed]; rfl,?_⟩
  rw [failed]
  rintro (refused | ⟨_,_,_,_,_,_,_,_,_,same,_⟩)
  · cases congrArg StatusCode.code refused.status
  · cases congrArg StatusCode.code same

end Sample

end SerenRouter
