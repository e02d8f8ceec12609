import SerenRouter.Proxy
import SerenRouter.Policy.RouteRuns
import SerenRouter.Kernel.JsonText
import SerenRouter.Kernel.DecimalArithmetic

/-! Which attempt's response is forwarded, and when the response of an aliased provider is
concealed across failover. -/
namespace SerenRouter
open Kernel Kernel.Json

/-- The routes of a decision, in the order in which they are tried. -/
def RouteDecision.routes (decision : RouteDecision) : List String :=
  routeName decision.selectedProvider decision.canonicalModel :: decision.fallbackModels

/-- The response of an attempt is the final answer: every earlier attempt failed before the
response was committed, and this one did not or was the last. -/
structure ForwardedFrom (decision : RouteDecision) (outcomes : Nat → Option UpstreamResponse) (index : Nat)
    (response : UpstreamResponse) : Prop where
  listed : index ≤ decision.fallbackModels.length
  answered : outcomes index = some response
  earlier : ∀ before, before < index → shouldFallback (outcomes before) = true
  final : index = decision.fallbackModels.length ∨ retryableStatus response.status = false

/-- The body of an attempt: the request, except that its model is the route of the attempt. -/
def AttemptBody (codec : Codec) (request : Value) (route : String) (body : List UInt8) : Prop :=
  ∃ value, codec.toVec value = some body ∧ value.isObject = true ∧ value.get "model" = some (.string route) ∧
    ∀ key, key ≠ "model" → value.get key = request.get key

section Attempts
variable (codec : Codec) (total : codec.Total) (outcomes : Nat → Option UpstreamResponse)
include total

/-- The loop stops at the first outcome that is not retryable, or at the last fallback; it
sends each fallback up to there once, in order. -/
theorem sendFallbacks_final (fallbacks : List String) (index : Nat) (request : Value) :
    ∃ sent count, sendFallbacks codec outcomes index request fallbacks = .ok sent ∧
      sent.upstream = outcomes (index + count) ∧ count ≤ fallbacks.length ∧
      (∀ before, before < count → shouldFallback (outcomes (index + before)) = true) ∧
      (count = fallbacks.length ∨ shouldFallback (outcomes (index + count)) = false) ∧
      (request.isObject = true → List.Forall₂ (AttemptBody codec request) (fallbacks.take count) sent.bodies) := by
  induction fallbacks generalizing index request with
  | nil => exact ⟨⟨outcomes index,[]⟩,0,rfl,rfl,le_refl _,by simp,.inl rfl,fun _ => .nil⟩
  | cons fallbackModel rest ih =>
    rw [sendFallbacks]
    split
    · rename_i retry
      obtain ⟨body,written⟩ := total (request.setIndex "model" (.string fallbackModel))
      obtain ⟨sent,count,ran,upstream,within,earlier,stops,bodies⟩ :=
        ih (index + 1) (request.setIndex "model" (.string fallbackModel))
      have shift (number : Nat) : index + 1 + number = index + (number + 1) := by omega
      rw [shift] at upstream stops
      dsimp only
      rw [written,expect_some,ok_bind,ran,ok_bind]
      refine ⟨_,count + 1,rfl,upstream,by simp [within],?_,?_,fun isObject => ?_⟩
      · intro before inside
        cases before with
        | zero => exact retry
        | succ before =>
          rw [← shift]
          exact earlier before (by omega)
      · exact stops.imp (fun last => by simp [last]) id
      · obtain ⟨fields,rfl⟩ := (Value.isObject_exists request).mp isObject
        have model := Value.get_setIndex fields "model"
        refine .cons ⟨_,written,rfl,by simp [model],fun key different => by simp [model,different]⟩ ?_
        refine (bodies rfl).imp ?_
        rintro route sentBody ⟨value,wrote,object,own,others⟩
        refine ⟨value,wrote,object,own,fun key different => ?_⟩
        rw [others key different,model,if_neg different,Value.get_object]
    · rename_i stopped
      exact ⟨⟨outcomes index,[]⟩,0,rfl,rfl,by omega,by simp,.inr (by simpa using stopped),fun _ => .nil⟩

variable (arithmetic : Decimal.Arithmetic) (proxy : ProxyState) (profile : RoutingProfile) (stream : Bool)
  (decision : RouteDecision) (request : Value) (requestStartedAt responseCompletedAt : Nat)

theorem complete_forwarded (index : Nat) (response : UpstreamResponse)
    (forwarded : ForwardedFrom decision outcomes index response) :
    complete codec arithmetic proxy profile stream decision request outcomes requestStartedAt responseCompletedAt =
      respond codec arithmetic proxy profile stream decision requestStartedAt responseCompletedAt response := by
  obtain ⟨body,written⟩ := total request
  obtain ⟨sent,final,ran,upstream,within,earlier,stops,_⟩ :=
    sendFallbacks_final codec total outcomes decision.fallbackModels 0 request
  simp only [Nat.zero_add] at upstream earlier stops
  have same : final = index := by
    have listed := forwarded.listed
    by_contra different
    rcases Nat.lt_or_gt_of_ne different with before | after
    · have retried := forwarded.earlier final before
      rcases stops with last | stopped
      · omega
      · rw [retried] at stopped
        cases stopped
    · have retried := earlier index after
      rcases forwarded.final with last | settled
      · omega
      · rw [forwarded.answered,shouldFallback,Option.all_some,settled] at retried
        cases retried
  rw [complete,written,expect_some,ok_bind,sendSelectedThenFallback,ran,ok_bind]
  simp only [pure,Except.pure,ok_bind,upstream,same,forwarded.answered]

end Attempts

/-- A transport error, too many requests, or an error of the server. -/
def Retryable : Option UpstreamResponse → Prop
  | none => True
  | some response => response.status.code = 429 ∨ (500 ≤ response.status.code ∧ response.status.code < 600)

theorem shouldFallback_iff (outcome : Option UpstreamResponse) :
    shouldFallback outcome = true ↔ Retryable outcome := by
  cases outcome with
  | none => simp [shouldFallback,Retryable]
  | some response =>
    have named : response.status = .tooManyRequests ↔ response.status.code = 429 :=
      ⟨fun same => by rw [same]; rfl,fun same => by
        obtain ⟨⟨code,valid⟩,_⟩ := response
        cases same
        rfl⟩
    simp [shouldFallback,Retryable,retryableStatus,named,StatusCode.isServerError]

/-- The routes of a decision are tried in order up to the first final outcome, each at most
once and with its own name as the model of the request; the last outcome is the answer. -/
theorem attempts_in_order (codec : Codec) (total : codec.Total) (outcomes : Nat → Option UpstreamResponse)
    (decision : RouteDecision) (request : Value) (selectedBody : List UInt8)
    (routed : request.get "model" = some (.string (routeName decision.selectedProvider decision.canonicalModel)))
    (written : codec.toVec request = some selectedBody) :
    ∃ sent final, sendSelectedThenFallback codec outcomes request selectedBody decision = .ok sent ∧
      final < decision.routes.length ∧ (∀ before, before < final → Retryable (outcomes before)) ∧
      (final + 1 = decision.routes.length ∨ ¬ Retryable (outcomes final)) ∧ sent.upstream = outcomes final ∧
      List.Forall₂ (AttemptBody codec request) (decision.routes.take (final + 1)) sent.bodies := by
  obtain ⟨fields,rfl,_⟩ := Value.get_some_object request _ "model" routed
  obtain ⟨sent,final,ran,upstream,within,earlier,stops,bodies⟩ :=
    sendFallbacks_final codec total outcomes decision.fallbackModels 0 (.object fields)
  simp only [Nat.zero_add] at upstream earlier stops
  refine ⟨⟨sent.upstream,selectedBody :: sent.bodies⟩,final,?_,?_,?_,?_,upstream,?_⟩
  · rw [sendSelectedThenFallback,ran,ok_bind]
    rfl
  · simp only [RouteDecision.routes,List.length_cons]
    omega
  · exact fun before inside => (shouldFallback_iff _).mp (earlier before inside)
  · rw [← shouldFallback_iff,Bool.not_eq_true]
    exact stops.imp (fun last => by simp [RouteDecision.routes,last]) id
  · exact .cons ⟨_,written,rfl,routed,fun _ _ => rfl⟩ (bodies rfl)

/-- The route of an aliased provider. -/
def BelongsToAlias (aliases : Finset String) (decision : RouteDecision) (route : String) : Prop :=
  ∃ providerId ∈ aliases, route = routeName providerId decision.canonicalModel

/-- The served-provider header names an aliased provider. -/
def NamesAlias (aliases : Finset String) (response : UpstreamResponse) : Prop :=
  ∃ served, ServedProvider.fromHeaders response.headers = some served ∧ served.asStr ∈ aliases

theorem responseUsesPublicAlias_iff (aliases : Finset String) (response : UpstreamResponse) (selected : String) :
    responseUsesPublicAlias aliases (ServedProvider.fromHeaders response.headers) selected = true ↔
      selected ∈ aliases ∨ NamesAlias aliases response := by
  unfold responseUsesPublicAlias NamesAlias
  cases ServedProvider.fromHeaders response.headers <;> simp

theorem respond_failure (codec : Codec) (arithmetic : Decimal.Arithmetic) (proxy : ProxyState)
    (profile : RoutingProfile) (stream : Bool) (decision : RouteDecision) (requestStartedAt responseCompletedAt : Nat)
    (response : UpstreamResponse) (failed : response.status.isSuccess = false) :
    respond codec arithmetic proxy profile stream decision requestStartedAt responseCompletedAt response =
      if responseUsesPublicAlias proxy.publicProviderAliases (ServedProvider.fromHeaders response.headers)
          decision.selectedProvider then
        .ok (aliasedUpstreamError response.status decision.canonicalModel
          (ServedProvider.fromHeaders response.headers),[])
      else .ok (⟨response.status,response.headers.get contentTypeHeader,response.headers.get generationIdHeader,
        .upstream response.body,ServedProvider.fromHeaders response.headers⟩,[]) := by
  simp [respond,failed]

/-- A failed final response of an aliased provider, or one that names an aliased provider,
reaches the client only as the generic error. -/
def AliasesConcealed (codec : Codec) (arithmetic : Decimal.Arithmetic) (proxy : ProxyState)
    (profile : RoutingProfile) (stream : Bool) (decision : RouteDecision) (request : Value)
    (outcomes : Nat → Option UpstreamResponse) (requestStartedAt responseCompletedAt : Nat) : Prop :=
  ∀ index response route, ForwardedFrom decision outcomes index response →
    response.status.isSuccess = false → decision.routes[index]? = some route →
    BelongsToAlias proxy.publicProviderAliases decision route ∨ NamesAlias proxy.publicProviderAliases response →
    complete codec arithmetic proxy profile stream decision request outcomes requestStartedAt responseCompletedAt =
      .ok (aliasedUpstreamError response.status decision.canonicalModel
        (ServedProvider.fromHeaders response.headers),[])

/-- Aliases are concealed exactly when every failed final response of an aliased route comes
with the selected provider aliased too, or names an aliased provider itself. -/
theorem aliases_concealed_iff (codec : Codec) (total : codec.Total) (arithmetic : Decimal.Arithmetic)
    (proxy : ProxyState) (profile : RoutingProfile) (stream : Bool) (decision : RouteDecision) (request : Value)
    (outcomes : Nat → Option UpstreamResponse) (requestStartedAt responseCompletedAt : Nat) :
    AliasesConcealed codec arithmetic proxy profile stream decision request outcomes requestStartedAt
        responseCompletedAt ↔
      ∀ index response route, ForwardedFrom decision outcomes index response →
        response.status.isSuccess = false → decision.routes[index]? = some route →
        BelongsToAlias proxy.publicProviderAliases decision route →
        decision.selectedProvider ∈ proxy.publicProviderAliases ∨
          NamesAlias proxy.publicProviderAliases response := by
  have answered (index : Nat) (response : UpstreamResponse) (forwarded : ForwardedFrom decision outcomes index response)
      (failed : response.status.isSuccess = false) :=
    (complete_forwarded codec total outcomes arithmetic proxy profile stream decision request requestStartedAt
      responseCompletedAt index response forwarded).trans
      (respond_failure codec arithmetic proxy profile stream decision requestStartedAt responseCompletedAt response
        failed)
  constructor
  · intro concealed index response route forwarded failed tried belongs
    have generic := concealed index response route forwarded failed tried (.inl belongs)
    rw [answered index response forwarded failed] at generic
    rw [← responseUsesPublicAlias_iff]
    by_contra raw
    rw [if_neg raw] at generic
    -- The raw reply passes the upstream body through; the generic one is a JSON value.
    cases congrArg (fun reply => reply.body) (Prod.mk.inj (Except.ok.inj generic)).1
  · intro condition index response route forwarded failed tried aliased
    rw [answered index response forwarded failed,if_pos]
    rw [responseUsesPublicAlias_iff]
    rcases aliased with belongs | named
    · exact condition index response route forwarded failed tried belongs
    · exact .inr named

section Sample

def samplePlan : RouteDecision := ⟨.production,"vendor/model","plain",["private/vendor/model"],true⟩

def sampleProxy : ProxyState := ⟨⟨.empty⟩,{"private"}⟩

/-- A refusal of the aliased provider that names its vendor and carries no attribution. -/
def sampleRefusal : UpstreamResponse := ⟨.badRequest,⟨[]⟩,some (utf8 "private vendor detail"),0,0⟩

/-- The selected provider cannot be reached; its fallback refuses. -/
def sampleOutcomes (index : Nat) : Option UpstreamResponse := if index = 0 then none else some sampleRefusal

/-- Both routes of the plan are tried. -/
theorem attempts_in_order_sample :
    ∃ sent, sendSelectedThenFallback JsonText.codec sampleOutcomes (.object [("model",.string "plain/vendor/model")])
        (utf8 "\x7b\"model\":\"plain/vendor/model\"\x7d") samplePlan = .ok sent ∧
      sent.upstream = some sampleRefusal ∧ sent.bodies.length = 2 := by
  obtain ⟨sent,final,ran,within,_,stops,upstream,bodies⟩ := attempts_in_order JsonText.codec JsonText.codec_lawful.total
    sampleOutcomes samplePlan (.object [("model",.string "plain/vendor/model")])
    (utf8 "\x7b\"model\":\"plain/vendor/model\"\x7d") rfl (by decide +kernel)
  have last : final = 1 := by
    rcases stops with last | settled
    · exact Nat.succ.inj last
    · have : final < 2 := within
      interval_cases final
      · exact absurd trivial settled
      · rfl
  subst last
  exact ⟨sent,ran,upstream,bodies.length_eq.symm⟩

theorem sampleOutcomes_forwarded : ForwardedFrom samplePlan sampleOutcomes 1 sampleRefusal :=
  ⟨by decide,rfl,fun before first => by
    obtain rfl : before = 0 := by omega
    rfl,.inl rfl⟩

theorem alias_leaks :
    complete JsonText.codec Decimal.exact sampleProxy .production false samplePlan
        (.object [("model",.string "plain/vendor/model")]) sampleOutcomes 0 1 =
      .ok (⟨.badRequest,none,none,.upstream (some (utf8 "private vendor detail")),none⟩,[]) ∧
    ¬ AliasesConcealed JsonText.codec Decimal.exact sampleProxy .production false samplePlan
        (.object [("model",.string "plain/vendor/model")]) sampleOutcomes 0 1 := by
  have raw : complete JsonText.codec Decimal.exact sampleProxy .production false samplePlan
      (.object [("model",.string "plain/vendor/model")]) sampleOutcomes 0 1 =
      .ok (⟨.badRequest,none,none,.upstream (some (utf8 "private vendor detail")),none⟩,[]) := by
    rw [complete_forwarded JsonText.codec JsonText.codec_lawful.total sampleOutcomes Decimal.exact sampleProxy .production
      false samplePlan _ 0 1 1 sampleRefusal sampleOutcomes_forwarded]
    rfl
  refine ⟨raw,fun concealed => ?_⟩
  have generic := concealed 1 sampleRefusal "private/vendor/model" sampleOutcomes_forwarded rfl rfl
    (.inl ⟨"private",by decide,rfl⟩)
  rw [raw] at generic
  cases congrArg (fun reply => reply.body) (Prod.mk.inj (Except.ok.inj generic)).1

theorem aliases_concealed_sample :
    AliasesConcealed JsonText.codec Decimal.exact sampleProxy .production false
      { samplePlan with selectedProvider := "private" } (.object [("model",.string "private/vendor/model")])
      sampleOutcomes 0 1 :=
  (aliases_concealed_iff JsonText.codec JsonText.codec_lawful.total Decimal.exact sampleProxy .production false
    { samplePlan with selectedProvider := "private" } (.object [("model",.string "private/vendor/model")])
    sampleOutcomes 0 1).mpr (fun _ _ _ _ _ _ _ => .inl (by decide))

end Sample

end SerenRouter
