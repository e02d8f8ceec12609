import SerenRouter.Policy.Routing
import SerenRouter.Sse

/-! The completion handler: it routes a request, sends it to the selected provider and then
to its fallbacks, and answers with the costed, the sanitized or a generic response. The
outcome of every attempt and the clock are inputs; logging and metrics are left out. -/
namespace SerenRouter
open Kernel Kernel.Json

/-- `StatusCode`: three digits. -/
structure StatusCode where
  code : Nat
  valid : 100 ≤ code ∧ code < 1000
  deriving DecidableEq

namespace StatusCode

theorem ok_valid : 100 ≤ 200 ∧ 200 < 1000 := by decide

def ok : StatusCode := ⟨200,ok_valid⟩

def badRequest : StatusCode := ⟨400,by decide⟩
def tooManyRequests : StatusCode := ⟨429,by decide⟩
def internalServerError : StatusCode := ⟨500,by decide⟩
def badGateway : StatusCode := ⟨502,by decide⟩

def isSuccess (status : StatusCode) : Bool := decide (200 ≤ status.code ∧ status.code < 300)

def isServerError (status : StatusCode) : Bool := decide (500 ≤ status.code ∧ status.code < 600)

/-- The code as a JSON number. -/
def number (status : StatusCode) : Number :=
  let decimal := Decimal.ofNat status.code (lt_trans status.valid.2 (by decide))
  ⟨decimal.toText,decimal.toText_number⟩

end StatusCode

def contentTypeHeader : String := "content-type"
def generationIdHeader : String := "x-generation-id"

/-- A response of the sidecar; a body that cannot be read is `none`. -/
structure UpstreamResponse where
  status : StatusCode
  headers : HeaderMap
  body : Option (List UInt8)
  attemptStartedAt : Nat
  headersReceivedAt : Nat

structure GenerationWrite where
  id : String
  routingProfile : RoutingProfile
  canonicalSlug : String
  providerId : String
  promptTokens : Int
  completionTokens : Int
  costUsd : Decimal
  latencyMs : Int
  status : Nat

structure GenerationContext where
  canonicalSlug : String
  providerId : String
  status : StatusCode
  requestStartedAt : Nat
  attemptStartedAt : Nat
  headersReceivedAt : Nat
  firstOutputAt : Option Nat
  profile : RoutingProfile

/-- One recorded generation: the measurement and the ledger row that it produces. -/
structure Recording where
  profile : RoutingProfile
  providerId : String
  canonicalSlug : String
  observation : Option Observation
  write : Option GenerationWrite

namespace GenerationContext

def observation (generation : GenerationContext) (costed : CostedUsage) (completedAt : Nat) : Option Observation :=
  match generation.firstOutputAt with
  | none => none
  | some firstOutputAt =>
    if completedAt - firstOutputAt = 0 then none
    else some ⟨costed.usage.completionTokens,completedAt - firstOutputAt,
      firstOutputAt - generation.attemptStartedAt⟩

/-- `i64::try_from` of an unsigned 64-bit integer. -/
def toI64 (number : UInt64) : Option Int :=
  if number.toNat < 2^63 then some number.toNat else none

/-- Whole milliseconds, at most `i64::MAX`. -/
def latencyMs (generation : GenerationContext) (completedAt : Nat) : Int :=
  min ((completedAt - generation.requestStartedAt) / 1000000) (2^63 - 1)

def generationWrite (generation : GenerationContext) (costed : CostedUsage) (completedAt : Nat) :
    Option GenerationWrite := do
  let id ← costed.responseId
  let promptTokens ← toI64 costed.usage.promptTokens
  let completionTokens ← toI64 costed.usage.completionTokens
  return {
    id := id
    routingProfile := generation.profile
    canonicalSlug := generation.canonicalSlug
    providerId := generation.providerId
    promptTokens := promptTokens
    completionTokens := completionTokens
    costUsd := costed.costUsd
    latencyMs := generation.latencyMs completedAt
    status := generation.status.code }

def recordAt (generation : GenerationContext) (costed : CostedUsage) (completedAt : Nat) : Recording :=
  ⟨generation.profile,generation.providerId,generation.canonicalSlug,
    generation.observation costed completedAt,generation.generationWrite costed completedAt⟩

end GenerationContext

/-- The upstream body passed through, bytes of the router's own, a JSON value, or the output of
a transformer fed from the upstream body. -/
inductive ReplyBody where
  | upstream (body : Option (List UInt8))
  | bytes (body : List UInt8)
  | json (value : Value)
  | events (transformer : UsageCostTransformer) (generation : GenerationContext)

structure Reply where
  status : StatusCode
  contentType : Option (List UInt8)
  generationId : Option (List UInt8)
  body : ReplyBody
  servedProvider : Option ServedProvider

def applicationJson : List UInt8 := utf8 "application/json"

/-- A reply made by the router itself. -/
def jsonReply (status : StatusCode) (value : Value) : Reply := ⟨status,some applicationJson,none,.json value,none⟩

def upstreamUnavailable : Reply :=
  jsonReply .badGateway (.object [("error",.object [("message",.string "upstream unavailable")])])

def invalidJsonRequest : Reply :=
  jsonReply .badRequest (.object [("error",.object [("message",.string "request body must be valid JSON")])])

def aliasedUpstreamErrorBody (status : StatusCode) (canonicalModel : String) : Value :=
  .object [("error",.object [("code",.number status.number),("message",.string "upstream request failed"),
    ("metadata",.object [("model",.string canonicalModel)])])]

def aliasedUpstreamError (status : StatusCode) (canonicalModel : String) (servedProvider : Option ServedProvider) :
    Reply :=
  { jsonReply status (aliasedUpstreamErrorBody status canonicalModel) with servedProvider := servedProvider }

namespace RouteRequestError

def statusCode : RouteRequestError → StatusCode
  | .unknownModel => ⟨404,by decide⟩
  | .noEligibleRoute => ⟨503,by decide⟩
  | _ => .badRequest

/-- An invalid preference is reported without a code. -/
def intoResponse (error : RouteRequestError) : Reply :=
  match error with
  | .invalidPreference error =>
    jsonReply .badRequest (.object [("error",.object [("message",.string error.message)])])
  | error => jsonReply error.statusCode (.object [("error",.object [("code",.number error.statusCode.number),
      ("message",.string error.message)])])

end RouteRequestError

structure ProxyState where
  priceTable : PriceTable
  publicProviderAliases : Finset String

/-- The ids of the providers that have a public name and tag. -/
def publicProviderAliases (registry : Registry) : Finset String :=
  ((registry.providers.filter (fun provider => provider.publicDisplayName.isSome && provider.publicTag.isSome)).map
    Provider.id).toFinset

def responseUsesPublicAlias (publicProviderAliases : Finset String) (servedProvider : Option ServedProvider)
    (selectedProvider : String) : Bool :=
  decide (selectedProvider ∈ publicProviderAliases) ||
    servedProvider.any (fun servedProvider => decide (servedProvider.asStr ∈ publicProviderAliases))

/-- The media type in front of the parameters is that of an event stream. -/
def isEventStream (contentType : Option (List UInt8)) : Bool :=
  (contentType.bind HeaderMap.toStr).any (fun value =>
    Text.trim (String.ofList (value.toList.takeWhile (· ≠ ';'))) == "text/event-stream")

section Failover
variable (codec : Codec)

def retryableStatus (status : StatusCode) : Bool :=
  decide (status = .tooManyRequests) || status.isServerError

/-- A transport error or a retryable status. -/
def shouldFallback (upstream : Option UpstreamResponse) : Bool :=
  upstream.all (fun upstream => retryableStatus upstream.status)

/-- The outcome that is forwarded, and the bodies of the attempts that were made. -/
structure Sent where
  upstream : Option UpstreamResponse
  bodies : List (List UInt8)

/-- The loop over the fallbacks, after an attempt with the given index. -/
def sendFallbacks (outcomes : Nat → Option UpstreamResponse) (index : Nat) (request : Value) :
    List String → Except Panic Sent
  | [] => .ok ⟨outcomes index,[]⟩
  | fallbackModel :: rest =>
    if shouldFallback (outcomes index) then do
      let request := request.setIndex "model" (.string fallbackModel)
      let fallbackBody ← expect (codec.toVec request) "a parsed JSON completion request serializes"
      let sent ← sendFallbacks outcomes (index + 1) request rest
      return ⟨sent.upstream,fallbackBody :: sent.bodies⟩
    else .ok ⟨outcomes index,[]⟩

def sendSelectedThenFallback (outcomes : Nat → Option UpstreamResponse) (request : Value)
    (selectedBody : List UInt8) (decision : RouteDecision) : Except Panic Sent := do
  let sent ← sendFallbacks codec outcomes 0 request decision.fallbackModels
  return ⟨sent.upstream,selectedBody :: sent.bodies⟩

end Failover

section Respond
variable (codec : Codec) (arithmetic : Decimal.Arithmetic)

/-- The body to be costed: sanitized when an alias is involved. -/
def upstreamBody (usesPublicAlias : Bool) (body : List UInt8) (canonicalModel : String) :
    Except PublicResponseRejection (List UInt8) :=
  if usesPublicAlias then sanitizeAliasedJsonResponse codec body canonicalModel else .ok body

/-- The delivered body of a costed response, and its recording. -/
def deliver (proxy : ProxyState) (profile : RoutingProfile) (decision : RouteDecision)
    (requestStartedAt responseCompletedAt : Nat) (response : UpstreamResponse) (contentType : Option (List UInt8))
    (servedProvider : ServedProvider) (body : List UInt8) : Except Panic (Reply × List Recording) := do
  match ← injectUsageCost arithmetic codec body decision.canonicalModel servedProvider.asStr proxy.priceTable with
  | .error _ => return (aliasedUpstreamError .badGateway decision.canonicalModel (some servedProvider),[])
  | .ok costed =>
    let generation : GenerationContext := ⟨decision.canonicalModel,servedProvider.asStr,response.status,
      requestStartedAt,response.attemptStartedAt,response.headersReceivedAt,some response.headersReceivedAt,profile⟩
    return (⟨response.status,contentType,response.headers.get generationIdHeader,.bytes costed.body,
      some servedProvider⟩,[generation.recordAt costed.usage responseCompletedAt])

/-- The reply to an upstream response, and the generations recorded with it. -/
def respond (proxy : ProxyState) (profile : RoutingProfile) (stream : Bool) (decision : RouteDecision)
    (requestStartedAt responseCompletedAt : Nat) (response : UpstreamResponse) :
    Except Panic (Reply × List Recording) :=
  let status := response.status
  let contentType := response.headers.get contentTypeHeader
  let generationId := response.headers.get generationIdHeader
  let servedProvider := ServedProvider.fromHeaders response.headers
  let usesPublicAlias := responseUsesPublicAlias proxy.publicProviderAliases servedProvider decision.selectedProvider
  if status.isSuccess && servedProvider.isNone then
    .ok (aliasedUpstreamError .badGateway decision.canonicalModel none,[])
  else if !status.isSuccess then
    if usesPublicAlias then .ok (aliasedUpstreamError status decision.canonicalModel servedProvider,[])
    else .ok (⟨status,contentType,generationId,.upstream response.body,servedProvider⟩,[])
  else if stream && isEventStream contentType then do
    let servedProvider ← expect servedProvider "successful responses without attribution already returned"
    match pricesForRequest decision.canonicalModel servedProvider.asStr proxy.priceTable with
    | .error _ => .ok (aliasedUpstreamError .badGateway decision.canonicalModel (some servedProvider),[])
    | .ok prices =>
      let generation : GenerationContext := ⟨decision.canonicalModel,servedProvider.asStr,status,
        requestStartedAt,response.attemptStartedAt,response.headersReceivedAt,none,profile⟩
      let transformer := ((UsageCostTransformer.new prices).withProviderCostPolicy
        (providerReportedCostPolicy servedProvider.asStr)).withResponseModel decision.canonicalModel
      .ok (⟨status,contentType,generationId,.events transformer generation,some servedProvider⟩,[])
  else match response.body with
    | none => .ok (upstreamUnavailable,[])
    | some body =>
      match upstreamBody codec usesPublicAlias body decision.canonicalModel with
      | .error _ => .ok (aliasedUpstreamError .badGateway decision.canonicalModel servedProvider,[])
      | .ok body =>
        let contentType := if usesPublicAlias then some applicationJson else contentType
        match servedProvider with
        | none => .ok (⟨status,contentType,generationId,.bytes body,none⟩,[])
        | some servedProvider =>
          deliver codec arithmetic proxy profile decision requestStartedAt responseCompletedAt response contentType
            servedProvider body

/-- From a decision to the reply: the attempts, then the response to the one forwarded. -/
def complete (proxy : ProxyState) (profile : RoutingProfile) (stream : Bool) (decision : RouteDecision)
    (request : Value) (outcomes : Nat → Option UpstreamResponse) (requestStartedAt responseCompletedAt : Nat) :
    Except Panic (Reply × List Recording) := do
  let selectedBody ← expect (codec.toVec request) "a parsed JSON completion request serializes"
  let sent ← sendSelectedThenFallback codec outcomes request selectedBody decision
  match sent.upstream with
  | none => .ok (upstreamUnavailable,[])
  | some response =>
    respond codec arithmetic proxy profile stream decision requestStartedAt responseCompletedAt response

/-- The whole handler, with the routing policy it leaves. -/
def forward {G : Type} (randomness : Randomness G) (proxy : ProxyState) (routing : RoutingPolicy G)
    (profile : RoutingProfile) (endpoint : CompletionEndpoint) (body : List UInt8)
    (outcomes : Nat → Option UpstreamResponse) (requestStartedAt responseCompletedAt : Nat) :
    Except Panic ((Reply × List Recording) × RoutingPolicy G) :=
  match codec.fromSlice body with
  | none => .ok ((invalidJsonRequest,[]),routing)
  | some request => do
    let stream := ((request.get "stream").bind Value.asBool).getD false
    let ((decided,request),routing) ← routing.routeForEndpoint arithmetic randomness profile endpoint request
    match decided with
    | .error error => return ((error.intoResponse,[]),routing)
    | .ok decision =>
      let replied ← complete codec arithmetic proxy profile stream decision request outcomes requestStartedAt
        responseCompletedAt
      return (replied,routing)

/-- The outermost layer answers a panic with a generic error. -/
def catchPanic (result : Except Panic (Reply × List Recording)) : Reply × List Recording :=
  match result with
  | .ok replied => replied
  | .error _ => (jsonReply .internalServerError (.object [("error",.string "internal server error")]),[])

end Respond

end SerenRouter
