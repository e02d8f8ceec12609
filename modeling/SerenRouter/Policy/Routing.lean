import SerenRouter.Policy.RoutePlan
import SerenRouter.Registry
import Mathlib.Data.List.Sort

/-! The routing policy: the routes of every profile and model, read off the registry once,
the rolling share windows, and the routing of one request. -/
namespace SerenRouter
open Kernel Kernel.Json

structure RoutingConfig where
  policy : PolicyConfig
  shareWindow : Nat
  windowPositive : 0 < shareWindow

structure RouteDescriptor where
  providerId : String
  inputPricePerMtok : Decimal
  outputPricePerMtok : Decimal
  priority : Nat
  requestConstraints : RequestConstraints

/-- Routes and share windows are kept for each profile and canonical model. -/
abbrev RouteKey := RoutingProfile × String

structure RoutingState (G : Type) where
  shares : HashMap RouteKey ShareTracker
  rng : G

structure RoutingPolicy (G : Type) where
  routes : HashMap RouteKey (List RouteDescriptor)
  config : RoutingConfig
  measurements : MeasurementStore
  state : RoutingState G

structure RouteDecision where
  profile : RoutingProfile
  canonicalModel : String
  selectedProvider : String
  fallbackModels : List String
  hasAlternatives : Bool
  deriving DecidableEq

inductive RoutingPolicyError where
  | invalidCandidate (error : CandidateError)
  deriving DecidableEq

inductive RouteRequestError where
  | invalidPreference (error : PreferenceError)
  | unknownModel
  | noEligibleRoute
  | unsupportedProviderOverride
  | invalidTopP
  | invalidStream
  deriving DecidableEq

namespace RouteRequestError

def message : RouteRequestError → String
  | .invalidPreference error => error.message
  | .unknownModel => "model not found"
  | .noEligibleRoute => "no eligible provider route"
  | .unsupportedProviderOverride => "provider.only, provider.ignore, and provider.order are not supported"
  | .invalidTopP => "top_p must be a JSON number or null"
  | .invalidStream => "stream must be a JSON boolean or null"

def status : RouteRequestError → Nat
  | .unknownModel => 404
  | .noEligibleRoute => 503
  | _ => 400

end RouteRequestError

section Registry
variable (arithmetic : Decimal.Arithmetic)

def ModelMapping.descriptor (model : ModelMapping) (provider : Provider) : RouteDescriptor :=
  ⟨provider.id,model.inputPricePerMtok,model.outputPricePerMtok,provider.priority,model.requestConstraints⟩

/-- The candidate of a route, with its live measurements. -/
def RouteDescriptor.candidate (route : RouteDescriptor) (measurements : Option ModelMeasurements) :
    Except CandidateError Candidate :=
  Candidate.new arithmetic route.providerId route.inputPricePerMtok route.outputPricePerMtok route.priority
    measurements true

abbrev Routes := HashMap RouteKey (List RouteDescriptor)

def addRoute (routes : Routes) (key : RouteKey) (route : RouteDescriptor) : Routes :=
  routes.insert key ((routes key).getD [] ++ [route])

def addModelRoutes (provider : Provider) (routes : Routes) (model : ModelMapping) :
    Except RoutingPolicyError Routes :=
  match (model.descriptor provider).candidate arithmetic none with
  | .error error => .error (.invalidCandidate error)
  | .ok _ => .ok ((RoutingProfile.all.filter (fun profile => profile ∈ provider.profiles)).foldl
      (fun routes profile => addRoute routes (profile,model.slug) (model.descriptor provider)) routes)

def addProviderRoutes (routes : Routes) (provider : Provider) : Except RoutingPolicyError Routes :=
  provider.models.foldlM (addModelRoutes arithmetic provider) routes

/-- By priority, then by provider id. -/
def RouteDescriptor.precedes (left right : RouteDescriptor) : Bool :=
  ((compare left.priority right.priority).then (compare left.providerId right.providerId)).isLE

def RoutingPolicy.fromRegistryWithRng {G : Type} (registry : Registry) (config : RoutingConfig)
    (measurements : MeasurementStore) (rng : G) : Except RoutingPolicyError (RoutingPolicy G) := do
  let routes ← (registry.providers.filter Provider.enabled).foldlM (addProviderRoutes arithmetic) .empty
  return {
    routes := fun key => (routes key).map (List.insertionSort (fun left right => left.precedes right))
    config := config
    measurements := measurements
    state := ⟨.empty,rng⟩ }

end Registry

section Request
variable (arithmetic : Decimal.Arithmetic)

def rejectProviderOverrides (request : Value) : Except RouteRequestError Unit :=
  match (request.get "provider").bind Value.asObject with
  | none => .ok ()
  | some provider =>
    if ["only","ignore","order"].any (fun field => (SortedMap.get field provider).isSome) then
      .error .unsupportedProviderOverride
    else .ok ()

def parseTopP (request : Value) : Except RouteRequestError (Option Decimal) :=
  match request.get "top_p" with
  | none => .ok none
  | some topP =>
    if topP.isNull then .ok none
    else match topP.asNumber with
      | none => .error .invalidTopP
      | some number =>
        match arithmetic.fromStr number.text with
        | none => .error .invalidTopP
        | some topP => .ok (some topP)

def parseStream (request : Value) : Except RouteRequestError Bool :=
  match request.get "stream" with
  | none => .ok false
  | some stream =>
    if stream.isNull then .ok false
    else match stream.asBool with
      | none => .error .invalidStream
      | some stream => .ok stream

/-- Remove `provider.sort`, and `provider` when that leaves it empty. -/
def consumeRoutingSort (request : Value) : Value :=
  match request with
  | .object fields =>
    match (SortedMap.get "provider" fields).bind Value.asObject with
    | none => .object fields
    | some provider =>
      let provider := SortedMap.remove "sort" provider
      if provider.isEmpty then .object (SortedMap.remove "provider" fields)
      else .object (SortedMap.insert "provider" (.object provider) fields)
  | request => request

/-- What the router reads in a request. -/
structure RequestReading where
  topP : Option Decimal
  stream : Bool
  parsed : RequestPreference

/-- The reading of a request, and the request with the canonical model and without its sort. -/
def readRequest (request : Value) : Except RouteRequestError (RequestReading × Value) := do
  rejectProviderOverrides request
  let topP ← parseTopP arithmetic request
  let stream ← parseStream request
  match parseRequest request with
  | .error error => .error (.invalidPreference error)
  | .ok (parsed,request) => return (⟨topP,stream,parsed⟩,consumeRoutingSort request)

def RouteDescriptor.permits (route : RouteDescriptor) (endpoint : CompletionEndpoint)
    (reading : RequestReading) : Bool :=
  route.requestConstraints.supportsEndpoint endpoint &&
    route.requestConstraints.permitsStreaming reading.stream &&
    route.requestConstraints.permitsTopP reading.topP

end Request

/-- The name under which the sidecar serves a model of a provider. -/
def routeName (providerId canonicalModel : String) : String := providerId ++ "/" ++ canonicalModel

namespace RoutingPolicy
variable {G : Type} (arithmetic : Decimal.Arithmetic) (randomness : Randomness G)

/-- The candidates of the routes that permit a request. -/
def candidates (policy : RoutingPolicy G) (profile : RoutingProfile) (endpoint : CompletionEndpoint)
    (reading : RequestReading) (descriptors : List RouteDescriptor) : Except Panic (List Candidate) :=
  (descriptors.filter (fun route => route.permits endpoint reading)).mapM (fun route =>
    expect (route.candidate arithmetic
      (policy.measurements.getFor profile route.providerId reading.parsed.canonicalModel)).toOption
      "registry candidates were validated during routing-policy construction")

/-- The share window of a key, or a fresh one. -/
def recentShare (policy : RoutingPolicy G) (key : RouteKey) : Except Panic ShareTracker :=
  match policy.state.shares key with
  | some share => .ok share
  | none => expect (ShareTracker.new policy.config.shareWindow).toOption
      "routing config validates the share window"

/-- The policy with the window taken out, updated and put back, and the advanced generator. -/
def withShare (policy : RoutingPolicy G) (key : RouteKey) (share : ShareTracker) (rng : G) : RoutingPolicy G :=
  { policy with state := ⟨(policy.state.shares.remove key).insert key share,rng⟩ }

def decision (profile : RoutingProfile) (canonicalModel selectedProvider : String) (fallbacks : List String) :
    RouteDecision :=
  let fallbackModels := fallbacks.map (fun providerId => routeName providerId canonicalModel)
  ⟨profile,canonicalModel,selectedProvider,fallbackModels,!fallbackModels.isEmpty⟩

/-- The answer for a plan, and the request as it is left: with the selected route as its model. -/
def answer (profile : RoutingProfile) (canonicalModel : String) (request : Value) :
    Option (String × List String) → Except RouteRequestError RouteDecision × Value
  | none => (.error .noEligibleRoute,request)
  | some (selectedProvider,fallbacks) =>
    (.ok (decision profile canonicalModel selectedProvider fallbacks),
      request.setIndex "model" (.string (routeName selectedProvider canonicalModel)))

/-- The answer to a request, the request as it is left, and the policy afterwards. -/
def routeForEndpoint (policy : RoutingPolicy G) (profile : RoutingProfile) (endpoint : CompletionEndpoint)
    (request : Value) :
    Except Panic ((Except RouteRequestError RouteDecision × Value) × RoutingPolicy G) :=
  match readRequest arithmetic request with
  | .error error => .ok ((.error error,request),policy)
  | .ok (reading,request) =>
    let canonicalModel := reading.parsed.canonicalModel
    let routeKey := (profile,canonicalModel)
    match policy.routes routeKey with
    | none => .ok ((.error .unknownModel,request),policy)
    | some descriptors => do
      let candidates ← policy.candidates arithmetic profile endpoint reading descriptors
      if candidates.isEmpty then .ok ((.error .noEligibleRoute,request),policy)
      else
        let recentShare ← policy.recentShare routeKey
        let (chosen,recentShare,rng) ← chooseRoutes randomness arithmetic reading.parsed.preference
          policy.config.policy recentShare candidates policy.state.rng
        .ok (answer profile canonicalModel request chosen,policy.withShare routeKey recentShare rng)

/-- The chat endpoint. -/
def route (policy : RoutingPolicy G) (profile : RoutingProfile) (request : Value) :
    Except Panic ((Except RouteRequestError RouteDecision × Value) × RoutingPolicy G) :=
  policy.routeForEndpoint arithmetic randomness profile .chat request

end RoutingPolicy

end SerenRouter
