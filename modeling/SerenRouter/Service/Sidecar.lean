import SerenRouter.Service.Clients
import SerenRouter.Policy.Rewriting
import SerenRouter.Failover
import SerenRouter.RouteNames

/-! The service and the sidecar, which were set up from one registry: what the service sends on is addressed to one
generated route of a provider that can serve it, and what comes back through that route is costed at its prices. -/
namespace SerenRouter
open Kernel Kernel.Json

/-- What the names in a registry have to keep to beyond validation. -/
structure Attributable (registry : Registry) : Prop where
  apart : NamesApart registry
  readable : ∀ provider mapping, (provider,mapping) ∈ enabledMappings registry → Readable provider.id
  plain : ∀ provider mapping, (provider,mapping) ∈ enabledMappings registry →
    ∀ suffix, mapping.slug = routeName provider.id suffix → suffix = ""

/-- Among the names of the configuration this one is listed once, as that of the route. -/
structure LeadsTo (sidecar : AgentGatewayConfig) (name : String) (route : ModelRoute) : Prop where
  listed : route ∈ sidecar.llm.models
  named : route.name = name
  once : (sidecar.llm.models.map ModelRoute.name ++ sidecar.llm.virtualModels.map VirtualModel.name).count name = 1

theorem buildConfig_leads (registry : Registry) (apart : NamesApart registry) (options : SidecarConfigOptions)
    (sidecar : AgentGatewayConfig) (compiled : buildConfig registry options = .ok sidecar) (provider : Provider)
    (mapping : ModelMapping) (member : (provider,mapping) ∈ enabledMappings registry) :
    LeadsTo sidecar (routeName provider.id mapping.slug) (ModelRoute.new provider mapping) := by
  obtain ⟨valid,rfl⟩ := (buildConfig_success registry options sidecar).mp compiled
  have names := (allNames_nodup registry (registry.validate_distinct valid)).mpr apart
  have routes : ((enabledMappings registry).map (fun entry => ModelRoute.new entry.1 entry.2)).map ModelRoute.name =
      routeNames registry := by
    rw [List.map_map]
    rfl
  have aliases : ((SortedMap.gather ((enabledMappings registry).flatMap profileTargets)).map virtualModel).map
      VirtualModel.name = aliasNames registry := by
    rw [List.map_map]
    rfl
  refine ⟨List.mem_map.mpr ⟨_,member,rfl⟩,rfl,?_⟩
  rw [← routes,← aliases] at names
  exact List.count_eq_one_of_mem names (List.mem_append_left _ (List.mem_map.mpr ⟨_,List.mem_map.mpr ⟨_,member,rfl⟩,rfl⟩))

/-- A response with the header that a route sets is attributed to the route's provider, and priced as its mapping. -/
theorem route_priced (registry : Registry) (attributable : Attributable registry) (table : PriceTable)
    (accepted : PriceTable.fromRegistry registry = .ok table) (provider : Provider) (mapping : ModelMapping)
    (member : (provider,mapping) ∈ enabledMappings registry) (headers : HeaderMap)
    (set : headers.get servedProviderHeader =
      (ModelRoute.new provider mapping).responseHeaders.headers.get servedProviderHeader) :
    ∃ served, ServedProvider.fromHeaders headers = some served ∧ served.asStr = provider.id ∧
      pricesForRequest mapping.slug served.asStr table = .ok mapping.prices := by
  obtain ⟨served,read,named⟩ := (route_attributed provider mapping).mpr (attributable.readable provider mapping member)
  have same : ServedProvider.fromHeaders headers = some served := by
    unfold ServedProvider.fromHeaders at read ⊢
    rwa [set]
  obtain ⟨listed,enabled,maps⟩ := (mem_enabledMappings registry provider mapping).mp member
  refine ⟨served,same,named,?_⟩
  rw [named,pricesForRequest_success,canonicalSlug_plain mapping.slug provider.id (attributable.plain provider mapping member)]
  exact (PriceTable.get_provider registry table accepted provider listed enabled mapping.slug _).mpr ⟨mapping,maps,rfl,rfl⟩

section Written
variable (codec : Codec) (outcomes : Nat → Option UpstreamResponse)

/-- The fallback attempts are written from the request with their route as its model. -/
theorem sendFallbacks_written (fallbacks : List String) (index : Nat) (request : Value)
    (object : request.isObject = true) (wellFormed : request.WellFormed) (sent : Sent)
    (ran : sendFallbacks codec outcomes index request fallbacks = .ok sent) :
    ∀ body ∈ sent.bodies, ∃ value, codec.toVec value = some body ∧ value.WellFormed ∧
      (∃ fallback ∈ fallbacks, value.get "model" = some (.string fallback)) ∧
      ∀ key, key ≠ "model" → value.get key = request.get key := by
  induction fallbacks generalizing index request sent with
  | nil =>
    cases ran
    intro body nothing
    cases nothing
  | cons fallback fallbacks ih =>
    unfold sendFallbacks at ran
    split at ran
    · simp only [bind_success] at ran
      obtain ⟨first,written,later,others,equal⟩ := ran
      cases equal
      rw [expect_success] at written
      obtain ⟨fields,rfl⟩ := (Value.isObject_exists request).mp object
      have kept : ((Value.object fields).setIndex "model" (.string fallback)).WellFormed :=
        Value.wellFormed_setIndex _ _ _ wellFormed trivial
      intro body member
      rcases List.mem_cons.mp member with rfl | inside
      · refine ⟨_,written,kept,⟨fallback,List.mem_cons_self,?_⟩,fun key different => ?_⟩
        · rw [Value.get_setIndex,if_pos rfl]
        · rw [Value.get_setIndex,if_neg different]
      · obtain ⟨value,spelled,formed,⟨route,listed,named⟩,same⟩ := ih (index + 1) _ rfl kept later others body inside
        refine ⟨value,spelled,formed,⟨route,List.mem_cons_of_mem _ listed,named⟩,fun key different => ?_⟩
        rw [same key different,Value.get_setIndex,if_neg different]
    · cases ran
      intro body nothing
      cases nothing

/-- Every attempt is written from the request with a route of the decision as its model. -/
theorem sendSelectedThenFallback_written (request : Value) (decision : RouteDecision) (wellFormed : request.WellFormed)
    (routed : request.get "model" = some (.string (routeName decision.selectedProvider decision.canonicalModel)))
    (selectedBody : List UInt8) (written : codec.toVec request = some selectedBody) (sent : Sent)
    (ran : sendSelectedThenFallback codec outcomes request selectedBody decision = .ok sent) :
    ∀ body ∈ sent.bodies, ∃ value, codec.toVec value = some body ∧ value.WellFormed ∧
      (∃ route ∈ decision.routes, value.get "model" = some (.string route)) ∧
      ∀ key, key ≠ "model" → value.get key = request.get key := by
  unfold sendSelectedThenFallback at ran
  rw [bind_success] at ran
  obtain ⟨later,others,equal⟩ := ran
  cases equal
  have object : request.isObject = true := by
    obtain ⟨fields,rfl,_⟩ := Value.get_some_object request _ "model" routed
    rfl
  intro body member
  rcases List.mem_cons.mp member with rfl | inside
  · exact ⟨request,written,wellFormed,⟨_,List.mem_cons_self,routed⟩,fun _ _ => rfl⟩
  · obtain ⟨value,spelled,formed,⟨route,listed,named⟩,same⟩ :=
      sendFallbacks_written codec outcomes decision.fallbackModels 0 request object wellFormed later others body inside
    exact ⟨value,spelled,formed,⟨route,List.mem_cons_of_mem _ listed,named⟩,same⟩

end Written

namespace Router
variable {G : Type} (router : Router G) (registry : Registry)

/-- A completion that waits for the sidecar: every route of its decision is that of a mapping which serves what was
asked, and the request that is sent is the client's own but for the model and the sort. -/
structure Planned (request : Request) (profile : RoutingProfile) (decision : RouteDecision) (left : Value)
    (endpoint : CompletionEndpoint) (value : Value) (reading : RequestReading) : Prop where
  authorized : router.auth.authorize request.headers = some profile
  asked : ∃ body, request.target = .guarded (.completions endpoint body) ∧ router.codec.fromSlice body = some value
  read : ∃ rest, readRequest router.arithmetic value = .ok (reading,rest)
  canonical : reading.parsed.canonicalModel = decision.canonicalModel
  rewritten : Rewritten value left (routeName decision.selectedProvider decision.canonicalModel)
  routes : ∀ route ∈ decision.routes, ∃ provider mapping, route = routeName provider.id mapping.slug ∧
    Compatible registry profile endpoint reading provider mapping

section Reached
variable (config : RoutingConfig) (rng : G) (policy reached : RoutingPolicy G)
  (built : RoutingPolicy.fromRegistryWithRng router.arithmetic registry config .empty rng = .ok policy)
  (operations : List (Operation G)) (answers : List (Operation G × OperationResult))
  (ran : policy.run router.arithmetic router.randomness operations = .ok (answers,reached))
include built ran

/-- A decision in a reachable state lists routes of mappings that serve the request. -/
theorem decision_planned (draw : G) (profile : RoutingProfile) (endpoint : CompletionEndpoint) (value left : Value)
    (decision : RouteDecision) (after : RoutingPolicy G)
    (routed : (reached.withDraw draw).routeForEndpoint router.arithmetic router.randomness profile endpoint value =
      .ok ((.ok decision,left),after)) :
    ∃ reading rest, readRequest router.arithmetic value = .ok (reading,rest) ∧
      reading.parsed.canonicalModel = decision.canonicalModel ∧
      Rewritten value left (routeName decision.selectedProvider decision.canonicalModel) ∧
      ∀ route ∈ decision.routes, ∃ provider mapping, route = routeName provider.id mapping.slug ∧
        Compatible registry profile endpoint reading provider mapping := by
  obtain ⟨reading,rest,descriptors,listed,share,next,selected,fallbacks,last,reaches,_,chose,rfl,rfl⟩ :=
    RoutingPolicy.routeCase_decision router.arithmetic router.randomness _ _ profile endpoint value left decision
      ((RoutingPolicy.routeForEndpoint_iff _ _ _ _ _ _ _ _).mp routed)
  obtain ⟨_,_,_,_,_,rewrites⟩ := readRequest_rewrites router.arithmetic value rest reading reaches.read
  refine ⟨reading,rest,reaches.read,rfl,rewrites _,fun route member => ?_⟩
  obtain ⟨providerId,chosen,rfl⟩ : ∃ providerId ∈ selected :: fallbacks,
      route = routeName providerId reading.parsed.canonicalModel := by
    rcases List.mem_cons.mp member with rfl | listed
    · exact ⟨selected,List.mem_cons_self,rfl⟩
    · obtain ⟨providerId,inside,rfl⟩ := List.mem_map.mp listed
      exact ⟨providerId,List.mem_cons_of_mem _ inside,rfl⟩
  rcases chooseRoutes_cases router.randomness router.arithmetic _ _ share listed _ last _ next chose with
    ⟨refused,_⟩ | ⟨_,_,same,_,_,choosable⟩
  · cases refused
  · cases same
    have chooses := choosable providerId chosen
    have configured : (reached.withDraw draw).config = config := (RoutingPolicy.reached_frame router.arithmetic
      router.randomness registry config rng policy reached built operations answers ran).2
    rw [configured] at chooses
    obtain ⟨provider,mapping,compatible,rfl,_⟩ :=
      (RoutingPolicy.reached_chooses router.arithmetic router.randomness registry config rng policy reached built
        operations answers ran draw profile endpoint value rest reading descriptors listed reaches share providerId).mp
        chooses
    exact ⟨provider,mapping,by rw [compatible.slug],compatible⟩

end Reached

/-- If the request waits for the sidecar, it waits with a plan. -/
def Aims (request : Request) (flight : Option Flight) : Prop :=
  ∀ profile stream decision left startedAt, flight = some (.awaiting profile stream decision left startedAt) →
    left.WellFormed ∧ ∃ endpoint value reading, router.Planned registry request profile decision left endpoint value reading

/-- The turn of a request in flight does not make it wait for the sidecar again. -/
theorem inFlight_moves (action : RouterAction G) (number : Nat) (flight : Flight) (turn : Turn)
    (turns : router.InFlight action number flight turn) (profile : RoutingProfile) (stream : Bool)
    (decision : RouteDecision) (left : Value) (startedAt : Nat) :
    turn.flight ≠ some (.awaiting profile stream decision left startedAt) := by
  intro waits
  cases turns with
  | answer _ outcomes completedAt _ _ answers =>
    unfold answer at answers
    split at answers
    · cases answers
      dsimp only at waits
      split at waits <;> cases waits
    · cases answers
      cases waits
    · cases answers
  | source _ item arrivedAt completedAt _ _ flows =>
    unfold source at flows
    split at flows
    · split at flows
      · cases flows
        cases waits
      · cases flows
        obtain ⟨_,_,same⟩ := Option.map_eq_some_iff.mp waits
        cases same
    · cases flows
  | abandon _ timedOut _ =>
    unfold abandon at waits
    split at waits <;> cases waits

theorem aims_kept (config : RoutingConfig) (rng : G) (ordered : router.codec.Ordered) (policy : RoutingPolicy G)
    (built : RoutingPolicy.fromRegistryWithRng router.arithmetic registry config .empty rng = .ok policy)
    (earlier : List (Nat × GenerationWrite)) : router.Kept (router.start policy earlier)
      (fun _ _ _ request _ flight => router.Aims registry request flight) := by
  refine ⟨?_,?_,?_⟩
  · intro actions trace found draw now request turn routing ran arrives profile stream decision left startedAt waits
    obtain ⟨answers,routed⟩ := Runs.run_refines router.step (RoutingPolicy.step router.arithmetic router.randomness)
      RouterState.routing router.operations router.step_routes _ actions trace found ran
    cases router.arrive_success found draw now request turn routing arrives with
    | replied | malformed | refused | lookup | probing => cases waits
    | planned _ endpoint body value _ _ after authorized asked parsed called =>
      cases waits
      obtain ⟨reading,rest,read,canonical,rewritten,routes⟩ := router.decision_planned registry config rng policy
        found.routing built _ answers routed draw profile endpoint value left decision routing called
      exact ⟨rewritten.wellFormed (ordered body value parsed),endpoint,value,reading,authorized,⟨body,asked,parsed⟩,
        ⟨rest,read⟩,canonical,rewritten,routes⟩
  · intro _ _ _ request events action number flight turn _ turns profile stream decision left startedAt waits
    exact absurd waits (router.inFlight_moves action number flight turn turns profile stream decision left startedAt)
  · intro _ _ _ _ _ _ _ _ _ _ _ _ _ _ waits
    cases waits

/-- The sidecar reads the body as the request that was left, addressed to one route of a mapping that serves it, and
what comes back through this route is priced as the mapping. -/
structure Addressed (reader : List UInt8 → Option Value) (sidecar : AgentGatewayConfig) (profile : RoutingProfile)
    (endpoint : CompletionEndpoint) (reading : RequestReading) (left : Value) (body : List UInt8) (provider : Provider)
    (mapping : ModelMapping) : Prop where
  read : ∃ value, reader body = some value ∧
    value.get "model" = some (.string (routeName provider.id mapping.slug)) ∧
    ∀ key, key ≠ "model" → value.get key = left.get key
  serves : Compatible registry profile endpoint reading provider mapping
  leads : LeadsTo sidecar (routeName provider.id mapping.slug) (ModelRoute.new provider mapping)
  priced : ∀ headers : HeaderMap, headers.get servedProviderHeader =
      (ModelRoute.new provider mapping).responseHeaders.headers.get servedProviderHeader →
    ∃ served, ServedProvider.fromHeaders headers = some served ∧ served.asStr = provider.id ∧
      pricesForRequest mapping.slug served.asStr router.proxy.priceTable = .ok mapping.prices

/-- The attempts of a waiting completion, as the sidecar reads them. -/
theorem attempts_read (reader : List UInt8 → Option Value) (lawful : router.codec.Lawful reader)
    (config : RoutingConfig) (rng : G) (policy : RoutingPolicy G)
    (built : RoutingPolicy.fromRegistryWithRng router.arithmetic registry config .empty rng = .ok policy)
    (earlier : List (Nat × GenerationWrite)) (actions : List (RouterAction G))
    (trace : List (RouterAction G × List (Nat × RequestEvent))) (final : RouterState G)
    (ran : router.run (router.start policy earlier) actions = .ok (trace,final)) (number : Nat)
    (profile : RoutingProfile) (stream : Bool) (decision : RouteDecision) (left : Value) (startedAt : Nat)
    (waiting : final.flights number = some (.awaiting profile stream decision left startedAt))
    (outcomes : Nat → Option UpstreamResponse) :
    ∃ draw now request endpoint value reading selectedBody sent, .arrive number draw now request ∈ actions ∧
      router.Planned registry request profile decision left endpoint value reading ∧
      router.codec.toVec left = some selectedBody ∧
      sendSelectedThenFallback router.codec outcomes left selectedBody decision = .ok sent ∧
      ∀ body ∈ sent.bodies, ∃ provider mapping, (provider,mapping) ∈ enabledMappings registry ∧
        Compatible registry profile endpoint reading provider mapping ∧ ∃ value, reader body = some value ∧
          value.get "model" = some (.string (routeName provider.id mapping.slug)) ∧
          ∀ key, key ≠ "model" → value.get key = left.get key := by
  have serving := router.run_serves _ _ (router.aims_kept registry config rng lawful.ordered policy built earlier) rfl
    (fun _ => rfl) actions trace final ran
  obtain ⟨draw,now,request,arrived⟩ := serving.inFlight router _ _ trace final number _ waiting
  obtain ⟨_,_,aims⟩ := serving.holds number draw now request arrived
  obtain ⟨formed,endpoint,value,reading,planned⟩ := aims profile stream decision left startedAt waiting
  rw [Runs.run_actions router.step _ actions trace final ran] at arrived
  obtain ⟨selectedBody,written⟩ := lawful.total left
  obtain ⟨others,_,sends,_⟩ :=
    sendFallbacks_final router.codec lawful.total outcomes decision.fallbackModels 0 left
  have sent : sendSelectedThenFallback router.codec outcomes left selectedBody decision =
      .ok ⟨others.upstream,selectedBody :: others.bodies⟩ := by
    rw [sendSelectedThenFallback,sends,ok_bind]
    rfl
  refine ⟨draw,now,request,endpoint,value,reading,selectedBody,_,arrived,planned,written,sent,fun body member => ?_⟩
  obtain ⟨spoken,spelled,ordered,⟨route,listed,named⟩,same⟩ := sendSelectedThenFallback_written router.codec outcomes left
    decision formed planned.rewritten.model selectedBody written _ sent body member
  obtain ⟨provider,mapping,rfl,compatible⟩ := planned.routes route listed
  have enabled := (mem_enabledMappings registry provider mapping).mpr
    ⟨compatible.listed,compatible.enabled,compatible.mapped⟩
  exact ⟨provider,mapping,enabled,compatible,spoken,lawful.understood spoken body ordered spelled,named,same⟩

end Router

section Sample

theorem sampleRegistry_attributable : Attributable sampleRegistry := by
  have unreserved : ∀ provider ∈ sampleRegistry.providers, ∀ profile ∈ RoutingProfile.all,
      provider.id ≠ aliasPrefix profile := by decide
  have readable : ∀ provider ∈ sampleRegistry.providers, provider.id.toList.all isVisible = true ∧ provider.id ≠ "" ∧
      Text.trim provider.id = provider.id := by decide
  have plain : ∀ provider ∈ sampleRegistry.providers, ∀ mapping ∈ provider.models,
      provider.id.toList.head? ≠ mapping.slug.toList.head? ∧ provider.id ≠ "" := by decide
  refine ⟨namesApart_unslashed sampleRegistry (by decide) (by decide)
    (fun provider member profile => unreserved provider member profile (RoutingProfile.mem_all profile)),?_,?_⟩
  · intro provider mapping member
    obtain ⟨visible,nonempty,trimmed⟩ :=
      readable provider ((mem_enabledMappings sampleRegistry provider mapping).mp member).1
    exact ⟨visible,nonempty,trimmed⟩
  · intro provider mapping member suffix spelled
    obtain ⟨listed,_,maps⟩ := (mem_enabledMappings sampleRegistry provider mapping).mp member
    obtain ⟨different,nonempty⟩ := plain provider listed mapping maps
    obtain ⟨first,rest,letters⟩ := List.exists_cons_of_ne_nil (fun empty => nonempty (String.toList_eq_nil_iff.mp empty))
    rw [spelled,routeName,Text.slash_toList,letters] at different
    exact absurd rfl different

def samplePair : List (RouterAction Unit) :=
  [sampleArrival 0 "p" (.completions .chat (utf8 "\x7b\"model\":\"vendor/model\"\x7d"))]

/-- How often a waiting completion is sent when no provider can be reached. -/
def attemptCount : Option Flight → Option Nat
  | some (.awaiting _ _ decision left _) =>
    (sendSelectedThenFallback JsonText.codec (fun _ => none) left ((JsonText.codec.toVec left).getD []) decision).toOption.map
      (fun sent => sent.bodies.length)
  | _ => none

end Sample

end SerenRouter
