import SerenRouter.Service.Refinement
import SerenRouter.Service.Requests
import SerenRouter.StreamCost

/-! The conversation with the client of one request: which events it can consist of, whatever happens to the
other requests, the database and the supervisor between two of them. -/
namespace SerenRouter
open Kernel Kernel.Json

/-- The chunks that a client is sent after the head of a reply. -/
def emissions (events : List RequestEvent) : List (List UInt8) :=
  events.filterMap (fun event => match event with
    | .emitted chunk => some chunk
    | _ => none)

def replies (events : List RequestEvent) : List Reply :=
  events.filterMap (fun event => match event with
    | .replied reply => some reply
    | _ => none)

@[simp] theorem emissions_emitted (chunks : List (List UInt8)) : emissions (chunks.map .emitted) = chunks := by
  rw [emissions,List.filterMap_map]
  exact List.filterMap_some

@[simp] theorem replies_emitted (chunks : List (List UInt8)) : replies (chunks.map .emitted) = [] := by
  rw [replies,List.filterMap_map]
  exact List.filterMap_none chunks

theorem emissions_append (before after : List RequestEvent) :
    emissions (before ++ after) = emissions before ++ emissions after := List.filterMap_append

theorem replies_append (before after : List RequestEvent) :
    replies (before ++ after) = replies before ++ replies after := List.filterMap_append

/-- The transformer of a streamed reply, before its first chunk. -/
def GenerationContext.transformer (generation : GenerationContext) (prices : ProviderPrices) : UsageCostTransformer :=
  .priced prices (providerReportedCostPolicy generation.providerId) generation.canonicalSlug

namespace UsageCostTransformer
variable (codec : Codec) (arithmetic : Decimal.Arithmetic)

theorem transformAll_snoc (transformer next last : UsageCostTransformer) (chunks : List (List UInt8))
    (output : List UInt8) (completed : List CostedUsage) (chunk more : List UInt8) (one : Option CostedUsage)
    (fed : transformer.transformAll codec arithmetic chunks = .ok (next,output,completed))
    (ran : next.transform codec arithmetic chunk = .ok (last,more,one)) :
    transformer.transformAll codec arithmetic (chunks ++ [chunk]) =
      .ok (last,output ++ more,completed ++ one.toList) := by
  induction chunks generalizing transformer output completed with
  | nil =>
    cases fed
    rw [List.nil_append,transformAll,ran,ok_bind]
    simp only [transformAll,pure_bind,List.append_nil,List.nil_append]
    rfl
  | cons first chunks ih =>
    rw [transformAll,bind_success] at fed
    obtain ⟨⟨middle,early,told⟩,stepped,fed⟩ := fed
    rw [bind_success] at fed
    obtain ⟨⟨_,late,later⟩,rest,fed⟩ := fed
    cases fed
    rw [List.cons_append,transformAll,stepped,ok_bind]
    simp only [ih middle late later rest,ok_bind,List.append_assoc]
    rfl

end UsageCostTransformer

namespace Router
variable {G : Type} (router : Router G) (reader : List UInt8 → Option Value) (request : Request)

/-- The request asks for a completion of a model on behalf of a profile. -/
structure Asks (profile : RoutingProfile) (canonicalModel : String) : Prop where
  authorized : router.auth.authorize request.headers = some profile
  asked : ∃ endpoint body value reading rest, request.target = .guarded (.completions endpoint body) ∧
    router.codec.fromSlice body = some value ∧ readRequest router.arithmetic value = .ok (reading,rest) ∧
    reading.parsed.canonicalModel = canonicalModel

/-- The ledger row of a recording, if it has one, states the costed usage. -/
structure Books (costed : CostedUsage) (recording : Recording) (row : GenerationWrite) : Prop where
  id : costed.responseId = some row.id
  promptTokens : row.promptTokens = costed.usage.promptTokens.toNat
  completionTokens : row.completionTokens = costed.usage.completionTokens.toNat
  costUsd : row.costUsd = costed.costUsd
  canonicalSlug : row.canonicalSlug = recording.canonicalSlug
  providerId : row.providerId = recording.providerId
  routingProfile : row.routingProfile = recording.profile

/-- The cost is that of the provider that served the model. -/
def Charges (costed : CostedUsage) (canonicalSlug providerId : String) : Prop :=
  ∃ prices, pricesForRequest canonicalSlug providerId router.proxy.priceTable = .ok prices ∧
    BilledCost router.arithmetic prices (providerReportedCostPolicy providerId) costed

/-- The recording is of a costed usage that the request has caused. -/
structure Bills (costed : CostedUsage) (recording : Recording) : Prop where
  asks : router.Asks request recording.profile recording.canonicalSlug
  charges : router.Charges costed recording.canonicalSlug recording.providerId
  books : ∀ row, recording.write = some row → Books costed recording row

/-- What a request waits for before its reply. -/
inductive Waits : Flight → Prop
  | awaiting (profile : RoutingProfile) (stream : Bool) (decision : RouteDecision) (value : Value) (startedAt : Nat)
    (asks : router.Asks request profile decision.canonicalModel) :
    Waits (.awaiting profile stream decision value startedAt)
  | lookup (profile : RoutingProfile) (id : String) (query : Option String)
    (authorized : router.auth.authorize request.headers = some profile)
    (asked : request.target = .guarded (.generation query)) (requested : requestedId query = some id) :
    Waits (.lookup profile id)
  | probing (databaseStatus : DatabaseStatus) (asked : request.target = .readyz) : Waits (.probing databaseStatus)

/-- A reply that starts a stream for the model that was asked for. -/
structure Opens (reply : Reply) (generation : GenerationContext) (prices : ProviderPrices) : Prop where
  asks : router.Asks request generation.profile generation.canonicalSlug
  priced : pricesForRequest generation.canonicalSlug generation.providerId router.proxy.priceTable = .ok prices
  body : reply.body = .events (generation.transformer prices) generation

/-- An open stream has turned the chunks of its source into what was sent. -/
structure Fed (generation : GenerationContext) (prices : ProviderPrices) (chunks sent : List (List UInt8))
    (transformer : UsageCostTransformer) : Prop where
  ran : (generation.transformer prices).transformAll router.codec router.arithmetic chunks =
    .ok (transformer,sent.flatten,[])
  serves : ServesModel generation.canonicalSlug transformer.toEventState
  active : transformer.closed = false

/-- How the generation of a finished stream is settled. -/
inductive Settles : Option CostedUsage → RequestEvent → Prop
  | recorded (costed : CostedUsage) (recording : Recording) (bills : router.Bills request costed recording) :
    Settles (some costed) (.recorded recording)
  | omitted (reason : String) : Settles none (.omitted reason)

/-- The events of a request so far, and its flight. -/
inductive Conversation : List RequestEvent → Option Flight → Prop
  | waiting (flight : Flight) (waits : router.Waits request flight) : Conversation [] (some flight)
  | dropped : Conversation [] none
  | replied (reply : Reply) (unstreamed : reply.Unstreamed) : Conversation [.replied reply] none
  | delivered (reply : Reply) (recording : Recording) (costed : CostedUsage) (body : List UInt8) (value : Value)
    (sends : reply.body = .bytes body) (read : reader body = some value) (carries : Carries value costed)
    (bills : router.Bills request costed recording) :
    Conversation [.recorded recording,.replied reply] none
  | streaming (reply : Reply) (generation : GenerationContext) (prices : ProviderPrices)
    (chunks sent : List (List UInt8)) (transformer : UsageCostTransformer) (firstOutputAt : Option Nat)
    (opens : router.Opens request reply generation prices) (fed : router.Fed generation prices chunks sent transformer) :
    Conversation (.replied reply :: sent.map .emitted)
      (some (.streaming transformer (some { generation with firstOutputAt := firstOutputAt })))
  -- The client has gone, the transformer has panicked or the source has failed.
  | interrupted (reply : Reply) (generation : GenerationContext) (prices : ProviderPrices)
    (chunks sent : List (List UInt8)) (transformer : UsageCostTransformer) (ending : List RequestEvent)
    (opens : router.Opens request reply generation prices) (fed : router.Fed generation prices chunks sent transformer)
    (ends : ending ∈ [[],[.broken],[.omitted errorReason,.broken]]) :
    Conversation (.replied reply :: (sent.map .emitted ++ ending)) none
  | finished (reply : Reply) (generation : GenerationContext) (prices : ProviderPrices)
    (chunks sent last : List (List UInt8)) (closed : Bool) (completed : Option CostedUsage) (settled : RequestEvent)
    (opens : router.Opens request reply generation prices)
    (ran : (generation.transformer prices).run router.codec router.arithmetic chunks =
      .ok ⟨(sent ++ last).flatten,closed,completed.toList⟩)
    (settles : router.Settles request completed settled) :
    Conversation (.replied reply :: (sent.map .emitted ++ settled :: (last.map .emitted ++ [.finished]))) none

/-- What comes of a decision: a plain reply, the head of a stream, or a body that was costed and recorded. -/
inductive Answered (profile : RoutingProfile) (decision : RouteDecision) : Reply → List Recording → Prop
  | plain (reply : Reply) (unstreamed : reply.Unstreamed) : Answered profile decision reply []
  | opened (reply : Reply) (generation : GenerationContext) (prices : ProviderPrices)
    (profiled : generation.profile = profile) (modelled : generation.canonicalSlug = decision.canonicalModel)
    (priced : pricesForRequest generation.canonicalSlug generation.providerId router.proxy.priceTable = .ok prices)
    (body : reply.body = .events (generation.transformer prices) generation) : Answered profile decision reply []
  | delivered (reply : Reply) (generation : GenerationContext) (completedAt : Nat) (served : ServedProvider)
    (prepared : List UInt8) (costed : CostedResponse) (profiled : generation.profile = profile)
    (modelled : generation.canonicalSlug = decision.canonicalModel) (provided : generation.providerId = served.asStr)
    (injected : injectUsageCost router.arithmetic router.codec prepared decision.canonicalModel served.asStr
      router.proxy.priceTable = .ok (.ok costed)) (sends : reply.body = .bytes costed.body) :
    Answered profile decision reply [generation.recordAt costed.usage completedAt]

theorem recordAt_bills (generation : GenerationContext) (costed : CostedUsage) (completedAt : Nat)
    (asks : router.Asks request generation.profile generation.canonicalSlug)
    (charges : router.Charges costed generation.canonicalSlug generation.providerId) :
    router.Bills request costed (generation.recordAt costed completedAt) := by
  refine ⟨asks,charges,fun row written => ?_⟩
  obtain ⟨id,promptTokens,completionTokens,costUsd,canonicalSlug,providerId,routingProfile⟩ :=
    generationWrite_success generation costed completedAt row written
  exact ⟨id,promptTokens,completionTokens,costUsd,canonicalSlug,providerId,routingProfile⟩

section Answer
variable (profile : RoutingProfile) (stream : Bool) (decision : RouteDecision) (startedAt completedAt : Nat)

theorem deliver_answered (response : UpstreamResponse) (contentType : Option (List UInt8)) (served : ServedProvider)
    (body : List UInt8) (reply : Reply) (recorded : List Recording)
    (ran : deliver router.codec router.arithmetic router.proxy profile decision startedAt completedAt response
      contentType served body = .ok (reply,recorded)) : router.Answered profile decision reply recorded := by
  rw [deliver,bind_success] at ran
  obtain ⟨result,injected,ran⟩ := ran
  cases result with
  | error omission =>
    cases ran
    exact .plain _ (aliasedUpstreamError_unstreamed _ _ _)
  | ok costed =>
    cases ran
    exact .delivered _ _ completedAt served body costed rfl rfl rfl injected rfl

theorem respond_answered (response : UpstreamResponse) (reply : Reply) (recorded : List Recording)
    (ran : respond router.codec router.arithmetic router.proxy profile stream decision startedAt completedAt response =
      .ok (reply,recorded)) : router.Answered profile decision reply recorded := by
  unfold respond at ran
  dsimp only at ran
  split at ran
  · cases ran
    exact .plain _ (aliasedUpstreamError_unstreamed _ _ _)
  split at ran
  · split at ran
    · cases ran
      exact .plain _ (aliasedUpstreamError_unstreamed _ _ _)
    · cases ran
      exact .plain _ (fun _ _ same => by cases same)
  split at ran
  · rw [bind_success] at ran
    obtain ⟨served,_,ran⟩ := ran
    split at ran
    · cases ran
      exact .plain _ (aliasedUpstreamError_unstreamed _ _ _)
    · rename_i prices priced
      cases ran
      exact .opened _ ⟨decision.canonicalModel,served.asStr,response.status,startedAt,response.attemptStartedAt,
        response.headersReceivedAt,none,profile⟩ prices rfl rfl priced rfl
  split at ran
  · cases ran
    exact .plain _ (jsonReply_unstreamed _ _)
  split at ran
  · cases ran
    exact .plain _ (aliasedUpstreamError_unstreamed _ _ _)
  split at ran
  · cases ran
    exact .plain _ (fun _ _ same => by cases same)
  · exact router.deliver_answered profile decision startedAt completedAt response _ _ _ reply recorded ran

theorem complete_answered (value : Value) (outcomes : Nat → Option UpstreamResponse) :
    router.Answered profile decision
      (catchPanic (SerenRouter.complete router.codec router.arithmetic router.proxy profile stream decision value outcomes
        startedAt completedAt)).1
      (catchPanic (SerenRouter.complete router.codec router.arithmetic router.proxy profile stream decision value outcomes
        startedAt completedAt)).2 := by
  cases ran : SerenRouter.complete router.codec router.arithmetic router.proxy profile stream decision value outcomes
      startedAt completedAt with
  | error panic => exact .plain _ (jsonReply_unstreamed _ _)
  | ok replied =>
    obtain ⟨reply,recorded⟩ := replied
    rw [SerenRouter.complete,bind_success] at ran
    obtain ⟨_,_,ran⟩ := ran
    rw [bind_success] at ran
    obtain ⟨sent,_,ran⟩ := ran
    split at ran
    · cases ran
      exact .plain _ (jsonReply_unstreamed _ _)
    · exact router.respond_answered profile stream decision startedAt completedAt _ reply recorded ran

end Answer

/-- The events that an item of a source leads to, behind those of its settlement. -/
theorem source_streaming (item : Option (Except Unit (List UInt8))) (arrivedAt completedAt : Nat)
    (transformer : UsageCostTransformer) (generation : GenerationContext) (canonicalModel : String)
    (serves : ServesModel canonicalModel transformer.toEventState) (active : transformer.closed = false) (turn : Turn)
    (flows : router.source item arrivedAt completedAt (.streaming transformer (some generation)) = some turn) :
    turn = ⟨[.broken],none⟩ ∨ ∃ fetched, SourceCase router.codec router.arithmetic arrivedAt completedAt transformer
      generation item fetched ∧ turn = ⟨fetched.settled.map Settlement.event ++
        (match fetched.item with
          | none => if fetched.transformer.isSome then [] else [.finished]
          | some (.ok output) => .emitted output :: if fetched.transformer.isSome then [] else [.finished]
          | some (.error _) => [.broken]),
        fetched.transformer.map (fun transformer => .streaming transformer fetched.generation)⟩ := by
  rw [source] at flows
  cases ran : sourceItem router.codec router.arithmetic arrivedAt completedAt transformer (some generation) item with
  | error panic =>
    rw [ran] at flows
    cases flows
    exact .inl rfl
  | ok fetched =>
    rw [ran] at flows
    cases flows
    exact .inr ⟨fetched,sourceItem_cases router.codec router.arithmetic arrivedAt completedAt transformer generation
      canonicalModel serves active item fetched ran,rfl⟩

theorem yielded_output {E : Type} (output : List UInt8) (speaks : output ≠ []) :
    (yielded output : Option (Except E (List UInt8))) = some (.ok output) := by
  rw [yielded,if_neg (by simpa using speaks)]

theorem observe_again (generation : GenerationContext) (firstOutputAt : Option Nat) (arrivedAt : Nat)
    (chunk : List UInt8) : ∃ later, ({ generation with firstOutputAt := firstOutputAt } : GenerationContext).observe
      arrivedAt chunk = { generation with firstOutputAt := later } := by
  unfold GenerationContext.observe
  split
  · exact ⟨firstOutputAt,rfl⟩
  · exact ⟨_,rfl⟩

theorem settlement_settles (generation : GenerationContext) (firstOutputAt : Option Nat)
    (asks : router.Asks request generation.profile generation.canonicalSlug) (completedAt : Nat)
    (completed : Option CostedUsage) (reason : String)
    (charges : ∀ costed ∈ completed.toList, router.Charges costed generation.canonicalSlug generation.providerId) :
    router.Settles request completed ((({ generation with firstOutputAt := firstOutputAt } :
      GenerationContext).settlement completedAt completed reason).event) := by
  cases completed with
  | none => exact .omitted reason
  | some costed =>
    exact .recorded costed _ (router.recordAt_bills request _ costed completedAt asks (charges costed (by simp)))

theorem run_charges (reply : Reply) (generation : GenerationContext) (prices : ProviderPrices)
    (opens : router.Opens request reply generation prices) (chunks : List (List UInt8)) (result : StreamRun)
    (ran : (generation.transformer prices).run router.codec router.arithmetic chunks = .ok result) :
    ∀ costed ∈ result.completed, router.Charges costed generation.canonicalSlug generation.providerId := by
  intro costed completed
  exact ⟨prices,opens.priced,run_billedCost router.codec router.arithmetic prices _ _ chunks result ran costed completed⟩

/-- A turn of a streamed reply goes on with its conversation. -/
theorem streaming_converses (item : Option (Except Unit (List UInt8))) (arrivedAt completedAt : Nat) (reply : Reply)
    (generation : GenerationContext) (prices : ProviderPrices) (chunks sent : List (List UInt8))
    (transformer : UsageCostTransformer) (firstOutputAt : Option Nat)
    (opens : router.Opens request reply generation prices) (fed : router.Fed generation prices chunks sent transformer)
    (turn : Turn)
    (flows : router.source item arrivedAt completedAt
      (.streaming transformer (some { generation with firstOutputAt := firstOutputAt })) = some turn) :
    router.Conversation reader request (.replied reply :: sent.map .emitted ++ turn.events) turn.flight := by
  rcases router.source_streaming item arrivedAt completedAt transformer _ _ fed.serves fed.active turn flows with
    rfl | ⟨fetched,ended,rfl⟩
  · exact .interrupted reply generation prices chunks sent transformer [.broken] opens fed (by simp)
  cases ended with
  | passed chunk output next ran active =>
    obtain ⟨later,observed⟩ := observe_again generation firstOutputAt arrivedAt chunk
    have feeds : router.Fed generation prices (chunks ++ [chunk]) (sent ++ [output]) next := by
      refine ⟨?_,(transform_closes router.codec router.arithmetic generation.canonicalSlug transformer fed.serves
        fed.active chunk output next none ran).1,active⟩
      rw [UsageCostTransformer.transformAll_snoc router.codec router.arithmetic _ transformer next chunks _ _ chunk
        output none fed.ran ran]
      simp
    dsimp only
    rw [observed]
    by_cases silent : output = []
    · subst silent
      have quiet : router.Fed generation prices (chunks ++ [chunk]) sent next :=
        ⟨by simpa using feeds.ran,feeds.serves,active⟩
      have goesOn : router.Conversation reader request _ _ :=
        .streaming reply generation prices _ sent next later opens quiet
      simpa [yielded] using goesOn
    · have goesOn : router.Conversation reader request _ _ :=
        .streaming reply generation prices _ _ next later opens feeds
      rw [yielded_output output silent]
      simpa using goesOn
  | closed chunk output next completed ran shut speaks =>
    obtain ⟨later,observed⟩ := observe_again generation firstOutputAt arrivedAt chunk
    have whole : (generation.transformer prices).run router.codec router.arithmetic (chunks ++ [chunk]) =
        .ok ⟨(sent ++ [output]).flatten,true,completed.toList⟩ := by
      rw [UsageCostTransformer.run,UsageCostTransformer.transformAll_snoc router.codec router.arithmetic _ transformer
        next chunks _ _ chunk output completed fed.ran ran,ok_bind]
      simp [UsageCostTransformer.finish,shut]
    dsimp only
    rw [observed]
    exact .finished reply generation prices _ sent [output] true completed _ opens whole
      (router.settlement_settles request generation later opens.asks completedAt completed closedReason
        (router.run_charges request reply generation prices opens _ _ whole))
  | failed error =>
    exact .interrupted reply generation prices chunks sent transformer [.omitted errorReason,.broken] opens fed (by simp)
  | ended output completed finishes =>
    have whole (last : List (List UInt8)) (same : last.flatten = output) :
        (generation.transformer prices).run router.codec router.arithmetic chunks =
          .ok ⟨(sent ++ last).flatten,false,completed.toList⟩ := by
      rw [UsageCostTransformer.run,fed.ran,ok_bind]
      simp [finishes,fed.active,same]
    have settles := router.settlement_settles request generation firstOutputAt opens.asks completedAt completed endedReason
      (router.run_charges request reply generation prices opens chunks _ (whole [output] (by simp)))
    by_cases silent : output = []
    · subst silent
      exact .finished reply generation prices chunks sent [] false completed _ opens (whole [] rfl) settles
    · rw [yielded_output output silent]
      exact .finished reply generation prices chunks sent [output] false completed _ opens (whole [output] (by simp)) settles

/-- What a request waits for after its first turn. -/
theorem arrive_waits (state : RouterState G) (draw : G) (now : Nat) (turn : Turn) (routing : RoutingPolicy G)
    (arrives : router.arrive state draw now request = .ok (turn,routing)) :
    ∀ flight ∈ turn.flight, router.Waits request flight := by
  intro flight held
  cases router.arrive_success state draw now request turn routing arrives with
  | replied | malformed | refused => cases held
  | planned profile endpoint body value left decision after authorized asked parsed routed =>
    cases held
    obtain ⟨reading,rest,_,_,_,_,_,_,_,reaches,_,_,rfl,_⟩ :=
      RoutingPolicy.routeCase_decision router.arithmetic router.randomness _ _ profile endpoint value left decision
        ((RoutingPolicy.routeForEndpoint_iff _ _ _ _ _ _ _ _).mp routed)
    exact .awaiting _ _ _ _ _ ⟨authorized,endpoint,body,value,reading,rest,asked,parsed,reaches.read,rfl⟩
  | lookup profile query id authorized asked requested =>
    cases held
    exact .lookup profile id query authorized asked requested
  | probing asked =>
    cases held
    exact .probing _ asked

theorem arrive_converses (state : RouterState G) (draw : G) (now : Nat) (turn : Turn) (routing : RoutingPolicy G)
    (arrives : router.arrive state draw now request = .ok (turn,routing)) :
    router.Conversation reader request turn.events turn.flight := by
  have waits := router.arrive_waits request state draw now turn routing arrives
  cases router.arrive_success state draw now request turn routing arrives with
  | replied reply unstreamed => exact .replied reply unstreamed
  | malformed => exact .replied _ (jsonReply_unstreamed _ _)
  | refused _ _ _ _ _ error => exact .replied _ (intoResponse_unstreamed error)
  | planned | lookup | probing => exact .waiting _ (waits _ rfl)

theorem answered_converses (lawful : router.codec.Lawful reader) (profile : RoutingProfile) (decision : RouteDecision)
    (asks : router.Asks request profile decision.canonicalModel) (reply : Reply) (recorded : List Recording)
    (answered : router.Answered profile decision reply recorded) :
    router.Conversation reader request (recorded.map .recorded ++ [.replied reply]) (match reply.body with
      | .events transformer generation => some (.streaming transformer (some generation))
      | _ => none) := by
  cases answered with
  | plain unstreamed =>
    split
    · rename_i transformer generation body
      exact absurd body (unstreamed transformer generation)
    · exact .replied reply unstreamed
  | opened generation prices profiled modelled priced body =>
    rw [body]
    rw [← profiled,← modelled] at asks
    exact .streaming reply generation prices [] [] _ generation.firstOutputAt ⟨asks,priced,body⟩ ⟨rfl,rfl,rfl⟩
  | delivered generation completedAt served prepared costed profiled modelled provided injected sends =>
    obtain ⟨prices,usage,_,value,_,priced,_,counted,computed,readable,carries,_⟩ :=
      injectUsageCost_delivers router.codec reader router.arithmetic router.proxy decision lawful served prepared costed
        injected
    obtain ⟨amount,billed,normal⟩ := (providerCost_success router.arithmetic usage prices _ _ _).mp computed
    rw [← profiled,← modelled] at asks
    rw [← provided,← modelled] at priced
    rw [← provided] at billed
    rw [sends]
    exact .delivered reply _ costed.usage costed.body value sends readable carries
      (router.recordAt_bills request generation costed.usage completedAt asks ⟨prices,priced,usage,amount,counted,billed,normal⟩)

/-- Whatever a request that waits does next goes on with its conversation. -/
theorem inFlight_converses (lawful : router.codec.Lawful reader) (action : RouterAction G) (number : Nat)
    (flight : Flight) (turn : Turn) (turns : router.InFlight action number flight turn) (events : List RequestEvent)
    (conversing : router.Conversation reader request events (some flight)) :
    router.Conversation reader request (events ++ turn.events) turn.flight := by
  cases conversing with
  | waiting _ waits =>
    rw [List.nil_append]
    cases turns with
    | answer _ outcomes completedAt _ _ answers =>
      cases waits with
      | awaiting profile stream decision value startedAt asks =>
        have answered := router.complete_answered profile stream decision startedAt completedAt value outcomes
        cases answers
        exact router.answered_converses reader request lawful profile decision asks _ _ answered
      | lookup => cases answers
      | probing databaseStatus =>
        cases answers
        exact .replied _ (readyz_unstreamed _ _)
    | source _ item arrivedAt completedAt _ _ flows => cases waits <;> cases flows
    | abandon _ timedOut =>
      cases waits with
      | probing => exact .dropped
      | awaiting | lookup =>
        cases timedOut with
        | false => exact .dropped
        | true => exact .replied _ (fun _ _ same => by cases same)
  | streaming reply generation prices chunks sent transformer firstOutputAt opens fed =>
    cases turns with
    | answer _ outcomes completedAt _ _ answers => cases answers
    | source _ item arrivedAt completedAt _ _ flows =>
      exact router.streaming_converses reader request item arrivedAt completedAt reply generation prices chunks sent
        transformer firstOutputAt opens fed turn flows
    | abandon => exact .interrupted reply generation prices chunks sent transformer [] opens fed (by simp)

end Router

end SerenRouter
