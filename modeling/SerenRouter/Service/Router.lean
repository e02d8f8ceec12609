import SerenRouter.Service.GatewayAuth
import SerenRouter.Service.Metadata
import SerenRouter.Service.SourceItem
import SerenRouter.Policy.RouteRuns
import Mathlib.Logic.Function.Basic

/-! The running service. Requests arrive, wait for the sidecar or the database, stream and end in
any order, beside the inserts they have spawned and the database supervisor. One step is what
happens between two points at which the program waits. -/
namespace SerenRouter
open Kernel Kernel.Json

/-- What the service was built from. -/
structure Router (G : Type) where
  codec : Codec
  arithmetic : Decimal.Arithmetic
  randomness : Randomness G
  timestampText : Nat → String
  backoff : RecoveryBackoff
  auth : GatewayAuth
  proxy : ProxyState
  catalog : Catalog
  publicProviderNames : List (String × String)

inductive ProtectedTarget where
  | completions (endpoint : CompletionEndpoint) (body : List UInt8)
  | generation (query : Option String)
  | models
  | endpoints (path : ModelPath)
  | authKey
  | credits

inductive Target where
  | hello
  | livez
  | readyz
  | guarded (target : ProtectedTarget)

structure Request where
  headers : HeaderMap
  target : Target

/-- A request whose answer is not complete: it waits for the sidecar or for the ledger, or it is streamed. -/
inductive Flight where
  | awaiting (profile : RoutingProfile) (stream : Bool) (decision : RouteDecision) (request : Value) (startedAt : Nat)
  | streaming (transformer : UsageCostTransformer) (generation : Option GenerationContext)
  | lookup (profile : RoutingProfile) (id : String)
  | probing (databaseStatus : DatabaseStatus)

/-- What happens to a request: its response or the head of it, the chunks of a streamed body and how that
ends, and the fate of its generation. -/
inductive RequestEvent where
  | replied (reply : Reply)
  | emitted (chunk : List UInt8)
  | finished
  | broken
  | recorded (recording : Recording)
  | omitted (reason : String)

/-- The events of a step of one request, and what is left of it. -/
structure Turn where
  events : List RequestEvent
  flight : Option Flight

deriving instance DecidableEq for GenerationWrite

/-- The database answers a statement, or the ledger gives the statement up. -/
inductive Contact where
  | answered
  | lost

/-- The inserts are those of the spawned tasks that wait for the database, the stray ones those that were given
up; the reports are the results that the database health is still to be told. -/
structure RouterState (G : Type) where
  routing : RoutingPolicy G
  arrived : List Nat
  flights : Nat → Option Flight
  inserts : List GenerationWrite
  stray : List GenerationWrite
  table : Generations
  reports : List (Except String Unit)
  supervision : Supervision

/-- Requests are numbered by whoever sends them; a number is used once. -/
inductive RouterAction (G : Type) where
  | arrive (number : Nat) (draw : G) (now : Nat) (request : Request)
  | answer (number : Nat) (outcomes : Nat → Option UpstreamResponse) (completedAt : Nat)
  | source (number : Nat) (item : Option (Except Unit (List UInt8))) (arrivedAt completedAt : Nat)
  | abandon (number : Nat) (timedOut : Bool)
  | fetch (number : Nat) (contact : Contact)
  | insert (write : GenerationWrite) (now : Nat) (contact : Contact)
  -- The database executes a statement that was given up.
  | late (write : GenerationWrite) (now : Nat)
  | database (action : SupervisionAction)

/-- The action cannot happen now, or routing panicked with its locks held. -/
inductive Stuck where
  | blocked
  | panicked (panic : Panic)

theorem StatusCode.requestTimeout_valid : 100 ≤ 408 ∧ 408 < 1000 := by decide

def StatusCode.requestTimeout : StatusCode := ⟨408,requestTimeout_valid⟩

def requestTimeout : Reply := ⟨.requestTimeout,none,none,.bytes [],none⟩

def Settlement.event : Settlement → RequestEvent
  | .recorded generation costed completedAt => .recorded (generation.recordAt costed completedAt)
  | .incomplete _ reason => .omitted reason

def recordings (events : List RequestEvent) : List Recording :=
  events.filterMap (fun event => match event with
    | .recorded recording => some recording
    | _ => none)

namespace Router
variable {G : Type} (router : Router G)

def complete (profile : RoutingProfile) (endpoint : CompletionEndpoint) (body : List UInt8) (draw : G) (now : Nat)
    (routing : RoutingPolicy G) : Except Panic (Turn × RoutingPolicy G) :=
  match router.codec.fromSlice body with
  | none => .ok (⟨[.replied invalidJsonRequest],none⟩,routing)
  | some request => do
    let stream := ((request.get "stream").bind Value.asBool).getD false
    let ((decided,request),routing) ←
      (routing.withDraw draw).routeForEndpoint router.arithmetic router.randomness profile endpoint request
    match decided with
    | .error error => return (⟨[.replied error.intoResponse],none⟩,routing)
    | .ok decision => return (⟨[],some (.awaiting profile stream decision request now)⟩,routing)

/-- The reply of a handler whose panic is caught. -/
def caught (reply : Except Panic Reply) : Reply := (catchPanic (do return (← reply,[]))).1

/-- What an authorized request does before it first waits; only a completion uses the routing policy. -/
def serve (profile : RoutingProfile) (target : ProtectedTarget) (draw : G) (now : Nat) (routing : RoutingPolicy G) :
    Except Panic (Turn × RoutingPolicy G) :=
  match target with
  | .completions endpoint body => router.complete profile endpoint body draw now routing
  | .generation query =>
    match requestedId query with
    | none => .ok (⟨[.replied idRequired],none⟩,routing)
    | some id => .ok (⟨[],some (.lookup profile id)⟩,routing)
  | .models => .ok (⟨[.replied (caught (router.catalog.getModels profile))],none⟩,routing)
  | .endpoints path => .ok (⟨[.replied (caught (router.catalog.getModelEndpoints profile path))],none⟩,routing)
  | .authKey => .ok (⟨[.replied getAuthKey],none⟩,routing)
  | .credits => .ok (⟨[.replied getCredits],none⟩,routing)

def arrive (state : RouterState G) (draw : G) (now : Nat) (request : Request) :
    Except Panic (Turn × RoutingPolicy G) :=
  match request.target with
  | .hello => .ok (⟨[.replied hello],none⟩,state.routing)
  | .livez => .ok (⟨[.replied livez],none⟩,state.routing)
  | .readyz => .ok (⟨[],some (.probing state.supervision.health.status)⟩,state.routing)
  | .guarded target =>
    match router.auth.authorize request.headers with
    | none => .ok (⟨[.replied unauthorized],none⟩,state.routing)
    | some profile => router.serve profile target draw now state.routing

/-- The sidecar has answered; a streamed reply goes on with its source. -/
def answer (outcomes : Nat → Option UpstreamResponse) (completedAt : Nat) : Flight → Option Turn
  | .awaiting profile stream decision request startedAt =>
    let (reply,recorded) := catchPanic (SerenRouter.complete router.codec router.arithmetic router.proxy profile stream
      decision request outcomes startedAt completedAt)
    some ⟨recorded.map .recorded ++ [.replied reply],match reply.body with
      | .events transformer generation => some (.streaming transformer (some generation))
      | _ => none⟩
  | .probing databaseStatus =>
    some ⟨[.replied (readyz databaseStatus ((outcomes 0).map UpstreamResponse.status))],none⟩
  | _ => none

/-- A panic breaks the streamed body off: its response has begun. -/
def source (item : Option (Except Unit (List UInt8))) (arrivedAt completedAt : Nat) : Flight → Option Turn
  | .streaming transformer generation =>
    match sourceItem router.codec router.arithmetic arrivedAt completedAt transformer generation item with
    | .error _ => some ⟨[.broken],none⟩
    | .ok fetched =>
      let ending := if fetched.transformer.isSome then [] else [.finished]
      let yields := match fetched.item with
        | none => ending
        | some (.ok output) => .emitted output :: ending
        | some (.error _) => [.broken]
      some ⟨fetched.settled.map Settlement.event ++ yields,
        fetched.transformer.map (fun transformer => .streaming transformer fetched.generation)⟩
  | _ => none

/-- The client has gone, or a handler that waits has run out of time. -/
def abandon (timedOut : Bool) : Flight → Turn
  | .awaiting .. | .lookup .. => ⟨if timedOut then [.replied requestTimeout] else [],none⟩
  | _ => ⟨[],none⟩

/-- What the ledger's lookup returns. -/
def fetched (table : Generations) (profile : RoutingProfile) (id : String) :
    Contact → Except String (Option Generation)
  | .answered => (Ledger.fetch table id profile).mapError (fun _ => "fetch_generation")
  | .lost => .error "fetch_generation"

/-- What the ledger's insert returns. -/
def inserted (table : Generations) (now : Nat) (write : GenerationWrite) : Except String Unit :=
  ((Ledger.insert table now write).mapError (fun _ => "insert_generation")).map (fun _ => ())

end Router

namespace RoutingPolicy

/-- The live measurements after a recorded generation. -/
def record {G : Type} (routing : RoutingPolicy G) (recording : Recording) : RoutingPolicy G :=
  match recording.observation with
  | none => routing
  | some observation => { routing with measurements := (routing.measurements.observeFor recording.profile
      recording.providerId recording.canonicalSlug observation).2 }

end RoutingPolicy

namespace RouterState
variable {G : Type} (state : RouterState G)

/-- A failed statement changes nothing. -/
def execute (now : Nat) (write : GenerationWrite) : RouterState G :=
  { state with table := (Ledger.insert state.table now write).toOption.getD state.table }

/-- A recorded generation is measured, and its insert is spawned. -/
def record (recording : Recording) : RouterState G :=
  { state with routing := state.routing.record recording, inserts := state.inserts ++ recording.write.toList }

def take (number : Nat) (turn : Turn) : List (Nat × RequestEvent) × RouterState G :=
  (turn.events.map (Prod.mk number),
    { (recordings turn.events).foldl record state with flights := Function.update state.flights number turn.flight })

/-- A request in flight takes a turn, if it waits for what has happened. -/
def act (number : Nat) (turns : Flight → Option Turn) : Except Stuck (List (Nat × RequestEvent) × RouterState G) :=
  match (state.flights number).bind turns with
  | none => .error .blocked
  | some turn => .ok (state.take number turn)

end RouterState

namespace Router
variable {G : Type} (router : Router G)

def supervise (state : RouterState G) (action : SupervisionAction) :
    Except Stuck (List (Nat × RequestEvent) × RouterState G) :=
  match state.supervision.step router.backoff action with
  | .error _ => .error .blocked
  | .ok (_,supervision) => .ok ([],{ state with supervision := supervision })

def step (state : RouterState G) :
    RouterAction G → Except Stuck (List (Nat × RequestEvent) × RouterState G)
  | .arrive number draw now request =>
    if number ∈ state.arrived then .error .blocked
    else match router.arrive state draw now request with
      | .error panic => .error (.panicked panic)
      | .ok (turn,routing) =>
        .ok (RouterState.take { state with routing := routing, arrived := number :: state.arrived } number turn)
  | .answer number outcomes completedAt => state.act number (router.answer outcomes completedAt)
  | .source number item arrivedAt completedAt => state.act number (router.source item arrivedAt completedAt)
  | .abandon number timedOut => state.act number (fun flight => some (abandon timedOut flight))
  | .fetch number contact =>
    match state.flights number with
    | some (.lookup profile id) =>
      let found := fetched state.table profile id contact
      .ok (RouterState.take { state with reports := state.reports ++ [found.map (fun _ => ())] } number
        ⟨[.replied (lookupReply router.timestampText router.publicProviderNames found)],none⟩)
    | _ => .error .blocked
  | .insert write now contact =>
    if write ∈ state.inserts then
      match contact with
      | .answered => .ok ([],{ state.execute now write with
          inserts := state.inserts.erase write, reports := state.reports ++ [inserted state.table now write] })
      | .lost => .ok ([],{ state with
          inserts := state.inserts.erase write, stray := write :: state.stray,
          reports := state.reports ++ [.error "insert_generation"] })
    else .error .blocked
  | .late write now =>
    if write ∈ state.stray then .ok ([],{ state.execute now write with stray := state.stray.erase write })
    else .error .blocked
  | .database (.report result) =>
    if result ∈ state.reports then
      router.supervise { state with reports := state.reports.erase result } (.report result)
    else .error .blocked
  | .database action => router.supervise state action

/-- Nothing has arrived yet, and the table holds what earlier runs have inserted. -/
def start (routing : RoutingPolicy G) (earlier : List (Nat × GenerationWrite)) : RouterState G :=
  ⟨routing,[],fun _ => none,[],[],Ledger.insertAll HashMap.empty earlier,[],.start router.backoff .starting⟩

def run (state : RouterState G) (actions : List (RouterAction G)) :=
  Runs.run router.step state actions

end Router

end SerenRouter
