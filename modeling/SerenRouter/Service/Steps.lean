import SerenRouter.Service.Router

/-! What a step of the service does: one case for each action that can happen, and what a turn of
a request changes. -/
namespace SerenRouter
open Kernel Kernel.Json

theorem recordings_append (before after : List RequestEvent) :
    recordings (before ++ after) = recordings before ++ recordings after := List.filterMap_append

@[simp] theorem recordings_recorded (recorded : List Recording) : recordings (recorded.map .recorded) = recorded := by
  rw [recordings,List.filterMap_map]
  exact List.filterMap_some

@[simp] theorem recordings_emitted (chunks : List (List UInt8)) : recordings (chunks.map .emitted) = [] := by
  rw [recordings,List.filterMap_map]
  exact List.filterMap_none chunks

def Reply.Unstreamed (reply : Reply) : Prop := ∀ transformer generation, reply.body ≠ .events transformer generation

theorem jsonReply_unstreamed (status : StatusCode) (value : Value) : (jsonReply status value).Unstreamed := by
  intro transformer generation same
  cases same

theorem intoResponse_unstreamed (error : RouteRequestError) : error.intoResponse.Unstreamed := by
  cases error <;> exact jsonReply_unstreamed _ _

theorem aliasedUpstreamError_unstreamed (status : StatusCode) (canonicalModel : String)
    (servedProvider : Option ServedProvider) :
    (aliasedUpstreamError status canonicalModel servedProvider).Unstreamed := by
  intro transformer generation same
  cases same

theorem caught_unstreamed (reply : Except Panic Reply) (unstreamed : ∀ made, reply = .ok made → made.Unstreamed) :
    (Router.caught reply).Unstreamed := by
  cases reply with
  | error panic => exact jsonReply_unstreamed _ _
  | ok made => exact unstreamed made rfl

theorem getModels_unstreamed (catalog : Catalog) (profile : RoutingProfile) (reply : Reply)
    (made : catalog.getModels profile = .ok reply) : reply.Unstreamed := by
  obtain ⟨snapshot,_,made⟩ := (bind_success _ _ _).mp made
  cases made
  exact jsonReply_unstreamed _ _

theorem getModelEndpoints_unstreamed (catalog : Catalog) (profile : RoutingProfile) (path : ModelPath) (reply : Reply)
    (made : catalog.getModelEndpoints profile path = .ok reply) : reply.Unstreamed := by
  obtain ⟨response,_,made⟩ := (bind_success _ _ _).mp made
  cases response <;>
    · cases made
      exact jsonReply_unstreamed _ _

theorem readyz_unstreamed (databaseStatus : DatabaseStatus) (sidecar : Option StatusCode) :
    (readyz databaseStatus sidecar).Unstreamed := by
  unfold readyz
  split <;> exact jsonReply_unstreamed _ _

theorem lookupReply_unstreamed (timestampText : Nat → String) (names : List (String × String))
    (found : Except String (Option Generation)) : (lookupReply timestampText names found).Unstreamed := by
  cases found with
  | error message => exact jsonReply_unstreamed _ _
  | ok generation => cases generation <;> exact jsonReply_unstreamed _ _

namespace RouterState
variable {G : Type} (state : RouterState G) (number : Nat) (turn : Turn)

theorem recordAll (recorded : List Recording) : recorded.foldl record state =
    { state with
      routing := recorded.foldl RoutingPolicy.record state.routing
      inserts := state.inserts ++ recorded.filterMap Recording.write } := by
  induction recorded generalizing state with
  | nil => simp
  | cons recording recorded ih =>
    rw [List.foldl_cons,ih,record]
    cases written : recording.write with
    | none => simp [written]
    | some write => simp [written]

theorem take_eq : state.take number turn = (turn.events.map (Prod.mk number),
    { state with
      routing := (recordings turn.events).foldl RoutingPolicy.record state.routing
      inserts := state.inserts ++ (recordings turn.events).filterMap Recording.write
      flights := Function.update state.flights number turn.flight }) := by
  rw [take,recordAll]

@[simp] theorem take_events : (state.take number turn).1 = turn.events.map (Prod.mk number) := rfl

@[simp] theorem take_flights :
    (state.take number turn).2.flights = Function.update state.flights number turn.flight := rfl

@[simp] theorem take_routing : (state.take number turn).2.routing =
    (recordings turn.events).foldl RoutingPolicy.record state.routing := by rw [take_eq]

@[simp] theorem take_inserts : (state.take number turn).2.inserts =
    state.inserts ++ (recordings turn.events).filterMap Recording.write := by rw [take_eq]

@[simp] theorem take_arrived : (state.take number turn).2.arrived = state.arrived := by rw [take_eq]

@[simp] theorem take_stray : (state.take number turn).2.stray = state.stray := by rw [take_eq]

@[simp] theorem take_table : (state.take number turn).2.table = state.table := by rw [take_eq]

@[simp] theorem take_reports : (state.take number turn).2.reports = state.reports := by rw [take_eq]

@[simp] theorem take_supervision : (state.take number turn).2.supervision = state.supervision := by rw [take_eq]

/-- The state in which an arrived request takes its first turn. -/
def welcome (routing : RoutingPolicy G) : RouterState G :=
  { state with routing := routing, arrived := number :: state.arrived }

/-- The state once a result is to be reported. -/
def due (result : Except String Unit) : RouterState G := { state with reports := state.reports ++ [result] }

end RouterState

namespace Router
variable {G : Type} (router : Router G) (state : RouterState G)

/-- What becomes of a request that arrives: only a completion with a JSON body calls the routing policy. -/
inductive Arrives (draw : G) (now : Nat) (request : Request) : Turn → RoutingPolicy G → Prop
  | replied (reply : Reply) (unstreamed : reply.Unstreamed)
    (other : ∀ profile endpoint body, router.auth.authorize request.headers = some profile →
      request.target ≠ .guarded (.completions endpoint body)) :
    Arrives draw now request ⟨[.replied reply],none⟩ state.routing
  | malformed (profile : RoutingProfile) (endpoint : CompletionEndpoint) (body : List UInt8)
    (authorized : router.auth.authorize request.headers = some profile)
    (asked : request.target = .guarded (.completions endpoint body)) (unread : router.codec.fromSlice body = none) :
    Arrives draw now request ⟨[.replied invalidJsonRequest],none⟩ state.routing
  | refused (profile : RoutingProfile) (endpoint : CompletionEndpoint) (body : List UInt8) (value left : Value)
    (error : RouteRequestError) (after : RoutingPolicy G)
    (authorized : router.auth.authorize request.headers = some profile)
    (asked : request.target = .guarded (.completions endpoint body)) (parsed : router.codec.fromSlice body = some value)
    (routed : (state.routing.withDraw draw).routeForEndpoint router.arithmetic router.randomness profile endpoint value =
      .ok ((.error error,left),after)) : Arrives draw now request ⟨[.replied error.intoResponse],none⟩ after
  | planned (profile : RoutingProfile) (endpoint : CompletionEndpoint) (body : List UInt8) (value left : Value)
    (decision : RouteDecision) (after : RoutingPolicy G)
    (authorized : router.auth.authorize request.headers = some profile)
    (asked : request.target = .guarded (.completions endpoint body)) (parsed : router.codec.fromSlice body = some value)
    (routed : (state.routing.withDraw draw).routeForEndpoint router.arithmetic router.randomness profile endpoint value =
      .ok ((.ok decision,left),after)) :
    Arrives draw now request ⟨[],some (.awaiting profile (((value.get "stream").bind Value.asBool).getD false) decision
      left now)⟩ after
  | lookup (profile : RoutingProfile) (query : Option String) (id : String)
    (authorized : router.auth.authorize request.headers = some profile)
    (asked : request.target = .guarded (.generation query)) (requested : requestedId query = some id) :
    Arrives draw now request ⟨[],some (.lookup profile id)⟩ state.routing
  | probing (asked : request.target = .readyz) :
    Arrives draw now request ⟨[],some (.probing state.supervision.health.status)⟩ state.routing

theorem arrive_success (draw : G) (now : Nat) (request : Request) (turn : Turn) (routing : RoutingPolicy G)
    (arrives : router.arrive state draw now request = .ok (turn,routing)) :
    router.Arrives state draw now request turn routing := by
  obtain ⟨headers,target⟩ := request
  unfold arrive at arrives
  cases target with
  | hello | livez =>
    cases arrives
    exact .replied _ (fun _ _ same => by cases same) (by simp)
  | readyz =>
    cases arrives
    exact .probing rfl
  | guarded target =>
    dsimp only at arrives
    cases granted : router.auth.authorize headers with
    | none =>
      rw [granted] at arrives
      cases arrives
      exact .replied _ (jsonReply_unstreamed _ _) (by simp [granted])
    | some profile =>
      rw [granted] at arrives
      cases target with
      | completions endpoint body =>
        dsimp only [serve] at arrives
        unfold complete at arrives
        cases parsed : router.codec.fromSlice body with
        | none =>
          rw [parsed] at arrives
          cases arrives
          exact .malformed profile endpoint body granted rfl parsed
        | some value =>
          simp only [parsed,bind_success] at arrives
          obtain ⟨⟨⟨decided,left⟩,after⟩,routed,arrives⟩ := arrives
          cases decided with
          | error error =>
            cases arrives
            exact .refused profile endpoint body value left error _ granted rfl parsed routed
          | ok decision =>
            cases arrives
            exact .planned profile endpoint body value left decision _ granted rfl parsed routed
      | generation query =>
        dsimp only [serve] at arrives
        cases requested : requestedId query with
        | none =>
          rw [requested] at arrives
          cases arrives
          exact .replied _ (jsonReply_unstreamed _ _) (by simp)
        | some id =>
          rw [requested] at arrives
          cases arrives
          exact .lookup profile query id granted rfl requested
      | models =>
        cases arrives
        exact .replied _ (caught_unstreamed _ (getModels_unstreamed router.catalog profile)) (by simp)
      | endpoints path =>
        cases arrives
        exact .replied _ (caught_unstreamed _ (getModelEndpoints_unstreamed router.catalog profile path)) (by simp)
      | authKey | credits =>
        cases arrives
        exact .replied _ (jsonReply_unstreamed _ _) (by simp)

/-- The turn of a request that is in flight. -/
inductive InFlight : RouterAction G → Nat → Flight → Turn → Prop
  | answer (number : Nat) (outcomes : Nat → Option UpstreamResponse) (completedAt : Nat) (flight : Flight)
    (turn : Turn) (answers : router.answer outcomes completedAt flight = some turn) :
    InFlight (.answer number outcomes completedAt) number flight turn
  | source (number : Nat) (item : Option (Except Unit (List UInt8))) (arrivedAt completedAt : Nat) (flight : Flight)
    (turn : Turn) (flows : router.source item arrivedAt completedAt flight = some turn) :
    InFlight (.source number item arrivedAt completedAt) number flight turn
  | abandon (number : Nat) (timedOut : Bool) (flight : Flight) :
    InFlight (.abandon number timedOut) number flight (abandon timedOut flight)

/-- The steps of the service. -/
inductive Stepped : RouterAction G → List (Nat × RequestEvent) → RouterState G → Prop
  | arrived (number : Nat) (draw : G) (now : Nat) (request : Request) (turn : Turn) (routing : RoutingPolicy G)
    (fresh : number ∉ state.arrived) (arrives : router.arrive state draw now request = .ok (turn,routing)) :
    Stepped (.arrive number draw now request) (turn.events.map (Prod.mk number))
      ((state.welcome number routing).take number turn).2
  | turned (action : RouterAction G) (number : Nat) (flight : Flight) (turn : Turn)
    (held : state.flights number = some flight) (turns : router.InFlight action number flight turn) :
    Stepped action (turn.events.map (Prod.mk number)) (state.take number turn).2
  | fetched (number : Nat) (contact : Contact) (profile : RoutingProfile) (id : String)
    (held : state.flights number = some (.lookup profile id)) :
    Stepped (.fetch number contact) [(number,.replied (lookupReply router.timestampText router.publicProviderNames
        (fetched state.table profile id contact)))]
      ((state.due ((fetched state.table profile id contact).map (fun _ => ()))).take number
        ⟨[.replied (lookupReply router.timestampText router.publicProviderNames
          (fetched state.table profile id contact))],none⟩).2
  | inserted (write : GenerationWrite) (now : Nat) (pending : write ∈ state.inserts) :
    Stepped (.insert write now .answered) [] { (state.execute now write).due (inserted state.table now write) with
      inserts := state.inserts.erase write }
  | lost (write : GenerationWrite) (now : Nat) (pending : write ∈ state.inserts) :
    Stepped (.insert write now .lost) [] { state.due (.error "insert_generation") with
      inserts := state.inserts.erase write, stray := write :: state.stray }
  | executed (write : GenerationWrite) (now : Nat) (strayed : write ∈ state.stray) :
    Stepped (.late write now) [] { state.execute now write with stray := state.stray.erase write }
  | reported (result : Except String Unit) (supervision : Supervision) (reportable : result ∈ state.reports)
    (stepped : state.supervision.step router.backoff (.report result) = .ok ((),supervision)) :
    Stepped (.database (.report result)) [] { state with
      reports := state.reports.erase result, supervision := supervision }
  | supervised (action : SupervisionAction) (supervision : Supervision) (own : ∀ result, action ≠ .report result)
    (stepped : state.supervision.step router.backoff action = .ok ((),supervision)) :
    Stepped (.database action) [] { state with supervision := supervision }

theorem act_success (turns : Flight → Option Turn) (number : Nat) (result : List (Nat × RequestEvent) × RouterState G) :
    state.act number turns = .ok result ↔
      ∃ flight turn, state.flights number = some flight ∧ turns flight = some turn ∧ state.take number turn = result := by
  unfold RouterState.act
  constructor
  · intro stepped
    split at stepped
    · cases stepped
    · rename_i turn turned
      obtain ⟨flight,held,acts⟩ := Option.bind_eq_some_iff.mp turned
      exact ⟨flight,turn,held,acts,Except.ok.inj stepped⟩
  · rintro ⟨flight,turn,held,acts,rfl⟩
    rw [held,Option.bind_some,acts]

theorem supervise_success (action : SupervisionAction) (result : List (Nat × RequestEvent) × RouterState G) :
    router.supervise state action = .ok result ↔ ∃ supervision,
      state.supervision.step router.backoff action = .ok ((),supervision) ∧
        ([],{ state with supervision := supervision }) = result := by
  unfold supervise
  constructor
  · intro stepped
    split at stepped
    · cases stepped
    · rename_i supervision supervised
      exact ⟨supervision,supervised,Except.ok.inj stepped⟩
  · rintro ⟨supervision,supervised,rfl⟩
    rw [supervised]

theorem step_success (action : RouterAction G) (output : List (Nat × RequestEvent)) (next : RouterState G) :
    router.step state action = .ok (output,next) ↔ router.Stepped state action output next := by
  constructor
  · intro stepped
    cases action with
    | arrive number draw now request =>
      rw [step] at stepped
      split at stepped
      · cases stepped
      rename_i fresh
      split at stepped
      · cases stepped
      rename_i turn routing arrives
      cases stepped
      exact .arrived number draw now request turn routing fresh arrives
    | answer number outcomes completedAt =>
      obtain ⟨flight,turn,held,answers,taken⟩ := (act_success state _ number _).mp stepped
      cases taken
      exact .turned _ number flight turn held (.answer number outcomes completedAt flight turn answers)
    | source number item arrivedAt completedAt =>
      obtain ⟨flight,turn,held,flows,taken⟩ := (act_success state _ number _).mp stepped
      cases taken
      exact .turned _ number flight turn held (.source number item arrivedAt completedAt flight turn flows)
    | abandon number timedOut =>
      obtain ⟨flight,turn,held,abandons,taken⟩ := (act_success state _ number _).mp stepped
      cases taken
      cases abandons
      exact .turned _ number flight _ held (.abandon number timedOut flight)
    | fetch number contact =>
      rw [step] at stepped
      split at stepped
      · rename_i profile id held
        cases stepped
        exact .fetched number contact profile id held
      · cases stepped
    | insert write now contact =>
      cases contact with
      | answered =>
        rw [step] at stepped
        split at stepped
        · rename_i pending
          cases stepped
          exact .inserted write now pending
        · cases stepped
      | lost =>
        rw [step] at stepped
        split at stepped
        · rename_i pending
          cases stepped
          exact .lost write now pending
        · cases stepped
    | late write now =>
      rw [step] at stepped
      split at stepped
      · rename_i strayed
        cases stepped
        exact .executed write now strayed
      · cases stepped
    | database action =>
      cases action with
      | report reported =>
        rw [step] at stepped
        split at stepped
        · rename_i reportable
          obtain ⟨supervision,supervised,same⟩ := (supervise_success router _ _ _).mp stepped
          cases same
          exact .reported reported supervision reportable supervised
        · cases stepped
      | _ =>
        obtain ⟨supervision,supervised,same⟩ := (supervise_success router state _ _).mp stepped
        cases same
        exact .supervised _ supervision (by simp) supervised
  · intro stepped
    cases stepped with
    | arrived number draw now request turn routing fresh arrives =>
      rw [step,if_neg fresh,arrives]
      rfl
    | turned _ number flight turn held turns =>
      cases turns with
      | answer _ outcomes completedAt _ _ answers =>
        exact (act_success state _ number _).mpr ⟨flight,turn,held,answers,rfl⟩
      | source _ item arrivedAt completedAt _ _ flows =>
        exact (act_success state _ number _).mpr ⟨flight,turn,held,flows,rfl⟩
      | abandon timedOut => exact (act_success state _ number _).mpr ⟨flight,_,held,rfl,rfl⟩
    | fetched number contact profile id held =>
      rw [step,held]
      rfl
    | inserted write now pending =>
      rw [step,if_pos pending]
      rfl
    | lost write now pending =>
      rw [step,if_pos pending]
      rfl
    | executed write now strayed => rw [step,if_pos strayed]
    | reported reported supervision reportable supervised =>
      rw [step,if_pos reportable]
      exact (supervise_success router _ _ _).mpr ⟨supervision,supervised,rfl⟩
    | supervised action supervision own supervised =>
      cases action with
      | report reported => exact absurd rfl (own reported)
      | _ => exact (supervise_success router state _ _).mpr ⟨supervision,supervised,rfl⟩

end Router

end SerenRouter
