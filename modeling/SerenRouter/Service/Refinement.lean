import SerenRouter.Service.Steps
import SerenRouter.Settlement

/-! The components of the service. The routing policy and the database supervisor see a run of
the service as a run of their own, so that what holds in their runs holds in the service. -/
namespace SerenRouter
open Kernel Kernel.Json

/-- The observation that a recorded generation makes. -/
def Recording.operation {G : Type} (recording : Recording) : Option (Operation G) :=
  recording.observation.map (fun observation =>
    .observeFor recording.profile recording.providerId recording.canonicalSlug observation)

namespace RoutingPolicy
variable {G : Type} (arithmetic : Decimal.Arithmetic) (randomness : Randomness G)

theorem run_record (routing : RoutingPolicy G) (recorded : List Recording) :
    ∃ answers, routing.run arithmetic randomness (recorded.filterMap Recording.operation) =
      .ok (answers,recorded.foldl record routing) := by
  induction recorded generalizing routing with
  | nil => exact ⟨[],rfl⟩
  | cons recording recorded ih =>
    obtain ⟨answers,ran⟩ := ih (routing.record recording)
    rw [List.filterMap_cons,List.foldl_cons]
    cases observed : recording.observation with
    | none =>
      have same : routing.record recording = routing := by rw [record,observed]
      rw [same] at ran ⊢
      simp only [Recording.operation,observed,Option.map_none]
      exact ⟨answers,ran⟩
    | some observation =>
      simp only [Recording.operation,observed,Option.map_some]
      have stepped := step_observe arithmetic randomness routing recording.profile recording.providerId
        recording.canonicalSlug observation
      have same : routing.record recording = { routing with measurements := (routing.measurements.observeFor
          recording.profile recording.providerId recording.canonicalSlug observation).2 } := by rw [record,observed]
      rw [← same] at stepped
      exact ⟨_,(Runs.run_cons _ _ _ _ _ _).mpr ⟨_,_,answers,stepped,ran,rfl⟩⟩

end RoutingPolicy

namespace Router
variable {G : Type} (router : Router G)

/-- The route call that a request causes: one, when it is an authorized completion with a JSON body. -/
def routed (draw : G) (request : Request) : List (Operation G) :=
  match request.target, router.auth.authorize request.headers with
  | .guarded (.completions endpoint body), some profile =>
    (router.codec.fromSlice body).toList.map (.routeForEndpoint draw profile endpoint)
  | _, _ => []

/-- What a step of the service is to the routing policy: the route call of an arrival, or the observations of
the recorded generations. -/
def operations (action : RouterAction G) (output : List (Nat × RequestEvent)) : List (Operation G) :=
  (match action with
    | .arrive _ draw _ request => router.routed draw request
    | _ => []) ++ (recordings (output.map Prod.snd)).filterMap Recording.operation

/-- What a step of the service is to the supervisor. -/
def supervisions (action : RouterAction G) : List SupervisionAction :=
  match action with
  | .database action => [action]
  | _ => []

theorem events_tagged (number : Nat) (events : List RequestEvent) :
    (events.map (Prod.mk number)).map Prod.snd = events := by
  rw [List.map_map]
  exact List.map_id events

theorem routed_completion (draw : G) (request : Request) (profile : RoutingProfile) (endpoint : CompletionEndpoint)
    (body : List UInt8) (authorized : router.auth.authorize request.headers = some profile)
    (asked : request.target = .guarded (.completions endpoint body)) : router.routed draw request =
      (router.codec.fromSlice body).toList.map (.routeForEndpoint draw profile endpoint) := by
  rw [routed,asked,authorized]

theorem routed_other (draw : G) (request : Request) (other : ∀ profile endpoint body,
      router.auth.authorize request.headers = some profile → request.target ≠ .guarded (.completions endpoint body)) :
    router.routed draw request = [] := by
  unfold routed
  split
  · rename_i endpoint body profile asked authorized
    exact absurd asked (other profile endpoint body authorized)
  · rfl

theorem run_route (routing after : RoutingPolicy G) (draw : G) (profile : RoutingProfile)
    (endpoint : CompletionEndpoint) (value left : Value) (decided : Except RouteRequestError RouteDecision)
    (called : (routing.withDraw draw).routeForEndpoint router.arithmetic router.randomness profile endpoint value =
      .ok ((decided,left),after)) :
    routing.run router.arithmetic router.randomness [.routeForEndpoint draw profile endpoint value] =
      .ok ([(.routeForEndpoint draw profile endpoint value,.routed decided left)],after) := by
  have stepped : RoutingPolicy.step router.arithmetic router.randomness routing
      (.routeForEndpoint draw profile endpoint value) = .ok (.routed decided left,after) := by
    rw [RoutingPolicy.step,called]
    rfl
  exact (Runs.run_cons _ _ _ _ _ _).mpr ⟨_,_,[],stepped,rfl,rfl⟩

/-- A request that arrives makes its route call and records nothing yet. -/
theorem arrive_routes (state : RouterState G) (draw : G) (now : Nat) (request : Request) (turn : Turn)
    (next : RoutingPolicy G) (arrives : router.arrive state draw now request = .ok (turn,next)) :
    recordings turn.events = [] ∧ ∃ answers, state.routing.run router.arithmetic router.randomness
      (router.routed draw request) = .ok (answers,next) := by
  cases router.arrive_success state draw now request turn next arrives with
  | replied reply _ other =>
    rw [router.routed_other draw request other]
    exact ⟨rfl,[],rfl⟩
  | malformed profile endpoint body authorized asked unread =>
    rw [router.routed_completion draw request profile endpoint body authorized asked,unread]
    exact ⟨rfl,[],rfl⟩
  | refused profile endpoint body value left error after authorized asked parsed called
  | planned profile endpoint body value left decision after authorized asked parsed called =>
    rw [router.routed_completion draw request profile endpoint body authorized asked,parsed]
    exact ⟨rfl,_,router.run_route state.routing _ draw profile endpoint value left _ called⟩
  | lookup profile query id authorized asked requested =>
    rw [router.routed_other draw request (by simp [asked])]
    exact ⟨rfl,[],rfl⟩
  | probing asked =>
    rw [router.routed_other draw request (by simp [asked])]
    exact ⟨rfl,[],rfl⟩

theorem step_routes (state : RouterState G) (action : RouterAction G) (output : List (Nat × RequestEvent))
    (next : RouterState G) (stepped : router.step state action = .ok (output,next)) :
    ∃ answers, state.routing.run router.arithmetic router.randomness (router.operations action output) =
      .ok (answers,next.routing) := by
  cases (router.step_success state action output next).mp stepped with
  | arrived number draw now request turn routing fresh arrives =>
    obtain ⟨silent,answers,ran⟩ := router.arrive_routes state draw now request turn routing arrives
    refine ⟨answers,?_⟩
    rw [RouterState.take_routing,operations,events_tagged,silent,List.filterMap_nil,List.append_nil]
    exact ran
  | turned _ number flight turn held turns =>
    obtain ⟨answers,ran⟩ := RoutingPolicy.run_record router.arithmetic router.randomness state.routing
      (recordings turn.events)
    have image : router.operations action (turn.events.map (Prod.mk number)) =
        (recordings turn.events).filterMap Recording.operation := by
      cases turns <;> simp only [operations,events_tagged,List.nil_append]
    refine ⟨answers,?_⟩
    rw [RouterState.take_routing,image]
    exact ran
  | fetched number contact profile id held =>
    refine ⟨[],?_⟩
    rw [RouterState.take_routing]
    rfl
  | inserted | lost | executed | reported | supervised => exact ⟨[],rfl⟩

theorem step_supervises (state : RouterState G) (action : RouterAction G) (output : List (Nat × RequestEvent))
    (next : RouterState G) (stepped : router.step state action = .ok (output,next)) :
    ∃ answers, Runs.run (Supervision.step router.backoff) state.supervision (supervisions action) =
      .ok (answers,next.supervision) := by
  have once (action : SupervisionAction) (after : Supervision)
      (supervised : state.supervision.step router.backoff action = .ok ((),after)) :
      ∃ answers, Runs.run (Supervision.step router.backoff) state.supervision [action] = .ok (answers,after) :=
    ⟨_,(Runs.run_cons _ _ _ _ _ _).mpr ⟨(),after,[],supervised,rfl,rfl⟩⟩
  cases (router.step_success state action output next).mp stepped with
  | reported reported supervision _ supervised => exact once _ supervision supervised
  | supervised action supervision _ supervised => exact once action supervision supervised
  | turned _ number flight turn held turns =>
    rw [RouterState.take_supervision]
    cases turns <;> exact ⟨[],rfl⟩
  | arrived | fetched =>
    rw [RouterState.take_supervision]
    exact ⟨[],rfl⟩
  | inserted | lost | executed => exact ⟨[],rfl⟩

/-- The policy stays sound, and a sound policy lets no arrival panic. -/
theorem run_sound (state final : RouterState G) (sound : RoutingPolicy.Sound router.arithmetic state.routing)
    (actions : List (RouterAction G)) (trace : List (RouterAction G × List (Nat × RequestEvent)))
    (ran : router.run state actions = .ok (trace,final)) : RoutingPolicy.Sound router.arithmetic final.routing := by
  apply Runs.run_preserves router.step (fun state => RoutingPolicy.Sound router.arithmetic state.routing) _ state actions
    trace final sound ran
  intro state action output next sound stepped
  obtain ⟨answers,routes⟩ := router.step_routes state action output next stepped
  obtain ⟨_,_,same,kept⟩ := Runs.run_total _ _ (RoutingPolicy.step_total router.arithmetic router.randomness) state.routing
    (router.operations action output) sound
  have equal := same.symm.trans routes
  cases equal
  exact kept

theorem complete_total (profile : RoutingProfile) (endpoint : CompletionEndpoint) (body : List UInt8) (draw : G)
    (now : Nat) (routing : RoutingPolicy G) (sound : RoutingPolicy.Sound router.arithmetic routing) :
    ∃ result, router.complete profile endpoint body draw now routing = .ok result := by
  unfold complete
  cases router.codec.fromSlice body with
  | none => exact ⟨_,rfl⟩
  | some request =>
    obtain ⟨⟨decided,left⟩,next,called,_⟩ := RoutingPolicy.routeForEndpoint_total router.arithmetic router.randomness
      (routing.withDraw draw) (sound.withDraw router.arithmetic routing draw) profile endpoint request
    simp only [called,ok_bind]
    cases decided <;> exact ⟨_,rfl⟩

theorem arrive_total (state : RouterState G) (sound : RoutingPolicy.Sound router.arithmetic state.routing) (draw : G)
    (now : Nat) (request : Request) : ∃ result, router.arrive state draw now request = .ok result := by
  obtain ⟨headers,target⟩ := request
  unfold arrive
  cases target with
  | guarded target =>
    dsimp only
    cases router.auth.authorize headers with
    | none => exact ⟨_,rfl⟩
    | some profile =>
      cases target with
      | completions endpoint body => exact router.complete_total profile endpoint body draw now state.routing sound
      | generation query =>
        dsimp only [serve]
        cases requestedId query <;> exact ⟨_,rfl⟩
      | _ => exact ⟨_,rfl⟩
  | _ => exact ⟨_,rfl⟩

theorem step_unpanicked (state : RouterState G) (sound : RoutingPolicy.Sound router.arithmetic state.routing)
    (action : RouterAction G) (panic : Panic) : router.step state action ≠ .error (.panicked panic) := by
  intro panicked
  cases action with
  | arrive number draw now request =>
    obtain ⟨result,arrives⟩ := router.arrive_total state sound draw now request
    rw [step,arrives] at panicked
    split at panicked <;> cases panicked
  | answer | source | abandon =>
    rw [step,RouterState.act] at panicked
    split at panicked <;> cases panicked
  | fetch | late =>
    rw [step] at panicked
    split at panicked <;> cases panicked
  | insert write now contact =>
    cases contact <;>
      · rw [step] at panicked
        split at panicked <;> cases panicked
  | database action =>
    have supervised (state : RouterState G) : router.supervise state action ≠ .error (.panicked panic) := by
      intro panicked
      rw [supervise] at panicked
      split at panicked <;> cases panicked
    cases action with
    | report result =>
      rw [step] at panicked
      split at panicked
      · exact supervised _ panicked
      · cases panicked
    | _ => exact supervised state panicked

theorem step_supervise (state : RouterState G) (next : Supervision)
    (advanced : state.supervision.advance router.backoff = .ok next) :
    router.step state (.database .supervise) = .ok ([],{ state with supervision := next }) := by
  apply (router.supervise_success state .supervise _).mpr
  exact ⟨next,by rw [Supervision.step,advanced]; rfl,rfl⟩

end Router

/-- In every run of the service the routing policy makes a run of its own out of the route calls and the observations
that the service causes, and the supervisor one out of the steps that are its own. No action panics, and a supervisor
past its status check with the database not ready and no report under way gets back to the recovery by itself. -/
theorem service_runs_components {G : Type} (router : Router G) (registry : Registry) (config : RoutingConfig) (rng : G)
    (policy : RoutingPolicy G)
    (built : RoutingPolicy.fromRegistryWithRng router.arithmetic registry config .empty rng = .ok policy)
    (earlier : List (Nat × GenerationWrite)) (actions : List (RouterAction G))
    (trace : List (RouterAction G × List (Nat × RequestEvent))) (final : RouterState G)
    (ran : router.run (router.start policy earlier) actions = .ok (trace,final)) :
    (∃ answers, policy.run router.arithmetic router.randomness
      (trace.flatMap (fun entry => router.operations entry.1 entry.2)) = .ok (answers,final.routing)) ∧
    (∃ answers, Runs.run (Supervision.step router.backoff) (.start router.backoff .starting)
      (trace.flatMap (fun entry => Router.supervisions entry.1)) = .ok (answers,final.supervision)) ∧
    (∀ action panic, router.step final action ≠ .error (.panicked panic)) ∧
    (final.supervision.phase.PastCheck → final.supervision.health.status ≠ .ready → final.supervision.reporting = 0 →
      ∃ middle next, router.step final (.database .supervise) = .ok ([],middle) ∧
        router.step middle (.database .supervise) = .ok ([],next) ∧ next.supervision.phase = .recovering) := by
  have supervised := Runs.run_refines router.step (Supervision.step router.backoff) RouterState.supervision
    (fun action _ => Router.supervisions action) router.step_supervises _ actions trace final ran
  refine ⟨?_,supervised,?_,?_⟩
  · exact Runs.run_refines router.step (RoutingPolicy.step router.arithmetic router.randomness) RouterState.routing
      router.operations router.step_routes _ actions trace final ran
  · have sound := RoutingPolicy.fromRegistry_sound router.arithmetic registry config rng policy built
    exact router.step_unpanicked final (router.run_sound _ final sound actions trace ran)
  · intro past failing announced
    obtain ⟨answers,alone⟩ := supervised
    obtain ⟨middle,next,first,second,recovering⟩ := Supervision.run_goes_on alone past failing announced
    exact ⟨_,_,router.step_supervise final middle first,router.step_supervise _ next second,recovering⟩

section Sample

def sampleAuth : GatewayAuth := (GatewayAuth.new (utf8 "p")).withBetaKey (utf8 "b")

def sampleRouter (table : PriceTable) (catalog : Catalog) : Router Unit where
  codec := JsonText.codec
  arithmetic := Decimal.exact
  randomness := firstIndex
  timestampText := fun _ => "2025-01-01T00:00:00Z"
  backoff := recoveryBackoff
  auth := sampleAuth
  proxy := ⟨table,publicProviderAliases sampleRegistry⟩
  catalog := catalog
  publicProviderNames := publicProviderNames sampleRegistry

def sampleArrival (number : Nat) (credential : String) (target : ProtectedTarget) : RouterAction Unit :=
  .arrive number () 0 ⟨⟨[(authorizationHeader,utf8 ("Bearer " ++ credential))]⟩,.guarded target⟩

def sampleBody : List UInt8 := utf8 "\x7b\"model\":\"vendor/sole\"\x7d"

/-- A completion of the production profile that is answered and recorded. -/
def sampleCompletion (number : Nat) : List (RouterAction Unit) :=
  [sampleArrival number "p" (.completions .chat sampleBody),.answer number (fun _ => some sampleResponse) 5]

theorem sampleRow_fits : 20000 < 2^96 := by decide
theorem sampleRow_bounded : 10 ≤ 28 := by decide

def sampleRow : GenerationWrite :=
  ⟨"g",.production,"vendor/sole","alpha",2,0,⟨false,20000,10,sampleRow_fits,sampleRow_bounded⟩,0,200⟩

/-- A run of the service over the sample registry, as an observer sees it. -/
def observeSample {α : Type} (actions : List (RouterAction Unit))
    (observe : List (RouterAction Unit × List (Nat × RequestEvent)) → RouterState Unit → α) : Option α :=
  (RoutingPolicy.fromRegistryWithRng Decimal.exact sampleRegistry sampleConfig .empty ()).toOption.bind (fun policy =>
    (PriceTable.fromRegistry sampleRegistry).toOption.bind (fun table =>
      (Catalog.fromRegistry Decimal.exact sampleRegistry).toOption.bind (fun catalog =>
        ((sampleRouter table catalog).run ((sampleRouter table catalog).start policy []) actions).toOption.map
          (fun ran => observe ran.1 ran.2))))

/-- A run of the service over the sample registry. -/
structure SampleRun (actions : List (RouterAction Unit)) (policy : RoutingPolicy Unit) (table : PriceTable)
    (catalog : Catalog) (trace : List (RouterAction Unit × List (Nat × RequestEvent))) (final : RouterState Unit) :
    Prop where
  built : RoutingPolicy.fromRegistryWithRng Decimal.exact sampleRegistry sampleConfig .empty () = .ok policy
  accepted : PriceTable.fromRegistry sampleRegistry = .ok table
  ran : (sampleRouter table catalog).run ((sampleRouter table catalog).start policy []) actions = .ok (trace,final)

theorem observeSample_success {α : Type} (actions : List (RouterAction Unit))
    (observe : List (RouterAction Unit × List (Nat × RequestEvent)) → RouterState Unit → α) (seen : α)
    (observed : observeSample actions observe = some seen) :
    ∃ policy table catalog trace final, SampleRun actions policy table catalog trace final ∧ observe trace final = seen := by
  obtain ⟨policy,built,observed⟩ := Option.bind_eq_some_iff.mp observed
  obtain ⟨table,accepted,observed⟩ := Option.bind_eq_some_iff.mp observed
  obtain ⟨catalog,_,observed⟩ := Option.bind_eq_some_iff.mp observed
  obtain ⟨⟨trace,final⟩,ran,equal⟩ := Option.map_eq_some_iff.mp observed
  exact ⟨policy,table,catalog,trace,final,⟨(toOption_some _ _).mp built,(toOption_some _ _).mp accepted,
    (toOption_some _ _).mp ran⟩,equal⟩

/-- The database is ready and the supervisor waits when an insert times out, which is reported. -/
def sampleOutage : List (RouterAction Unit) :=
  sampleCompletion 0 ++ [.database (.recover (.ok ())),.database .supervise,.database .supervise,.database .supervise,
    .insert sampleRow 9 .lost,.database (.report (.error "insert_generation")),.database .notify]

end Sample

theorem service_runs_components_sample :
    ∃ policy table catalog trace final, SampleRun sampleOutage policy table catalog trace final ∧
      final.supervision.phase = .waiting ∧
      (∃ answers, policy.run Decimal.exact firstIndex
        (trace.flatMap (fun entry => (sampleRouter table catalog).operations entry.1 entry.2)) =
          .ok (answers,final.routing)) ∧
      ∃ middle next, (sampleRouter table catalog).step final (.database .supervise) = .ok ([],middle) ∧
        (sampleRouter table catalog).step middle (.database .supervise) = .ok ([],next) ∧
        next.supervision.phase = .recovering := by
  obtain ⟨policy,table,catalog,trace,final,sampled,seen⟩ := observeSample_success sampleOutage
    (fun _ final => (final.supervision.phase,final.supervision.health.status,final.supervision.reporting))
    (.waiting,.degraded,0) (by decide +kernel)
  simp only [Prod.mk.injEq] at seen
  obtain ⟨waiting,degraded,announced⟩ := seen
  obtain ⟨routed,_,_,recovers⟩ := service_runs_components (sampleRouter table catalog) sampleRegistry sampleConfig ()
    policy sampled.built [] sampleOutage trace final sampled.ran
  exact ⟨policy,table,catalog,trace,final,sampled,waiting,routed,
    recovers (.inr waiting) (by rw [degraded]; decide) announced⟩

end SerenRouter
