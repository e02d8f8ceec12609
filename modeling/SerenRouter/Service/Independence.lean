import SerenRouter.Service.Conversation
import SerenRouter.Policy.Isolation

/-! Independence of the requests about some keys: their clients are told the same when everything else is deleted
from a run of the service, the requests about other keys, the lookups and the database included. -/
namespace SerenRouter
open Kernel Kernel.Json

namespace RoutingPolicy
variable {G : Type} (keep : RouteKey → Prop) (left right : RoutingPolicy G) (agree : AgreeOn keep left right)
include agree

theorem record_unobserved (recording : Recording) (other : ¬ keep (recording.profile,recording.canonicalSlug)) :
    AgreeOn keep (left.record recording) right := by
  unfold record
  split
  · exact agree
  · rename_i observation _
    exact ⟨agree.routes,agree.config,agree.shares,observe_unobserved keep left right agree recording.profile
      recording.providerId recording.canonicalSlug observation other⟩

theorem record_observed (recording : Recording) : AgreeOn keep (left.record recording) (right.record recording) := by
  unfold record
  split
  · exact agree
  · rename_i observation _
    exact ⟨agree.routes,agree.config,agree.shares,observe_observed keep left right agree recording.profile
      recording.providerId recording.canonicalSlug observation⟩

omit agree in
theorem recordAll_unobserved (recorded : List Recording)
    (other : ∀ recording ∈ recorded, ¬ keep (recording.profile,recording.canonicalSlug))
    (left : RoutingPolicy G) (agree : AgreeOn keep left right) : AgreeOn keep (recorded.foldl record left) right := by
  induction recorded generalizing left with
  | nil => exact agree
  | cons recording recorded ih =>
    obtain ⟨first,others⟩ := List.forall_mem_cons.mp other
    exact ih others _ (record_unobserved keep left right agree recording first)

omit agree in
theorem recordAll_observed (recorded : List Recording) (left right : RoutingPolicy G)
    (agree : AgreeOn keep left right) : AgreeOn keep (recorded.foldl record left) (recorded.foldl record right) := by
  induction recorded generalizing left right with
  | nil => exact agree
  | cons recording recorded ih => exact ih _ _ (record_observed keep left right agree recording)

end RoutingPolicy

/-- What an item of a source leaves and settles keeps the key of its generation. -/
theorem sourceItem_keyed {E : Type} (codec : Codec) (arithmetic : Decimal.Arithmetic) (arrivedAt completedAt : Nat)
    (transformer : UsageCostTransformer) (generation : Option GenerationContext)
    (item : Option (Except E (List UInt8))) (fetched : Fetched E) (good : RouteKey → Prop)
    (keyed : ∀ context ∈ generation, good (context.profile,context.canonicalSlug))
    (ran : sourceItem codec arithmetic arrivedAt completedAt transformer generation item = .ok fetched) :
    (∀ context ∈ fetched.generation, good (context.profile,context.canonicalSlug)) ∧
      ∀ recording ∈ recordings (fetched.settled.map Settlement.event), good (recording.profile,recording.canonicalSlug) := by
  have told (context : GenerationContext) (costed : CostedUsage)
      (fits : good (context.profile,context.canonicalSlug)) :
      ∀ recording ∈ recordings [(Settlement.recorded context costed completedAt).event],
        good (recording.profile,recording.canonicalSlug) := by
    intro recording member
    obtain rfl := List.mem_singleton.mp member
    exact fits
  cases item with
  | none =>
    rw [sourceItem,bind_success] at ran
    obtain ⟨⟨output,completed⟩,_,ran⟩ := ran
    cases generation with
    | none => cases completed <;> cases ran <;> exact ⟨by simp,by simp [recordings]⟩
    | some context =>
      cases completed with
      | none =>
        cases ran
        exact ⟨by simp,by simp [recordings,Settlement.event]⟩
      | some costed =>
        cases ran
        exact ⟨by simp,told context costed (keyed context rfl)⟩
  | some item =>
    cases item with
    | error error =>
      cases generation <;> cases ran <;> exact ⟨by simp,by simp [recordings,Settlement.event]⟩
    | ok chunk =>
      rw [sourceItem,bind_success] at ran
      obtain ⟨⟨next,output,completed⟩,_,ran⟩ := ran
      cases generation with
      | none =>
        simp only [Option.map_none,ite_self,settle_absent] at ran
        cases ran
        exact ⟨by simp,by simp [recordings]⟩
      | some context =>
        obtain ⟨later,fits,same⟩ : ∃ later, good (GenerationContext.profile later,later.canonicalSlug) ∧
            (if chunk.isEmpty then some context
              else (some context).map (fun generation => generation.observeFirstOutput arrivedAt)) = some later := by
          split
          · exact ⟨context,keyed context rfl,rfl⟩
          · exact ⟨context.observeFirstOutput arrivedAt,keyed context rfl,rfl⟩
        simp only [same] at ran
        cases completed with
        | none =>
          cases shut : next.closed <;> simp only [shut] at ran <;> cases ran
          · exact ⟨by simpa [settle] using fits,by simp [settle,recordings]⟩
          · exact ⟨by simp [settle],by simp [settle,recordings,Settlement.event]⟩
        | some costed =>
          simp only [Option.map_some,settle_some,Option.isNone_some,Bool.and_false,Bool.false_eq_true,if_false,settle_none]
            at ran
          cases ran
          exact ⟨by simp,told later costed fits⟩

namespace Router
variable {G : Type} (router : Router G) (keep : RouteKey → Bool)

/-- The key that a request is about: the profile of its credential and the model that it asks for. -/
def key (request : Request) : Option RouteKey :=
  match request.target with
  | .guarded (.completions _ body) => do
    let profile ← router.auth.authorize request.headers
    let value ← router.codec.fromSlice body
    let (reading,_) ← (readRequest router.arithmetic value).toOption
    return (profile,reading.parsed.canonicalModel)
  | _ => none

theorem asks_key (request : Request) (profile : RoutingProfile) (canonicalModel : String)
    (asks : router.Asks request profile canonicalModel) : router.key request = some (profile,canonicalModel) := by
  obtain ⟨endpoint,body,value,reading,rest,target,parsed,read,model⟩ := asks.asked
  rw [key,target]
  simp only [asks.authorized,parsed,read,model,Except.toOption,Option.bind_eq_bind,Option.bind_some]
  rfl

/-- A request in flight is about a kept key exactly when it is selected. -/
def Belongs (selected : Bool) : Flight → Prop
  | .awaiting profile _ decision _ _ => selected = keep (profile,decision.canonicalModel)
  | .streaming _ generation => ∀ context ∈ generation, selected = keep (context.profile,context.canonicalSlug)
  | .lookup .. | .probing .. => selected = false

theorem arrive_belongs (state : RouterState G) (draw : G) (now : Nat) (request : Request) (turn : Turn)
    (routing : RoutingPolicy G) (arrives : router.arrive state draw now request = .ok (turn,routing)) :
    ∀ flight ∈ turn.flight, Belongs keep ((router.key request).any keep) flight := by
  intro flight held
  have waits := router.arrive_waits request state draw now turn routing arrives flight held
  cases waits with
  | awaiting profile stream decision value startedAt asks =>
    rw [router.asks_key request profile decision.canonicalModel asks]
    rfl
  | lookup profile id query _ asked =>
    rw [key,asked]
    rfl
  | probing databaseStatus asked =>
    rw [key,asked]
    rfl

/-- A turn keeps a flight about its key, and records nothing about another one. -/
theorem inFlight_belongs (selected : Bool) (action : RouterAction G) (number : Nat) (flight : Flight) (turn : Turn)
    (belongs : Belongs keep selected flight) (turns : router.InFlight action number flight turn) :
    (∀ later ∈ turn.flight, Belongs keep selected later) ∧
      ∀ recording ∈ recordings turn.events, selected = keep (recording.profile,recording.canonicalSlug) := by
  cases turns with
  | answer _ outcomes completedAt _ _ answers =>
    cases flight with
    | awaiting profile stream decision request startedAt =>
      have answered := router.complete_answered profile stream decision startedAt completedAt request outcomes
      dsimp only [answer] at answers
      generalize catchPanic (SerenRouter.complete router.codec router.arithmetic router.proxy profile stream decision
        request outcomes startedAt completedAt) = replied at answers answered
      obtain ⟨reply,recorded⟩ := replied
      cases answers
      have kept : selected = keep (profile,decision.canonicalModel) := belongs
      dsimp only
      rw [recordings_append,recordings_recorded]
      cases answered with
      | plain unstreamed =>
        refine ⟨fun later held => ?_,by simp [recordings]⟩
        split at held
        · rename_i transformer generation body
          exact absurd body (unstreamed transformer generation)
        · cases held
      | opened generation prices profiled modelled priced body =>
        refine ⟨fun later held => ?_,by simp [recordings]⟩
        rw [body] at held
        cases held
        intro context same
        cases same
        rw [profiled,modelled]
        exact kept
      | delivered generation completedAt served prepared costed profiled modelled provided injected sends =>
        refine ⟨fun later held => ?_,fun recording member => ?_⟩
        · rw [sends] at held
          cases held
        · obtain rfl : recording = generation.recordAt costed.usage completedAt := by simpa [recordings] using member
          change selected = keep (generation.profile,generation.canonicalSlug)
          rw [profiled,modelled]
          exact kept
    | probing databaseStatus =>
      cases answers
      exact ⟨by simp,by simp [recordings]⟩
    | streaming | lookup => cases answers
  | source _ item arrivedAt completedAt _ _ flows =>
    cases flight with
    | streaming transformer generation =>
      rw [source] at flows
      cases ran : sourceItem router.codec router.arithmetic arrivedAt completedAt transformer generation item with
      | error panic =>
        rw [ran] at flows
        cases flows
        exact ⟨by simp,by simp [recordings]⟩
      | ok fetched =>
        rw [ran] at flows
        cases flows
        obtain ⟨left,told⟩ := sourceItem_keyed router.codec router.arithmetic arrivedAt completedAt transformer
          generation item fetched (fun key => selected = keep key) belongs ran
        constructor
        · intro later held
          obtain ⟨next,_,rfl⟩ := Option.map_eq_some_iff.mp held
          exact left
        · intro recording member
          rw [recordings_append] at member
          rcases List.mem_append.mp member with settled | yielded
          · exact told recording settled
          · split at yielded
            · split at yielded <;> simp [recordings] at yielded
            · split at yielded <;> simp [recordings] at yielded
            · simp [recordings] at yielded
    | awaiting | lookup | probing => cases flows
  | abandon _ timedOut =>
    constructor
    · intro later held
      cases flight <;> cases held
    · intro recording member
      cases flight <;> cases timedOut <;> cases member

theorem arrive_unobserved (state : RouterState G) (other : RoutingPolicy G)
    (agree : RoutingPolicy.AgreeOn (fun key => keep key = true) state.routing other) (draw : G) (now : Nat)
    (request : Request) (hidden : (router.key request).any keep = false) (turn : Turn) (routing : RoutingPolicy G)
    (arrives : router.arrive state draw now request = .ok (turn,routing)) :
    RoutingPolicy.AgreeOn (fun key => keep key = true) routing other := by
  cases router.arrive_success state draw now request turn routing arrives with
  | refused profile endpoint body value left _ after authorized asked parsed called
  | planned profile endpoint body value left _ after authorized asked parsed called =>
    have ran := router.run_route state.routing routing draw profile endpoint value left _ called
    obtain ⟨result,_,_,stepped,rest,_⟩ := (Runs.run_cons _ _ _ _ _ _).mp ran
    cases rest
    refine RoutingPolicy.step_unobserved router.arithmetic router.randomness _ state.routing other _ agree _ result
      ?_ stepped
    intro found about
    simp only [Operation.key] at about
    split at about
    · cases about
    · rename_i reading rest read
      cases about
      rw [router.asks_key _ profile reading.parsed.canonicalModel
        ⟨authorized,endpoint,body,value,reading,rest,asked,parsed,read,rfl⟩] at hidden
      simpa using hidden
  | replied | malformed | lookup | probing => exact agree

theorem arrive_observed (state other : RouterState G)
    (agree : RoutingPolicy.AgreeOn (fun key => keep key = true) state.routing other.routing) (draw : G) (now : Nat)
    (request : Request) (visible : (router.key request).any keep = true) (turn : Turn) (routing : RoutingPolicy G)
    (arrives : router.arrive state draw now request = .ok (turn,routing)) :
    ∃ otherRouting, router.arrive other draw now request = .ok (turn,otherRouting) ∧
      RoutingPolicy.AgreeOn (fun key => keep key = true) routing otherRouting := by
  obtain ⟨headers,target⟩ := request
  rw [Option.any_eq_true] at visible
  obtain ⟨found,about,kept⟩ := visible
  cases target with
  | hello | livez | readyz => cases about
  | guarded target =>
    cases target with
    | generation | models | endpoints | authKey | credits => cases about
    | completions endpoint body =>
      obtain ⟨profile,granted,about⟩ := Option.bind_eq_some_iff.mp about
      obtain ⟨value,parsed,about⟩ := Option.bind_eq_some_iff.mp about
      obtain ⟨⟨reading,rest⟩,read,about⟩ := Option.bind_eq_some_iff.mp about
      cases about
      rw [toOption_some] at read
      dsimp only at granted
      simp only [arrive,granted,serve,complete,parsed,bind_success] at arrives ⊢
      obtain ⟨⟨⟨decided,left⟩,after⟩,called,arrives⟩ := arrives
      obtain ⟨otherAfter,ended,still⟩ := RoutingPolicy.routeCase_observed router.arithmetic router.randomness _
        state.routing other.routing after agree draw profile endpoint value (decided,left)
        ((RoutingPolicy.routeForEndpoint_iff _ _ _ _ _ _ _ _).mp called) (by
          intro otherReading otherRest again
          rw [read] at again
          cases again
          exact kept)
      have otherCalled := (RoutingPolicy.routeForEndpoint_iff _ _ _ _ _ _ _ _).mpr ended
      cases decided with
      | error error =>
        cases arrives
        exact ⟨otherAfter,⟨_,otherCalled,rfl⟩,still⟩
      | ok decision =>
        cases arrives
        exact ⟨otherAfter,⟨_,otherCalled,rfl⟩,still⟩

/-- The requests of a run that are about a kept key. -/
def selects (actions : List (RouterAction G)) (number : Nat) : Bool :=
  actions.any (fun action => match action with
    | .arrive other _ _ request => decide (other = number) && (router.key request).any keep
    | _ => false)

/-- The action concerns a selected request. -/
def concerns (selected : Nat → Bool) : RouterAction G → Bool
  | .arrive number .. | .answer number .. | .source number .. | .abandon number _ => selected number
  | _ => false

/-- Every flight is about a kept key exactly when it is that of a selected request. -/
def Owned (selected : Nat → Bool) (state : RouterState G) : Prop :=
  ∀ number, ∀ flight ∈ state.flights number, Belongs keep (selected number) flight

/-- The numbers of the requests that arrive are selected by their keys. -/
def Selected (selected : Nat → Bool) (action : RouterAction G) : Prop :=
  ∀ number draw now request, action = .arrive number draw now request →
    selected number = (router.key request).any keep

/-- Two states that are the same to the selected requests. -/
structure Agree (selected : Nat → Bool) (state other : RouterState G) : Prop where
  routing : RoutingPolicy.AgreeOn (fun key => keep key = true) state.routing other.routing
  flights : ∀ number, selected number = true → state.flights number = other.flights number
  arrived : ∀ number, selected number = true → (number ∈ state.arrived ↔ number ∈ other.arrived)

section Steps
variable (selected : Nat → Bool) (state : RouterState G) (owned : Owned keep selected state)
include owned

theorem owned_take (before : RouterState G) (same : before.flights = state.flights) (number : Nat) (turn : Turn)
    (belongs : ∀ flight ∈ turn.flight, Belongs keep (selected number) flight) :
    Owned keep selected (before.take number turn).2 := by
  intro other flight held
  rw [RouterState.take_flights,same] at held
  by_cases here : other = number
  · subst here
    rw [Function.update_self] at held
    exact belongs flight held
  · rw [Function.update_of_ne here] at held
    exact owned other flight held

theorem step_owned (action : RouterAction G) (output : List (Nat × RequestEvent)) (next : RouterState G)
    (allowed : router.Selected keep selected action) (stepped : router.step state action = .ok (output,next)) :
    Owned keep selected next := by
  cases (router.step_success state action output next).mp stepped with
  | arrived number draw now request turn routing fresh arrives =>
    refine owned_take keep selected state owned (state.welcome number routing) rfl number turn ?_
    rw [allowed number draw now request rfl]
    exact router.arrive_belongs keep state draw now request turn routing arrives
  | turned _ number flight turn held turns =>
    exact owned_take keep selected state owned state rfl number turn
      (router.inFlight_belongs keep _ action number flight turn (owned number flight held) turns).1
  | fetched number contact profile id held =>
    exact owned_take keep selected state owned (state.due _) rfl number _ (by simp)
  | inserted | lost | executed | reported | supervised => exact owned

end Steps

section Agreement
variable (selected : Nat → Bool) (state other : RouterState G) (owned : Owned keep selected state)
  (agree : Agree keep selected state other)
include owned agree

theorem step_hidden (action : RouterAction G) (output : List (Nat × RequestEvent)) (next : RouterState G)
    (allowed : router.Selected keep selected action) (hidden : concerns selected action = false)
    (stepped : router.step state action = .ok (output,next)) : Agree keep selected next other := by
  have elsewhere (number : Nat) (unselected : selected number = false) (turn : Turn) (one : Nat)
      (chosen : selected one = true) : Function.update state.flights number turn.flight one = other.flights one := by
    have different : one ≠ number := fun same => by rw [same,unselected] at chosen; cases chosen
    rw [Function.update_of_ne different]
    exact agree.flights one chosen
  cases (router.step_success state action output next).mp stepped with
  | arrived number draw now request turn routing fresh arrives =>
    have unselected : selected number = false := hidden
    have quiet := (router.arrive_routes state draw now request turn routing arrives).1
    refine ⟨?_,?_,?_⟩
    · rw [RouterState.take_routing,quiet]
      exact router.arrive_unobserved keep state other.routing agree.routing draw now request
        (allowed number draw now request rfl ▸ unselected) turn routing arrives
    · intro one chosen
      rw [RouterState.take_flights]
      exact elsewhere number unselected turn one chosen
    · intro one chosen
      have different : one ≠ number := fun same => by rw [same,unselected] at chosen; cases chosen
      rw [RouterState.take_arrived,RouterState.welcome,List.mem_cons,or_iff_right different]
      exact agree.arrived one chosen
  | turned _ number flight turn held turns =>
    have unselected : selected number = false := by cases turns <;> exact hidden
    have belongs := router.inFlight_belongs keep _ action number flight turn (owned number flight held) turns
    refine ⟨?_,?_,?_⟩
    · rw [RouterState.take_routing]
      refine RoutingPolicy.recordAll_unobserved _ other.routing _ ?_ state.routing agree.routing
      intro recording member kept
      rw [← belongs.2 recording member,unselected] at kept
      cases kept
    · intro one chosen
      rw [RouterState.take_flights]
      exact elsewhere number unselected turn one chosen
    · intro one chosen
      rw [RouterState.take_arrived]
      exact agree.arrived one chosen
  | fetched number contact profile id held =>
    have unselected : selected number = false := owned number _ held
    refine ⟨?_,?_,?_⟩
    · rw [RouterState.take_routing]
      exact agree.routing
    · intro one chosen
      rw [RouterState.take_flights]
      exact elsewhere number unselected _ one chosen
    · intro one chosen
      rw [RouterState.take_arrived]
      exact agree.arrived one chosen
  | inserted | lost | executed | reported | supervised => exact ⟨agree.routing,agree.flights,agree.arrived⟩

omit owned in
/-- A step of a selected request says the same in both states. -/
theorem step_visible (action : RouterAction G) (output : List (Nat × RequestEvent)) (next : RouterState G)
    (allowed : router.Selected keep selected action) (visible : concerns selected action = true)
    (stepped : router.step state action = .ok (output,next)) :
    ∃ otherNext, router.step other action = .ok (output,otherNext) ∧ Agree keep selected next otherNext := by
  have together (number : Nat) (flight : Option Flight) (one : Nat) (chosen : selected one = true) :
      Function.update state.flights number flight one = Function.update other.flights number flight one := by
    by_cases here : one = number
    · rw [here,Function.update_self,Function.update_self]
    · rw [Function.update_of_ne here,Function.update_of_ne here]
      exact agree.flights one chosen
  cases (router.step_success state action output next).mp stepped with
  | arrived number draw now request turn routing fresh arrives =>
    have chosen : selected number = true := visible
    have quiet := (router.arrive_routes state draw now request turn routing arrives).1
    obtain ⟨otherRouting,otherArrives,still⟩ := router.arrive_observed keep state other agree.routing draw now request
      (allowed number draw now request rfl ▸ chosen) turn routing arrives
    refine ⟨_,(router.step_success other _ _ _).mpr (.arrived number draw now request turn otherRouting
      (fun present => fresh ((agree.arrived number chosen).mpr present)) otherArrives),?_,?_,?_⟩
    · rw [RouterState.take_routing,RouterState.take_routing,quiet]
      exact still
    · intro one selects
      rw [RouterState.take_flights,RouterState.take_flights]
      exact together number turn.flight one selects
    · intro one selects
      rw [RouterState.take_arrived,RouterState.take_arrived,RouterState.welcome,RouterState.welcome,List.mem_cons,
        List.mem_cons,agree.arrived one selects]
  | turned _ number flight turn held turns =>
    have chosen : selected number = true := by cases turns <;> exact visible
    refine ⟨_,(router.step_success other _ _ _).mpr (.turned action number flight turn
      ((agree.flights number chosen).symm.trans held) turns),?_,?_,?_⟩
    · rw [RouterState.take_routing,RouterState.take_routing]
      exact RoutingPolicy.recordAll_observed _ _ state.routing other.routing agree.routing
    · intro one selects
      rw [RouterState.take_flights,RouterState.take_flights]
      exact together number turn.flight one selects
    · intro one selects
      rw [RouterState.take_arrived,RouterState.take_arrived]
      exact agree.arrived one selects
  | fetched | inserted | lost | executed | reported | supervised => cases visible

end Agreement

theorem step_arrived (state : RouterState G) (action : RouterAction G) (output : List (Nat × RequestEvent))
    (next : RouterState G) (stepped : router.step state action = .ok (output,next)) :
    (∀ number ∈ state.arrived, number ∈ next.arrived) ∧ ∀ number draw now request,
      action = .arrive number draw now request → number ∉ state.arrived ∧ number ∈ next.arrived := by
  cases (router.step_success state action output next).mp stepped with
  | arrived number draw now request turn routing fresh arrives =>
    rw [RouterState.take_arrived]
    refine ⟨fun one present => List.mem_cons_of_mem number present,?_⟩
    intro one oneDraw oneNow oneRequest same
    cases same
    exact ⟨fresh,List.mem_cons_self⟩
  | turned _ number flight turn held turns =>
    rw [RouterState.take_arrived]
    refine ⟨fun _ present => present,?_⟩
    intro one draw now request same
    subst same
    cases turns
  | fetched =>
    rw [RouterState.take_arrived]
    exact ⟨fun _ present => present,by simp⟩
  | inserted | lost | executed | reported | supervised => exact ⟨fun _ present => present,by simp⟩

/-- A number arrives with one request in a run. -/
theorem run_arrivals (routing : RoutingPolicy G) (earlier : List (Nat × GenerationWrite))
    (actions : List (RouterAction G)) (trace : List (RouterAction G × List (Nat × RequestEvent))) (final : RouterState G)
    (ran : router.run (router.start routing earlier) actions = .ok (trace,final)) :
    ∀ number draw now request otherDraw otherNow otherRequest, .arrive number draw now request ∈ actions →
      .arrive number otherDraw otherNow otherRequest ∈ actions → request = otherRequest := by
  have invariant := Runs.run_traces router.step (fun trace state =>
    (∀ number draw now request, .arrive number draw now request ∈ trace.map Prod.fst → number ∈ state.arrived) ∧
      ∀ number draw now request otherDraw otherNow otherRequest, .arrive number draw now request ∈ trace.map Prod.fst →
        .arrive number otherDraw otherNow otherRequest ∈ trace.map Prod.fst → request = otherRequest)
    ?_ [] (router.start routing earlier) actions trace final ⟨by simp,by simp⟩ ran
  · rw [← Runs.run_actions router.step _ actions trace final ran]
    exact invariant.2
  · rintro before state action output next ⟨listed,unique⟩ stepped
    obtain ⟨kept,arrives⟩ := router.step_arrived state action output next stepped
    simp only [List.map_append,List.map_cons,List.map_nil,List.mem_append,List.mem_singleton]
    constructor
    · rintro number draw now request (old | new)
      · exact kept number (listed number draw now request old)
      · exact (arrives number draw now request new.symm).2
    · rintro number draw now request otherDraw otherNow otherRequest (old | new) (otherOld | otherNew)
      · exact unique number draw now request otherDraw otherNow otherRequest old otherOld
      · exact absurd (listed number draw now request old) (arrives number _ _ _ otherNew.symm).1
      · exact absurd (listed number _ _ _ otherOld) (arrives number draw now request new.symm).1
      · cases new.trans otherNew.symm
        rfl

theorem run_selected (routing : RoutingPolicy G) (earlier : List (Nat × GenerationWrite))
    (actions : List (RouterAction G)) (trace : List (RouterAction G × List (Nat × RequestEvent))) (final : RouterState G)
    (ran : router.run (router.start routing earlier) actions = .ok (trace,final)) :
    ∀ action ∈ actions, router.Selected keep (router.selects keep actions) action := by
  rintro action member number draw now request rfl
  rw [selects,Bool.eq_iff_iff,List.any_eq_true]
  constructor
  · rintro ⟨found,inside,chosen⟩
    cases found with
    | arrive other otherDraw otherNow otherRequest =>
      simp only [Bool.and_eq_true,decide_eq_true_eq] at chosen
      obtain ⟨rfl,about⟩ := chosen
      rw [router.run_arrivals routing earlier actions trace final ran other draw now request otherDraw otherNow
        otherRequest member inside]
      exact about
    | _ => cases chosen
  · intro about
    exact ⟨_,member,by simp [about]⟩

end Router

section Sample

/-- A completion of each profile, and the insert of the first one's row. -/
def sampleTenants : List (RouterAction Unit) :=
  sampleArrival 1 "b" (.completions .chat sampleBody) :: sampleCompletion 0 ++
    [.insert sampleRow 9 .answered,.answer 1 (fun _ => some sampleResponse) 12]

def isProduction (key : RouteKey) : Bool := decide (key.1 = .production)

end Sample

end SerenRouter
