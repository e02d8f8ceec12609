import SerenRouter.Service.Clients

/-! The handler of a completion waits between its route call and its reply, and other requests are served meanwhile.
What it says is nevertheless what the whole handler says at once, in the state in which the request arrived. -/
namespace SerenRouter
open Kernel Kernel.Json

namespace Router
variable {G : Type} (router : Router G)

/-- The handler run at once, with its panics caught. -/
def forwarded (routing : RoutingPolicy G) (draw : G) (profile : RoutingProfile) (endpoint : CompletionEndpoint)
    (body : List UInt8) (outcomes : Nat → Option UpstreamResponse) (startedAt completedAt : Nat) :
    Reply × List Recording :=
  catchPanic ((forward router.codec router.arithmetic router.randomness router.proxy (routing.withDraw draw) profile
    endpoint body outcomes startedAt completedAt).map Prod.fst)

section Forwards
variable (routing : RoutingPolicy G) (draw : G) (now : Nat) (profile : RoutingProfile) (endpoint : CompletionEndpoint)
  (body : List UInt8)

/-- The events of a completion so far and its flight, beside the handler run at once. -/
inductive Forwards : List RequestEvent → Option Flight → Prop
  | waiting (stream : Bool) (decision : RouteDecision) (left : Value)
    (goesOn : ∀ outcomes completedAt, catchPanic (SerenRouter.complete router.codec router.arithmetic router.proxy profile
      stream decision left outcomes now completedAt) =
        router.forwarded routing draw profile endpoint body outcomes now completedAt) :
    Forwards [] (some (.awaiting profile stream decision left now))
  | dropped : Forwards [] none
  | timedOut : Forwards [.replied requestTimeout] none
  | answered (outcomes : Nat → Option UpstreamResponse) (completedAt : Nat) (reply : Reply) (recorded : List Recording)
    (rest : List RequestEvent) (flight : Option Flight)
    (same : router.forwarded routing draw profile endpoint body outcomes now completedAt = (reply,recorded))
    (silent : replies rest = [])
    (streams : ∀ held ∈ flight, ∃ transformer generation, held = .streaming transformer generation) :
    Forwards (recorded.map .recorded ++ .replied reply :: rest) flight

theorem forwarded_malformed (unread : router.codec.fromSlice body = none) (outcomes : Nat → Option UpstreamResponse)
    (completedAt : Nat) : router.forwarded routing draw profile endpoint body outcomes now completedAt =
      (invalidJsonRequest,[]) := by
  rw [forwarded,forward,unread]
  rfl

theorem forwarded_refused (value left : Value) (error : RouteRequestError) (after : RoutingPolicy G)
    (parsed : router.codec.fromSlice body = some value)
    (called : (routing.withDraw draw).routeForEndpoint router.arithmetic router.randomness profile endpoint value =
      .ok ((.error error,left),after)) (outcomes : Nat → Option UpstreamResponse) (completedAt : Nat) :
    router.forwarded routing draw profile endpoint body outcomes now completedAt = (error.intoResponse,[]) := by
  rw [forwarded,forward]
  simp only [parsed,called,ok_bind]
  rfl

theorem forwarded_planned (value left : Value) (decision : RouteDecision) (after : RoutingPolicy G)
    (parsed : router.codec.fromSlice body = some value)
    (called : (routing.withDraw draw).routeForEndpoint router.arithmetic router.randomness profile endpoint value =
      .ok ((.ok decision,left),after)) (outcomes : Nat → Option UpstreamResponse) (completedAt : Nat) :
    router.forwarded routing draw profile endpoint body outcomes now completedAt =
      catchPanic (SerenRouter.complete router.codec router.arithmetic router.proxy profile
        (((value.get "stream").bind Value.asBool).getD false) decision left outcomes now completedAt) := by
  rw [forwarded,forward]
  simp only [parsed,called,ok_bind]
  cases SerenRouter.complete router.codec router.arithmetic router.proxy profile
    (((value.get "stream").bind Value.asBool).getD false) decision left outcomes now completedAt <;> rfl

end Forwards

/-- A turn of a stream makes no other reply. -/
theorem source_silent (item : Option (Except Unit (List UInt8))) (arrivedAt completedAt : Nat)
    (transformer : UsageCostTransformer) (generation : Option GenerationContext) (turn : Turn)
    (flows : router.source item arrivedAt completedAt (.streaming transformer generation) = some turn) :
    replies turn.events = [] ∧
      ∀ held ∈ turn.flight, ∃ transformer generation, held = .streaming transformer generation := by
  unfold source at flows
  dsimp only at flows
  split at flows
  · cases flows
    exact ⟨rfl,by simp⟩
  · rename_i fetched _
    cases flows
    constructor
    · rw [replies_append]
      have settled : replies (fetched.settled.map Settlement.event) = [] := by
        rw [replies,List.filterMap_map,List.filterMap_eq_nil_iff]
        intro settlement _
        cases settlement <;> rfl
      rw [settled,List.nil_append]
      cases fetched.transformer <;> split <;> rfl
    · intro held member
      obtain ⟨_,_,rfl⟩ := Option.map_eq_some_iff.mp member
      exact ⟨_,_,rfl⟩

theorem inFlight_forwards (routing : RoutingPolicy G) (draw : G) (now : Nat) (profile : RoutingProfile)
    (endpoint : CompletionEndpoint) (body : List UInt8) (events : List RequestEvent) (action : RouterAction G)
    (number : Nat) (flight : Flight) (turn : Turn) (turns : router.InFlight action number flight turn)
    (forwards : router.Forwards routing draw now profile endpoint body events (some flight)) :
    router.Forwards routing draw now profile endpoint body (events ++ turn.events) turn.flight := by
  generalize waits : some flight = held at forwards
  cases forwards with
  | dropped | timedOut => cases waits
  | waiting stream decision left goesOn =>
    cases waits
    rw [List.nil_append]
    cases turns with
    | answer _ outcomes completedAt _ _ answers =>
      have same := goesOn outcomes completedAt
      dsimp only [answer] at answers
      generalize catchPanic (SerenRouter.complete router.codec router.arithmetic router.proxy profile stream decision
        left outcomes now completedAt) = replied at answers same
      obtain ⟨reply,recorded⟩ := replied
      cases answers
      apply Forwards.answered outcomes completedAt reply recorded [] _ same.symm rfl
      intro held member
      split at member
      · cases member
        exact ⟨_,_,rfl⟩
      · cases member
    | source => rename_i flows; cases flows
    | abandon _ timedOut =>
      cases timedOut with
      | false => exact .dropped
      | true => exact .timedOut
  | answered outcomes completedAt reply recorded rest _ same silent streams =>
    subst waits
    obtain ⟨transformer,generation,rfl⟩ := streams flight rfl
    rw [List.append_assoc,List.cons_append]
    cases turns with
    | answer => rename_i answers; cases answers
    | source _ item arrivedAt laterAt _ _ flows =>
      obtain ⟨quiet,still⟩ := router.source_silent item arrivedAt laterAt transformer generation turn flows
      apply Forwards.answered outcomes completedAt reply recorded _ _ same _ still
      rw [replies_append,silent,quiet]
      rfl
    | abandon _ timedOut =>
      apply Forwards.answered outcomes completedAt reply recorded _ _ same _ (by simp [abandon])
      rw [replies_append,silent]
      rfl

theorem forwards_kept (start : RouterState G) : router.Kept start (fun found draw now request events flight =>
    ∀ profile endpoint body, router.auth.authorize request.headers = some profile →
      request.target = .guarded (.completions endpoint body) →
      router.Forwards found.routing draw now profile endpoint body events flight) := by
  refine ⟨?_,?_,?_⟩
  · intro _ _ found draw now request turn routing _ arrives profile endpoint body authorized asked
    cases router.arrive_success found draw now request turn routing arrives with
    | replied reply _ other => exact absurd asked (other profile endpoint body authorized)
    | malformed holder other spelled granted wants unread =>
      cases asked.symm.trans wants
      have same := router.forwarded_malformed found.routing draw now profile endpoint body unread (fun _ => none) now
      exact .answered _ _ _ _ [] none same rfl (by simp)
    | refused holder other spelled value left error after granted wants parsed called =>
      cases asked.symm.trans wants
      cases authorized.symm.trans granted
      have same := router.forwarded_refused found.routing draw now profile endpoint body value left error routing parsed
        called (fun _ => none) now
      exact .answered _ _ _ _ [] none same rfl (by simp)
    | planned holder other spelled value left decision after granted wants parsed called =>
      cases asked.symm.trans wants
      cases authorized.symm.trans granted
      apply Forwards.waiting
      intro outcomes completedAt
      exact (router.forwarded_planned found.routing draw now profile endpoint body value left decision routing parsed
        called outcomes completedAt).symm
    | lookup _ _ _ _ wants => cases asked.symm.trans wants
    | probing wants => cases asked.symm.trans wants
  · intro found draw now request events action number flight turn forwards turns profile endpoint body authorized asked
    exact router.inFlight_forwards found.routing draw now profile endpoint body events action number flight turn turns
      (forwards profile endpoint body authorized asked)
  · intro found draw now request events holder id looked forwards profile endpoint body authorized asked
    have waiting := forwards profile endpoint body authorized asked
    generalize waits : some (Flight.lookup holder id) = held at waiting
    cases waiting with
    | waiting | dropped | timedOut => cases waits
    | answered _ _ _ _ _ _ _ _ streams =>
      subst waits
      obtain ⟨_,_,other⟩ := streams _ rfl
      cases other

end Router

end SerenRouter
