import SerenRouter.Service.Steps

/-! The requests of a run. What holds of a request after its first turn and is kept by each of its turns holds of it
in every run, whatever happens to the other requests, the database and the supervisor between two of them. -/
namespace SerenRouter
open Kernel Kernel.Json

/-- What an output says about one request. -/
def said (number : Nat) (output : List (Nat × RequestEvent)) : List RequestEvent :=
  output.filterMap (fun tagged => if tagged.1 = number then some tagged.2 else none)

def transcript {G : Type} (number : Nat) (trace : List (RouterAction G × List (Nat × RequestEvent))) :
    List RequestEvent :=
  said number (trace.flatMap Prod.snd)

theorem said_append (number : Nat) (before after : List (Nat × RequestEvent)) :
    said number (before ++ after) = said number before ++ said number after := List.filterMap_append

@[simp] theorem said_tagged (number : Nat) (events : List RequestEvent) :
    said number (events.map (Prod.mk number)) = events := by
  rw [said,List.filterMap_map]
  refine Eq.trans ?_ List.filterMap_some
  congr 1
  funext event
  exact if_pos rfl

theorem said_other (number other : Nat) (different : other ≠ number) (events : List RequestEvent) :
    said number (events.map (Prod.mk other)) = [] := by
  rw [said,List.filterMap_map,List.filterMap_eq_nil_iff]
  intro event member
  exact if_neg different

theorem transcript_snoc {G : Type} (number : Nat) (trace : List (RouterAction G × List (Nat × RequestEvent)))
    (action : RouterAction G) (output : List (Nat × RequestEvent)) :
    transcript number (trace ++ [(action,output)]) = transcript number trace ++ said number output := by
  rw [transcript,List.flatMap_append,said_append]
  simp [transcript]

namespace Router
variable {G : Type} (router : Router G) (start : RouterState G)
  (Holds : RouterState G → G → Nat → Request → List RequestEvent → Option Flight → Prop)

/-- The request has arrived in the run, in the state that is given. -/
def Arrived (trace : List (RouterAction G × List (Nat × RequestEvent))) (number : Nat) (draw : G) (now : Nat)
    (request : Request) (found : RouterState G) : Prop :=
  ∃ before output after, trace = before ++ (.arrive number draw now request,output) :: after ∧
    router.run start (before.map Prod.fst) = .ok (before,found)

/-- What holds of a request and the state that it found goes on with its events and its flight. -/
structure Kept : Prop where
  arrives : ∀ actions trace found draw now request turn routing, router.run start actions = .ok (trace,found) →
    router.arrive found draw now request = .ok (turn,routing) → Holds found draw now request turn.events turn.flight
  turns : ∀ found draw now request events action number flight turn, Holds found draw now request events (some flight) →
    router.InFlight action number flight turn → Holds found draw now request (events ++ turn.events) turn.flight
  fetches : ∀ found draw now request events profile id looked,
    Holds found draw now request events (some (.lookup profile id)) → Holds found draw now request
      (events ++ [.replied (lookupReply router.timestampText router.publicProviderNames looked)]) none

/-- The requests of a run that leads to the state. -/
structure Serving (trace : List (RouterAction G × List (Nat × RequestEvent))) (state : RouterState G) : Prop where
  ran : router.run start (trace.map Prod.fst) = .ok (trace,state)
  arrived : ∀ number draw now request, .arrive number draw now request ∈ trace.map Prod.fst → number ∈ state.arrived
  known : ∀ number ∈ state.arrived, ∃ draw now request, .arrive number draw now request ∈ trace.map Prod.fst
  silent : ∀ number, number ∉ state.arrived → transcript number trace = [] ∧ state.flights number = none
  holds : ∀ number draw now request, .arrive number draw now request ∈ trace.map Prod.fst →
    ∃ found, router.Arrived start trace number draw now request found ∧
      Holds found draw now request (transcript number trace) (state.flights number)

variable {start} in
theorem Arrived.later {trace : List (RouterAction G × List (Nat × RequestEvent))} {number : Nat} {draw : G} {now : Nat}
    {request : Request} {found : RouterState G} (arrived : router.Arrived start trace number draw now request found)
    (more : List (RouterAction G × List (Nat × RequestEvent))) :
    router.Arrived start (trace ++ more) number draw now request found := by
  obtain ⟨before,output,after,rfl,ran⟩ := arrived
  exact ⟨before,output,after ++ more,by simp,ran⟩

/-- What is in flight has arrived. -/
theorem Serving.inFlight (trace : List (RouterAction G × List (Nat × RequestEvent))) (state : RouterState G)
    (serving : router.Serving start Holds trace state) (number : Nat) (flight : Flight)
    (held : state.flights number = some flight) :
    ∃ draw now request, .arrive number draw now request ∈ trace.map Prod.fst := by
  by_cases present : number ∈ state.arrived
  · exact serving.known number present
  · rw [(serving.silent number present).2] at held
    cases held

section Steps
variable (trace : List (RouterAction G × List (Nat × RequestEvent))) (state : RouterState G)
  (serving : router.Serving start Holds trace state) (action : RouterAction G) (output : List (Nat × RequestEvent))
  (next : RouterState G) (stepped : router.step state action = .ok (output,next))
include serving stepped

theorem Serving.ran_snoc : router.run start ((trace ++ [(action,output)]).map Prod.fst) =
    .ok (trace ++ [(action,output)],next) := by
  rw [List.map_append]
  exact Runs.run_snoc router.step start state next _ action output trace serving.ran stepped

/-- A step in which no request arrives, and at most one takes a turn. -/
theorem Serving.goesOn (silent : ∀ number draw now request, action ≠ .arrive number draw now request)
    (arrived : next.arrived = state.arrived)
    (others : ∀ number ∉ state.arrived, said number output = [] ∧ next.flights number = none)
    (keeps : ∀ number found draw now request events, Holds found draw now request events (state.flights number) →
      Holds found draw now request (events ++ said number output) (next.flights number)) :
    router.Serving start Holds (trace ++ [(action,output)]) next := by
  have earlier (number : Nat) (draw : G) (now : Nat) (request : Request)
      (member : .arrive number draw now request ∈ (trace ++ [(action,output)]).map Prod.fst) :
      .arrive number draw now request ∈ trace.map Prod.fst := by
    rw [List.map_append,List.mem_append] at member
    rcases member with before | here
    · exact before
    · exact absurd (List.mem_singleton.mp here).symm (silent number draw now request)
  refine ⟨serving.ran_snoc router start Holds trace state action output next stepped,?_,?_,?_,?_⟩
  · intro number draw now request member
    rw [arrived]
    exact serving.arrived number draw now request (earlier number draw now request member)
  · intro number present
    rw [arrived] at present
    obtain ⟨draw,now,request,member⟩ := serving.known number present
    exact ⟨draw,now,request,by rw [List.map_append]; exact List.mem_append_left _ member⟩
  · intro number absent
    rw [arrived] at absent
    obtain ⟨nothing,landed⟩ := others number absent
    rw [transcript_snoc,nothing,(serving.silent number absent).1]
    exact ⟨rfl,landed⟩
  · intro number draw now request member
    obtain ⟨found,came,held⟩ := serving.holds number draw now request (earlier number draw now request member)
    rw [transcript_snoc]
    exact ⟨found,came.later router _,keeps number found draw now request _ held⟩

/-- The turn of a request goes on with what holds of this request. -/
theorem Serving.turn (silent : ∀ number draw now request, action ≠ .arrive number draw now request) (number : Nat)
    (flight : Flight) (turn : Turn) (held : state.flights number = some flight)
    (tagged : output = turn.events.map (Prod.mk number)) (arrived : next.arrived = state.arrived)
    (flights : next.flights = Function.update state.flights number turn.flight)
    (keeps : ∀ found draw now request events, Holds found draw now request events (some flight) →
      Holds found draw now request (events ++ turn.events) turn.flight) :
    router.Serving start Holds (trace ++ [(action,output)]) next := by
  subst tagged
  apply serving.goesOn router start Holds trace state action _ next stepped silent arrived
  · intro other absent
    have different : other ≠ number := by
      intro same
      rw [same] at absent
      rw [(serving.silent number absent).2] at held
      cases held
    rw [said_other other number (Ne.symm different),flights,Function.update_of_ne different]
    exact ⟨rfl,(serving.silent other absent).2⟩
  · intro other found draw now request events holds
    rw [flights]
    by_cases same : other = number
    · subst same
      rw [said_tagged,Function.update_self]
      rw [held] at holds
      exact keeps found draw now request events holds
    · rw [said_other other number (Ne.symm same),List.append_nil,Function.update_of_ne same]
      exact holds

end Steps

/-- The first turn of a request. -/
theorem Serving.arrive (trace : List (RouterAction G × List (Nat × RequestEvent))) (state : RouterState G)
    (serving : router.Serving start Holds trace state) (number : Nat) (draw : G) (now : Nat) (request : Request)
    (fresh : number ∉ state.arrived) (turn : Turn) (next : RouterState G)
    (stepped : router.step state (.arrive number draw now request) = .ok (turn.events.map (Prod.mk number),next))
    (begins : Holds state draw now request turn.events turn.flight) (arrived : next.arrived = number :: state.arrived)
    (flights : next.flights = Function.update state.flights number turn.flight) :
    router.Serving start Holds (trace ++ [(.arrive number draw now request,turn.events.map (Prod.mk number))]) next := by
  refine ⟨serving.ran_snoc router start Holds trace state _ _ next stepped,?_,?_,?_,?_⟩
  · intro other otherDraw otherNow otherRequest member
    rw [arrived,List.mem_cons]
    rw [List.map_append,List.mem_append] at member
    rcases member with before | here
    · exact .inr (serving.arrived other otherDraw otherNow otherRequest before)
    · cases List.mem_singleton.mp here
      exact .inl rfl
  · intro other member
    rw [arrived] at member
    rw [List.map_append]
    rcases List.mem_cons.mp member with rfl | before
    · exact ⟨draw,now,request,by simp⟩
    · obtain ⟨otherDraw,otherNow,otherRequest,listed⟩ := serving.known other before
      exact ⟨otherDraw,otherNow,otherRequest,List.mem_append_left _ listed⟩
  · intro other absent
    rw [arrived,List.mem_cons,not_or] at absent
    rw [transcript_snoc,said_other other number (Ne.symm absent.1),List.append_nil,flights,
      Function.update_of_ne absent.1]
    exact serving.silent other absent.2
  · intro other otherDraw otherNow otherRequest member
    rw [List.map_append,List.mem_append] at member
    rw [transcript_snoc,flights]
    rcases member with before | here
    · have different : other ≠ number :=
        fun same => fresh (same ▸ serving.arrived other otherDraw otherNow otherRequest before)
      obtain ⟨found,came,held⟩ := serving.holds other otherDraw otherNow otherRequest before
      rw [said_other other number (Ne.symm different),List.append_nil,Function.update_of_ne different]
      exact ⟨found,came.later router _,held⟩
    · cases List.mem_singleton.mp here
      rw [(serving.silent number fresh).1,List.nil_append,said_tagged,Function.update_self]
      exact ⟨state,⟨trace,_,[],rfl,serving.ran⟩,begins⟩

variable (kept : router.Kept start Holds)
include kept

theorem step_serves (trace : List (RouterAction G × List (Nat × RequestEvent))) (state : RouterState G)
    (action : RouterAction G) (output : List (Nat × RequestEvent)) (next : RouterState G)
    (serving : router.Serving start Holds trace state) (stepped : router.step state action = .ok (output,next)) :
    router.Serving start Holds (trace ++ [(action,output)]) next := by
  cases (router.step_success state action output next).mp stepped with
  | arrived number draw now request turn routing fresh arrives =>
    exact serving.arrive router start Holds trace state number draw now request fresh turn _ stepped
      (kept.arrives _ trace state draw now request turn routing serving.ran arrives) (by simp [RouterState.welcome])
      (by simp [RouterState.welcome])
  | turned _ number flight turn held turns =>
    apply serving.turn router start Holds trace state action _ _ stepped _ number flight turn held rfl (by simp) (by simp)
    · intro found draw now request events holds
      exact kept.turns found draw now request events action number flight turn holds turns
    · intro other draw now request same
      subst same
      cases turns
  | fetched number contact profile id held =>
    apply serving.turn router start Holds trace state _ _ _ stepped (by simp) number _ ⟨[.replied _],none⟩ held rfl
      (by simp [RouterState.due]) (by simp [RouterState.due])
    intro found draw now request events holds
    exact kept.fetches found draw now request events profile id _ holds
  | inserted | lost | executed | reported | supervised =>
    apply serving.goesOn router start Holds trace state _ _ _ stepped (by simp) rfl
    · intro number absent
      exact ⟨rfl,(serving.silent number absent).2⟩
    · intro number found draw now request events holds
      have nothing : said number [] = [] := rfl
      rw [nothing,List.append_nil]
      exact holds

/-- What the turns of a request keep holds of every request in every run. -/
theorem run_serves (unused : start.arrived = []) (idle : ∀ number, start.flights number = none)
    (actions : List (RouterAction G)) (trace : List (RouterAction G × List (Nat × RequestEvent))) (final : RouterState G)
    (ran : router.run start actions = .ok (trace,final)) : router.Serving start Holds trace final := by
  apply Runs.run_traces router.step (router.Serving start Holds) (router.step_serves start Holds kept) [] start actions
    trace final _ ran
  refine ⟨rfl,by simp,by simp [unused],?_,by simp⟩
  intro number _
  exact ⟨rfl,idle number⟩

end Router

end SerenRouter
