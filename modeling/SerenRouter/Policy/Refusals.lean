import SerenRouter.Policy.ShareQuota

/-! Refused requests. A request that is answered with an error leaves the generator and every
share window as they were, and so all later route calls. -/
namespace SerenRouter
open Kernel Kernel.Json

/-- A call of the router. -/
structure RouteCall where
  profile : RoutingProfile
  endpoint : CompletionEndpoint
  request : Value

section Select
variable {G : Type} (randomness : Randomness G) (arithmetic : Decimal.Arithmetic)
  (preference : Preference) (config : PolicyConfig) (recentShare : ShareTracker)

theorem selectRoute_refused (candidates : List Candidate) (rng next : G) (sorted : preference ≠ .balanced)
    (chosen : selectRoute randomness arithmetic candidates preference config recentShare rng = .ok (none,next)) :
    next = rng := by
  have empty := (selectRoute_none randomness arithmetic preference config recentShare candidates rng next sorted none
    chosen).mp rfl
  cases preference with
  | balanced => exact absurd rfl sorted
  | default =>
    have nothing : eligible candidates config recentShare = [] := empty
    simpa [selectRoute,selectDefault,nothing,weightedPick,strictPriority,minBy] using chosen.symm
  | price => exact (congrArg Prod.snd (Except.ok.inj chosen)).symm
  | throughput => exact (congrArg Prod.snd (Except.ok.inj chosen)).symm
  | latency => exact (congrArg Prod.snd (Except.ok.inj chosen)).symm

theorem chooseRoutes_refused (candidates : List Candidate) (rng next : G) (share : ShareTracker)
    (sorted : preference ≠ .balanced)
    (ran : chooseRoutes randomness arithmetic preference config recentShare candidates rng =
      .ok (none,share,next)) : share = recentShare ∧ next = rng := by
  rw [chooseRoutes,bind_success] at ran
  obtain ⟨⟨selected,after⟩,selection,ran⟩ := ran
  cases selected with
  | none =>
    cases ran
    exact ⟨rfl,selectRoute_refused randomness arithmetic preference config recentShare candidates rng next sorted
      selection⟩
  | some selected =>
    dsimp only at ran
    rw [bind_success] at ran
    obtain ⟨fallbacks,_,ran⟩ := ran
    rw [bind_success] at ran
    obtain ⟨recorded,_,ran⟩ := ran
    cases ran

end Select

namespace RoutingPolicy
variable {G : Type} (arithmetic : Decimal.Arithmetic) (randomness : Randomness G)

/-- Two policies with the same generator, between which no share window differs. A key without
a window has a fresh one. -/
structure Indistinguishable (left right : RoutingPolicy G) : Prop where
  routes : left.routes = right.routes
  config : left.config = right.config
  measurements : left.measurements = right.measurements
  rng : left.state.rng = right.state.rng
  windows : ∀ key, left.recentShare key = right.recentShare key

/-- One call, with the generator that the last call left. -/
def serve (policy : RoutingPolicy G) (call : RouteCall) :
    Except Panic ((Except RouteRequestError RouteDecision × Value) × RoutingPolicy G) :=
  policy.routeForEndpoint arithmetic randomness call.profile call.endpoint call.request

def serveAll (policy : RoutingPolicy G) (calls : List RouteCall) :
    Except Panic (List (RouteCall × (Except RouteRequestError RouteDecision × Value)) × RoutingPolicy G) :=
  Runs.run (serve arithmetic randomness) policy calls

/-- A refused request can not be told from one that was never made. -/
theorem refused_indistinguishable (policy after : RoutingPolicy G) (profile : RoutingProfile)
    (endpoint : CompletionEndpoint) (request left : Value) (error : RouteRequestError)
    (ended : RouteCase arithmetic randomness policy profile endpoint request (.error error,left) after) :
    Indistinguishable policy after := by
  generalize equal : (Except.error error,left) = result at ended
  cases ended with
  | unread error rejected => exact ⟨rfl,rfl,rfl,rfl,fun _ => rfl⟩
  | unknown reading rest read absent => exact ⟨rfl,rfl,rfl,rfl,fun _ => rfl⟩
  | incompatible reading rest descriptors reaches => exact ⟨rfl,rfl,rfl,rfl,fun _ => rfl⟩
  | planned reading rest descriptors listed share next chosen rng reaches compatible window chose =>
    cases chosen with
    | some both => cases equal
    | none =>
      obtain ⟨rfl,rfl⟩ := chooseRoutes_refused randomness arithmetic _ _ _ listed _ rng next
        (readRequest_preference arithmetic request rest reading reaches.read) chose
      refine ⟨rfl,rfl,rfl,rfl,fun key => ?_⟩
      rw [recentShare_withShare]
      split
      · rename_i same
        rw [same,window]
      · rfl

/-- Policies that can not be told apart answer a call the same and stay so. -/
theorem routeCase_indistinguishable (left right after : RoutingPolicy G) (same : Indistinguishable left right)
    (profile : RoutingProfile) (endpoint : CompletionEndpoint) (request : Value)
    (result : Except RouteRequestError RouteDecision × Value)
    (ended : RouteCase arithmetic randomness left profile endpoint request result after) :
    ∃ rightAfter, RouteCase arithmetic randomness right profile endpoint request result rightAfter ∧
      Indistinguishable after rightAfter := by
  have moves {reading : RequestReading} {rest : Value} {descriptors : List RouteDescriptor} {listed : List Candidate}
      (reaches : Reaches arithmetic left profile endpoint request reading rest descriptors listed) :
      Reaches arithmetic right profile endpoint request reading rest descriptors listed := by
    refine ⟨reaches.read,same.routes ▸ reaches.known,?_⟩
    have candidates := reaches.candidates
    unfold RoutingPolicy.candidates at candidates ⊢
    rw [← same.measurements]
    exact candidates
  cases ended with
  | unread error rejected => exact ⟨right,.unread error rejected,same⟩
  | unknown reading rest read absent => exact ⟨right,.unknown reading rest read (same.routes ▸ absent),same⟩
  | incompatible reading rest descriptors reaches =>
    exact ⟨right,.incompatible reading rest descriptors (moves reaches),same⟩
  | planned reading rest descriptors listed share next chosen rng reaches compatible window chose =>
    rw [same.config,same.rng] at chose
    refine ⟨_,.planned reading rest descriptors listed share next chosen rng (moves reaches) compatible
      ((same.windows _).symm.trans window) chose,same.routes,same.config,same.measurements,rfl,fun key => ?_⟩
    rw [recentShare_withShare,recentShare_withShare,same.windows]

theorem serve_indistinguishable (left right next : RoutingPolicy G) (call : RouteCall)
    (result : Except RouteRequestError RouteDecision × Value) (same : Indistinguishable left right)
    (served : serve arithmetic randomness left call = .ok (result,next)) :
    ∃ other, serve arithmetic randomness right call = .ok (result,other) ∧ Indistinguishable next other := by
  obtain ⟨other,ended,still⟩ := routeCase_indistinguishable arithmetic randomness left right next same _ _ _ result
    ((routeForEndpoint_iff _ _ _ _ _ _ _ _).mp served)
  exact ⟨other,(routeForEndpoint_iff _ _ _ _ _ _ _ _).mpr ended,still⟩

end RoutingPolicy

/-- After a refused request every sequence of calls is answered, and leaves the generator and the
windows, as if the request had never been made. -/
theorem refusals_leave_no_trace {G : Type} (arithmetic : Decimal.Arithmetic) (randomness : Randomness G)
    (registry : Registry) (config : RoutingConfig) (rng : G) (policy reached : RoutingPolicy G)
    (built : RoutingPolicy.fromRegistryWithRng arithmetic registry config .empty rng = .ok policy)
    (operations : List (Operation G)) (trace : List (Operation G × OperationResult))
    (ran : policy.run arithmetic randomness operations = .ok (trace,reached)) (profile : RoutingProfile)
    (endpoint : CompletionEndpoint) (request left : Value) (error : RouteRequestError) (after : RoutingPolicy G)
    (refused : reached.routeForEndpoint arithmetic randomness profile endpoint request =
      .ok ((.error error,left),after)) (calls : List RouteCall) :
    ∃ answers final other, reached.serveAll arithmetic randomness calls = .ok (answers,final) ∧
      after.serveAll arithmetic randomness calls = .ok (answers,other) ∧
      other.state.rng = final.state.rng ∧ ∀ key, other.recentShare key = final.recentShare key := by
  have sound := RoutingPolicy.reached_sound arithmetic randomness registry config rng policy reached built operations
    trace ran
  obtain ⟨answers,final,served,_⟩ := Runs.run_total (RoutingPolicy.serve arithmetic randomness)
    (RoutingPolicy.Sound arithmetic)
    (fun state call held => RoutingPolicy.routeForEndpoint_total arithmetic randomness state held _ _ _)
    reached calls sound
  have start := RoutingPolicy.refused_indistinguishable arithmetic randomness reached after profile endpoint request
    left error ((RoutingPolicy.routeForEndpoint_iff _ _ _ _ _ _ _ _).mp refused)
  obtain ⟨other,again,same⟩ := Runs.run_simulates (RoutingPolicy.serve arithmetic randomness)
    RoutingPolicy.Indistinguishable
    (fun state twin call result next alike stepped =>
      RoutingPolicy.serve_indistinguishable arithmetic randomness state twin next call result alike stepped)
    reached after calls answers final start served
  exact ⟨answers,final,other,served,again,same.rng.symm,fun key => (same.windows key).symm⟩

/-- One provider, above the price ceiling. -/
def overpricedRegistry : Registry :=
  ⟨[{ sampleProvider "alpha" 0 [] with
    models := [{ sampleModel "vendor/model" with inputPricePerMtok := Decimal.ofNat 20 }] }]⟩

theorem refusals_leave_no_trace_sample :
    ∃ policy trace reached left after answers final other,
      RoutingPolicy.fromRegistryWithRng Decimal.exact overpricedRegistry sampleConfig .empty () = .ok policy ∧
      policy.run Decimal.exact firstIndex [] = .ok (trace,reached) ∧
      reached.routeForEndpoint Decimal.exact firstIndex .production .chat (sampleRequest "vendor/model") =
        .ok ((.error .noEligibleRoute,left),after) ∧
      reached.serveAll Decimal.exact firstIndex [⟨.production,.chat,sampleRequest "vendor/model"⟩] =
        .ok (answers,final) ∧
      after.serveAll Decimal.exact firstIndex [⟨.production,.chat,sampleRequest "vendor/model"⟩] =
        .ok (answers,other) := by
  obtain ⟨policy,trace,reached,left,after,built,ran,refused⟩ := answerAfter_success overpricedRegistry [] "vendor/model"
    (.error .noEligibleRoute) (by decide +kernel)
  obtain ⟨answers,final,other,served,again,_⟩ := refusals_leave_no_trace Decimal.exact firstIndex overpricedRegistry
    sampleConfig () policy reached built [] trace ran .production .chat (sampleRequest "vendor/model") left
    .noEligibleRoute after refused [⟨.production,.chat,sampleRequest "vendor/model"⟩]
  exact ⟨policy,trace,reached,left,after,answers,final,other,built,ran,refused,served,again⟩

end SerenRouter
