import SerenRouter.Policy.RouteTable
import SerenRouter.Kernel.Runs

/-! Runs of the routing policy: route calls and measurement observations in any order. The
cases of one call, the invariant that every call keeps and under which none panics, and
the agreement of two policies on a part of their keys. -/
namespace SerenRouter
open Kernel Kernel.Json

namespace RoutingPolicy

section Call
variable {G : Type} (arithmetic : Decimal.Arithmetic) (randomness : Randomness G)

/-- A request that reaches the selection, with what the selection reads. -/
structure Reaches (policy : RoutingPolicy G) (profile : RoutingProfile) (endpoint : CompletionEndpoint)
    (request : Value) (reading : RequestReading) (left : Value) (descriptors : List RouteDescriptor)
    (listed : List Candidate) : Prop where
  read : readRequest arithmetic request = .ok (reading,left)
  known : policy.routes (profile,reading.parsed.canonicalModel) = some descriptors
  candidates : policy.candidates arithmetic profile endpoint reading descriptors = .ok listed

/-- The four ways a route call ends. -/
inductive RouteCase (policy : RoutingPolicy G) (profile : RoutingProfile) (endpoint : CompletionEndpoint)
    (request : Value) : Except RouteRequestError RouteDecision × Value → RoutingPolicy G → Prop
  | unread (error : RouteRequestError) (rejected : readRequest arithmetic request = .error error) :
    RouteCase policy profile endpoint request (.error error,request) policy
  | unknown (reading : RequestReading) (left : Value) (read : readRequest arithmetic request = .ok (reading,left))
    (absent : policy.routes (profile,reading.parsed.canonicalModel) = none) :
    RouteCase policy profile endpoint request (.error .unknownModel,left) policy
  | incompatible (reading : RequestReading) (left : Value) (descriptors : List RouteDescriptor)
    (reaches : Reaches arithmetic policy profile endpoint request reading left descriptors []) :
    RouteCase policy profile endpoint request (.error .noEligibleRoute,left) policy
  | planned (reading : RequestReading) (left : Value) (descriptors : List RouteDescriptor)
    (listed : List Candidate) (share after : ShareTracker) (chosen : Option (String × List String)) (rng : G)
    (reaches : Reaches arithmetic policy profile endpoint request reading left descriptors listed)
    (compatible : listed ≠ []) (window : policy.recentShare (profile,reading.parsed.canonicalModel) = .ok share)
    (chose : chooseRoutes randomness arithmetic reading.parsed.preference policy.config.policy share listed
      policy.state.rng = .ok (chosen,after,rng)) :
    RouteCase policy profile endpoint request (answer profile reading.parsed.canonicalModel left chosen)
      (policy.withShare (profile,reading.parsed.canonicalModel) after rng)

theorem routeForEndpoint_iff (policy after : RoutingPolicy G) (profile : RoutingProfile)
    (endpoint : CompletionEndpoint) (request : Value)
    (result : Except RouteRequestError RouteDecision × Value) :
    policy.routeForEndpoint arithmetic randomness profile endpoint request = .ok (result,after) ↔
      RouteCase arithmetic randomness policy profile endpoint request result after := by
  constructor
  · intro ran
    unfold routeForEndpoint at ran
    split at ran
    · rename_i error rejected
      cases ran
      exact .unread error rejected
    · rename_i reading left read
      dsimp only at ran
      split at ran
      · rename_i absent
        cases ran
        exact .unknown reading left read absent
      · rename_i descriptors known
        rw [bind_success] at ran
        obtain ⟨listed,candidates,ran⟩ := ran
        cases listed with
        | nil =>
          cases ran
          exact .incompatible reading left descriptors ⟨read,known,candidates⟩
        | cons first rest =>
          simp only [List.isEmpty_cons,Bool.false_eq_true,if_false] at ran
          rw [bind_success] at ran
          obtain ⟨share,window,ran⟩ := ran
          rw [bind_success] at ran
          obtain ⟨⟨chosen,next,rng⟩,chose,ran⟩ := ran
          cases ran
          exact .planned reading left descriptors (first :: rest) share next chosen rng
            ⟨read,known,candidates⟩ (by simp) window chose
  · intro ended
    cases ended with
    | unread error rejected => simp [routeForEndpoint,rejected]
    | unknown reading left read absent => simp [routeForEndpoint,read,absent]
    | incompatible reading left descriptors reaches =>
      simp [routeForEndpoint,reaches.read,reaches.known,reaches.candidates]
    | planned reading left descriptors listed share next chosen rng reaches compatible window chose =>
      simp [routeForEndpoint,reaches.read,reaches.known,reaches.candidates,compatible,window,chose]

/-- Registry prices make candidates, stored measurements are valid, and every share window is
consistent and of the configured size. -/
structure Sound (policy : RoutingPolicy G) : Prop where
  priced : ∀ key descriptors, policy.routes key = some descriptors → ∀ route ∈ descriptors,
    ∃ candidate, route.candidate arithmetic none = .ok candidate
  measured : policy.measurements.Valid
  tracked : ∀ key share, policy.state.shares key = some share →
    share.Consistent ∧ share.capacity = policy.config.shareWindow

section Sound
variable (policy : RoutingPolicy G) (sound : Sound arithmetic policy)
include sound

theorem recentShare_sound (key : RouteKey) :
    ∃ share, policy.recentShare key = .ok share ∧ share.Consistent ∧
      share.capacity = policy.config.shareWindow := by
  unfold recentShare
  cases found : policy.state.shares key with
  | some share => exact ⟨share,rfl,sound.tracked key share found⟩
  | none =>
    obtain ⟨fresh,consistent⟩ := ShareTracker.new_consistent _ policy.config.windowPositive
    exact ⟨_,by rw [fresh]; rfl,consistent,rfl⟩

/-- The candidates are those of the permitted routes, with their combined price and live
measurements; building them never panics. -/
theorem candidates_sound (profile : RoutingProfile) (endpoint : CompletionEndpoint) (reading : RequestReading)
    (key : RouteKey) (descriptors : List RouteDescriptor) (known : policy.routes key = some descriptors) :
    ∃ listed, policy.candidates arithmetic profile endpoint reading descriptors = .ok listed ∧
      ∀ candidate, candidate ∈ listed ↔ ∃ route ∈ descriptors, route.permits endpoint reading = true ∧
        ∃ combined, arithmetic.add route.inputPricePerMtok route.outputPricePerMtok = some combined ∧
          candidate = ⟨route.providerId,combined,route.priority,
            policy.measurements.getFor profile route.providerId reading.parsed.canonicalModel,true⟩ := by
  have built (route : RouteDescriptor) (member : route ∈ descriptors) :
      ∃ combined, arithmetic.add route.inputPricePerMtok route.outputPricePerMtok = some combined ∧
        route.candidate arithmetic
          (policy.measurements.getFor profile route.providerId reading.parsed.canonicalModel) =
          .ok ⟨route.providerId,combined,route.priority,
            policy.measurements.getFor profile route.providerId reading.parsed.canonicalModel,true⟩ := by
    obtain ⟨candidate,valid⟩ := sound.priced key descriptors known route member
    obtain ⟨input,output,_,combined,added,_⟩ := (Candidate.new_success _ _ _ _ _ _ _ _).mp valid
    refine ⟨combined,added,(Candidate.new_success _ _ _ _ _ _ _ _).mpr ⟨input,output,?_,combined,added,rfl⟩⟩
    exact fun measured found => sound.measured _ _ _ measured found
  obtain ⟨listed,ran⟩ : ∃ listed, policy.candidates arithmetic profile endpoint reading descriptors = .ok listed := by
    apply mapM_total
    intro route member
    obtain ⟨_,_,candidate⟩ := built route (List.mem_filter.mp member).1
    rw [candidate]
    exact ⟨_,rfl⟩
  refine ⟨listed,ran,fun candidate => ?_⟩
  rw [mapM_mem _ _ listed ran]
  constructor
  · rintro ⟨route,member,expected⟩
    obtain ⟨present,permitted⟩ := List.mem_filter.mp member
    obtain ⟨combined,added,candidate⟩ := built route present
    rw [candidate] at expected
    cases expected
    exact ⟨route,present,permitted,combined,added,rfl⟩
  · rintro ⟨route,present,permitted,combined,added,rfl⟩
    obtain ⟨other,same,candidate⟩ := built route present
    rw [added] at same
    cases same
    exact ⟨route,List.mem_filter.mpr ⟨present,permitted⟩,by rw [candidate]; rfl⟩

theorem withShare_sound (key : RouteKey) (share : ShareTracker) (rng : G) (consistent : share.Consistent)
    (capacity : share.capacity = policy.config.shareWindow) : Sound arithmetic (policy.withShare key share rng) := by
  refine ⟨sound.priced,sound.measured,?_⟩
  intro other found stored
  simp only [withShare,HashMap.insert_remove,HashMap.insert_apply] at stored
  split at stored
  · cases stored
    exact ⟨consistent,capacity⟩
  · exact sound.tracked other found stored

end Sound

theorem readRequest_preference (request left : Value) (reading : RequestReading)
    (read : readRequest arithmetic request = .ok (reading,left)) : reading.parsed.preference ≠ .balanced := by
  simp only [readRequest,bind_success] at read
  obtain ⟨_,_,topP,_,stream,_,read⟩ := read
  split at read
  · cases read
  · rename_i parsed after parse
    cases read
    exact parseRequest_preference request after parsed parse

/-- Every call ends, in one of its four ways, and keeps the invariant. -/
theorem routeForEndpoint_total (policy : RoutingPolicy G) (sound : Sound arithmetic policy)
    (profile : RoutingProfile) (endpoint : CompletionEndpoint) (request : Value) :
    ∃ result after, policy.routeForEndpoint arithmetic randomness profile endpoint request = .ok (result,after) ∧
      Sound arithmetic after := by
  simp only [routeForEndpoint_iff]
  cases read : readRequest arithmetic request with
  | error error => exact ⟨_,_,.unread error read,sound⟩
  | ok both =>
    obtain ⟨reading,left⟩ := both
    cases known : policy.routes (profile,reading.parsed.canonicalModel) with
    | none => exact ⟨_,_,.unknown reading left read known,sound⟩
    | some descriptors =>
      obtain ⟨listed,candidates,_⟩ := candidates_sound arithmetic policy sound profile endpoint reading _ descriptors
        known
      cases listed with
      | nil => exact ⟨_,_,.incompatible reading left descriptors ⟨read,known,candidates⟩,sound⟩
      | cons first rest =>
        obtain ⟨share,window,consistent,capacity⟩ := recentShare_sound arithmetic policy sound
          (profile,reading.parsed.canonicalModel)
        obtain ⟨chosen,after,rng,chose,_⟩ := chooseRoutes_total randomness arithmetic reading.parsed.preference
          policy.config.policy share (first :: rest) policy.state.rng
          (readRequest_preference arithmetic request left reading read) consistent
        obtain ⟨kept,size⟩ := chooseRoutes_consistent randomness arithmetic _ _ share _ _ rng chosen after consistent
          chose
        exact ⟨_,_,.planned reading left descriptors (first :: rest) share after chosen rng
          ⟨read,known,candidates⟩ (by simp) window chose,
          withShare_sound arithmetic policy sound _ after rng kept (size.trans capacity)⟩

theorem routeCase_decision (policy after : RoutingPolicy G) (profile : RoutingProfile)
    (endpoint : CompletionEndpoint) (request left : Value) (decided : RouteDecision)
    (ended : RouteCase arithmetic randomness policy profile endpoint request (.ok decided,left) after) :
    ∃ reading rest descriptors listed share next selected fallbacks rng,
      Reaches arithmetic policy profile endpoint request reading rest descriptors listed ∧
      policy.recentShare (profile,reading.parsed.canonicalModel) = .ok share ∧
      chooseRoutes randomness arithmetic reading.parsed.preference policy.config.policy share listed
        policy.state.rng = .ok (some (selected,fallbacks),next,rng) ∧
      decided = decision profile reading.parsed.canonicalModel selected fallbacks ∧
      left = rest.setIndex "model" (.string (routeName selected reading.parsed.canonicalModel)) := by
  generalize equal : (Except.ok decided,left) = result at ended
  cases ended with
  | unread error rejected => cases equal
  | unknown reading rest read absent => cases equal
  | incompatible reading rest descriptors reaches => cases equal
  | planned reading rest descriptors listed share next chosen rng reaches compatible window chose =>
    cases chosen with
    | none => cases equal
    | some both =>
      cases equal
      exact ⟨reading,rest,descriptors,listed,share,next,both.1,both.2,rng,reaches,window,chose,rfl,rfl⟩

/-- Nothing but the share windows and the generator changes in a call. -/
theorem routeCase_frame (policy after : RoutingPolicy G) (profile : RoutingProfile)
    (endpoint : CompletionEndpoint) (request : Value) (result : Except RouteRequestError RouteDecision × Value)
    (ended : RouteCase arithmetic randomness policy profile endpoint request result after) :
    after.routes = policy.routes ∧ after.config = policy.config ∧ after.measurements = policy.measurements := by
  cases ended <;> exact ⟨rfl,rfl,rfl⟩

end Call

end RoutingPolicy

/-- A step of a run; every route call brings its own draw. -/
inductive Operation (G : Type) where
  | routeForEndpoint (draw : G) (profile : RoutingProfile) (endpoint : CompletionEndpoint) (request : Value)
  | observeFor (profile : RoutingProfile) (providerId canonicalSlug : String) (observation : Observation)

inductive OperationResult where
  | routed (answer : Except RouteRequestError RouteDecision) (request : Value)
  | observed (answer : Except MeasurementError ModelMeasurements)

namespace Operation
variable {G : Type}

def profile : Operation G → RoutingProfile
  | .routeForEndpoint _ profile _ _ => profile
  | .observeFor profile _ _ _ => profile

/-- The key that an operation is about, when its request can be read. -/
def key (arithmetic : Decimal.Arithmetic) : Operation G → Option RouteKey
  | .routeForEndpoint _ profile _ request =>
    match readRequest arithmetic request with
    | .error _ => none
    | .ok (reading,_) => some (profile,reading.parsed.canonicalModel)
  | .observeFor profile _ canonicalSlug _ => some (profile,canonicalSlug)

theorem key_profile (arithmetic : Decimal.Arithmetic) (operation : Operation G) (key : RouteKey)
    (about : operation.key arithmetic = some key) : key.1 = operation.profile := by
  cases operation with
  | routeForEndpoint draw profile endpoint request =>
    simp only [Operation.key] at about
    split at about
    · cases about
    · cases about
      rfl
  | observeFor profile providerId canonicalSlug observation =>
    cases about
    rfl

end Operation

namespace RoutingPolicy
variable {G : Type} (arithmetic : Decimal.Arithmetic) (randomness : Randomness G)

def withDraw (policy : RoutingPolicy G) (draw : G) : RoutingPolicy G :=
  { policy with state := ⟨policy.state.shares,draw⟩ }

theorem Sound.withDraw (policy : RoutingPolicy G) (draw : G) (sound : Sound arithmetic policy) :
    Sound arithmetic (policy.withDraw draw) :=
  ⟨sound.priced,sound.measured,sound.tracked⟩

def step (policy : RoutingPolicy G) : Operation G → Except Panic (OperationResult × RoutingPolicy G)
  | .routeForEndpoint draw profile endpoint request => do
    let ((answer,request),policy) ←
      (policy.withDraw draw).routeForEndpoint arithmetic randomness profile endpoint request
    return (.routed answer request,policy)
  | .observeFor profile providerId canonicalSlug observation =>
    let (answer,measurements) := policy.measurements.observeFor profile providerId canonicalSlug observation
    .ok (.observed answer,{ policy with measurements := measurements })

def run (policy : RoutingPolicy G) (operations : List (Operation G)) :
    Except Panic (List (Operation G × OperationResult) × RoutingPolicy G) :=
  Runs.run (step arithmetic randomness) policy operations

theorem step_route (policy after : RoutingPolicy G) (draw : G) (profile : RoutingProfile)
    (endpoint : CompletionEndpoint) (request : Value) (result : OperationResult) :
    step arithmetic randomness policy (.routeForEndpoint draw profile endpoint request) = .ok (result,after) ↔
      ∃ answered left, result = .routed answered left ∧
        RouteCase arithmetic randomness (policy.withDraw draw) profile endpoint request (answered,left) after := by
  simp only [step,bind_success,← routeForEndpoint_iff]
  constructor
  · rintro ⟨⟨⟨answered,left⟩,next⟩,ran,equal⟩
    cases equal
    exact ⟨answered,left,rfl,ran⟩
  · rintro ⟨answered,left,rfl,ran⟩
    exact ⟨_,ran,rfl⟩

theorem step_observe (policy : RoutingPolicy G) (profile : RoutingProfile) (providerId canonicalSlug : String)
    (observation : Observation) :
    step arithmetic randomness policy (.observeFor profile providerId canonicalSlug observation) =
      .ok (.observed (policy.measurements.observeFor profile providerId canonicalSlug observation).1,
        { policy with measurements :=
            (policy.measurements.observeFor profile providerId canonicalSlug observation).2 }) := rfl

theorem step_total (policy : RoutingPolicy G) (operation : Operation G) (sound : Sound arithmetic policy) :
    ∃ result after, step arithmetic randomness policy operation = .ok (result,after) ∧ Sound arithmetic after := by
  cases operation with
  | routeForEndpoint draw profile endpoint request =>
    obtain ⟨result,after,ran,kept⟩ := routeForEndpoint_total arithmetic randomness (policy.withDraw draw)
      (sound.withDraw arithmetic policy draw) profile endpoint request
    exact ⟨_,after,(step_route _ _ _ _ _ _ _ _ _).mpr
      ⟨result.1,result.2,rfl,(routeForEndpoint_iff _ _ _ _ _ _ _ _).mp ran⟩,kept⟩
  | observeFor profile providerId canonicalSlug observation =>
    exact ⟨_,_,rfl,sound.priced,policy.measurements.observeFor_valid _ _ _ _ sound.measured,sound.tracked⟩

theorem fromRegistry_measured (registry : Registry) (config : RoutingConfig) (measurements : MeasurementStore) (rng : G)
    (policy : RoutingPolicy G) (valid : measurements.Valid)
    (built : fromRegistryWithRng arithmetic registry config measurements rng = .ok policy) : Sound arithmetic policy := by
  obtain ⟨_,kept,state,priced,_⟩ := fromRegistry_fields arithmetic registry config _ rng policy built
  refine ⟨?_,by rw [kept]; exact valid,by simp [state]⟩
  intro key descriptors known route member
  obtain ⟨provider,model,serves,rfl⟩ :=
    (fromRegistry_known arithmetic registry config _ rng policy built key descriptors known route).mp member
  exact priced provider serves.listed serves.enabled model serves.mapped

theorem fromRegistry_sound (registry : Registry) (config : RoutingConfig) (rng : G) (policy : RoutingPolicy G)
    (built : fromRegistryWithRng arithmetic registry config .empty rng = .ok policy) : Sound arithmetic policy :=
  fromRegistry_measured arithmetic registry config .empty rng policy MeasurementStore.empty_valid built

theorem step_frame (policy after : RoutingPolicy G) (operation : Operation G) (result : OperationResult)
    (stepped : step arithmetic randomness policy operation = .ok (result,after)) :
    after.routes = policy.routes ∧ after.config = policy.config := by
  cases operation with
  | routeForEndpoint draw profile endpoint request =>
    obtain ⟨_,_,_,ended⟩ := (step_route _ _ _ _ _ _ _ _ _).mp stepped
    have frame := routeCase_frame arithmetic randomness _ after profile endpoint request _ ended
    exact ⟨frame.1,frame.2.1⟩
  | observeFor profile providerId canonicalSlug observation =>
    cases stepped
    exact ⟨rfl,rfl⟩

section Reachable
variable (registry : Registry) (config : RoutingConfig) (rng : G) (policy reached : RoutingPolicy G)
  (built : fromRegistryWithRng arithmetic registry config .empty rng = .ok policy)
  (operations : List (Operation G)) (trace : List (Operation G × OperationResult))
  (ran : run arithmetic randomness policy operations = .ok (trace,reached))
include built ran

theorem reached_sound : Sound arithmetic reached :=
  Runs.run_preserves (step arithmetic randomness) (Sound arithmetic)
    (fun state operation result next sound stepped => by
      obtain ⟨_,_,same,kept⟩ := step_total arithmetic randomness state operation sound
      rw [same] at stepped
      cases stepped
      exact kept)
    policy operations trace reached (fromRegistry_sound arithmetic registry config rng policy built) ran

theorem reached_frame : reached.routes = policy.routes ∧ reached.config = config := by
  have initial : policy.routes = policy.routes ∧ policy.config = config :=
    ⟨rfl,(fromRegistry_fields arithmetic registry config _ rng policy built).1⟩
  exact Runs.run_preserves (step arithmetic randomness)
    (fun state => state.routes = policy.routes ∧ state.config = config)
    (fun state operation result next same stepped => by
      obtain ⟨routes,configured⟩ := step_frame arithmetic randomness state next operation result stepped
      exact ⟨routes.trans same.1,configured.trans same.2⟩)
    policy operations trace reached initial ran

end Reachable

end RoutingPolicy

end SerenRouter
