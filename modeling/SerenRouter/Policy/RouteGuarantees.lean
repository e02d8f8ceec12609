import SerenRouter.Policy.RouteRuns
import SerenRouter.Kernel.DecimalArithmetic

/-! What a route decision promises in every reachable state: every listed provider serves
the request, and a default request is answered by exactly the providers that the ceiling
and the share quota admit. -/
namespace SerenRouter
open Kernel Kernel.Json

/-- A mapping that serves a request: its provider is enabled for the profile and maps the
model, and its constraints permit the endpoint, the stream flag and the `top_p` value. -/
structure Compatible (registry : Registry) (profile : RoutingProfile) (endpoint : CompletionEndpoint)
    (reading : RequestReading) (provider : Provider) (model : ModelMapping) : Prop extends
    Serves registry (profile,reading.parsed.canonicalModel) provider model where
  endpointSupported : model.requestConstraints.supportsEndpoint endpoint = true
  streamPermitted : model.requestConstraints.permitsStreaming reading.stream = true
  topPPermitted : model.requestConstraints.permitsTopP reading.topP = true

/-- The combined price of a mapping is at most the ceiling. -/
def WithinCeiling (arithmetic : Decimal.Arithmetic) (config : PolicyConfig) (model : ModelMapping) : Prop :=
  ∃ combined, arithmetic.add model.inputPricePerMtok model.outputPricePerMtok = some combined ∧
    combined ≤ config.combinedPriceCeilingPerMtok

namespace RoutingPolicy

/-- The selections still in the window of a key, oldest first. -/
def window {G : Type} (policy : RoutingPolicy G) (key : RouteKey) : List String :=
  ((policy.state.shares key).map ShareTracker.history).getD []

section Reachable
variable {G : Type} (arithmetic : Decimal.Arithmetic) (randomness : Randomness G) (registry : Registry)
  (config : RoutingConfig) (rng : G) (policy reached : RoutingPolicy G)
  (built : fromRegistryWithRng arithmetic registry config .empty rng = .ok policy)
  (operations : List (Operation G)) (trace : List (Operation G × OperationResult))
  (ran : run arithmetic randomness policy operations = .ok (trace,reached))

theorem recentShare_window (key : RouteKey) (share : ShareTracker) (state : RoutingPolicy G)
    (taken : state.recentShare key = .ok share) : share.history = state.window key := by
  unfold recentShare at taken
  unfold window
  cases found : state.state.shares key with
  | some known =>
    rw [found] at taken
    cases taken
    rfl
  | none =>
    rw [found,expect_success] at taken
    unfold ShareTracker.new at taken
    split at taken
    · cases taken
    · cases taken
      rfl

include built ran

theorem reached_known (key : RouteKey) (descriptors : List RouteDescriptor)
    (known : reached.routes key = some descriptors) (route : RouteDescriptor) :
    route ∈ descriptors ↔
      ∃ provider model, Serves registry key provider model ∧ route = model.descriptor provider := by
  rw [(reached_frame arithmetic randomness registry config rng policy reached built operations trace ran).1] at known
  exact fromRegistry_known arithmetic registry config _ rng policy built key descriptors known route

section Reaches
variable (draw : G) (profile : RoutingProfile) (endpoint : CompletionEndpoint) (request left : Value)
  (reading : RequestReading) (descriptors : List RouteDescriptor) (listed : List Candidate)
  (reaches : Reaches arithmetic (reached.withDraw draw) profile endpoint request reading left descriptors listed)
include reaches

theorem reached_candidates (candidate : Candidate) :
    candidate ∈ listed ↔ ∃ provider model combined,
      Compatible registry profile endpoint reading provider model ∧
      arithmetic.add model.inputPricePerMtok model.outputPricePerMtok = some combined ∧
      candidate = ⟨provider.id,combined,provider.priority,
        reached.measurements.getFor profile provider.id reading.parsed.canonicalModel,true⟩ := by
  have sound := reached_sound arithmetic randomness registry config rng policy reached built operations trace ran
  obtain ⟨_,candidates,members⟩ := candidates_sound arithmetic (reached.withDraw draw)
    (sound.withDraw arithmetic reached draw) profile endpoint reading _ descriptors reaches.known
  rw [reaches.candidates] at candidates
  cases candidates
  have known := reached_known arithmetic randomness registry config rng policy reached built operations trace ran
    _ descriptors reaches.known
  rw [members]
  constructor
  · rintro ⟨route,present,permitted,combined,added,rfl⟩
    obtain ⟨provider,model,serves,rfl⟩ := (known route).mp present
    simp only [RouteDescriptor.permits,Bool.and_eq_true] at permitted
    exact ⟨provider,model,combined,⟨serves,permitted.1.1,permitted.1.2,permitted.2⟩,added,rfl⟩
  · rintro ⟨provider,model,combined,⟨serves,supported,streaming,topP⟩,added,rfl⟩
    have permitted : (model.descriptor provider).permits endpoint reading = true := by
      simp only [RouteDescriptor.permits,Bool.and_eq_true]
      exact ⟨⟨supported,streaming⟩,topP⟩
    exact ⟨_,(known _).mpr ⟨provider,model,serves,rfl⟩,permitted,combined,added,rfl⟩

theorem reached_chooses (share : ShareTracker) (providerId : String) :
    Chooses reading.parsed.preference config.policy share listed providerId ↔
      ∃ provider model, Compatible registry profile endpoint reading provider model ∧ provider.id = providerId ∧
        (reading.parsed.preference = .default → WithinCeiling arithmetic config.policy model ∧
          share.allowsNext providerId config.policy.maxShare = true) := by
  have members := reached_candidates arithmetic randomness registry config rng policy reached built operations trace
    ran draw profile endpoint request left reading descriptors listed reaches
  simp only [Chooses,mem_choices]
  constructor
  · rintro ⟨candidate,⟨member,_,eligible⟩,rfl⟩
    obtain ⟨provider,model,combined,compatible,added,rfl⟩ := (members candidate).mp member
    exact ⟨provider,model,compatible,rfl,fun default => ⟨⟨combined,added,(eligible default).1⟩,(eligible default).2⟩⟩
  · rintro ⟨provider,model,compatible,rfl,eligible⟩
    obtain ⟨combined,added⟩ := fromRegistry_priced arithmetic registry config _ rng policy built provider model
      compatible.listed compatible.enabled compatible.mapped
    refine ⟨_,⟨(members _).mpr ⟨provider,model,combined,compatible,added,rfl⟩,rfl,fun default => ?_⟩,rfl⟩
    obtain ⟨⟨price,priceAdded,within⟩,allowed⟩ := eligible default
    have same := added.symm.trans priceAdded
    cases same
    exact ⟨within,allowed⟩

end Reaches

end Reachable

end RoutingPolicy

/-- In every reachable state a route call ends. A decision lists distinct providers, the
selected one first, each of which is compatible with the request, and under the default
preference within the ceiling. -/
theorem decisions_sound {G : Type} (arithmetic : Decimal.Arithmetic) (randomness : Randomness G)
    (registry : Registry) (config : RoutingConfig) (rng : G) (policy reached : RoutingPolicy G)
    (built : RoutingPolicy.fromRegistryWithRng arithmetic registry config .empty rng = .ok policy)
    (operations : List (Operation G)) (trace : List (Operation G × OperationResult))
    (ran : policy.run arithmetic randomness operations = .ok (trace,reached))
    (draw : G) (profile : RoutingProfile) (endpoint : CompletionEndpoint) (request : Value) :
    ∃ answered left after,
      (reached.withDraw draw).routeForEndpoint arithmetic randomness profile endpoint request =
        .ok ((answered,left),after) ∧
      ∀ decision, answered = .ok decision → ∃ reading rest fallbacks,
        readRequest arithmetic request = .ok (reading,rest) ∧
        decision.profile = profile ∧ decision.canonicalModel = reading.parsed.canonicalModel ∧
        decision.fallbackModels = fallbacks.map (fun providerId => routeName providerId decision.canonicalModel) ∧
        (decision.selectedProvider :: fallbacks).Nodup ∧
        ∀ providerId ∈ decision.selectedProvider :: fallbacks, ∃ provider model, provider.id = providerId ∧
          Compatible registry profile endpoint reading provider model ∧
          (reading.parsed.preference = .default → WithinCeiling arithmetic config.policy model) := by
  have sound := RoutingPolicy.reached_sound arithmetic randomness registry config rng policy reached built operations
    trace ran
  have configured := (RoutingPolicy.reached_frame arithmetic randomness registry config rng policy reached built
    operations trace ran).2
  obtain ⟨⟨answered,left⟩,after,routed,_⟩ := RoutingPolicy.routeForEndpoint_total arithmetic randomness
    (reached.withDraw draw) (sound.withDraw arithmetic reached draw) profile endpoint request
  refine ⟨answered,left,after,routed,?_⟩
  rintro decision rfl
  obtain ⟨reading,rest,descriptors,listed,share,next,selected,fallbacks,last,reaches,_,chose,rfl,_⟩ :=
    RoutingPolicy.routeCase_decision arithmetic randomness _ _ profile endpoint request left decision
      ((RoutingPolicy.routeForEndpoint_iff _ _ _ _ _ _ _ _).mp routed)
  rcases chooseRoutes_cases randomness arithmetic _ _ share listed _ last _ next chose with
    ⟨refused,_⟩ | ⟨_,_,same,_,distinct,chosen⟩
  · cases refused
  · cases same
    refine ⟨reading,rest,fallbacks,reaches.read,rfl,rfl,rfl,distinct,fun providerId member => ?_⟩
    have choosable := chosen providerId member
    rw [show (reached.withDraw draw).config = config from configured] at choosable
    obtain ⟨provider,model,compatible,named,eligible⟩ :=
      (RoutingPolicy.reached_chooses arithmetic randomness registry config rng policy reached built operations trace
        ran draw profile endpoint request rest reading descriptors listed reaches share providerId).mp choosable
    exact ⟨provider,model,named,compatible,fun default => (eligible default).1⟩

section Sample

/-- A generator without state that always draws the first index of positive weight. -/
def firstIndex : Randomness Unit where
  seedFromU64 _ := ()
  weightedIndex weights :=
    if weights.all (fun weight => 0 ≤ weight) && weights.any (fun weight => 0 < weight) then
      some (fun rng => (weights.findIdx (fun weight => 0 < weight),rng))
    else none

def sampleModel (slug : String) : ModelMapping :=
  ⟨slug,"Model",1024,"model",Decimal.one,none,Decimal.one,RequestConstraints.default⟩

def sampleProvider (id : String) (priority : Nat) (slugs : List String) : Provider :=
  ⟨id,id,none,none,"https://provider.test","KEY",true,priority,none,{.production,.beta},slugs.map sampleModel⟩

def sampleRegistry : Registry :=
  ⟨[sampleProvider "alpha" 0 ["vendor/model","vendor/sole"],sampleProvider "zeta" 1 ["vendor/model"]]⟩

/-- A ceiling of 10 and a share of three fifths of a window of 100. -/
def sampleConfig : RoutingConfig :=
  ⟨⟨Decimal.ofNat 10,1 / 10,3 / 5,by decide +kernel,by norm_num,by norm_num,by norm_num⟩,100,by decide⟩

def sampleRequest (model : String) : Value := .object [("model",.string model)]

def sampleCall (profile : RoutingProfile) (model : String) : Operation Unit :=
  .routeForEndpoint () profile .chat (sampleRequest model)

def sampleReading (model : String) : RequestReading := ⟨none,false,⟨model,.default⟩⟩

/-- The answer to one more call after a run. -/
def answerAfter (registry : Registry) (operations : List (Operation Unit)) (model : String) :
    Option (Except RouteRequestError RouteDecision) :=
  (RoutingPolicy.fromRegistryWithRng Decimal.exact registry sampleConfig .empty ()).toOption.bind
    (fun policy => (policy.run Decimal.exact firstIndex operations).toOption.bind
      (fun (_,reached) => ((reached.withDraw ()).routeForEndpoint Decimal.exact firstIndex .production .chat
        (sampleRequest model)).toOption.map (fun (answered,_) => answered.1)))

theorem answerAfter_success (registry : Registry) (operations : List (Operation Unit)) (model : String)
    (answered : Except RouteRequestError RouteDecision)
    (answers : answerAfter registry operations model = some answered) :
    ∃ policy trace reached left after,
      RoutingPolicy.fromRegistryWithRng Decimal.exact registry sampleConfig .empty () = .ok policy ∧
      policy.run Decimal.exact firstIndex operations = .ok (trace,reached) ∧
      (reached.withDraw ()).routeForEndpoint Decimal.exact firstIndex .production .chat (sampleRequest model) =
        .ok ((answered,left),after) := by
  unfold answerAfter at answers
  obtain ⟨policy,built,answers⟩ := Option.bind_eq_some_iff.mp answers
  obtain ⟨⟨trace,reached⟩,ran,answers⟩ := Option.bind_eq_some_iff.mp answers
  obtain ⟨⟨⟨_,left⟩,after⟩,routed,equal⟩ := Option.map_eq_some_iff.mp answers
  dsimp only at equal
  subst equal
  exact ⟨policy,trace,reached,left,after,(toOption_some _ _).mp built,(toOption_some _ _).mp ran,
    (toOption_some _ _).mp routed⟩

end Sample

theorem decisions_sound_sample :
    ∃ policy trace reached answered left after,
      RoutingPolicy.fromRegistryWithRng Decimal.exact sampleRegistry sampleConfig .empty () = .ok policy ∧
      policy.run Decimal.exact firstIndex [sampleCall .beta "vendor/model"] = .ok (trace,reached) ∧
      (reached.withDraw ()).routeForEndpoint Decimal.exact firstIndex .production .chat
        (sampleRequest "vendor/model") = .ok ((answered,left),after) ∧
      answered = .ok ⟨.production,"vendor/model","alpha",["zeta/vendor/model"],true⟩ ∧
      ∃ fallbacks, ("alpha" :: fallbacks).Nodup ∧ ∀ providerId ∈ "alpha" :: fallbacks,
        ∃ provider model, provider.id = providerId ∧
          Compatible sampleRegistry .production .chat (sampleReading "vendor/model") provider model := by
  obtain ⟨policy,trace,reached,left,after,built,ran,routed⟩ := answerAfter_success sampleRegistry
    [sampleCall .beta "vendor/model"] "vendor/model"
    (.ok ⟨.production,"vendor/model","alpha",["zeta/vendor/model"],true⟩) (by decide +kernel)
  obtain ⟨_,_,_,same,sound⟩ := decisions_sound Decimal.exact firstIndex sampleRegistry sampleConfig () policy reached
    built _ trace ran () .production .chat (sampleRequest "vendor/model")
  rw [routed] at same
  cases same
  obtain ⟨reading,rest,fallbacks,read,_,_,_,distinct,compatible⟩ := sound _ rfl
  have sampled : readRequest Decimal.exact (sampleRequest "vendor/model") =
      .ok (sampleReading "vendor/model",sampleRequest "vendor/model") := by rfl
  rw [sampled] at read
  cases read
  refine ⟨policy,trace,reached,_,left,after,built,ran,routed,rfl,fallbacks,distinct,fun providerId member => ?_⟩
  obtain ⟨provider,model,named,serves,_⟩ := compatible providerId member
  exact ⟨provider,model,named,serves⟩

/-- A provider that a default request may use: compatible with it, within the ceiling, and
with room left for it in the share window. -/
def Admitted (arithmetic : Decimal.Arithmetic) (registry : Registry) (config : RoutingConfig)
    (profile : RoutingProfile) (endpoint : CompletionEndpoint) (reading : RequestReading) (window : List String)
    (providerId : String) : Prop :=
  ∃ provider model, provider.id = providerId ∧ Compatible registry profile endpoint reading provider model ∧
    WithinCeiling arithmetic config.policy model ∧
    Window.Fits config.shareWindow config.policy.maxShare window providerId

theorem reached_admits {G : Type} (arithmetic : Decimal.Arithmetic) (randomness : Randomness G)
    (registry : Registry) (config : RoutingConfig) (rng : G) (policy reached : RoutingPolicy G)
    (built : RoutingPolicy.fromRegistryWithRng arithmetic registry config .empty rng = .ok policy)
    (operations : List (Operation G)) (trace : List (Operation G × OperationResult))
    (ran : policy.run arithmetic randomness operations = .ok (trace,reached))
    (draw : G) (profile : RoutingProfile) (endpoint : CompletionEndpoint) (request rest : Value)
    (reading : RequestReading) (default : reading.parsed.preference = .default)
    (descriptors : List RouteDescriptor) (listed : List Candidate)
    (reaches : RoutingPolicy.Reaches arithmetic (reached.withDraw draw) profile endpoint request reading rest descriptors
      listed) (share : ShareTracker) (consistent : share.Consistent) (size : share.capacity = config.shareWindow)
    (history : share.history = reached.window (profile,reading.parsed.canonicalModel)) (providerId : String) :
    Chooses reading.parsed.preference config.policy share listed providerId ↔
      Admitted arithmetic registry config profile endpoint reading
        (reached.window (profile,reading.parsed.canonicalModel)) providerId := by
  rw [RoutingPolicy.reached_chooses arithmetic randomness registry config rng policy reached built operations
    trace ran draw profile endpoint request rest reading descriptors listed reaches share providerId]
  have fits := share.allowsNext_fits consistent providerId config.policy.maxShare
  rw [history,size] at fits
  simp only [default,fits,true_imp_iff]
  constructor
  · rintro ⟨provider,model,compatible,named,within,room⟩
    exact ⟨provider,model,named,compatible,within,room⟩
  · rintro ⟨provider,model,named,compatible,within,room⟩
    exact ⟨provider,model,compatible,named,within,room⟩

section Sample

theorem sampleRequest_read (model : String) (plain : splitShortcut model = (model,.default)) :
    readRequest Decimal.exact (sampleRequest model) = .ok (sampleReading model,sampleRequest model) := by
  have parsed : parseRequest (sampleRequest model) = .ok (⟨model,.default⟩,sampleRequest model) := by
    have explicit : explicitPreference (sampleRequest model) = .ok none := rfl
    simp only [parseRequest,sampleRequest,Value.get,SortedMap.get_cons,if_true,Option.bind_some,Value.asStr,plain]
    rw [← sampleRequest,explicit]
    rfl
  unfold readRequest
  rw [parsed]
  rfl

theorem sampleProvider_compatible :
    Compatible sampleRegistry .production .chat (sampleReading "vendor/sole")
      (sampleProvider "alpha" 0 ["vendor/model","vendor/sole"]) (sampleModel "vendor/sole") :=
  ⟨⟨by simp [sampleRegistry],rfl,by decide,by simp [sampleProvider],rfl⟩,by decide,by decide,by decide⟩

theorem sampleModel_within (slug : String) :
    WithinCeiling Decimal.exact sampleConfig.policy (sampleModel slug) := by
  have added : Decimal.exact.add Decimal.one Decimal.one = some (Decimal.ofNat 2) := by decide +kernel
  have within : Decimal.ofNat 2 ≤ sampleConfig.policy.combinedPriceCeilingPerMtok := by decide +kernel
  exact ⟨Decimal.ofNat 2,added,within⟩

end Sample

end SerenRouter
