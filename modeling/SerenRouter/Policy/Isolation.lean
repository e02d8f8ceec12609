import SerenRouter.Policy.RouteGuarantees

/-! Isolation of profiles and models: the calls about some keys answer the same when every
operation about other keys is deleted from the run. -/
namespace SerenRouter
open Kernel Kernel.Json

namespace RoutingPolicy

/-- Two policies that agree on everything stored under the kept keys. -/
structure AgreeOn {G : Type} (keep : RouteKey → Prop) (left right : RoutingPolicy G) : Prop where
  routes : left.routes = right.routes
  config : left.config = right.config
  shares : ∀ key, keep key → left.state.shares key = right.state.shares key
  measured : ∀ key, keep key → ∀ providerId,
    left.measurements.getFor key.1 providerId key.2 = right.measurements.getFor key.1 providerId key.2

section Steps
variable {G : Type} (arithmetic : Decimal.Arithmetic) (randomness : Randomness G) (keep : RouteKey → Prop)
  (left right after : RoutingPolicy G) (agree : AgreeOn keep left right)
include agree

theorem recentShare_agree (key : RouteKey) (kept : keep key) : left.recentShare key = right.recentShare key := by
  unfold recentShare
  rw [agree.shares key kept,agree.config]

theorem candidates_agree (profile : RoutingProfile) (endpoint : CompletionEndpoint) (reading : RequestReading)
    (descriptors : List RouteDescriptor) (kept : keep (profile,reading.parsed.canonicalModel)) :
    left.candidates arithmetic profile endpoint reading descriptors =
      right.candidates arithmetic profile endpoint reading descriptors := by
  unfold candidates
  congr 1
  funext route
  rw [agree.measured _ kept route.providerId]

theorem routeCase_unobserved (draw : G) (profile : RoutingProfile) (endpoint : CompletionEndpoint) (request : Value)
    (result : Except RouteRequestError RouteDecision × Value)
    (ended : RouteCase arithmetic randomness (left.withDraw draw) profile endpoint request result after)
    (other : ∀ reading rest, readRequest arithmetic request = .ok (reading,rest) →
      ¬ keep (profile,reading.parsed.canonicalModel)) : AgreeOn keep after right := by
  cases ended with
  | unread error rejected => exact ⟨agree.routes,agree.config,agree.shares,agree.measured⟩
  | unknown reading rest read absent => exact ⟨agree.routes,agree.config,agree.shares,agree.measured⟩
  | incompatible reading rest descriptors reaches =>
    exact ⟨agree.routes,agree.config,agree.shares,agree.measured⟩
  | planned reading rest descriptors listed share next chosen rng reaches compatible window chose =>
    refine ⟨agree.routes,agree.config,fun key kept => ?_,agree.measured⟩
    have different : key ≠ (profile,reading.parsed.canonicalModel) :=
      fun same => other reading rest reaches.read (same ▸ kept)
    simp only [withShare,HashMap.insert_apply,HashMap.remove_apply,if_neg different]
    exact agree.shares key kept

/-- A call about a kept key answers the same from policies that agree, and they still do. -/
theorem routeCase_observed (draw : G) (profile : RoutingProfile) (endpoint : CompletionEndpoint) (request : Value)
    (result : Except RouteRequestError RouteDecision × Value)
    (ended : RouteCase arithmetic randomness (left.withDraw draw) profile endpoint request result after)
    (about : ∀ reading rest, readRequest arithmetic request = .ok (reading,rest) →
      keep (profile,reading.parsed.canonicalModel)) :
    ∃ rightAfter, RouteCase arithmetic randomness (right.withDraw draw) profile endpoint request result rightAfter ∧
      AgreeOn keep after rightAfter := by
  have drawn : AgreeOn keep (left.withDraw draw) (right.withDraw draw) :=
    ⟨agree.routes,agree.config,agree.shares,agree.measured⟩
  have moves {reading : RequestReading} {rest : Value} {descriptors : List RouteDescriptor} {listed : List Candidate}
      (reaches : Reaches arithmetic (left.withDraw draw) profile endpoint request reading rest descriptors listed) :
      Reaches arithmetic (right.withDraw draw) profile endpoint request reading rest descriptors listed :=
    ⟨reaches.read,(congrFun drawn.routes _).symm.trans reaches.known,
      (candidates_agree arithmetic keep _ _ drawn profile endpoint reading descriptors
        (about reading rest reaches.read)).symm.trans reaches.candidates⟩
  cases ended with
  | unread error rejected => exact ⟨_,.unread error rejected,drawn⟩
  | unknown reading rest read absent =>
    exact ⟨_,.unknown reading rest read ((congrFun drawn.routes _).symm.trans absent),drawn⟩
  | incompatible reading rest descriptors reaches => exact ⟨_,.incompatible reading rest descriptors (moves reaches),drawn⟩
  | planned reading rest descriptors listed share next chosen rng reaches compatible window chose =>
    have kept := about reading rest reaches.read
    have rightWindow := (recentShare_agree keep _ _ drawn _ kept).symm.trans window
    rw [drawn.config] at chose
    refine ⟨_,.planned reading rest descriptors listed share next chosen rng (moves reaches) compatible rightWindow
      chose,agree.routes,agree.config,fun key here => ?_,agree.measured⟩
    simp only [withShare,HashMap.insert_apply,HashMap.remove_apply]
    split
    · rfl
    · exact agree.shares key here

theorem observe_unobserved (profile : RoutingProfile) (providerId canonicalSlug : String) (observation : Observation)
    (other : ¬ keep (profile,canonicalSlug)) (key : RouteKey) (kept : keep key) (otherProvider : String) :
    (left.measurements.observeFor profile providerId canonicalSlug observation).2.getFor key.1 otherProvider key.2 =
      right.measurements.getFor key.1 otherProvider key.2 := by
  rw [MeasurementStore.getFor_observeFor,agree.measured key kept otherProvider]
  intro same
  obtain ⟨keyProfile,keySlug⟩ := key
  cases same
  exact other kept

theorem observe_observed (profile : RoutingProfile) (providerId canonicalSlug : String) (observation : Observation)
    (key : RouteKey) (kept : keep key) (otherProvider : String) :
    (left.measurements.observeFor profile providerId canonicalSlug observation).2.getFor key.1 otherProvider key.2 =
      (right.measurements.observeFor profile providerId canonicalSlug observation).2.getFor
        key.1 otherProvider key.2 := by
  by_cases same : (key.1,otherProvider,key.2) = (profile,providerId,canonicalSlug)
  · obtain ⟨keyProfile,keySlug⟩ := key
    cases same
    simp only [MeasurementStore.getFor_observeFor_self,agree.measured _ kept providerId]
  · rw [MeasurementStore.getFor_observeFor _ _ _ _ _ _ _ _ same,
      MeasurementStore.getFor_observeFor _ _ _ _ _ _ _ _ same]
    exact agree.measured key kept otherProvider

theorem step_unobserved (operation : Operation G) (result : OperationResult)
    (other : ∀ key, operation.key arithmetic = some key → ¬ keep key)
    (stepped : step arithmetic randomness left operation = .ok (result,after)) : AgreeOn keep after right := by
  cases operation with
  | routeForEndpoint draw profile endpoint request =>
    obtain ⟨answered,rest,_,ended⟩ := (step_route _ _ _ _ _ _ _ _ _).mp stepped
    refine routeCase_unobserved arithmetic randomness keep left right after agree draw profile endpoint request _ ended ?_
    intro reading left read
    exact other _ (by simp [Operation.key,read])
  | observeFor profile providerId canonicalSlug observation =>
    cases stepped
    exact ⟨agree.routes,agree.config,agree.shares,observe_unobserved keep left right agree profile providerId
      canonicalSlug observation (other _ rfl)⟩

/-- An operation whose key, if it has one, is kept answers the same from policies that agree. -/
theorem step_observed (operation : Operation G) (result : OperationResult)
    (about : ∀ key, operation.key arithmetic = some key → keep key)
    (stepped : step arithmetic randomness left operation = .ok (result,after)) :
    ∃ rightAfter, step arithmetic randomness right operation = .ok (result,rightAfter) ∧
      AgreeOn keep after rightAfter := by
  cases operation with
  | routeForEndpoint draw profile endpoint request =>
    obtain ⟨answered,rest,rfl,ended⟩ := (step_route _ _ _ _ _ _ _ _ _).mp stepped
    obtain ⟨rightAfter,rightEnded,still⟩ := routeCase_observed arithmetic randomness keep left right after agree draw
      profile endpoint request _ ended (fun reading left read => about _ (by simp [Operation.key,read]))
    exact ⟨rightAfter,(step_route _ _ _ _ _ _ _ _ _).mpr ⟨answered,rest,rfl,rightEnded⟩,still⟩
  | observeFor profile providerId canonicalSlug observation =>
    have same := MeasurementStore.observeFor_answer left.measurements right.measurements profile providerId
      canonicalSlug observation (agree.measured _ (about _ rfl) providerId)
    rw [step_observe,same] at stepped
    obtain ⟨rfl,rfl⟩ := Prod.mk.inj (Except.ok.inj stepped)
    exact ⟨_,step_observe _ _ _ _ _ _ _,agree.routes,agree.config,agree.shares,
      observe_observed keep left right agree profile providerId canonicalSlug observation⟩

end Steps

/-- The observed operations answer the same when the others are deleted from the run. -/
theorem run_isolated {G : Type} (arithmetic : Decimal.Arithmetic) (randomness : Randomness G)
    (keep : RouteKey → Prop) (observed : Operation G → Bool)
    (about : ∀ operation key, observed operation = true → operation.key arithmetic = some key → keep key)
    (other : ∀ operation key, observed operation = false → operation.key arithmetic = some key → ¬ keep key)
    (policy final : RoutingPolicy G) (sound : Sound arithmetic policy) (operations : List (Operation G))
    (trace : List (Operation G × OperationResult))
    (ran : run arithmetic randomness policy operations = .ok (trace,final)) :
    ∃ purged, run arithmetic randomness policy (operations.filter observed) =
      .ok (trace.filter (fun entry => observed entry.1),purged) := by
  obtain ⟨purged,same,_⟩ := Runs.run_purge (step arithmetic randomness) (Sound arithmetic)
    (fun policy operation sound => step_total arithmetic randomness policy operation sound) observed (AgreeOn keep)
    (fun left right operation result after _ agree hidden stepped => step_unobserved arithmetic randomness keep left
      right after agree operation result (fun key => other operation key hidden) stepped)
    (fun left right operation result after _ _ agree visible stepped => step_observed arithmetic randomness keep left
      right after agree operation result (fun key => about operation key visible) stepped)
    policy policy operations trace final sound sound ⟨rfl,rfl,fun _ _ => rfl,fun _ _ _ => rfl⟩ ran
  exact ⟨purged,same⟩

end RoutingPolicy

/-- Every run goes through, and deleting the operations of the other profile, or all but those
about one model of a profile, changes no answer of the operations that are left. -/
theorem profiles_isolated {G : Type} (arithmetic : Decimal.Arithmetic) (randomness : Randomness G)
    (registry : Registry) (config : RoutingConfig) (rng : G) (policy : RoutingPolicy G)
    (built : RoutingPolicy.fromRegistryWithRng arithmetic registry config .empty rng = .ok policy)
    (operations : List (Operation G)) :
    ∃ trace final, policy.run arithmetic randomness operations = .ok (trace,final) ∧
      (∀ profile, ∃ purged, policy.run arithmetic randomness
          (operations.filter (fun operation => operation.profile = profile)) =
        .ok (trace.filter (fun entry => entry.1.profile = profile),purged)) ∧
      ∀ key, ∃ purged, policy.run arithmetic randomness
          (operations.filter (fun operation => operation.key arithmetic = some key)) =
        .ok (trace.filter (fun entry => entry.1.key arithmetic = some key),purged) := by
  have sound := RoutingPolicy.fromRegistry_sound arithmetic registry config rng policy built
  obtain ⟨trace,final,ran,_⟩ := Runs.run_total (RoutingPolicy.step arithmetic randomness)
    (RoutingPolicy.Sound arithmetic) (RoutingPolicy.step_total arithmetic randomness) policy operations sound
  refine ⟨trace,final,ran,fun profile => ?_,fun key => ?_⟩
  · refine RoutingPolicy.run_isolated arithmetic randomness (fun key => key.1 = profile)
      (fun operation => operation.profile = profile) ?_ ?_ policy final sound operations trace ran
    · intro operation key visible about
      rw [operation.key_profile arithmetic key about]
      exact of_decide_eq_true visible
    · intro operation key hidden about
      rw [operation.key_profile arithmetic key about]
      exact of_decide_eq_false hidden
  · refine RoutingPolicy.run_isolated arithmetic randomness (fun kept => kept = key)
      (fun operation => operation.key arithmetic = some key) ?_ ?_ policy final sound operations trace ran
    · intro operation kept visible about
      rw [of_decide_eq_true visible] at about
      cases about
      rfl
    · intro operation kept hidden about same
      exact of_decide_eq_false hidden (by rw [about,same])

theorem profiles_isolated_sample :
    ∃ policy trace purged final,
      RoutingPolicy.fromRegistryWithRng Decimal.exact sampleRegistry sampleConfig .empty () = .ok policy ∧
      policy.run Decimal.exact firstIndex [sampleCall .beta "vendor/sole",sampleCall .production "vendor/sole"] =
        .ok (trace,final) ∧
      policy.run Decimal.exact firstIndex [sampleCall .production "vendor/sole"] =
        .ok (trace.filter (fun entry => entry.1.profile = .production),purged) := by
  obtain ⟨policy,_,_,_,_,built,_⟩ := answerAfter_success sampleRegistry [] "vendor/sole"
    (.ok ⟨.production,"vendor/sole","alpha",[],false⟩) (by decide +kernel)
  obtain ⟨trace,final,ran,profiles,_⟩ := profiles_isolated Decimal.exact firstIndex sampleRegistry sampleConfig ()
    policy built [sampleCall .beta "vendor/sole",sampleCall .production "vendor/sole"]
  obtain ⟨purged,same⟩ := profiles .production
  exact ⟨policy,trace,purged,final,built,ran,same⟩

end SerenRouter
