import SerenRouter.Policy.RouteGuarantees
import SerenRouter.Kernel.Smoothing

/-! What the measurement store holds after any interleaving of observations: under every
key the smoothed samples of that key alone. A candidate whose prices passed the check at
construction therefore passes it again with every request. -/
namespace SerenRouter
open Kernel

/-- One call of `observe_for`. -/
structure ObserveCall where
  profile : RoutingProfile
  providerId : String
  canonicalSlug : String
  observation : Observation

abbrev MeasurementKey := RoutingProfile × String × String

def ObserveCall.key (call : ObserveCall) : MeasurementKey := (call.profile,call.providerId,call.canonicalSlug)

/-- The samples of a key, in the order in which they were accepted. -/
def samplesOf (key : MeasurementKey) (calls : List ObserveCall) : List ModelMeasurements :=
  (calls.filter (fun call => call.key = key ∧ call.observation.streamDuration ≠ 0)).map
    (fun call => call.observation.sample)

/-- Both series of some samples, smoothed. -/
def smoothedMeasurements (samples : List ModelMeasurements) : Option ModelMeasurements :=
  (Smoothing.smoothed ewmaAlpha (samples.map ModelMeasurements.throughputTokensPerSecond)).bind (fun throughput =>
    (Smoothing.smoothed ewmaAlpha (samples.map ModelMeasurements.timeToFirstTokenSeconds)).map (fun latency =>
      ⟨throughput,latency⟩))

theorem smoothedMeasurements_none (samples : List ModelMeasurements) :
    smoothedMeasurements samples = none ↔ samples = [] := by
  cases samples <;> simp [smoothedMeasurements,Smoothing.smoothed]

theorem smoothedMeasurements_snoc (samples : List ModelMeasurements) (sample : ModelMeasurements) :
    smoothedMeasurements (samples ++ [sample]) = some (match smoothedMeasurements samples with
      | some current => ⟨ewma current.throughputTokensPerSecond sample.throughputTokensPerSecond,
          ewma current.timeToFirstTokenSeconds sample.timeToFirstTokenSeconds⟩
      | none => sample) := by
  simp only [smoothedMeasurements,List.map_append,List.map_cons,List.map_nil,Smoothing.smoothed_snoc]
  cases samples with
  | nil => rfl
  | cons first rest => rfl

theorem smoothedMeasurements_within (samples : List ModelMeasurements) (measurements : ModelMeasurements)
    (known : smoothedMeasurements samples = some measurements) :
    Smoothing.Within (samples.map ModelMeasurements.throughputTokensPerSecond) measurements.throughputTokensPerSecond ∧
    Smoothing.Within (samples.map ModelMeasurements.timeToFirstTokenSeconds) measurements.timeToFirstTokenSeconds := by
  obtain ⟨throughput,first,known⟩ := Option.bind_eq_some_iff.mp known
  obtain ⟨latency,second,rfl⟩ := Option.map_eq_some_iff.mp known
  have nonnegative : 0 ≤ ewmaAlpha := by norm_num [ewmaAlpha]
  have bounded : ewmaAlpha ≤ 1 := by norm_num [ewmaAlpha]
  exact ⟨Smoothing.smoothed_within _ nonnegative bounded _ _ first,Smoothing.smoothed_within _ nonnegative bounded _ _ second⟩

theorem samplesOf_snoc (key : MeasurementKey) (calls : List ObserveCall) (call : ObserveCall) :
    samplesOf key (calls ++ [call]) = samplesOf key calls ++
      if call.key = key ∧ call.observation.streamDuration ≠ 0 then [call.observation.sample] else [] := by
  unfold samplesOf
  rw [List.filter_append,List.map_append]
  congr 1
  by_cases here : call.key = key ∧ call.observation.streamDuration ≠ 0
  · rw [if_pos here,List.filter_cons_of_pos (by simpa using here)]
    rfl
  · rw [if_neg here,List.filter_cons_of_neg (by simpa using here)]
    rfl

namespace MeasurementStore

/-- The store after some calls, in the order in which they took its lock. -/
def observeAll (store : MeasurementStore) (calls : List ObserveCall) : MeasurementStore :=
  calls.foldl (fun store call =>
    (store.observeFor call.profile call.providerId call.canonicalSlug call.observation).2) store

theorem observeAll_snoc (store : MeasurementStore) (calls : List ObserveCall) (call : ObserveCall) :
    store.observeAll (calls ++ [call]) =
      ((store.observeAll calls).observeFor call.profile call.providerId call.canonicalSlug call.observation).2 := by
  rw [observeAll,List.foldl_append]
  rfl

/-- Under every key stand the smoothed samples of that key. -/
theorem getFor_observeAll (calls : List ObserveCall) (profile : RoutingProfile) (providerId canonicalSlug : String) :
    (observeAll .empty calls).getFor profile providerId canonicalSlug =
      smoothedMeasurements (samplesOf (profile,providerId,canonicalSlug) calls) := by
  induction calls using List.reverseRecOn with
  | nil => rfl
  | append_singleton calls call ih =>
    rw [observeAll_snoc,samplesOf_snoc]
    by_cases same : call.key = (profile,providerId,canonicalSlug)
    · cases same
      rw [getFor_observeFor_self,ih]
      by_cases zero : call.observation.streamDuration = 0
      · simp [zero,ObserveCall.key]
      · rw [if_neg zero,if_pos ⟨rfl,zero⟩]
        exact (smoothedMeasurements_snoc _ _).symm
    · rw [getFor_observeFor _ _ _ _ _ _ _ _ (Ne.symm same),if_neg (fun here => same here.1),List.append_nil,ih]

theorem observeAll_valid (store : MeasurementStore) (calls : List ObserveCall) (valid : store.Valid) :
    (store.observeAll calls).Valid := by
  induction calls using List.reverseRecOn with
  | nil => exact valid
  | append_singleton calls call ih =>
    rw [observeAll_snoc]
    exact observeFor_valid _ _ _ _ _ ih

theorem observeFor_zero (store : MeasurementStore) (profile : RoutingProfile) (providerId canonicalSlug : String)
    (observation : Observation) (zero : observation.streamDuration = 0) :
    store.observeFor profile providerId canonicalSlug observation = (.error .zeroStreamDuration,store) :=
  if_pos zero

end MeasurementStore

namespace RoutingPolicy
variable {G : Type} (arithmetic : Decimal.Arithmetic)

/-- Whatever is observed between the reads of one request, no candidate of a route is refused. -/
theorem Sound.candidate {policy : RoutingPolicy G} (sound : Sound arithmetic policy) (later : List ObserveCall)
    (key : RouteKey) (descriptors : List RouteDescriptor) (known : policy.routes key = some descriptors)
    (route : RouteDescriptor) (member : route ∈ descriptors) (profile : RoutingProfile) (canonicalModel : String) :
    ∃ candidate, route.candidate arithmetic
      ((policy.measurements.observeAll later).getFor profile route.providerId canonicalModel) = .ok candidate := by
  obtain ⟨candidate,priced⟩ := sound.priced key descriptors known route member
  obtain ⟨input,output,_,combined,added,_⟩ := (Candidate.new_success _ _ _ _ _ _ _ _).mp priced
  have valid := policy.measurements.observeAll_valid later sound.measured
  exact ⟨_,(Candidate.new_success _ _ _ _ _ _ _ _).mpr
    ⟨input,output,fun measured found => valid _ _ _ measured found,combined,added,rfl⟩⟩

end RoutingPolicy

/-- The call of `observe_for` that a step of a run makes, if it makes one. -/
def Operation.observation {G : Type} : Operation G → Option ObserveCall
  | .routeForEndpoint _ _ _ _ => none
  | .observeFor profile providerId canonicalSlug observation => some ⟨profile,providerId,canonicalSlug,observation⟩

namespace RoutingPolicy
variable {G : Type} (arithmetic : Decimal.Arithmetic) (randomness : Randomness G)

theorem run_measurements (policy reached : RoutingPolicy G) (operations : List (Operation G))
    (trace : List (Operation G × OperationResult))
    (ran : policy.run arithmetic randomness operations = .ok (trace,reached)) :
    reached.measurements = policy.measurements.observeAll (operations.filterMap Operation.observation) := by
  induction operations generalizing policy trace with
  | nil =>
    cases ran
    rfl
  | cons operation operations ih =>
    obtain ⟨result,next,rest,stepped,later,_⟩ := (Runs.run_cons _ policy operation operations trace reached).mp ran
    rw [ih next rest later]
    cases operation with
    | routeForEndpoint draw profile endpoint request =>
      obtain ⟨_,_,_,ended⟩ := (step_route _ _ _ _ _ _ _ _ _).mp stepped
      have kept := (routeCase_frame arithmetic randomness _ next profile endpoint request _ ended).2.2
      rw [kept]
      rfl
    | observeFor profile providerId canonicalSlug observation =>
      rw [step_observe] at stepped
      obtain ⟨_,rfl⟩ := Prod.mk.inj (Except.ok.inj stepped)
      rfl

end RoutingPolicy

/-- After any interleaving of observations a key holds the smoothing of the samples accepted for
it: nothing without a sample, and else a value in their range. A refused observation changes
nothing. A policy built over such a store never refuses a candidate, in any reachable state. -/
theorem measurements_stay_inside {G : Type} (arithmetic : Decimal.Arithmetic) (randomness : Randomness G)
    (registry : Registry) (config : RoutingConfig) (rng : G) (calls : List ObserveCall) :
    (∀ profile providerId canonicalSlug samples held, samples = samplesOf (profile,providerId,canonicalSlug) calls →
      held = (MeasurementStore.observeAll .empty calls).getFor profile providerId canonicalSlug →
      held = smoothedMeasurements samples ∧ (held = none ↔ samples = []) ∧ ∀ measured, held = some measured →
        Smoothing.Within (samples.map ModelMeasurements.throughputTokensPerSecond) measured.throughputTokensPerSecond ∧
        Smoothing.Within (samples.map ModelMeasurements.timeToFirstTokenSeconds) measured.timeToFirstTokenSeconds) ∧
    (∀ (store : MeasurementStore) profile providerId canonicalSlug (observation : Observation),
      observation.streamDuration = 0 →
      store.observeFor profile providerId canonicalSlug observation = (.error .zeroStreamDuration,store)) ∧
    ∀ policy, RoutingPolicy.fromRegistryWithRng arithmetic registry config (.observeAll .empty calls) rng = .ok policy →
      ∀ operations : List (Operation G), ∃ trace reached,
        policy.run arithmetic randomness operations = .ok (trace,reached) ∧
        reached.measurements = .observeAll .empty (calls ++ operations.filterMap Operation.observation) ∧
        (∀ later key descriptors, reached.routes key = some descriptors → ∀ route ∈ descriptors, ∀ profile canonicalModel,
          ∃ candidate, RouteDescriptor.candidate arithmetic route
            ((reached.measurements.observeAll later).getFor profile route.providerId canonicalModel) = .ok candidate) ∧
        ∀ draw profile endpoint request, ∃ result after,
          (reached.withDraw draw).routeForEndpoint arithmetic randomness profile endpoint request = .ok (result,after) := by
  refine ⟨?_,MeasurementStore.observeFor_zero,?_⟩
  · intro profile providerId canonicalSlug samples held listed read
    rw [MeasurementStore.getFor_observeAll,← listed] at read
    rw [read]
    refine ⟨rfl,smoothedMeasurements_none samples,fun measured known => ?_⟩
    exact smoothedMeasurements_within samples measured known
  · intro policy built operations
    have valid := MeasurementStore.observeAll_valid .empty calls MeasurementStore.empty_valid
    have sound := RoutingPolicy.fromRegistry_measured arithmetic registry config _ rng policy valid built
    obtain ⟨trace,reached,ran,kept⟩ := Runs.run_total (RoutingPolicy.step arithmetic randomness)
      (RoutingPolicy.Sound arithmetic) (RoutingPolicy.step_total arithmetic randomness) policy operations sound
    refine ⟨trace,reached,ran,?_,kept.candidate arithmetic,fun draw profile endpoint request => ?_⟩
    · have initial := (RoutingPolicy.fromRegistry_fields arithmetic registry config _ rng policy built).2.1
      rw [RoutingPolicy.run_measurements arithmetic randomness policy reached operations trace ran,initial]
      exact (List.foldl_append ..).symm
    · obtain ⟨result,after,routed,_⟩ := RoutingPolicy.routeForEndpoint_total arithmetic randomness
        (reached.withDraw draw) (kept.withDraw arithmetic reached draw) profile endpoint request
      exact ⟨result,after,routed⟩

/-- 100 tokens in one second, 150 in two and 210 in three, for one route of the sample registry. -/
def sampleObservations : List ObserveCall :=
  [⟨.production,"alpha","vendor/model",100,10^9,10^9⟩,⟨.production,"alpha","vendor/model",150,2 * 10^9,2250000000⟩,
    ⟨.production,"alpha","vendor/model",210,3 * 10^9,2500000000⟩]

theorem measurements_stay_inside_sample :
    ∃ policy trace reached measured,
      RoutingPolicy.fromRegistryWithRng Decimal.exact sampleRegistry sampleConfig (.observeAll .empty sampleObservations) () =
        .ok policy ∧
      policy.run Decimal.exact firstIndex [sampleCall .production "vendor/model"] = .ok (trace,reached) ∧
      reached.measurements.getFor .production "alpha" "vendor/model" = some measured ∧ measured = ⟨90,3 / 2⟩ ∧
      Smoothing.Within [100,75,70] measured.throughputTokensPerSecond := by
  obtain ⟨policy,built⟩ := Option.isSome_iff_exists.mp (show
    (RoutingPolicy.fromRegistryWithRng Decimal.exact sampleRegistry sampleConfig (.observeAll .empty sampleObservations)
      ()).toOption.isSome = true by decide +kernel)
  rw [toOption_some] at built
  obtain ⟨stored,_,policies⟩ := measurements_stay_inside Decimal.exact firstIndex sampleRegistry sampleConfig ()
    sampleObservations
  obtain ⟨trace,reached,ran,measurements,_⟩ := policies policy built [sampleCall .production "vendor/model"]
  obtain ⟨smoothed,_,within⟩ := stored .production "alpha" "vendor/model" _ _ rfl rfl
  have samples : samplesOf (.production,"alpha","vendor/model") sampleObservations = [⟨100,1⟩,⟨75,9 / 4⟩,⟨70,5 / 2⟩] := by
    decide +kernel
  have value : smoothedMeasurements [⟨100,1⟩,⟨75,9 / 4⟩,⟨70,5 / 2⟩] = some ⟨90,3 / 2⟩ := by decide +kernel
  rw [samples,value] at smoothed
  rw [samples] at within
  refine ⟨policy,trace,reached,_,built,ran,?_,rfl,(within _ smoothed).1⟩
  rw [measurements]
  exact smoothed

end SerenRouter
