import SerenRouter.Registry
import SerenRouter.Kernel.HashMap
import Mathlib.Tactic.Linarith
import Mathlib.Tactic.Positivity

/-! Smoothed throughput and time to first token for each profile, provider and model, in
exact arithmetic. Durations are in nanoseconds. -/
namespace SerenRouter
open Kernel

def ewmaAlpha : ℚ := 2 / 10

structure ModelMeasurements where
  throughputTokensPerSecond : ℚ
  timeToFirstTokenSeconds : ℚ
  deriving DecidableEq

/-- Neither measurement is negative. -/
def ModelMeasurements.Valid (measurements : ModelMeasurements) : Prop :=
  0 ≤ measurements.throughputTokensPerSecond ∧ 0 ≤ measurements.timeToFirstTokenSeconds

instance (measurements : ModelMeasurements) : Decidable measurements.Valid :=
  inferInstanceAs (Decidable (_ ∧ _))

structure Observation where
  completionTokens : UInt64
  streamDuration : Nat
  timeToFirstToken : Nat

inductive MeasurementError where
  | zeroStreamDuration
  deriving DecidableEq

abbrev MeasurementStore := HashMap RoutingProfile (HashMap String (HashMap String ModelMeasurements))

def asSeconds (nanoseconds : Nat) : ℚ := nanoseconds / 10^9

def ewma (previous sample : ℚ) : ℚ := ewmaAlpha * sample + (1 - ewmaAlpha) * previous

def Observation.sample (observation : Observation) : ModelMeasurements :=
  ⟨observation.completionTokens.toNat / asSeconds observation.streamDuration,
    asSeconds observation.timeToFirstToken⟩

namespace MeasurementStore

def getFor (store : MeasurementStore) (profile : RoutingProfile) (providerId canonicalSlug : String) :
    Option ModelMeasurements :=
  ((store profile).bind (fun providers => providers providerId)).bind (fun models => models canonicalSlug)

/-- The first sample of a key is stored; later ones are smoothed into it. -/
def observeFor (store : MeasurementStore) (profile : RoutingProfile) (providerId canonicalSlug : String)
    (observation : Observation) : Except MeasurementError ModelMeasurements × MeasurementStore :=
  if observation.streamDuration = 0 then (.error .zeroStreamDuration,store)
  else
    let sample := observation.sample
    let providers := (store profile).getD .empty
    let models := (providers providerId).getD .empty
    let current := match models canonicalSlug with
      | some current => ⟨ewma current.throughputTokensPerSecond sample.throughputTokensPerSecond,
          ewma current.timeToFirstTokenSeconds sample.timeToFirstTokenSeconds⟩
      | none => sample
    (.ok current,store.insert profile (providers.insert providerId (models.insert canonicalSlug current)))

theorem getFor_observeFor (store : MeasurementStore) (profile other : RoutingProfile)
    (providerId canonicalSlug otherProvider otherSlug : String) (observation : Observation)
    (different : (other,otherProvider,otherSlug) ≠ (profile,providerId,canonicalSlug)) :
    (store.observeFor profile providerId canonicalSlug observation).2.getFor other otherProvider otherSlug =
      store.getFor other otherProvider otherSlug := by
  unfold observeFor
  split
  · rfl
  simp only [getFor,HashMap.insert_apply]
  by_cases sameProfile : other = profile
  · subst sameProfile
    rw [if_pos rfl,Option.bind_some,HashMap.insert_apply]
    by_cases sameProvider : otherProvider = providerId
    · subst sameProvider
      rw [if_pos rfl,Option.bind_some,HashMap.insert_ne _ _ _ _ (fun same => different (by rw [same]))]
      cases store other with
      | none => rfl
      | some providers =>
        cases found : providers otherProvider with
        | none => simp [found]
        | some models => simp [found]
    · rw [if_neg sameProvider]
      cases store other <;> rfl
  · rw [if_neg sameProfile]

/-- What an observation leaves under its own key depends on that key alone. -/
theorem getFor_observeFor_self (store : MeasurementStore) (profile : RoutingProfile)
    (providerId canonicalSlug : String) (observation : Observation) :
    (store.observeFor profile providerId canonicalSlug observation).2.getFor profile providerId canonicalSlug =
      if observation.streamDuration = 0 then store.getFor profile providerId canonicalSlug
      else some (match store.getFor profile providerId canonicalSlug with
        | some current => ⟨ewma current.throughputTokensPerSecond observation.sample.throughputTokensPerSecond,
            ewma current.timeToFirstTokenSeconds observation.sample.timeToFirstTokenSeconds⟩
        | none => observation.sample) := by
  unfold observeFor
  by_cases zero : observation.streamDuration = 0
  · simp [zero]
  · rw [if_neg zero,if_neg zero]
    simp only [getFor,HashMap.insert_self,Option.bind_some]
    cases store profile with
    | none => rfl
    | some providers =>
      cases found : providers providerId with
      | none => simp [found]
      | some models => simp [found]

theorem observeFor_answer (left right : MeasurementStore) (profile : RoutingProfile)
    (providerId canonicalSlug : String) (observation : Observation)
    (same : left.getFor profile providerId canonicalSlug = right.getFor profile providerId canonicalSlug) :
    (left.observeFor profile providerId canonicalSlug observation).1 =
      (right.observeFor profile providerId canonicalSlug observation).1 := by
  have stored (store : MeasurementStore) : ((((store profile).getD .empty) providerId).getD .empty) canonicalSlug =
      store.getFor profile providerId canonicalSlug := by
    unfold getFor
    cases store profile with
    | none => rfl
    | some providers =>
      cases found : providers providerId with
      | none => simp [found]
      | some models => simp [found]
  unfold observeFor
  split
  · rfl
  · simp only [stored,same]

/-- Every stored measurement is valid. -/
def Valid (store : MeasurementStore) : Prop :=
  ∀ profile providerId canonicalSlug measurements,
    store.getFor profile providerId canonicalSlug = some measurements → measurements.Valid

theorem empty_valid : Valid .empty := by
  intro profile providerId canonicalSlug measurements found
  cases found

theorem sample_valid (observation : Observation) : observation.sample.Valid := by
  unfold ModelMeasurements.Valid Observation.sample asSeconds
  constructor <;> positivity

theorem ewma_nonnegative (previous sample : ℚ) (left : 0 ≤ previous) (right : 0 ≤ sample) :
    0 ≤ ewma previous sample := by
  unfold ewma ewmaAlpha
  linarith

theorem observeFor_valid (store : MeasurementStore) (profile : RoutingProfile)
    (providerId canonicalSlug : String) (observation : Observation) (valid : store.Valid) :
    (store.observeFor profile providerId canonicalSlug observation).2.Valid := by
  intro other otherProvider otherSlug measurements found
  by_cases same : (other,otherProvider,otherSlug) = (profile,providerId,canonicalSlug)
  · cases same
    rw [getFor_observeFor_self] at found
    split at found
    · exact valid _ _ _ _ found
    · cases found
      have sample := sample_valid observation
      split
      · rename_i current stored
        have before := valid _ _ _ _ stored
        exact ⟨ewma_nonnegative _ _ before.1 sample.1,ewma_nonnegative _ _ before.2 sample.2⟩
      · exact sample
  · rw [getFor_observeFor _ _ _ _ _ _ _ _ same] at found
    exact valid _ _ _ _ found

end MeasurementStore

end SerenRouter
