import SerenRouter.Policy.Measurements
import SerenRouter.Policy.Preference
import SerenRouter.Policy.ShareTracker
import SerenRouter.Kernel.Decimal
import SerenRouter.Kernel.Extremum

/-! Selection of one provider among the candidates of a request, under each preference.
Floating-point measurements and weights, and the configured share, are exact rationals;
the random generator and the weighted draw are parameters. -/
namespace SerenRouter
open Kernel

structure Candidate where
  providerId : String
  combinedPricePerMtok : Decimal
  priority : Nat
  measurements : Option ModelMeasurements
  healthy : Bool

inductive CandidateError where
  | negativeInputPrice
  | negativeOutputPrice
  | priceOverflow
  | invalidMeasurements
  deriving DecidableEq

namespace Candidate
variable (arithmetic : Decimal.Arithmetic)

def new (providerId : String) (inputPricePerMtok outputPricePerMtok : Decimal) (priority : Nat)
    (measurements : Option ModelMeasurements) (healthy : Bool) : Except CandidateError Candidate :=
  if inputPricePerMtok < Decimal.zero then .error .negativeInputPrice
  else if outputPricePerMtok < Decimal.zero then .error .negativeOutputPrice
  else match arithmetic.add inputPricePerMtok outputPricePerMtok with
    | none => .error .priceOverflow
    | some combinedPricePerMtok =>
      if ∃ measured ∈ measurements, ¬ measured.Valid then .error .invalidMeasurements
      else .ok ⟨providerId,combinedPricePerMtok,priority,measurements,healthy⟩

theorem new_success (providerId : String) (input output : Decimal) (priority : Nat)
    (measurements : Option ModelMeasurements) (healthy : Bool) (candidate : Candidate) :
    new arithmetic providerId input output priority measurements healthy = .ok candidate ↔
      ¬ input < Decimal.zero ∧ ¬ output < Decimal.zero ∧ (∀ measured ∈ measurements, measured.Valid) ∧
      ∃ combined, arithmetic.add input output = some combined ∧
        candidate = ⟨providerId,combined,priority,measurements,healthy⟩ := by
  unfold new
  split
  · simp [*]
  split
  · simp [*]
  split
  · simp [*]
  · rename_i combined added
    split
    · rename_i invalid
      obtain ⟨measured,present,wrong⟩ := invalid
      constructor
      · rintro ⟨⟩
      · rintro ⟨_,_,valid,_⟩
        exact absurd (valid measured present) wrong
    · rename_i valid
      push Not at valid
      constructor
      · intro built
        exact ⟨‹_›,‹_›,valid,combined,added,(Except.ok.inj built).symm⟩
      · rintro ⟨_,_,_,other,same,rfl⟩
        rw [added] at same
        cases same
        rfl

end Candidate

structure PolicyConfig where
  combinedPriceCeilingPerMtok : Decimal
  hysteresisFraction : ℚ
  maxShare : ℚ
  ceilingNonnegative : Decimal.zero ≤ combinedPriceCeilingPerMtok
  hysteresisNonnegative : 0 ≤ hysteresisFraction
  sharePositive : 0 < maxShare
  shareBounded : maxShare ≤ 1

inductive PolicyConfigError where
  | negativePriceCeiling
  | invalidHysteresis
  | invalidMaxShare
  deriving DecidableEq

def PolicyConfig.new (combinedPriceCeilingPerMtok : Decimal) (hysteresisFraction maxShare : ℚ) :
    Except PolicyConfigError PolicyConfig :=
  if ceiling : combinedPriceCeilingPerMtok < Decimal.zero then .error .negativePriceCeiling
  else if hysteresis : hysteresisFraction < 0 then .error .invalidHysteresis
  else if share : maxShare ≤ 0 ∨ 1 < maxShare then .error .invalidMaxShare
  else .ok ⟨combinedPriceCeilingPerMtok,hysteresisFraction,maxShare,(Decimal.not_lt_iff _ _).mp ceiling,
    not_lt.mp hysteresis,
    not_le.mp (fun negative => share (.inl negative)),not_lt.mp (fun large => share (.inr large))⟩

/-- A seeded generator, and a draw among indices in proportion to their weights. -/
structure Randomness (G : Type) where
  seedFromU64 : UInt64 → G
  weightedIndex : List ℚ → Option (G → Nat × G)

section Compare

def comparePriority (left right : Candidate) : Ordering :=
  (compare left.priority right.priority).then (compare left.providerId right.providerId)

def comparePrice (left right : Candidate) : Ordering :=
  (left.combinedPricePerMtok.cmp right.combinedPricePerMtok).then (comparePriority left right)

def compareOptionalF64 (left right : Option ℚ) : Ordering :=
  match left, right with
  | some left, some right => compare left right
  | some _, none => .gt
  | none, some _ => .lt
  | none, none => .eq

def compareThroughput (left right : Candidate) : Ordering :=
  (compareOptionalF64 (left.measurements.map ModelMeasurements.throughputTokensPerSecond)
    (right.measurements.map ModelMeasurements.throughputTokensPerSecond)).then (comparePriority right left)

def compareLatency (left right : Candidate) : Ordering :=
  (match left.measurements.map ModelMeasurements.timeToFirstTokenSeconds,
      right.measurements.map ModelMeasurements.timeToFirstTokenSeconds with
    | some left, some right => compare left right
    | some _, none => .lt
    | none, some _ => .gt
    | none, none => .eq).then (comparePriority left right)

end Compare

/-- The candidates that are healthy. -/
def healthy (candidates : List Candidate) : List Candidate := candidates.filter Candidate.healthy

/-- A positive measured throughput. -/
def throughput (candidate : Candidate) : Option ℚ :=
  (candidate.measurements.map ModelMeasurements.throughputTokensPerSecond).filter (fun measured => 0 < measured)

def strictPriority (candidates : List Candidate) : Option Candidate := minBy comparePriority candidates

section Draw
variable {G : Type} (randomness : Randomness G)

def weightedPick (candidates : List Candidate) (weights : List ℚ) (rng : G) : Option Candidate × G :=
  let maxWeight := weights.foldl max 0
  if maxWeight ≤ 0 then (none,rng)
  else match randomness.weightedIndex (weights.map (fun weight => weight / maxWeight)) with
    | none => (none,rng)
    | some sample => (candidates[(sample rng).1]?,(sample rng).2)

/-- The healthy candidates within the ceiling that the share quota admits next. -/
def eligible (candidates : List Candidate) (config : PolicyConfig) (recentShare : ShareTracker) :
    List Candidate :=
  (healthy candidates).filter (fun candidate =>
    decide (candidate.combinedPricePerMtok ≤ config.combinedPriceCeilingPerMtok) &&
      recentShare.allowsNext candidate.providerId config.maxShare)

/-- The weight of a candidate: a challenger within the hysteresis band weighs as much as
the incumbent. -/
def defaultWeight (config : PolicyConfig) (incumbent : Option Candidate) (candidate : Candidate) : ℚ :=
  match throughput candidate with
  | none => 0
  | some candidateThroughput =>
    match incumbent.bind throughput with
    | none => candidateThroughput
    | some incumbentThroughput =>
      if incumbent.any (fun incumbent => incumbent.providerId != candidate.providerId) ∧
          incumbentThroughput < candidateThroughput ∧ candidateThroughput ≤
            incumbentThroughput + incumbentThroughput * config.hysteresisFraction then
        incumbentThroughput
      else candidateThroughput

def selectDefault (candidates : List Candidate) (config : PolicyConfig) (recentShare : ShareTracker)
    (rng : G) : Option Candidate × G :=
  let eligible := eligible candidates config recentShare
  let incumbent := recentShare.incumbentProviderId.bind (fun providerId =>
    eligible.find? (fun candidate => candidate.providerId == providerId))
  let (picked,rng) := weightedPick randomness eligible (eligible.map (defaultWeight config incumbent)) rng
  (picked.or (strictPriority eligible),rng)

variable (arithmetic : Decimal.Arithmetic)

/-- The square of the price ratio to the cheapest candidate. -/
def balancedWeight (cheapest : Decimal) (candidate : Candidate) : Except Panic ℚ := do
  let ratio ← orOverflow (arithmetic.div cheapest candidate.combinedPricePerMtok) "/"
  let ratio ← expect (arithmetic.toF64 ratio) "a normalized positive Decimal price ratio fits f64"
  return ratio * ratio

def selectBalanced (candidates : List Candidate) (rng : G) : Except Panic (Option Candidate × G) :=
  let healthy := healthy candidates
  let free := healthy.filter (fun candidate => candidate.combinedPricePerMtok.isZero)
  if !free.isEmpty then .ok (weightedPick randomness free (List.replicate free.length 1) rng)
  else match minBy Decimal.cmp (healthy.map Candidate.combinedPricePerMtok) with
    | none => .ok (none,rng)
    | some cheapest => do
      let weights ← healthy.mapM (balancedWeight arithmetic cheapest)
      return weightedPick randomness healthy weights rng

def selectRoute (candidates : List Candidate) (preference : Preference) (config : PolicyConfig)
    (recentShare : ShareTracker) (rng : G) : Except Panic (Option Candidate × G) :=
  match preference with
  | .default => .ok (selectDefault randomness candidates config recentShare rng)
  | .balanced => selectBalanced randomness arithmetic candidates rng
  | .price => .ok (minBy comparePrice (healthy candidates),rng)
  | .throughput => .ok (maxBy compareThroughput (healthy candidates),rng)
  | .latency => .ok (minBy compareLatency (healthy candidates),rng)

theorem weightedPick_mem (candidates : List Candidate) (weights : List ℚ) (rng : G) (picked : Candidate)
    (drawn : (weightedPick randomness candidates weights rng).1 = some picked) : picked ∈ candidates := by
  unfold weightedPick at drawn
  dsimp only at drawn
  split at drawn
  · cases drawn
  split at drawn
  · cases drawn
  · exact List.mem_of_getElem? drawn

theorem mem_healthy (candidates : List Candidate) (candidate : Candidate) :
    candidate ∈ healthy candidates ↔ candidate ∈ candidates ∧ candidate.healthy = true :=
  List.mem_filter

theorem mem_eligible (candidates : List Candidate) (config : PolicyConfig) (recentShare : ShareTracker)
    (candidate : Candidate) :
    candidate ∈ eligible candidates config recentShare ↔ candidate ∈ healthy candidates ∧
      candidate.combinedPricePerMtok ≤ config.combinedPriceCeilingPerMtok ∧
      recentShare.allowsNext candidate.providerId config.maxShare = true := by
  simp [eligible]

section Default
variable (candidates : List Candidate) (config : PolicyConfig) (recentShare : ShareTracker) (rng : G)

theorem selectDefault_mem (selected : Candidate)
    (chosen : (selectDefault randomness candidates config recentShare rng).1 = some selected) :
    selected ∈ eligible candidates config recentShare := by
  rcases Option.or_eq_some_iff.mp chosen with drawn | ⟨_,first⟩
  · exact weightedPick_mem randomness _ _ _ selected drawn
  · exact minBy_mem _ _ selected first

/-- The default never refuses while a candidate is eligible, whatever the draw. -/
theorem selectDefault_none :
    (selectDefault randomness candidates config recentShare rng).1 = none ↔
      eligible candidates config recentShare = [] := by
  constructor
  · intro refused
    exact (minBy_none comparePriority _).mp (Option.or_eq_none_iff.mp refused).2
  · intro empty
    cases chosen : (selectDefault randomness candidates config recentShare rng).1 with
    | none => rfl
    | some selected =>
      have member := selectDefault_mem randomness candidates config recentShare rng selected chosen
      rw [empty] at member
      cases member

end Default

theorem selectRoute_mem (candidates : List Candidate) (preference : Preference) (config : PolicyConfig)
    (recentShare : ShareTracker) (rng next : G) (selected : Candidate)
    (chosen : selectRoute randomness arithmetic candidates preference config recentShare rng =
      .ok (some selected,next)) :
    selected ∈ healthy candidates ∧
      (preference = .default → selected ∈ eligible candidates config recentShare) := by
  cases preference with
  | default =>
    have member := selectDefault_mem randomness candidates config recentShare rng selected
      (congrArg Prod.fst (Except.ok.inj chosen))
    exact ⟨((mem_eligible _ _ _ _).mp member).1,fun _ => member⟩
  | balanced =>
    refine ⟨?_,by simp⟩
    simp only [selectRoute,selectBalanced] at chosen
    split at chosen
    · have member := weightedPick_mem randomness _ _ rng selected (congrArg Prod.fst (Except.ok.inj chosen))
      exact (List.mem_filter.mp member).1
    split at chosen
    · cases chosen
    · rw [bind_success] at chosen
      obtain ⟨weights,_,picked⟩ := chosen
      exact weightedPick_mem randomness _ weights rng selected (congrArg Prod.fst (Except.ok.inj picked))
  | price => exact ⟨minBy_mem _ _ selected (congrArg Prod.fst (Except.ok.inj chosen)),by simp⟩
  | throughput => exact ⟨maxBy_mem _ _ selected (congrArg Prod.fst (Except.ok.inj chosen)),by simp⟩
  | latency => exact ⟨minBy_mem _ _ selected (congrArg Prod.fst (Except.ok.inj chosen)),by simp⟩

end Draw

end SerenRouter
