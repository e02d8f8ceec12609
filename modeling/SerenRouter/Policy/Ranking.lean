import SerenRouter.Policy.RouteGuarantees

/-! The explicit sorts. Selecting again and again among the providers not listed yet ranks
every candidate of a request by the preference, whatever the share window, the price ceiling
and the generator are. -/
namespace SerenRouter
open Kernel Kernel.Json

/-- By priority, then by provider id. -/
def Precedes (left right : Candidate) : Prop :=
  left.priority < right.priority ∨ (left.priority = right.priority ∧ left.providerId < right.providerId)

/-- What an explicit sort asks for: a lower combined price, a higher throughput, or a shorter
time to first token. A measured candidate is better than an unmeasured one. -/
def Better : Preference → Candidate → Candidate → Prop
  | .price, left, right => left.combinedPricePerMtok < right.combinedPricePerMtok
  | .throughput, left, right => ∃ measured ∈ left.measurements, ∀ other ∈ right.measurements,
      other.throughputTokensPerSecond < measured.throughputTokensPerSecond
  | .latency, left, right => ∃ measured ∈ left.measurements, ∀ other ∈ right.measurements,
      measured.timeToFirstTokenSeconds < other.timeToFirstTokenSeconds
  | .default, _, _ => False
  | .balanced, _, _ => False

/-- Better, or as good and of precedence. -/
def RankedBefore (preference : Preference) (left right : Candidate) : Prop :=
  Better preference left right ∨ (¬ Better preference right left ∧ Precedes left right)

/-- A plan that lists the providers of all candidates, ranked. -/
def RankedPlan (preference : Preference) (listed : List Candidate) (selected : String)
    (fallbacks : List String) : Prop :=
  ∃ ranked : List Candidate, ranked.Perm listed ∧ ranked.Pairwise (RankedBefore preference) ∧
    ranked.map Candidate.providerId = selected :: fallbacks

inductive ExplicitSort : Preference → Prop
  | price : ExplicitSort .price
  | throughput : ExplicitSort .throughput
  | latency : ExplicitSort .latency

section Order

/-- The comparison of two candidates by what a sort asks for; the better one is less. -/
def compareSorted : Preference → Candidate → Candidate → Ordering
  | .price, left, right => left.combinedPricePerMtok.cmp right.combinedPricePerMtok
  | .throughput, left, right => missingLast (fun first second => compare second first)
      (left.measurements.map ModelMeasurements.throughputTokensPerSecond)
      (right.measurements.map ModelMeasurements.throughputTokensPerSecond)
  | .latency, left, right => missingLast compare
      (left.measurements.map ModelMeasurements.timeToFirstTokenSeconds)
      (right.measurements.map ModelMeasurements.timeToFirstTokenSeconds)
  | .default, _, _ => .eq
  | .balanced, _, _ => .eq

def compareRanked (preference : Preference) : Candidate → Candidate → Ordering :=
  compareLex (compareSorted preference) comparePriority

private theorem trans_on {α β : Type} (cmp : β → β → Ordering) [Std.TransCmp cmp] (key : α → β) :
    Std.TransCmp (fun left right => cmp (key left) (key right)) where
  eq_swap := fun {left right} => @Std.OrientedCmp.eq_swap β cmp _ (key left) (key right)
  isLE_trans := fun {left middle right} => @Std.TransCmp.isLE_trans β cmp _ (key left) (key middle) (key right)

instance comparePriority_trans : Std.TransCmp comparePriority :=
  inferInstanceAs (Std.TransCmp (compareLex (compareOn Candidate.priority) (compareOn Candidate.providerId)))

instance compareSorted_trans (preference : Preference) : Std.TransCmp (compareSorted preference) := by
  cases preference with
  | default => exact { eq_swap := rfl, isLE_trans := fun _ _ => rfl }
  | balanced => exact { eq_swap := rfl, isLE_trans := fun _ _ => rfl }
  | price => exact trans_on compare (fun candidate : Candidate => candidate.combinedPricePerMtok.value)
  | throughput =>
    exact trans_on (missingLast (fun first second : ℚ => compare second first))
      (fun candidate : Candidate => candidate.measurements.map ModelMeasurements.throughputTokensPerSecond)
  | latency =>
    exact trans_on (missingLast (compare : ℚ → ℚ → Ordering))
      (fun candidate : Candidate => candidate.measurements.map ModelMeasurements.timeToFirstTokenSeconds)

instance compareRanked_trans (preference : Preference) : Std.TransCmp (compareRanked preference) :=
  inferInstanceAs (Std.TransCmp (compareLex (compareSorted preference) comparePriority))

theorem comparePriority_lt (left right : Candidate) : comparePriority left right = .lt ↔ Precedes left right := by
  simp [comparePriority,Precedes,Ordering.then_eq_lt,compare_lt_iff_lt]

theorem compareSorted_lt (preference : Preference) (left right : Candidate) :
    compareSorted preference left right = .lt ↔ Better preference left right := by
  cases preference with
  | default => simp [compareSorted,Better]
  | balanced => simp [compareSorted,Better]
  | price => exact compare_lt_iff_lt
  | throughput => simp [compareSorted,Better,missingLast_lt,compare_lt_iff_lt]
  | latency => simp [compareSorted,Better,missingLast_lt,compare_lt_iff_lt]

theorem compareRanked_lt (preference : Preference) (left right : Candidate) :
    compareRanked preference left right = .lt ↔ RankedBefore preference left right := by
  have better := compareSorted_lt preference left right
  have worse := compareSorted_lt preference right left
  rw [← Std.OrientedCmp.gt_iff_lt] at worse
  rw [compareRanked,compareLex,Ordering.then_eq_lt,comparePriority_lt,RankedBefore,← better,← worse]
  cases compareSorted preference left right <;> simp

theorem compareRanked_eq (preference : Preference) (left right : Candidate)
    (tie : compareRanked preference left right = .eq) : left.providerId = right.providerId := by
  rw [compareRanked,compareLex,Ordering.then_eq_eq,comparePriority,Ordering.then_eq_eq] at tie
  exact compare_eq_iff_eq.mp tie.2.2

theorem compareLatency_ranked : compareLatency = compareRanked .latency := by
  funext left right
  simp only [compareLatency,compareRanked,compareLex,compareSorted]
  congr 1
  rcases left.measurements.map ModelMeasurements.timeToFirstTokenSeconds with _ | _ <;>
    rcases right.measurements.map ModelMeasurements.timeToFirstTokenSeconds with _ | _ <;> rfl

theorem compareThroughput_ranked : compareThroughput = fun left right => compareRanked .throughput right left := by
  funext left right
  simp only [compareThroughput,compareRanked,compareLex,compareSorted]
  congr 1
  rcases left.measurements.map ModelMeasurements.throughputTokensPerSecond with _ | _ <;>
    rcases right.measurements.map ModelMeasurements.throughputTokensPerSecond with _ | _ <;> rfl

end Order

/-- A least candidate, followed by the ranked candidates of the other providers. -/
theorem ranked_cons (preference : Preference) (candidates ranked : List Candidate) (best : Candidate)
    (distinct : (candidates.map Candidate.providerId).Nodup) (member : best ∈ candidates)
    (least : ∀ other ∈ candidates, (compareRanked preference best other).isLE)
    (others : ranked.Perm (without best.providerId candidates))
    (sorted : ranked.Pairwise (RankedBefore preference)) :
    (best :: ranked).Perm candidates ∧ (best :: ranked).Pairwise (RankedBefore preference) := by
  have inside (other : Candidate) : other ∈ ranked ↔ other ∈ candidates ∧ other.providerId ≠ best.providerId := by
    rw [others.mem_iff,mem_without]
  have fresh : best ∉ ranked := fun listed => ((inside best).mp listed).2 rfl
  have single : candidates.Nodup := .of_map _ distinct
  constructor
  · have rest : ranked.Nodup := others.nodup_iff.mpr (single.filter _)
    rw [List.perm_ext_iff_of_nodup (List.nodup_cons.mpr ⟨fresh,rest⟩) single]
    intro other
    rw [List.mem_cons,inside]
    constructor
    · rintro (rfl | ⟨present,_⟩)
      · exact member
      · exact present
    · intro present
      by_cases same : other.providerId = best.providerId
      · exact .inl (List.inj_on_of_nodup_map distinct present member same)
      · exact .inr ⟨present,same⟩
  · refine List.pairwise_cons.mpr ⟨fun other listed => ?_,sorted⟩
    obtain ⟨present,different⟩ := (inside other).mp listed
    have below := least other present
    rw [← compareRanked_lt]
    cases order : compareRanked preference best other with
    | lt => rfl
    | eq => exact absurd (compareRanked_eq preference best other order).symm different
    | gt =>
      rw [order] at below
      cases below

theorem rankedPlan_unique (preference : Preference) (listed : List Candidate) (selected other : String)
    (fallbacks others : List String) (first : RankedPlan preference listed selected fallbacks)
    (second : RankedPlan preference listed other others) : selected = other ∧ fallbacks = others := by
  obtain ⟨left,leftPerm,leftSorted,leftNames⟩ := first
  obtain ⟨right,rightPerm,rightSorted,rightNames⟩ := second
  have same : left = right := by
    apply (leftPerm.trans rightPerm.symm).eq_of_pairwise _ leftSorted rightSorted
    intro before after _ _ forward backward
    rw [← compareRanked_lt] at forward backward
    rw [Std.OrientedCmp.gt_of_lt backward] at forward
    cases forward
  rw [same,rightNames] at leftNames
  exact ⟨(List.cons.inj leftNames).1.symm,(List.cons.inj leftNames).2.symm⟩

section Plan
variable {G : Type} (randomness : Randomness G) (arithmetic : Decimal.Arithmetic)
  (preference : Preference) (sort : ExplicitSort preference) (config : PolicyConfig) (recentShare : ShareTracker)
include sort

theorem selectRoute_least (candidates : List Candidate) (rng : G)
    (available : ∀ candidate ∈ candidates, candidate.healthy = true) :
    (candidates = [] ∧
      selectRoute randomness arithmetic candidates preference config recentShare rng = .ok (none,rng)) ∨
    ∃ best ∈ candidates, (∀ other ∈ candidates, (compareRanked preference best other).isLE) ∧
      selectRoute randomness arithmetic candidates preference config recentShare rng = .ok (some best,rng) := by
  have all : healthy candidates = candidates := List.filter_eq_self.mpr available
  have least (cmp : Candidate → Candidate → Ordering) (same : cmp = compareRanked preference) :
      (candidates = [] ∧ minBy cmp candidates = none) ∨
      ∃ best ∈ candidates, (∀ other ∈ candidates, (compareRanked preference best other).isLE) ∧
        minBy cmp candidates = some best := by
    cases found : minBy cmp candidates with
    | none => exact .inl ⟨(minBy_none _ _).mp found,rfl⟩
    | some best =>
      rw [same] at found
      exact .inr ⟨best,minBy_mem _ _ best found,minBy_least _ candidates best found,rfl⟩
  cases sort with
  | price =>
    simp only [selectRoute,all]
    rcases least comparePrice rfl with ⟨empty,found⟩ | ⟨best,member,below,found⟩
    · exact .inl ⟨empty,by rw [found]⟩
    · exact .inr ⟨best,member,below,by rw [found]⟩
  | latency =>
    simp only [selectRoute,all]
    rcases least compareLatency compareLatency_ranked with ⟨empty,found⟩ | ⟨best,member,below,found⟩
    · exact .inl ⟨empty,by rw [found]⟩
    · exact .inr ⟨best,member,below,by rw [found]⟩
  | throughput =>
    simp only [selectRoute,all,compareThroughput_ranked]
    cases found : maxBy (fun left right => compareRanked .throughput right left) candidates with
    | none => exact .inl ⟨(maxBy_none _ _).mp found,rfl⟩
    | some best => exact .inr ⟨best,maxBy_mem _ _ best found,maxBy_greatest _ candidates best found,rfl⟩

theorem planFallbacks_ranked (candidates : List Candidate) (rng : G)
    (distinct : (candidates.map Candidate.providerId).Nodup)
    (available : ∀ candidate ∈ candidates, candidate.healthy = true) :
    ∃ ranked : List Candidate, ranked.Perm candidates ∧ ranked.Pairwise (RankedBefore preference) ∧
      planFallbacks randomness arithmetic preference config recentShare candidates rng =
        .ok (ranked.map Candidate.providerId) := by
  induction candidates, rng using planFallbacks.induct randomness arithmetic preference config recentShare with
  | case1 candidates rng panic chosen =>
    rcases selectRoute_least randomness arithmetic preference sort config recentShare candidates rng available with
      ⟨_,same⟩ | ⟨_,_,_,same⟩ <;> rw [chosen] at same <;> cases same
  | case2 candidates rng next chosen =>
    rcases selectRoute_least randomness arithmetic preference sort config recentShare candidates rng available with
      ⟨rfl,_⟩ | ⟨_,_,_,same⟩
    · exact ⟨[],.refl _,.nil,by rw [planFallbacks_step,chosen]; rfl⟩
    · rw [chosen] at same
      cases same
  | case3 candidates rng candidate next chosen ih =>
    obtain ⟨ranked,others,sorted,planned⟩ := ih (distinct.sublist ((List.filter_sublist).map _))
      (fun other member => available other ((mem_without _ _ _).mp member).1)
    rcases selectRoute_least randomness arithmetic preference sort config recentShare candidates rng available with
      ⟨_,same⟩ | ⟨best,member,least,same⟩ <;> rw [chosen] at same <;> cases same
    obtain ⟨whole,ordered⟩ := ranked_cons preference candidates ranked candidate distinct member least others sorted
    refine ⟨candidate :: ranked,whole,ordered,?_⟩
    rw [planFallbacks_step,chosen]
    dsimp only
    rw [planned]
    rfl

theorem chooseRoutes_ranked (candidates : List Candidate) (rng : G) (some : candidates ≠ [])
    (distinct : (candidates.map Candidate.providerId).Nodup)
    (available : ∀ candidate ∈ candidates, candidate.healthy = true) (consistent : recentShare.Consistent) :
    ∃ selected fallbacks share next, RankedPlan preference candidates selected fallbacks ∧
      chooseRoutes randomness arithmetic preference config recentShare candidates rng =
        .ok (.some (selected,fallbacks),share,next) := by
  rcases selectRoute_least randomness arithmetic preference sort config recentShare candidates rng available with
    ⟨empty,_⟩ | ⟨best,member,least,selection⟩
  · exact absurd empty some
  obtain ⟨ranked,others,sorted,planned⟩ := planFallbacks_ranked randomness arithmetic preference sort config
    recentShare (without best.providerId candidates) (randomness.seedFromU64 fallbackSeed)
    (distinct.sublist ((List.filter_sublist).map _))
    (fun other inside => available other ((mem_without _ _ _).mp inside).1)
  obtain ⟨whole,ordered⟩ := ranked_cons preference candidates ranked best distinct member least others sorted
  obtain ⟨share,recorded,_⟩ := recentShare.record_consistent consistent best.providerId
  refine ⟨best.providerId,ranked.map Candidate.providerId,share,rng,⟨best :: ranked,whole,ordered,rfl⟩,?_⟩
  rw [chooseRoutes,selection,ok_bind]
  dsimp only
  rw [planned,ok_bind,recorded,ok_bind]

end Plan

section Call
variable {G : Type} (arithmetic : Decimal.Arithmetic) (randomness : Randomness G)

/-- The candidates of a request are read off the routes and the measurements alone. -/
theorem reaches_agree {H : Type} (policy : RoutingPolicy G) (other : RoutingPolicy H)
    (routes : other.routes = policy.routes) (measured : other.measurements = policy.measurements)
    (profile : RoutingProfile) (endpoint : CompletionEndpoint) (request left : Value) (reading : RequestReading)
    (descriptors : List RouteDescriptor) (listed : List Candidate)
    (reaches : RoutingPolicy.Reaches arithmetic policy profile endpoint request reading left descriptors listed) :
    RoutingPolicy.Reaches arithmetic other profile endpoint request reading left descriptors listed := by
  refine ⟨reaches.read,by rw [routes,reaches.known],?_⟩
  rw [← reaches.candidates]
  simp only [RoutingPolicy.candidates,measured]

/-- Under an explicit sort a request with candidates of distinct providers is answered by the
ranking of all of them. -/
theorem routeForEndpoint_ranked (policy : RoutingPolicy G) (sound : RoutingPolicy.Sound arithmetic policy)
    (profile : RoutingProfile) (endpoint : CompletionEndpoint) (request left : Value) (reading : RequestReading)
    (descriptors : List RouteDescriptor) (listed : List Candidate)
    (reaches : RoutingPolicy.Reaches arithmetic policy profile endpoint request reading left descriptors listed)
    (sort : ExplicitSort reading.parsed.preference) (compatible : listed ≠ [])
    (distinct : (listed.map Candidate.providerId).Nodup) :
    ∃ selected fallbacks after, RankedPlan reading.parsed.preference listed selected fallbacks ∧
      policy.routeForEndpoint arithmetic randomness profile endpoint request =
        .ok (RoutingPolicy.answer profile reading.parsed.canonicalModel left (some (selected,fallbacks)),after) := by
  obtain ⟨_,candidates,members⟩ := RoutingPolicy.candidates_sound arithmetic policy sound profile endpoint reading _
    descriptors reaches.known
  rw [reaches.candidates] at candidates
  cases candidates
  have available (candidate : Candidate) (member : candidate ∈ listed) : candidate.healthy = true := by
    obtain ⟨_,_,_,_,_,rfl⟩ := (members candidate).mp member
    rfl
  obtain ⟨share,window,consistent,_⟩ := RoutingPolicy.recentShare_sound arithmetic policy sound
    (profile,reading.parsed.canonicalModel)
  obtain ⟨selected,fallbacks,next,rng,ranked,chose⟩ := chooseRoutes_ranked randomness arithmetic
    reading.parsed.preference sort policy.config.policy share listed policy.state.rng compatible distinct available
    consistent
  exact ⟨selected,fallbacks,_,ranked,(RoutingPolicy.routeForEndpoint_iff _ _ _ _ _ _ _ _).mpr
    (.planned reading left descriptors listed share next (some (selected,fallbacks)) rng reaches compatible window
      chose)⟩

end Call

section Sample

def measuredZeta : List (Operation Unit) := [.observeFor .production "zeta" "vendor/model" ⟨100,10^9,10^8⟩]

def fastestReading : RequestReading := ⟨none,false,⟨"vendor/model",.throughput⟩⟩

def listedAfter (reading : RequestReading) (operations : List (Operation Unit)) : Option (List String) :=
  (RoutingPolicy.fromRegistryWithRng Decimal.exact sampleRegistry sampleConfig .empty ()).toOption.bind
    (fun policy => (policy.run Decimal.exact firstIndex operations).toOption.bind
      (fun (_,reached) => (reached.routes (.production,reading.parsed.canonicalModel)).bind
        (fun descriptors => (reached.candidates Decimal.exact .production .chat reading descriptors).toOption.map
          (fun listed => listed.map Candidate.providerId))))

end Sample

end SerenRouter
