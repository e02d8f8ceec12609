import SerenRouter.Policy.Ranking
import SerenRouter.Kernel.DecimalArithmetic

/-! One selection under every preference: it answers whenever a candidate may be chosen, it
answers one that may be, and its arithmetic never panics. -/
namespace SerenRouter
open Kernel

theorem le_foldl_max (weights : List ℚ) (start : ℚ) :
    start ≤ weights.foldl max start ∧ ∀ weight ∈ weights, weight ≤ weights.foldl max start := by
  induction weights generalizing start with
  | nil => simp
  | cons first weights ih =>
    obtain ⟨started,bounded⟩ := ih (max start first)
    refine ⟨(le_max_left _ _).trans started,fun weight member => ?_⟩
    rcases List.mem_cons.mp member with rfl | inside
    · exact (le_max_right _ _).trans started
    · exact bounded weight inside

theorem foldl_max_zero (weights : List ℚ) (none : ∀ weight ∈ weights, weight ≤ 0) : weights.foldl max 0 = 0 := by
  induction weights with
  | nil => rfl
  | cons first weights ih =>
    rw [List.foldl_cons,max_eq_left (none first (by simp))]
    exact ih (fun weight member => none weight (by simp [member]))

/-- A draw is possible when no weight is negative and some weight is positive, and it takes an
index of positive weight. -/
def Randomness.Weighs {G : Type} (randomness : Randomness G) : Prop :=
  ∀ weights : List ℚ, (∀ weight ∈ weights, 0 ≤ weight) → 0 < weights.sum →
    ∃ sample, randomness.weightedIndex weights = some sample ∧
      ∀ rng, ∃ weight, weights[(sample rng).1]? = some weight ∧ 0 < weight

section Draw
variable {G : Type} (randomness : Randomness G)

theorem weightedPick_weighs (weighs : randomness.Weighs) (weight : Candidate → ℚ) (candidates : List Candidate)
    (nonnegative : ∀ candidate ∈ candidates, 0 ≤ weight candidate)
    (positive : ∃ candidate ∈ candidates, 0 < weight candidate) (rng : G) :
    ∃ picked ∈ candidates, 0 < weight picked ∧
      ∃ next, weightedPick randomness candidates (candidates.map weight) rng = (some picked,next) := by
  obtain ⟨candidate,member,heavy⟩ := positive
  have largest : 0 < (candidates.map weight).foldl max 0 :=
    lt_of_lt_of_le heavy ((le_foldl_max _ 0).2 _ (List.mem_map_of_mem member))
  unfold weightedPick
  rw [if_neg (not_le.mpr largest),List.map_map]
  generalize (candidates.map weight).foldl max 0 = most at largest
  have scaled : ∀ normalized ∈ candidates.map ((fun weight => weight / most) ∘ weight), 0 ≤ normalized := by
    intro normalized listed
    obtain ⟨other,present,rfl⟩ := List.mem_map.mp listed
    exact div_nonneg (nonnegative other present) largest.le
  have total : 0 < (candidates.map ((fun weight => weight / most) ∘ weight)).sum :=
    lt_of_lt_of_le (div_pos heavy largest)
      (List.single_le_sum scaled _ (List.mem_map.mpr ⟨candidate,member,rfl⟩))
  obtain ⟨sample,built,draws⟩ := weighs _ scaled total
  obtain ⟨drawn,found,some⟩ := draws rng
  rw [List.getElem?_map,Option.map_eq_some_iff] at found
  obtain ⟨picked,found,rfl⟩ := found
  rw [built]
  refine ⟨picked,List.mem_of_getElem? found,?_,(sample rng).2,by dsimp only; rw [found]⟩
  exact (div_pos_iff_of_pos_right largest).mp some

theorem weightedPick_weightless (weight : Candidate → ℚ) (candidates : List Candidate)
    (weightless : ∀ candidate ∈ candidates, weight candidate ≤ 0) (rng : G) :
    weightedPick randomness candidates (candidates.map weight) rng = (none,rng) := by
  have none : (candidates.map weight).foldl max 0 = 0 := by
    apply foldl_max_zero
    intro weight listed
    obtain ⟨candidate,member,rfl⟩ := List.mem_map.mp listed
    exact weightless candidate member
  simp [weightedPick,none]

end Draw

section Default

theorem throughput_pos (candidate : Candidate) (measured : ℚ) (found : throughput candidate = some measured) :
    0 < measured := by
  simpa using (Option.filter_eq_some_iff.mp found).2

theorem defaultWeight_pos (config : PolicyConfig) (incumbent : Option Candidate) (candidate : Candidate) :
    (throughput candidate = none → defaultWeight config incumbent candidate = 0) ∧
    (throughput candidate ≠ none → 0 < defaultWeight config incumbent candidate) := by
  unfold defaultWeight
  cases measured : throughput candidate with
  | none => simp
  | some candidateThroughput =>
    refine ⟨by simp,fun _ => ?_⟩
    have positive := throughput_pos candidate candidateThroughput measured
    dsimp only
    split
    · exact positive
    · rename_i incumbentThroughput found
      obtain ⟨other,_,measured⟩ := Option.bind_eq_some_iff.mp found
      split
      · exact throughput_pos other incumbentThroughput measured
      · exact positive

/-- A candidate that no other precedes in priority and provider id. -/
def FirstInPriority (candidates : List Candidate) (first : Candidate) : Prop :=
  first ∈ candidates ∧ ∀ other ∈ candidates, ¬ Precedes other first

theorem strictPriority_first (candidates : List Candidate) (first : Candidate)
    (found : strictPriority candidates = some first) : FirstInPriority candidates first := by
  refine ⟨minBy_mem _ _ first found,fun other member => ?_⟩
  rw [← comparePriority_lt]
  exact Std.OrientedCmp.not_lt_of_isLE (minBy_least comparePriority candidates first found other member)

variable {G : Type} (randomness : Randomness G)

theorem selectDefault_measured (weighs : randomness.Weighs) (candidates : List Candidate) (config : PolicyConfig)
    (recentShare : ShareTracker) (rng : G) (selected : Candidate)
    (chosen : (selectDefault randomness candidates config recentShare rng).1 = some selected)
    (unmeasured : throughput selected = none) :
    (∀ candidate ∈ eligible candidates config recentShare, throughput candidate = none) ∧
      FirstInPriority (eligible candidates config recentShare) selected := by
  unfold selectDefault at chosen
  dsimp only at chosen
  generalize recentShare.incumbentProviderId.bind _ = incumbent at chosen
  have weightless (candidate : Candidate) := (defaultWeight_pos config incumbent candidate).1
  have heavy (candidate : Candidate) := (defaultWeight_pos config incumbent candidate).2
  by_cases cold : ∀ candidate ∈ eligible candidates config recentShare, throughput candidate = none
  · rw [weightedPick_weightless randomness (defaultWeight config incumbent) _
      (fun candidate member => (weightless candidate (cold candidate member)).le)] at chosen
    exact ⟨cold,strictPriority_first _ selected chosen⟩
  · push Not at cold
    obtain ⟨candidate,member,measured⟩ := cold
    obtain ⟨picked,_,weight,next,drawn⟩ := weightedPick_weighs randomness weighs (defaultWeight config incumbent)
      (eligible candidates config recentShare) (fun other _ => by
        cases measured : throughput other with
        | none => exact (weightless other measured).ge
        | some _ => exact (heavy other (by simp [measured])).le)
      ⟨candidate,member,heavy candidate measured⟩ rng
    rw [drawn] at chosen
    cases chosen
    exact absurd (weightless selected unmeasured) weight.ne'

end Default

/-- What `Candidate::new` answers. -/
def Candidate.Accepted (arithmetic : Decimal.Arithmetic) (candidate : Candidate) : Prop :=
  ∃ providerId input output priority measurements healthy,
    Candidate.new arithmetic providerId input output priority measurements healthy = .ok candidate

theorem Candidate.Accepted.price (arithmetic : Decimal.Arithmetic) (signed : arithmetic.Signed) (candidate : Candidate)
    (accepted : candidate.Accepted arithmetic) : Decimal.zero ≤ candidate.combinedPricePerMtok := by
  obtain ⟨_,input,output,_,_,_,built⟩ := accepted
  obtain ⟨inputs,outputs,_,combined,added,rfl⟩ := (Candidate.new_success _ _ _ _ _ _ _ _).mp built
  exact signed.add input output combined ((Decimal.not_lt_iff _ _).mp inputs) ((Decimal.not_lt_iff _ _).mp outputs)
    added

section Balanced
variable {G : Type} (randomness : Randomness G) (arithmetic : Decimal.Arithmetic)

instance cmp_trans : Std.TransCmp Decimal.cmp :=
  inferInstanceAs (Std.TransCmp (compareOn Decimal.value))

theorem isZero_iff (price : Decimal) : price.isZero = true ↔ price.value = 0 := by
  have power : (10 : ℚ)^price.scale ≠ 0 := by positivity
  rw [Decimal.isZero,beq_iff_eq,Decimal.value]
  split <;> simp

/-- The weight of a price against a cheapest one is a square, and one for the cheapest itself. -/
theorem balancedWeight_total (signed : arithmetic.Signed) (faithful : arithmetic.Faithful)
    (ratios : arithmetic.Ratios) (cheapest : Decimal) (candidate : Candidate) (positive : Decimal.zero < cheapest)
    (least : cheapest ≤ candidate.combinedPricePerMtok) :
    ∃ weight, balancedWeight arithmetic cheapest candidate = .ok weight ∧ 0 ≤ weight ∧
      (candidate.combinedPricePerMtok = cheapest → 0 < weight) := by
  have nonzero : cheapest.value ≠ 0 := by
    rw [Decimal.lt_def,Decimal.value_zero] at positive
    exact positive.ne'
  have nonnegative : Decimal.zero ≤ cheapest := le_of_lt (α := ℚ) positive
  obtain ⟨ratio,divided⟩ := ratios.div cheapest candidate.combinedPricePerMtok positive least
  obtain ⟨number,converted,square,whole⟩ := ratios.toF64 ratio
    (signed.div _ _ ratio nonnegative (le_trans (α := ℚ) nonnegative least) divided)
  refine ⟨number * number,by simp [balancedWeight,divided,converted],mul_nonneg square square,fun same => ?_⟩
  obtain ⟨quotient,found,one⟩ := faithful.div cheapest cheapest Decimal.one nonzero
    (by rw [Decimal.value_one,div_self nonzero])
  rw [same,found] at divided
  cases divided
  rw [whole (one.trans Decimal.value_one)]
  norm_num

theorem balancedWeights_total (signed : arithmetic.Signed) (faithful : arithmetic.Faithful)
    (ratios : arithmetic.Ratios) (available : List Candidate) (cheap : Candidate) (member : cheap ∈ available)
    (positive : Decimal.zero < cheap.combinedPricePerMtok)
    (least : ∀ candidate ∈ available, cheap.combinedPricePerMtok ≤ candidate.combinedPricePerMtok) :
    ∃ weight : Candidate → ℚ, available.mapM (balancedWeight arithmetic cheap.combinedPricePerMtok) =
        .ok (available.map weight) ∧
      (∀ candidate ∈ available, 0 ≤ weight candidate) ∧ 0 < weight cheap := by
  have weighed (candidate : Candidate) (present : candidate ∈ available) :=
    balancedWeight_total arithmetic signed faithful ratios _ candidate positive (least candidate present)
  let weight (candidate : Candidate) : ℚ :=
    (balancedWeight arithmetic cheap.combinedPricePerMtok candidate).toOption.getD 0
  refine ⟨weight,mapM_pure _ _ _ (fun candidate present => ?_),fun candidate present => ?_,?_⟩
  · obtain ⟨number,computed,_⟩ := weighed candidate present
    simp [weight,computed,Except.toOption]
  · obtain ⟨number,computed,square,_⟩ := weighed candidate present
    simpa [weight,computed,Except.toOption] using square
  · obtain ⟨number,computed,_,heavy⟩ := weighed cheap member
    simpa [weight,computed,Except.toOption] using heavy rfl

/-- Balancing answers whenever a candidate is healthy, and a paid one only when none is free. -/
theorem selectBalanced_sound (signed : arithmetic.Signed) (faithful : arithmetic.Faithful)
    (ratios : arithmetic.Ratios) (weighs : randomness.Weighs) (candidates : List Candidate)
    (accepted : ∀ candidate ∈ candidates, candidate.Accepted arithmetic) (rng : G) :
    ∃ selected next, selectBalanced randomness arithmetic candidates rng = .ok (selected,next) ∧
      (selected = none ↔ healthy candidates = []) ∧
      ∀ chosen, selected = some chosen → chosen ∈ healthy candidates ∧
        (chosen.combinedPricePerMtok.isZero = false →
          ∀ candidate ∈ healthy candidates, candidate.combinedPricePerMtok.isZero = false) := by
  have prices : ∀ candidate ∈ healthy candidates, Decimal.zero ≤ candidate.combinedPricePerMtok :=
    fun candidate member => (accepted candidate (List.mem_filter.mp member).1).price arithmetic signed
  unfold selectBalanced
  generalize healthy candidates = available at prices
  dsimp only
  cases free : available.filter (fun candidate => candidate.combinedPricePerMtok.isZero) with
  | cons first rest =>
    have listed : first ∈ available.filter (fun candidate => candidate.combinedPricePerMtok.isZero) := by simp [free]
    obtain ⟨picked,member,_,next,drawn⟩ := weightedPick_weighs randomness weighs (fun _ => 1) (first :: rest)
      (fun _ _ => by norm_num) ⟨first,by simp,by norm_num⟩ rng
    rw [List.map_const'] at drawn
    have present : picked ∈ available ∧ picked.combinedPricePerMtok.isZero = true := by
      rw [← free] at member
      exact List.mem_filter.mp member
    refine ⟨some picked,next,by simpa using drawn,?_,?_⟩
    · simp only [reduceCtorEq,false_iff]
      exact List.ne_nil_of_mem present.1
    · intro chosen equal
      cases equal
      exact ⟨present.1,fun paid => absurd present.2 (by simp [paid])⟩
  | nil =>
    have paid : ∀ candidate ∈ available, candidate.combinedPricePerMtok.isZero = false := by
      simpa using free
    simp only [List.isEmpty_nil,Bool.not_true,Bool.false_eq_true,if_false]
    cases found : minBy Decimal.cmp (available.map Candidate.combinedPricePerMtok) with
    | none => exact ⟨none,rng,rfl,by simpa using (minBy_none _ _).mp found,by simp⟩
    | some cheapest =>
      obtain ⟨cheap,member,rfl⟩ := List.mem_map.mp (minBy_mem _ _ cheapest found)
      have least : ∀ candidate ∈ available, cheap.combinedPricePerMtok ≤ candidate.combinedPricePerMtok := by
        intro candidate present
        have below := minBy_least Decimal.cmp _ _ found _ (List.mem_map_of_mem present)
        rw [Decimal.le_def]
        exact compare_le_iff_le.mp (Ordering.isLE_iff_ne_gt.mp below)
      have positive : Decimal.zero < cheap.combinedPricePerMtok := by
        have nonzero : cheap.combinedPricePerMtok.value ≠ 0 := fun zero => by
          simpa [(isZero_iff _).mpr zero] using paid cheap member
        have nonnegative := prices cheap member
        rw [Decimal.le_def,Decimal.value_zero] at nonnegative
        rw [Decimal.lt_def,Decimal.value_zero]
        exact lt_of_le_of_ne nonnegative nonzero.symm
      obtain ⟨weight,weights,nonnegative,heavy⟩ := balancedWeights_total arithmetic signed faithful ratios available cheap
        member positive least
      obtain ⟨picked,present,_,next,drawn⟩ := weightedPick_weighs randomness weighs weight available nonnegative
        ⟨cheap,member,heavy⟩ rng
      refine ⟨some picked,next,by simp [weights,drawn],?_,?_⟩
      · simp only [reduceCtorEq,false_iff]
        exact List.ne_nil_of_mem present
      · intro chosen equal
        cases equal
        exact ⟨present,fun _ => paid⟩

end Balanced

/-- A selection refuses exactly when nothing may be chosen, and otherwise answers one of the
choices; an unmeasured or a paid one only when there is no measured or free one. -/
theorem selects_choices {G : Type} (randomness : Randomness G) (weighs : randomness.Weighs)
    (arithmetic : Decimal.Arithmetic) (signed : arithmetic.Signed) (faithful : arithmetic.Faithful)
    (ratios : arithmetic.Ratios) (candidates : List Candidate)
    (accepted : ∀ candidate ∈ candidates, candidate.Accepted arithmetic) (preference : Preference)
    (config : PolicyConfig) (recentShare : ShareTracker) (rng : G) :
    ∃ selected next, selectRoute randomness arithmetic candidates preference config recentShare rng =
        .ok (selected,next) ∧
      (selected = none ↔ choices preference config recentShare candidates = []) ∧
      (∀ chosen, selected = some chosen → chosen ∈ choices preference config recentShare candidates ∧
        (preference = .default → throughput chosen = none →
          (∀ candidate ∈ eligible candidates config recentShare, throughput candidate = none) ∧
            FirstInPriority (eligible candidates config recentShare) chosen) ∧
        (preference = .balanced → chosen.combinedPricePerMtok.isZero = false →
          ∀ candidate ∈ healthy candidates, candidate.combinedPricePerMtok.isZero = false)) ∧
      (recentShare.capacity < 2^64 → ∃ quota, recentShare.quota config.maxShare = some quota) := by
  have word (usize : recentShare.capacity < 2^64) : ∃ quota, recentShare.quota config.maxShare = some quota := by
    obtain ⟨quota,fits,_⟩ := recentShare.quota_fits config.maxShare usize config.sharePositive config.shareBounded
    exact ⟨quota,fits⟩
  by_cases balanced : preference = .balanced
  · subst balanced
    obtain ⟨selected,next,ran,refused,sound⟩ := selectBalanced_sound randomness arithmetic signed faithful ratios weighs
      candidates accepted rng
    exact ⟨selected,next,ran,refused,fun chosen equal => ⟨(sound chosen equal).1,by simp,
      fun _ => (sound chosen equal).2⟩,word⟩
  · obtain ⟨selected,next,ran⟩ :=
      selectRoute_total randomness arithmetic preference config recentShare candidates rng balanced
    refine ⟨selected,next,ran,selectRoute_none randomness arithmetic preference config recentShare candidates rng next
      balanced selected ran,fun chosen equal => ?_,word⟩
    subst equal
    refine ⟨selectRoute_choices randomness arithmetic preference config recentShare candidates rng next chosen ran,
      fun default unmeasured => ?_,fun same => absurd same balanced⟩
    subst default
    exact selectDefault_measured randomness weighs candidates config recentShare rng chosen
      (congrArg Prod.fst (Except.ok.inj ran)) unmeasured

theorem firstIndex_weighs : firstIndex.Weighs := by
  intro weights nonnegative total
  obtain ⟨weight,member,positive⟩ : ∃ weight ∈ weights, 0 < weight := by
    by_contra none
    push Not at none
    exact absurd (List.sum_eq_zero (fun weight member => le_antisymm (none weight member) (nonnegative weight member)))
      total.ne'
  have within : weights.findIdx (fun weight => 0 < weight) < weights.length :=
    List.findIdx_lt_length.mpr ⟨weight,member,by simpa using positive⟩
  refine ⟨fun rng => (weights.findIdx (fun weight => 0 < weight),rng),?_,fun _ => ?_⟩
  · refine if_pos ?_
    rw [Bool.and_eq_true,List.all_eq_true,List.any_eq_true]
    exact ⟨fun other listed => by simpa using nonnegative other listed,weight,member,by simpa using positive⟩
  · exact ⟨_,List.getElem?_eq_getElem within,by simpa using List.findIdx_getElem (w := within)⟩

def pricedCandidate (providerId : String) (price : Decimal) (measurements : Option ModelMeasurements) : Candidate :=
  ⟨providerId,price,0,measurements,true⟩

theorem pricedCandidate_accepted (providerId : String) (price : Decimal) (nonnegative : ¬ price < Decimal.zero)
    (added : Decimal.exact.add price Decimal.zero = some price) :
    (pricedCandidate providerId price none).Accepted Decimal.exact :=
  ⟨providerId,price,Decimal.zero,0,none,true,(Candidate.new_success _ _ _ _ _ _ _ _).mpr
    ⟨nonnegative,by decide +kernel,by simp,price,added,rfl⟩⟩

theorem selects_choices_sample :
    ∃ chosen next, selectRoute firstIndex Decimal.exact
        [pricedCandidate "alpha" Decimal.one none,pricedCandidate "beta" Decimal.zero none] .balanced
        sampleConfig.policy ⟨100,[],[]⟩ () = .ok (some chosen,next) ∧
      chosen.combinedPricePerMtok.isZero = true := by
  obtain ⟨selected,next,ran,refused,sound,_⟩ := selects_choices firstIndex firstIndex_weighs Decimal.exact
    Decimal.exact_signed Decimal.exact_faithful Decimal.exact_ratios
    [pricedCandidate "alpha" Decimal.one none,pricedCandidate "beta" Decimal.zero none]
    (by
      simp only [List.forall_mem_cons,List.not_mem_nil,false_implies,implies_true,and_true]
      exact ⟨pricedCandidate_accepted _ _ (by decide +kernel) (by decide +kernel),
        pricedCandidate_accepted _ _ (by decide +kernel) (by decide +kernel)⟩)
    .balanced sampleConfig.policy ⟨100,[],[]⟩ ()
  cases selected with
  | none => exact absurd (refused.mp rfl) (by simp [choices,healthy,pricedCandidate])
  | some chosen =>
    refine ⟨chosen,next,ran,?_⟩
    by_contra paid
    have free := (sound chosen rfl).2.2 rfl (by simpa using paid)
      (pricedCandidate "beta" Decimal.zero none) (by simp [healthy,pricedCandidate])
    cases free

end SerenRouter
