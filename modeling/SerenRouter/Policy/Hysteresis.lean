import SerenRouter.Policy.SelectGuarantees

/-! Hysteresis of the default preference: the measurements that a challenger of the incumbent
may take without moving the selection, and its weight as a function of its throughput. -/
namespace SerenRouter
open Kernel

namespace Candidate

/-- The candidate with another measured throughput. -/
def withThroughput (candidate : Candidate) (throughput : ℚ) : Candidate :=
  { candidate with measurements := candidate.measurements.map (fun measured =>
      { measured with throughputTokensPerSecond := throughput }) }

end Candidate

/-- Another measured throughput for the candidate of one provider. -/
def remeasured (providerId : String) (throughput : ℚ) (candidate : Candidate) : Candidate :=
  if candidate.providerId = providerId then candidate.withThroughput throughput else candidate

/-- The incumbent of the window, when it is eligible. -/
def eligibleIncumbent (candidates : List Candidate) (config : PolicyConfig) (recentShare : ShareTracker) :
    Option Candidate :=
  recentShare.incumbentProviderId.bind (fun providerId =>
    (eligible candidates config recentShare).find? (fun candidate => candidate.providerId == providerId))

/-- A default selection among given candidates with given weights. -/
def drawDefault {G : Type} (randomness : Randomness G) (candidates : List Candidate) (weights : List ℚ) (rng : G) :
    Option Candidate × G :=
  ((weightedPick randomness candidates weights rng).1.or (strictPriority candidates),
    (weightedPick randomness candidates weights rng).2)

/-- A map of candidates that keeps everything but the measurements. -/
def KeepsRoute (change : Candidate → Candidate) : Prop :=
  ∀ candidate, ∃ measurements, change candidate = { candidate with measurements := measurements }

theorem remeasured_keeps (providerId : String) (throughput : ℚ) : KeepsRoute (remeasured providerId throughput) := by
  intro candidate
  unfold remeasured
  split
  · exact ⟨_,rfl⟩
  · exact ⟨candidate.measurements,rfl⟩

theorem minBy_map {α β : Type} (cmp : β → β → Ordering) (change : α → β) (items : List α) :
    minBy cmp (items.map change) =
      (minBy (fun left right => cmp (change left) (change right)) items).map change := by
  cases items with
  | nil => rfl
  | cons first rest =>
    simp only [minBy,List.map_cons,Option.map_some,List.foldl_map]
    congr 1
    induction rest generalizing first with
    | nil => rfl
    | cons next rest ih =>
      rw [List.foldl_cons,List.foldl_cons,← ih]
      split <;> rfl

section Change
variable (change : Candidate → Candidate) (keeps : KeepsRoute change) (candidates : List Candidate)
  (config : PolicyConfig) (recentShare : ShareTracker)
include keeps

theorem KeepsRoute.providerId (candidate : Candidate) : (change candidate).providerId = candidate.providerId := by
  obtain ⟨_,changed⟩ := keeps candidate
  rw [changed]

theorem eligible_map : eligible (candidates.map change) config recentShare =
    (eligible candidates config recentShare).map change := by
  unfold eligible healthy
  rw [List.filter_map,List.filter_map]
  congr 1
  have same (candidate : Candidate) : (change candidate).healthy = candidate.healthy ∧
      (change candidate).combinedPricePerMtok = candidate.combinedPricePerMtok := by
    obtain ⟨_,changed⟩ := keeps candidate
    rw [changed]
    exact ⟨rfl,rfl⟩
  simp only [Function.comp_def,(same _).1,(same _).2,keeps.providerId]

theorem eligibleIncumbent_map : eligibleIncumbent (candidates.map change) config recentShare =
    (eligibleIncumbent candidates config recentShare).map change := by
  unfold eligibleIncumbent
  rw [eligible_map change keeps]
  cases recentShare.incumbentProviderId with
  | none => rfl
  | some incumbent =>
    simp only [Option.bind_some,List.find?_map,Function.comp_def,keeps.providerId]

theorem drawDefault_map {G : Type} (randomness : Randomness G) (weights : List ℚ) (rng : G) :
    drawDefault randomness (candidates.map change) weights rng =
      ((drawDefault randomness candidates weights rng).1.map change,
        (drawDefault randomness candidates weights rng).2) := by
  have priority : strictPriority (candidates.map change) = (strictPriority candidates).map change := by
    unfold strictPriority
    rw [minBy_map]
    congr 2
    funext left right
    obtain ⟨_,changedLeft⟩ := keeps left
    obtain ⟨_,changedRight⟩ := keeps right
    rw [changedLeft,changedRight]
    rfl
  unfold drawDefault weightedPick
  dsimp only
  rw [priority]
  split
  · simp
  split
  · simp
  · rename_i sample _
    cases found : candidates[(sample rng).1]? <;> simp [found]

end Change

theorem selectDefault_draw {G : Type} (randomness : Randomness G) (candidates : List Candidate)
    (config : PolicyConfig) (recentShare : ShareTracker) (rng : G) :
    selectDefault randomness candidates config recentShare rng =
      drawDefault randomness (eligible candidates config recentShare) ((eligible candidates config recentShare).map
        (defaultWeight config (eligibleIncumbent candidates config recentShare))) rng := rfl

theorem selectDefault_same {G : Type} (randomness : Randomness G) (candidates : List Candidate)
    (config : PolicyConfig) (recentShare : ShareTracker) (first second : Candidate → Candidate)
    (keepsFirst : KeepsRoute first) (keepsSecond : KeepsRoute second)
    (weights : ∀ candidate ∈ eligible candidates config recentShare,
      defaultWeight config ((eligibleIncumbent candidates config recentShare).map first) (first candidate) =
        defaultWeight config ((eligibleIncumbent candidates config recentShare).map second) (second candidate))
    (rng : G) : ∃ (picked : Option Candidate) (next : G),
      selectDefault randomness (candidates.map first) config recentShare rng = (picked.map first,next) ∧
      selectDefault randomness (candidates.map second) config recentShare rng = (picked.map second,next) := by
  have weighed := List.map_congr_left weights
  rw [selectDefault_draw,selectDefault_draw,eligibleIncumbent_map first keepsFirst,
    eligibleIncumbent_map second keepsSecond,eligible_map first keepsFirst,eligible_map second keepsSecond,
    List.map_map,List.map_map,drawDefault_map first keepsFirst,drawDefault_map second keepsSecond]
  simp only [Function.comp_def,weighed]
  exact ⟨_,_,rfl,rfl⟩

theorem throughput_withThroughput (candidate : Candidate) (measured : ℚ) :
    throughput (candidate.withThroughput measured) =
      if candidate.measurements.isSome ∧ 0 < measured then some measured else none := by
  unfold throughput Candidate.withThroughput
  cases candidate.measurements with
  | none => simp
  | some _ => simp [Option.filter]

/-- A measured throughput in the hysteresis band above that of the incumbent. -/
def InBand (config : PolicyConfig) (incumbent measured : ℚ) : Prop :=
  incumbent < measured ∧ measured ≤ incumbent * (1 + config.hysteresisFraction)

theorem defaultWeight_band (config : PolicyConfig) (holder candidate : Candidate) (incumbent measured : ℚ)
    (held : throughput holder = some incumbent) (other : candidate.providerId ≠ holder.providerId)
    (band : InBand config incumbent measured) :
    defaultWeight config (some holder) (candidate.withThroughput measured) =
      if candidate.measurements.isSome then incumbent else 0 := by
  have positive : 0 < measured := (throughput_pos holder incumbent held).trans band.1
  have within : measured ≤ incumbent + incumbent * config.hysteresisFraction := by linarith [band.2]
  have named : (candidate.withThroughput measured).providerId = candidate.providerId := rfl
  unfold defaultWeight
  rw [throughput_withThroughput]
  cases candidate.measurements with
  | none => simp
  | some _ => simp [positive,held,named,Ne.symm other,band.1,within]

/-- A challenger weighs its own throughput, or the incumbent's within the band. -/
theorem defaultWeight_challenger (config : PolicyConfig) (incumbent : Option Candidate) (candidate : Candidate)
    (other : ∀ holder, incumbent = some holder → candidate.providerId ≠ holder.providerId) (slow fast : ℚ)
    (nonnegative : 0 ≤ slow) (ordered : slow ≤ fast) :
    defaultWeight config incumbent (candidate.withThroughput slow) ≤
        defaultWeight config incumbent (candidate.withThroughput fast) ∧
      defaultWeight config incumbent (candidate.withThroughput slow) ≤ slow := by
  have never (measured : ℚ) : 0 ≤ defaultWeight config incumbent (candidate.withThroughput measured) := by
    have weight := defaultWeight_pos config incumbent (candidate.withThroughput measured)
    by_cases unmeasured : throughput (candidate.withThroughput measured) = none
    · exact (weight.1 unmeasured).ge
    · exact (weight.2 unmeasured).le
  by_cases moving : candidate.measurements.isSome ∧ 0 < slow
  · have faster : candidate.measurements.isSome ∧ 0 < fast := ⟨moving.1,moving.2.trans_le ordered⟩
    simp only [defaultWeight,throughput_withThroughput,if_pos moving,if_pos faster]
    cases held : incumbent.bind throughput with
    | none => exact ⟨ordered,le_refl slow⟩
    | some incumbentThroughput =>
      obtain ⟨holder,rfl,_⟩ := Option.bind_eq_some_iff.mp held
      have challenger : holder.providerId != candidate.providerId := by simpa using (other holder rfl).symm
      simp only [Candidate.withThroughput,Option.any_some,challenger,true_and]
      -- Below the band, inside it and above it, for each of the two throughputs.
      split <;> split <;> constructor <;> grind
  · have still : defaultWeight config incumbent (candidate.withThroughput slow) = 0 :=
      (defaultWeight_pos config incumbent _).1 (by rw [throughput_withThroughput,if_neg moving])
    rw [still]
    exact ⟨never fast,nonnegative⟩

/-- The weight that a selection gives a candidate. -/
def effectiveWeight (candidates : List Candidate) (config : PolicyConfig) (recentShare : ShareTracker)
    (candidate : Candidate) : ℚ :=
  defaultWeight config (eligibleIncumbent candidates config recentShare) candidate

theorem eligibleIncumbent_id (candidates : List Candidate) (config : PolicyConfig) (recentShare : ShareTracker)
    (holder : Candidate) (found : eligibleIncumbent candidates config recentShare = some holder) :
    holder ∈ eligible candidates config recentShare ∧
      recentShare.incumbentProviderId = some holder.providerId := by
  obtain ⟨providerId,incumbent,found⟩ := Option.bind_eq_some_iff.mp found
  have same : holder.providerId = providerId := by simpa using List.find?_some found
  exact ⟨List.mem_of_find?_eq_some found,same ▸ incumbent⟩

theorem eligibleIncumbent_some (candidates : List Candidate)
    (distinct : (candidates.map Candidate.providerId).Nodup) (config : PolicyConfig) (recentShare : ShareTracker)
    (holder : Candidate) (member : holder ∈ eligible candidates config recentShare)
    (incumbent : recentShare.incumbentProviderId = some holder.providerId) :
    eligibleIncumbent candidates config recentShare = some holder := by
  have listed (candidate : Candidate) (present : candidate ∈ eligible candidates config recentShare) :
      candidate ∈ candidates :=
    ((mem_healthy _ _).mp ((mem_eligible _ _ _ _).mp present).1).1
  cases found : eligibleIncumbent candidates config recentShare with
  | none =>
    rw [eligibleIncumbent,incumbent,Option.bind_some,List.find?_eq_none] at found
    simpa using found holder member
  | some other =>
    obtain ⟨present,same⟩ := eligibleIncumbent_id candidates config recentShare other found
    rw [incumbent,Option.some.injEq] at same
    rw [List.inj_on_of_nodup_map distinct (listed other present) (listed holder member) same.symm]

/-- Noise in the band above the incumbent moves no selection, and the weight of a challenger
never falls as its throughput grows and never exceeds it. -/
theorem hysteresis_suppresses_noise {G : Type} (randomness : Randomness G) (arithmetic : Decimal.Arithmetic)
    (candidates : List Candidate) (distinct : (candidates.map Candidate.providerId).Nodup) (config : PolicyConfig)
    (recentShare : ShareTracker) :
    (∀ holder ∈ eligible candidates config recentShare, recentShare.incumbentProviderId = some holder.providerId →
      ∀ incumbent, throughput holder = some incumbent → ∀ providerId, providerId ≠ holder.providerId →
      ∀ first second, InBand config incumbent first → InBand config incumbent second → ∀ rng : G,
      ∃ selected other next,
        selectRoute randomness arithmetic (candidates.map (remeasured providerId first)) .default config recentShare
          rng = .ok (selected,next) ∧
        selectRoute randomness arithmetic (candidates.map (remeasured providerId second)) .default config recentShare
          rng = .ok (other,next) ∧
        selected.map Candidate.providerId = other.map Candidate.providerId) ∧
    (∀ candidate ∈ candidates, recentShare.incumbentProviderId ≠ some candidate.providerId →
      ∀ slow fast, 0 ≤ slow → slow ≤ fast →
        effectiveWeight (candidates.map (remeasured candidate.providerId slow)) config recentShare
            (candidate.withThroughput slow) ≤
          effectiveWeight (candidates.map (remeasured candidate.providerId fast)) config recentShare
            (candidate.withThroughput fast) ∧
        effectiveWeight (candidates.map (remeasured candidate.providerId slow)) config recentShare
            (candidate.withThroughput slow) ≤ slow) := by
  constructor
  · intro holder member held incumbent measured providerId other first second firstBand secondBand rng
    have found := eligibleIncumbent_some candidates distinct config recentShare holder member held
    have unchanged (throughput : ℚ) : remeasured providerId throughput holder = holder := if_neg (Ne.symm other)
    obtain ⟨picked,next,left,right⟩ := selectDefault_same randomness candidates config recentShare
      (remeasured providerId first) (remeasured providerId second) (remeasured_keeps providerId first)
      (remeasured_keeps providerId second) (fun candidate _ => by
        rw [found,Option.map_some,Option.map_some,unchanged,unchanged]
        unfold remeasured
        split
        · rename_i same
          rw [defaultWeight_band config holder candidate incumbent first measured (same ▸ other) firstBand,
            defaultWeight_band config holder candidate incumbent second measured (same ▸ other) secondBand]
        · rfl) rng
    refine ⟨_,_,next,congrArg Except.ok left,congrArg Except.ok right,?_⟩
    cases picked with
    | none => rfl
    | some picked =>
      simp only [Option.map_some,(remeasured_keeps providerId _).providerId]
  · intro candidate _ challenger slow fast nonnegative ordered
    have others (holder : Candidate) (found : eligibleIncumbent candidates config recentShare = some holder) :
        candidate.providerId ≠ holder.providerId := fun same =>
      challenger (same ▸ (eligibleIncumbent_id candidates config recentShare holder found).2)
    have still (throughput : ℚ) :
        eligibleIncumbent (candidates.map (remeasured candidate.providerId throughput)) config recentShare =
          eligibleIncumbent candidates config recentShare := by
      rw [eligibleIncumbent_map _ (remeasured_keeps _ _)]
      cases found : eligibleIncumbent candidates config recentShare with
      | none => rfl
      | some holder => exact congrArg some (if_neg (others holder found).symm)
    unfold effectiveWeight
    rw [still,still]
    exact defaultWeight_challenger config _ candidate others slow fast nonnegative ordered

/-- The candidates of an incumbent and a challenger, and a window with one selection. -/
def sampleRivals : List Candidate :=
  [pricedCandidate "alpha" Decimal.one (some ⟨10,1⟩),pricedCandidate "beta" Decimal.one (some ⟨20,1⟩)]

def sampleShare : ShareTracker := ⟨100,["alpha"],[("alpha",1)]⟩

theorem hysteresis_suppresses_noise_sample :
    ∃ selected other next,
      selectRoute firstIndex Decimal.exact (sampleRivals.map (remeasured "beta" (21 / 2))) .default
        sampleConfig.policy sampleShare () = .ok (selected,next) ∧
      selectRoute firstIndex Decimal.exact (sampleRivals.map (remeasured "beta" 11)) .default
        sampleConfig.policy sampleShare () = .ok (other,next) ∧
      selected.map Candidate.providerId = other.map Candidate.providerId := by
  have band (measured : ℚ) (above : 10 < measured) (within : measured ≤ 11) :
      InBand sampleConfig.policy 10 measured := by
    refine ⟨above,within.trans ?_⟩
    norm_num [sampleConfig]
  exact (hysteresis_suppresses_noise firstIndex Decimal.exact sampleRivals (by decide) sampleConfig.policy
    sampleShare).1 (pricedCandidate "alpha" Decimal.one (some ⟨10,1⟩))
    ((mem_eligible _ _ _ _).mpr ⟨(mem_healthy _ _).mpr ⟨by simp [sampleRivals],rfl⟩,by decide +kernel,
      by decide +kernel⟩)
    (by decide +kernel) 10 (by decide +kernel) "beta" (by decide) (21 / 2) 11
    (band _ (by norm_num) (by norm_num)) (band _ (by norm_num) (by norm_num)) ()

end SerenRouter
