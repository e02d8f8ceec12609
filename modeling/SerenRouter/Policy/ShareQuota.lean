import SerenRouter.Policy.RouteGuarantees

/-! The share quota over whole runs of selections: what a default selection leaves in the
window, what runs of default selections keep, and when a default selection cannot be refused. -/
namespace SerenRouter
open Kernel

/-- One request as the selection sees it: its preference, its candidates and its draw. -/
structure Selection (G : Type) where
  preference : Preference
  candidates : List Candidate
  draw : G

namespace Selection
variable {G : Type} (randomness : Randomness G) (arithmetic : Decimal.Arithmetic) (config : PolicyConfig)

/-- The plan that a selection makes, and the window after it is recorded. -/
def step (share : ShareTracker) (selection : Selection G) :
    Except Panic (Option (String × List String) × ShareTracker) := do
  let (chosen,share,_) ← chooseRoutes randomness arithmetic selection.preference config share
    selection.candidates selection.draw
  return (chosen,share)

theorem step_success (share after : ShareTracker) (selection : Selection G)
    (chosen : Option (String × List String)) :
    step randomness arithmetic config share selection = .ok (chosen,after) ↔
      ∃ next, chooseRoutes randomness arithmetic selection.preference config share selection.candidates
        selection.draw = .ok (chosen,after,next) := by
  rw [step,bind_success]
  constructor
  · rintro ⟨⟨_,_,next⟩,chose,equal⟩
    cases equal
    exact ⟨next,chose⟩
  · rintro ⟨next,chose⟩
    exact ⟨_,chose,rfl⟩

theorem step_consistent (share after : ShareTracker) (selection : Selection G)
    (chosen : Option (String × List String)) (consistent : share.Consistent)
    (stepped : step randomness arithmetic config share selection = .ok (chosen,after)) :
    after.Consistent ∧ after.capacity = share.capacity := by
  obtain ⟨next,chose⟩ := (step_success randomness arithmetic config share after selection chosen).mp stepped
  exact chooseRoutes_consistent randomness arithmetic _ config share _ _ next chosen after consistent chose

theorem step_default (share after : ShareTracker) (candidates : List Candidate) (draw : G)
    (chosen : Option (String × List String)) (consistent : share.Consistent)
    (stepped : step randomness arithmetic config share ⟨.default,candidates,draw⟩ = .ok (chosen,after)) :
    (chosen = none ∧ after = share) ∨ ∃ selected fallbacks, chosen = some (selected,fallbacks) ∧
      after.history = Window.push share.capacity share.history selected ∧
      Window.Fits share.capacity config.maxShare share.history selected := by
  obtain ⟨next,chose⟩ := (step_success randomness arithmetic config share after _ chosen).mp stepped
  rcases chooseRoutes_cases randomness arithmetic .default config share candidates draw next chosen after chose with
    refused | ⟨selected,fallbacks,rfl,recorded,_,choosable⟩
  · exact .inl refused
  · obtain ⟨candidate,member,rfl⟩ := choosable selected (by simp)
    have allowed := (((mem_choices _ _ _ _ _).mp member).2.2 rfl).2
    obtain ⟨_,same,_,_,history⟩ := share.record_consistent consistent candidate.providerId
    rw [same] at recorded
    cases recorded
    exact .inr ⟨_,fallbacks,rfl,history,(share.allowsNext_fits consistent _ _).mp allowed⟩

/-- A window that is consistent, of the given capacity, and in which every provider keeps its quota. -/
structure KeepsQuota (capacity : Nat) (share : ShareTracker) : Prop where
  consistent : share.Consistent
  size : share.capacity = capacity
  within : Window.Within config.maxShare share.history

theorem step_keepsQuota (capacity : Nat) (share after : ShareTracker) (candidates : List Candidate) (draw : G)
    (chosen : Option (String × List String)) (keeps : KeepsQuota config capacity share)
    (stepped : step randomness arithmetic config share ⟨.default,candidates,draw⟩ = .ok (chosen,after)) :
    KeepsQuota config capacity after := by
  obtain ⟨consistent,size⟩ := step_consistent randomness arithmetic config share after _ chosen keeps.consistent stepped
  refine ⟨consistent,size.trans keeps.size,?_⟩
  rcases step_default randomness arithmetic config share after candidates draw chosen keeps.consistent stepped with
    ⟨_,rfl⟩ | ⟨selected,_,_,history,fits⟩
  · exact keeps.within
  · rw [history]
    exact Window.within_push _ _ _ _ keeps.consistent.positive config.sharePositive.le keeps.consistent.bounded
      keeps.within fits

section Runs
variable (capacity : Nat) (initial share : ShareTracker) (fresh : ShareTracker.new capacity = .ok initial)
  (selections : List (Selection G)) (trace : List (Selection G × Option (String × List String)))
  (ran : Runs.run (step randomness arithmetic config) initial selections = .ok (trace,share))
include fresh

theorem fresh_keepsQuota : KeepsQuota config capacity initial := by
  unfold ShareTracker.new at fresh
  split at fresh
  · cases fresh
  · rename_i nonzero
    cases fresh
    exact ⟨(ShareTracker.new_consistent capacity (Nat.pos_of_ne_zero nonzero)).2,rfl,fun _ => by simp⟩

include ran

theorem run_consistent : share.Consistent ∧ share.capacity = capacity := by
  have start := fresh_keepsQuota config capacity initial fresh
  exact Runs.run_preserves (step randomness arithmetic config)
    (fun share => share.Consistent ∧ share.capacity = capacity)
    (fun share selection chosen after held stepped => by
      obtain ⟨consistent,size⟩ := step_consistent randomness arithmetic config share after selection chosen held.1
        stepped
      exact ⟨consistent,size.trans held.2⟩)
    initial selections trace share ⟨start.consistent,start.size⟩ ran

theorem run_keepsQuota (defaults : ∀ selection ∈ selections, selection.preference = .default) :
    KeepsQuota config capacity share := by
  have start := fresh_keepsQuota config capacity initial fresh
  clear fresh
  induction selections generalizing initial trace with
  | nil =>
    cases ran
    exact start
  | cons selection selections ih =>
    obtain ⟨chosen,next,rest,stepped,later,_⟩ := (Runs.run_cons _ _ _ _ _ _).mp ran
    obtain ⟨preference,candidates,draw⟩ := selection
    have default : preference = .default := defaults ⟨preference,candidates,draw⟩ (by simp)
    subst default
    exact ih next rest later (fun other member => defaults other (by simp [member]))
      (step_keepsQuota randomness arithmetic config capacity initial next candidates draw chosen start stepped)

end Runs

end Selection

namespace RoutingPolicy
variable {G : Type} (arithmetic : Decimal.Arithmetic) (randomness : Randomness G)

/-- The window of a key is one that a run of selections reaches from a fresh one. -/
def Selected (config : RoutingConfig) (policy : RoutingPolicy G) (key : RouteKey) : Prop :=
  ∃ initial selections trace share, ShareTracker.new config.shareWindow = .ok initial ∧
    Runs.run (Selection.step randomness arithmetic config.policy) initial selections = .ok (trace,share) ∧
    policy.recentShare key = .ok share

theorem recentShare_withShare (policy : RoutingPolicy G) (key other : RouteKey) (share : ShareTracker) (rng : G) :
    (policy.withShare key share rng).recentShare other =
      if other = key then .ok share else policy.recentShare other := by
  unfold recentShare withShare
  by_cases same : other = key
  · simp [same]
  · simp [HashMap.insert_apply,HashMap.remove_apply,same]

theorem step_selected (config : RoutingConfig) (policy after : RoutingPolicy G) (operation : Operation G)
    (result : OperationResult) (configured : policy.config = config)
    (selected : ∀ key, Selected arithmetic randomness config policy key)
    (stepped : step arithmetic randomness policy operation = .ok (result,after)) (key : RouteKey) :
    Selected arithmetic randomness config after key := by
  cases operation with
  | observeFor profile providerId canonicalSlug observation =>
    cases stepped
    exact selected key
  | routeForEndpoint draw profile endpoint request =>
    obtain ⟨answered,left,_,ended⟩ := (step_route _ _ _ _ _ _ _ _ _).mp stepped
    generalize (answered,left) = ending at ended
    cases ended with
    | unread error rejected => exact selected key
    | unknown reading rest read absent => exact selected key
    | incompatible reading rest descriptors reaches => exact selected key
    | planned reading rest descriptors listed share next chosen rng reaches compatible window chose =>
      unfold Selected
      rw [recentShare_withShare]
      by_cases same : key = (profile,reading.parsed.canonicalModel)
      · obtain ⟨initial,selections,trace,before,fresh,ran,taken⟩ := selected key
        have equal : share = before := by
          have window : policy.recentShare (profile,reading.parsed.canonicalModel) = .ok share := window
          rw [← same,taken] at window
          cases window
          rfl
        subst equal
        rw [if_pos same]
        rw [show (policy.withDraw draw).config = config from configured] at chose
        exact ⟨initial,_,_,next,fresh,Runs.run_snoc _ _ _ _ _ ⟨reading.parsed.preference,listed,draw⟩ _ _ ran
          ((Selection.step_success _ _ _ _ _ _ _).mpr ⟨rng,chose⟩),rfl⟩
      · rw [if_neg same]
        exact selected key

/-- In every reachable state the window of every key is the outcome of a run of selections. -/
theorem reached_selected (registry : Registry) (config : RoutingConfig) (rng : G) (policy reached : RoutingPolicy G)
    (built : fromRegistryWithRng arithmetic registry config .empty rng = .ok policy)
    (operations : List (Operation G)) (trace : List (Operation G × OperationResult))
    (ran : run arithmetic randomness policy operations = .ok (trace,reached)) (key : RouteKey) :
    Selected arithmetic randomness config reached key := by
  obtain ⟨configured,_,state,_⟩ := fromRegistry_fields arithmetic registry config _ rng policy built
  have fresh := (ShareTracker.new_consistent _ config.windowPositive).1
  have initial : policy.config = config ∧ ∀ key, Selected arithmetic randomness config policy key := by
    refine ⟨configured,fun key => ⟨_,[],[],_,fresh,rfl,?_⟩⟩
    simp only [recentShare,state,configured,HashMap.empty_apply,fresh]
    rfl
  exact (Runs.run_preserves (step arithmetic randomness)
    (fun policy => policy.config = config ∧ ∀ key, Selected arithmetic randomness config policy key)
    (fun policy operation result after held stepped =>
      ⟨(step_frame arithmetic randomness policy after operation result stepped).2.trans held.1,
        step_selected arithmetic randomness config policy after operation result held.1 held.2 stepped⟩)
    policy operations trace reached initial ran).2 key

end RoutingPolicy

/-- In every run, a provider keeps its quota right after a default selection of it; in a run of
default selections every provider does, and never holds more than its quota of a full
window; and a default selection with enough providers within the ceiling is never refused. -/
theorem share_quota {G : Type} (randomness : Randomness G) (arithmetic : Decimal.Arithmetic) (config : PolicyConfig)
    (capacity : Nat) (initial share : ShareTracker) (fresh : ShareTracker.new capacity = .ok initial)
    (selections : List (Selection G)) (trace : List (Selection G × Option (String × List String)))
    (ran : Runs.run (Selection.step randomness arithmetic config) initial selections = .ok (trace,share)) :
    (∀ candidates draw selected fallbacks after,
      Selection.step randomness arithmetic config share ⟨.default,candidates,draw⟩ =
        .ok (some (selected,fallbacks),after) →
      after.count selected ≤ ⌈config.maxShare * after.history.length⌉₊) ∧
    ((∀ selection ∈ selections, selection.preference = .default) → ∀ providerId,
      share.count providerId ≤ ⌈config.maxShare * share.history.length⌉₊ ∧
      share.count providerId ≤ ⌈config.maxShare * capacity⌉₊) ∧
    ∀ candidates draw (providers : List String), providers.Nodup →
      (∀ providerId ∈ providers, ∃ candidate ∈ candidates, candidate.providerId = providerId ∧
        candidate.healthy = true ∧ candidate.combinedPricePerMtok ≤ config.combinedPriceCeilingPerMtok) →
      1 ≤ providers.length * config.maxShare →
      ∃ chosen after, Selection.step randomness arithmetic config share ⟨.default,candidates,draw⟩ =
        .ok (some chosen,after) := by
  obtain ⟨consistent,size⟩ := Selection.run_consistent randomness arithmetic config capacity initial share fresh
    selections trace ran
  refine ⟨?_,?_,?_⟩
  · intro candidates draw selected fallbacks after stepped
    rcases Selection.step_default randomness arithmetic config share after candidates draw _ consistent stepped with
      ⟨refused,_⟩ | ⟨_,_,equal,history,fits⟩
    · cases refused
    · cases equal
      have kept := (Selection.step_consistent randomness arithmetic config share after _ _ consistent stepped).1
      rw [after.count_history kept,history]
      exact fits
  · intro defaults providerId
    have keeps := Selection.run_keepsQuota randomness arithmetic config capacity initial share fresh selections trace
      ran defaults
    have held := keeps.within providerId
    rw [share.count_history keeps.consistent]
    refine ⟨held,held.trans ?_⟩
    exact Window.quota_mono _ config.sharePositive.le _ _ (by have := keeps.consistent.bounded; omega)
  · intro candidates draw providers distinct offered enough
    obtain ⟨providerId,member,fits⟩ := Window.exists_fits share.capacity config.maxShare share.history providers
      consistent.positive consistent.bounded distinct enough
    obtain ⟨candidate,present,rfl,healthy,within⟩ := offered providerId member
    obtain ⟨chosen,after,next,chose,refused,_⟩ := chooseRoutes_total randomness arithmetic .default config share
      candidates draw (by simp) consistent
    have choosable := (mem_choices .default config share candidates candidate).mpr
      ⟨present,healthy,fun _ => ⟨within,(share.allowsNext_fits consistent _ _).mpr fits⟩⟩
    cases chosen with
    | none =>
      rw [refused.mp rfl] at choosable
      cases choosable
    | some both => exact ⟨both,after,(Selection.step_success _ _ _ _ _ _ _).mpr ⟨next,chose⟩⟩

def sampleCandidate (providerId : String) (priority : Nat) : Candidate :=
  ⟨providerId,Decimal.one,priority,none,true⟩

def sampleSelection : Selection Unit := ⟨.default,[sampleCandidate "alpha" 0,sampleCandidate "zeta" 1],()⟩

/-- Two providers with three fifths each of a window of two: after three selections neither
holds more than two places, and a fourth selection is not refused. -/
theorem share_quota_sample :
    ∃ trace share, Runs.run (Selection.step firstIndex Decimal.exact sampleConfig.policy) ⟨2,[],[]⟩
        (List.replicate 3 sampleSelection) = .ok (trace,share) ∧
      share.count "alpha" ≤ ⌈sampleConfig.policy.maxShare * (2 : Nat)⌉₊ ∧
      ∃ chosen after, Selection.step firstIndex Decimal.exact sampleConfig.policy share sampleSelection =
        .ok (some chosen,after) := by
  obtain ⟨⟨trace,share⟩,ran⟩ := Option.isSome_iff_exists.mp (show
    (Runs.run (Selection.step firstIndex Decimal.exact sampleConfig.policy) ⟨2,[],[]⟩
      (List.replicate 3 sampleSelection)).toOption.isSome = true by decide +kernel)
  rw [toOption_some] at ran
  obtain ⟨_,within,progress⟩ := share_quota firstIndex Decimal.exact sampleConfig.policy 2 ⟨2,[],[]⟩ share rfl _ trace
    ran
  refine ⟨trace,share,ran,(within ?_ "alpha").2,progress _ () ["alpha","zeta"] (by decide) ?_ ?_⟩
  · intro selection member
    rw [List.eq_of_mem_replicate member]
    rfl
  · have cheap : Decimal.one ≤ sampleConfig.policy.combinedPriceCeilingPerMtok := by decide +kernel
    intro providerId member
    rcases List.mem_pair.mp member with rfl | rfl
    · exact ⟨sampleCandidate "alpha" 0,by simp,rfl,rfl,cheap⟩
    · exact ⟨sampleCandidate "zeta" 1,by simp,rfl,rfl,cheap⟩
  · simp only [sampleConfig,List.length_cons,List.length_nil]
    norm_num

end SerenRouter
