import SerenRouter.Policy.Select

/-! The route plan of one request: the selected provider, the fallbacks behind it, and the
selection recorded in the share window. -/
namespace SerenRouter
open Kernel

/-- `retain` of the candidates of other providers. -/
def without (providerId : String) (candidates : List Candidate) : List Candidate :=
  candidates.filter (fun candidate => candidate.providerId != providerId)

theorem mem_without (providerId : String) (candidates : List Candidate) (candidate : Candidate) :
    candidate ∈ without providerId candidates ↔ candidate ∈ candidates ∧ candidate.providerId ≠ providerId := by
  simp [without]

theorem without_shorter (candidates : List Candidate) (selected : Candidate) (member : selected ∈ candidates) :
    (without selected.providerId candidates).length < candidates.length :=
  List.length_filter_lt_length_iff_exists.mpr ⟨selected,member,by simp⟩

/-- What a preference may choose from: the healthy candidates, for the default also
within the ceiling and the share quota. -/
def choices (preference : Preference) (config : PolicyConfig) (recentShare : ShareTracker)
    (candidates : List Candidate) : List Candidate :=
  if preference = .default then eligible candidates config recentShare else healthy candidates

theorem mem_choices (preference : Preference) (config : PolicyConfig) (recentShare : ShareTracker)
    (candidates : List Candidate) (candidate : Candidate) :
    candidate ∈ choices preference config recentShare candidates ↔
      candidate ∈ candidates ∧ candidate.healthy = true ∧ (preference = .default →
        candidate.combinedPricePerMtok ≤ config.combinedPriceCeilingPerMtok ∧
        recentShare.allowsNext candidate.providerId config.maxShare = true) := by
  unfold choices
  split <;> simp [mem_eligible,mem_healthy,and_assoc, *]

section Plan
variable {G : Type} (randomness : Randomness G) (arithmetic : Decimal.Arithmetic)
  (preference : Preference) (config : PolicyConfig) (recentShare : ShareTracker)

theorem selectRoute_choices (candidates : List Candidate) (rng next : G) (selected : Candidate)
    (chosen : selectRoute randomness arithmetic candidates preference config recentShare rng =
      .ok (some selected,next)) : selected ∈ choices preference config recentShare candidates := by
  have member := selectRoute_mem randomness arithmetic candidates preference config recentShare rng next
    selected chosen
  unfold choices
  split
  · exact member.2 ‹_›
  · exact member.1

/-- The loop that selects again among the providers not listed yet, until none is selected. -/
def planFallbacks (fallbackCandidates : List Candidate) (fallbackRng : G) : Except Panic (List String) :=
  match _chosen : selectRoute randomness arithmetic fallbackCandidates preference config recentShare fallbackRng with
  | .error panic => .error panic
  | .ok (none,_) => .ok []
  | .ok (some candidate,fallbackRng) => do
    let fallbacks ← planFallbacks (without candidate.providerId fallbackCandidates) fallbackRng
    return candidate.providerId :: fallbacks
termination_by fallbackCandidates.length
decreasing_by
  exact without_shorter _ _ ((mem_choices _ _ _ _ _).mp
    (selectRoute_choices _ _ _ _ _ _ _ _ _ _chosen)).1

/-- Planning fallbacks does not perturb the generator of primary selections. -/
def fallbackSeed : UInt64 := 0x5ee7fa11bac0

/-- Select a provider, plan the fallbacks, and record the selection. -/
def chooseRoutes (candidates : List Candidate) (rng : G) :
    Except Panic (Option (String × List String) × ShareTracker × G) := do
  let (selected,rng) ← selectRoute randomness arithmetic candidates preference config recentShare rng
  match selected with
  | none => .ok (none,recentShare,rng)
  | some selected =>
    let selectedProvider := selected.providerId
    let fallbacks ← planFallbacks randomness arithmetic preference config recentShare
      (without selectedProvider candidates) (randomness.seedFromU64 fallbackSeed)
    let recentShare ← recentShare.record selectedProvider
    .ok (some (selectedProvider,fallbacks),recentShare,rng)

theorem planFallbacks_step (candidates : List Candidate) (rng : G) :
    planFallbacks randomness arithmetic preference config recentShare candidates rng =
      match selectRoute randomness arithmetic candidates preference config recentShare rng with
      | .error panic => .error panic
      | .ok (none,_) => .ok []
      | .ok (some candidate,next) => do
        let fallbacks ← planFallbacks randomness arithmetic preference config recentShare
          (without candidate.providerId candidates) next
        return candidate.providerId :: fallbacks := by
  rw [planFallbacks]
  split <;> rename_i chosen <;> rw [chosen]

/-- The providers that a preference may choose. -/
def Chooses (candidates : List Candidate) (providerId : String) : Prop :=
  ∃ candidate ∈ choices preference config recentShare candidates, candidate.providerId = providerId

theorem chooses_without (candidates : List Candidate) (removed providerId : String) :
    Chooses preference config recentShare (without removed candidates) providerId ↔
      Chooses preference config recentShare candidates providerId ∧ providerId ≠ removed := by
  simp only [Chooses,mem_choices,mem_without]
  constructor
  · rintro ⟨candidate,⟨⟨member,other⟩,rest⟩,rfl⟩
    exact ⟨⟨candidate,⟨member,rest⟩,rfl⟩,other⟩
  · rintro ⟨⟨candidate,⟨member,rest⟩,rfl⟩,other⟩
    exact ⟨candidate,⟨⟨member,other⟩,rest⟩,rfl⟩

/-- The loop lists distinct providers, all of which the preference may choose. -/
theorem planFallbacks_sound (candidates : List Candidate) (rng : G) (fallbacks : List String)
    (planned : planFallbacks randomness arithmetic preference config recentShare candidates rng =
      .ok fallbacks) :
    fallbacks.Nodup ∧ ∀ providerId ∈ fallbacks, Chooses preference config recentShare candidates providerId := by
  induction candidates, rng using planFallbacks.induct randomness arithmetic preference config recentShare
    generalizing fallbacks with
  | case1 candidates rng panic chosen =>
    rw [planFallbacks_step,chosen] at planned
    cases planned
  | case2 candidates rng next chosen =>
    rw [planFallbacks_step,chosen] at planned
    cases planned
    simp
  | case3 candidates rng candidate next chosen ih =>
    rw [planFallbacks_step,chosen] at planned
    dsimp only at planned
    rw [bind_success] at planned
    obtain ⟨rest,later,equal⟩ := planned
    cases equal
    obtain ⟨distinct,sound⟩ := ih rest later
    have first := selectRoute_choices randomness arithmetic preference config recentShare candidates rng next
      candidate chosen
    refine ⟨List.nodup_cons.mpr ⟨?_,distinct⟩,?_⟩
    · intro member
      exact ((chooses_without preference config recentShare candidates _ _).mp (sound _ member)).2 rfl
    · intro providerId member
      rcases List.mem_cons.mp member with rfl | inside
      · exact ⟨candidate,first,rfl⟩
      · exact ((chooses_without preference config recentShare candidates _ _).mp (sound _ inside)).1

theorem selectRoute_total (candidates : List Candidate) (rng : G) (sorted : preference ≠ .balanced) :
    ∃ selected next, selectRoute randomness arithmetic candidates preference config recentShare rng =
      .ok (selected,next) := by
  cases preference with
  | balanced => exact absurd rfl sorted
  | default => exact ⟨_,_,rfl⟩
  | price => exact ⟨_,_,rfl⟩
  | throughput => exact ⟨_,_,rfl⟩
  | latency => exact ⟨_,_,rfl⟩

theorem selectRoute_none (candidates : List Candidate) (rng next : G) (sorted : preference ≠ .balanced)
    (selected : Option Candidate)
    (chosen : selectRoute randomness arithmetic candidates preference config recentShare rng =
      .ok (selected,next)) :
    selected = none ↔ choices preference config recentShare candidates = [] := by
  cases preference with
  | balanced => exact absurd rfl sorted
  | default =>
    have answer : (selectDefault randomness candidates config recentShare rng).1 = selected :=
      congrArg Prod.fst (Except.ok.inj chosen)
    rw [← answer]
    exact selectDefault_none randomness candidates config recentShare rng
  | price =>
    cases chosen
    exact minBy_none _ _
  | throughput =>
    cases chosen
    exact maxBy_none _ _
  | latency =>
    cases chosen
    exact minBy_none _ _

theorem planFallbacks_complete (candidates : List Candidate) (rng : G) (sorted : preference ≠ .balanced) :
    ∃ fallbacks, planFallbacks randomness arithmetic preference config recentShare candidates rng =
      .ok fallbacks ∧
      ∀ providerId, Chooses preference config recentShare candidates providerId → providerId ∈ fallbacks := by
  induction candidates, rng using planFallbacks.induct randomness arithmetic preference config recentShare with
  | case1 candidates rng panic chosen =>
    obtain ⟨_,_,total⟩ := selectRoute_total randomness arithmetic preference config recentShare candidates rng sorted
    rw [chosen] at total
    cases total
  | case2 candidates rng next chosen =>
    rw [planFallbacks_step,chosen]
    refine ⟨[],rfl,?_⟩
    rintro providerId ⟨candidate,member,_⟩
    have none := selectRoute_none randomness arithmetic preference config recentShare candidates rng next sorted
      _ chosen
    rw [none.mp rfl] at member
    cases member
  | case3 candidates rng candidate next chosen ih =>
    obtain ⟨rest,planned,complete⟩ := ih
    rw [planFallbacks_step,chosen]
    refine ⟨candidate.providerId :: rest,by dsimp only; rw [planned]; rfl,?_⟩
    intro providerId choosable
    by_cases same : providerId = candidate.providerId
    · simp [same]
    · exact List.mem_cons_of_mem _ (complete providerId
        ((chooses_without preference config recentShare candidates _ _).mpr ⟨choosable,same⟩))

/-- A refusal leaves the window as it was; a selection is recorded in it and its plan lists
distinct providers that the preference may choose. -/
theorem chooseRoutes_cases (candidates : List Candidate) (rng next : G) (chosen : Option (String × List String))
    (share : ShareTracker)
    (ran : chooseRoutes randomness arithmetic preference config recentShare candidates rng =
      .ok (chosen,share,next)) :
    (chosen = none ∧ share = recentShare) ∨
    ∃ selected fallbacks, chosen = some (selected,fallbacks) ∧ recentShare.record selected = .ok share ∧
      (selected :: fallbacks).Nodup ∧
      ∀ providerId ∈ selected :: fallbacks, Chooses preference config recentShare candidates providerId := by
  rw [chooseRoutes,bind_success] at ran
  obtain ⟨⟨selected,after⟩,selection,ran⟩ := ran
  cases selected with
  | none =>
    cases ran
    exact .inl ⟨rfl,rfl⟩
  | some selected =>
    dsimp only at ran
    rw [bind_success] at ran
    obtain ⟨fallbacks,planned,ran⟩ := ran
    rw [bind_success] at ran
    obtain ⟨recorded,record,ran⟩ := ran
    cases ran
    obtain ⟨distinct,sound⟩ := planFallbacks_sound randomness arithmetic preference config recentShare _ _ fallbacks
      planned
    have others (providerId : String) (member : providerId ∈ fallbacks) :=
      (chooses_without preference config recentShare candidates _ providerId).mp (sound providerId member)
    refine .inr ⟨selected.providerId,fallbacks,rfl,record,List.nodup_cons.mpr ⟨?_,distinct⟩,?_⟩
    · exact fun member => (others _ member).2 rfl
    · intro providerId member
      rcases List.mem_cons.mp member with rfl | inside
      · exact ⟨selected,selectRoute_choices randomness arithmetic preference config recentShare candidates rng
          next selected selection,rfl⟩
      · exact (others providerId inside).1

/-- Away from the balanced preference a plan is always made: it lists every provider that may
be chosen, and nothing is refused while there is one. -/
theorem chooseRoutes_total (candidates : List Candidate) (rng : G) (sorted : preference ≠ .balanced)
    (consistent : recentShare.Consistent) :
    ∃ chosen share next, chooseRoutes randomness arithmetic preference config recentShare candidates rng =
      .ok (chosen,share,next) ∧
      (chosen = none ↔ choices preference config recentShare candidates = []) ∧
      ∀ selected fallbacks, chosen = some (selected,fallbacks) →
        ∀ providerId, Chooses preference config recentShare candidates providerId →
          providerId ∈ selected :: fallbacks := by
  obtain ⟨selected,next,selection⟩ :=
    selectRoute_total randomness arithmetic preference config recentShare candidates rng sorted
  have refused := selectRoute_none randomness arithmetic preference config recentShare candidates rng next sorted
    selected selection
  rw [chooseRoutes,selection,ok_bind]
  cases selected with
  | none => exact ⟨none,recentShare,next,rfl,by simpa using refused,by simp⟩
  | some selected =>
    obtain ⟨fallbacks,planned,complete⟩ := planFallbacks_complete randomness arithmetic preference config recentShare
      (without selected.providerId candidates) (randomness.seedFromU64 fallbackSeed) sorted
    obtain ⟨share,recorded,_⟩ := recentShare.record_consistent consistent selected.providerId
    dsimp only
    rw [planned,ok_bind,recorded,ok_bind]
    refine ⟨_,share,next,rfl,by simpa using refused,?_⟩
    intro _ _ equal providerId choosable
    cases equal
    by_cases same : providerId = selected.providerId
    · simp [same]
    · exact List.mem_cons_of_mem _ (complete providerId
        ((chooses_without preference config recentShare candidates _ _).mpr ⟨choosable,same⟩))

theorem chooseRoutes_consistent (candidates : List Candidate) (rng next : G)
    (chosen : Option (String × List String)) (share : ShareTracker) (consistent : recentShare.Consistent)
    (ran : chooseRoutes randomness arithmetic preference config recentShare candidates rng =
      .ok (chosen,share,next)) :
    share.Consistent ∧ share.capacity = recentShare.capacity := by
  rcases chooseRoutes_cases randomness arithmetic preference config recentShare candidates rng next chosen share
    ran with ⟨_,rfl⟩ | ⟨selected,_,_,recorded,_⟩
  · exact ⟨consistent,rfl⟩
  · obtain ⟨after,record,kept,capacity,_⟩ := recentShare.record_consistent consistent selected
    rw [record] at recorded
    cases recorded
    exact ⟨kept,capacity⟩

end Plan

end SerenRouter
