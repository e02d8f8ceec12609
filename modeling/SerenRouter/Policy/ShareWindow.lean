import SerenRouter.Policy.ShareTracker
import SerenRouter.Kernel.FaithfulRounding

/-! The share tracker against its specification, the sliding window of the last selections.
The share and the quota check are here in the program's decimals; the exact ones of the
tracker are their values wherever a decimal holds the result. -/
namespace SerenRouter
open Kernel

namespace ShareTracker

/-- `record` for every provider in turn. -/
def recordAll (tracker : ShareTracker) (providerIds : List String) : Except Panic ShareTracker :=
  providerIds.foldlM record tracker

section Decimals
variable (arithmetic : Decimal.Arithmetic)

/-- `share`. -/
def decimalShare (tracker : ShareTracker) (providerId : String) : Except Panic Decimal :=
  if tracker.history = [] then .ok Decimal.zero
  else orOverflow (arithmetic.div (.ofUsize (tracker.count providerId)) (.ofUsize tracker.history.length)) "/"

/-- `allows_next`. -/
def decimalAllowsNext (tracker : ShareTracker) (providerId : String) (maxShare : Decimal) : Except Panic Bool := do
  let nextLen := min (min (tracker.history.length + 1) (2^64 - 1)) tracker.capacity
  let expiredMatches :=
    if tracker.history.length = tracker.capacity ∧ tracker.history.head? = some providerId then 1 else 0
  let nextCount ←
    if tracker.count providerId + 1 < expiredMatches then .error (.underflow "self.count(provider_id) + 1 - expired_matches")
    else .ok (tracker.count providerId + 1 - expiredMatches)
  let product ← orOverflow (arithmetic.mul maxShare (.ofUsize nextLen)) "*"
  let quota ← expect product.ceilToUsize "validated share quota fits usize"
  return decide (nextCount ≤ quota)

end Decimals

/-- The tracker of a window. -/
structure Tracks (capacity : Nat) (window : List String) (tracker : ShareTracker) : Prop where
  consistent : tracker.Consistent
  size : tracker.capacity = capacity
  history : tracker.history = window
  sorted : SortedMap.Sorted tracker.counts

theorem new_tracks (capacity : Nat) (positive : 0 < capacity) : Tracks capacity [] ⟨capacity,[],[]⟩ :=
  ⟨(new_consistent capacity positive).2,rfl,rfl,SortedMap.sorted_nil⟩

private theorem makeRoom_sorted (tracker next : ShareTracker) (sorted : SortedMap.Sorted tracker.counts)
    (made : tracker.makeRoom = .ok next) : SortedMap.Sorted next.counts := by
  unfold makeRoom at made
  split at made
  · unfold expireOldest at made
    split at made
    · cases made
    · rw [bind_success] at made
      obtain ⟨count,_,made⟩ := made
      split at made
      · cases made
      split at made
      · cases made
        exact SortedMap.remove_sorted _ _ sorted
      · cases made
        exact SortedMap.insert_sorted _ _ _ sorted
  · cases made
    exact sorted

section Record
variable (capacity : Nat) (window : List String) (tracker : ShareTracker) (tracks : Tracks capacity window tracker)
include tracks

theorem record_tracks (providerId : String) :
    ∃ next, tracker.record providerId = .ok next ∧ Tracks capacity (Window.push capacity window providerId) next := by
  obtain ⟨next,recorded,consistent,size,history⟩ := tracker.record_consistent tracks.consistent providerId
  refine ⟨next,recorded,consistent,size.trans tracks.size,?_,?_⟩
  · rw [history,tracks.size,tracks.history]
  · rw [record,bind_success] at recorded
    obtain ⟨middle,made,equal⟩ := recorded
    cases equal
    apply SortedMap.insert_sorted
    exact makeRoom_sorted tracker middle tracks.sorted made

theorem recordAll_tracks (providerIds : List String) :
    ∃ next, tracker.recordAll providerIds = .ok next ∧
      Tracks capacity (providerIds.foldl (Window.push capacity) window) next := by
  induction providerIds generalizing tracker window with
  | nil => exact ⟨tracker,rfl,tracks⟩
  | cons providerId providerIds ih =>
    obtain ⟨middle,recorded,kept⟩ := record_tracks capacity window tracker tracks providerId
    obtain ⟨next,rest,last⟩ := ih (Window.push capacity window providerId) middle kept
    refine ⟨next,?_,last⟩
    rw [recordAll,List.foldlM_cons,recorded,ok_bind]
    exact rest

theorem count_window (providerId : String) : tracker.count providerId = window.count providerId := by
  rw [tracker.count_history tracks.consistent,tracks.history]

theorem counts_window (providerId : String) (multiplicity : Nat) :
    SortedMap.get providerId tracker.counts = some multiplicity ↔
      0 < multiplicity ∧ multiplicity = window.count providerId := by
  rw [tracks.consistent.counted,tracks.history,occurrences]
  by_cases present : providerId ∈ window
  · have positive := List.count_pos_iff.mpr present
    rw [if_pos present]
    constructor
    · intro same
      cases same
      exact ⟨positive,rfl⟩
    · rintro ⟨_,rfl⟩
      rfl
  · have absent := List.count_eq_zero.mpr present
    rw [if_neg present]
    constructor
    · rintro ⟨⟩
    · rintro ⟨positive,rfl⟩
      omega

theorem mem_multiplicities (multiplicity : Nat) :
    multiplicity ∈ tracker.counts.map Prod.snd ↔ ∃ providerId ∈ window, multiplicity = window.count providerId := by
  rw [List.mem_map]
  constructor
  · rintro ⟨⟨providerId,_⟩,member,rfl⟩
    have found := SortedMap.mem_get _ _ _ tracks.sorted member
    obtain ⟨positive,same⟩ := (counts_window capacity window tracker tracks _ _).mp found
    rw [same] at positive
    exact ⟨providerId,List.count_pos_iff.mp positive,same⟩
  · rintro ⟨providerId,present,rfl⟩
    have positive := List.count_pos_iff.mpr present
    have found := (counts_window capacity window tracker tracks providerId _).mpr ⟨positive,rfl⟩
    exact ⟨_,SortedMap.get_mem _ _ _ found,rfl⟩

theorem incumbent_window :
    (tracker.incumbentProviderId = none ↔ window = []) ∧
    ∀ providerId, tracker.incumbentProviderId = some providerId ↔ Window.Leads window providerId := by
  have multiplicities := mem_multiplicities capacity window tracker tracks
  cases highest : (tracker.counts.map Prod.snd).max? with
  | none =>
    have nothing : window = [] := by
      apply List.eq_nil_iff_forall_not_mem.mpr
      intro providerId member
      have listed := (multiplicities _).mpr ⟨providerId,member,rfl⟩
      rw [List.max?_eq_none_iff.mp highest] at listed
      cases listed
    have absent : tracker.incumbentProviderId = none := by rw [incumbentProviderId,highest]; rfl
    refine ⟨iff_of_true absent nothing,fun providerId => ?_⟩
    rw [absent,nothing]
    exact iff_of_false (by simp) (fun leads => by simpa using leads.present)
  | some most =>
    obtain ⟨reached,bounded⟩ := List.max?_eq_some_iff.mp highest
    obtain ⟨top,member,equal⟩ := (multiplicities most).mp reached
    have leads := Window.find?_leads window most ⟨top,member,equal.symm⟩
      (fun providerId present => bounded _ ((multiplicities _).mpr ⟨providerId,present,rfl⟩))
    have found : tracker.incumbentProviderId =
        window.reverse.find? (fun providerId => decide (window.count providerId = most)) := by
      simp only [incumbentProviderId,highest,Option.bind_some,tracks.history,
        count_window capacity window tracker tracks]
    rw [found]
    refine ⟨iff_of_false ?_ (List.ne_nil_of_mem member),leads⟩
    rw [List.find?_eq_none]
    push Not
    exact ⟨top,List.mem_reverse.mpr member,by simpa using equal.symm⟩

section Decimals
variable (arithmetic : Decimal.Arithmetic) (rounds : arithmetic.Rounds) (usize : capacity < 2^64)
include rounds usize

theorem decimalShare_window (providerId : String) :
    ∃ share, tracker.decimalShare arithmetic providerId = .ok share ∧ (window = [] → share = Decimal.zero) ∧
      (window ≠ [] →
        arithmetic.div (.ofUsize (window.count providerId)) (.ofUsize window.length) = some share ∧
        share.RoundsTo (window.count providerId / window.length)) := by
  by_cases empty : window = []
  · refine ⟨Decimal.zero,?_,fun _ => rfl,fun filled => absurd empty filled⟩
    rw [decimalShare,tracks.history,if_pos empty]
  · have bounded := tracks.consistent.bounded
    rw [tracks.size,tracks.history] at bounded
    have positive := List.length_pos_of_ne_nil empty
    have shorter : window.count providerId ≤ window.length := List.count_le_length
    have counted := Decimal.value_ofUsize (window.count providerId) (by omega)
    have measured := Decimal.value_ofUsize window.length (by omega)
    have ratio : (window.count providerId : ℚ) / window.length ≤ 1 := by
      rw [div_le_one (by exact_mod_cast positive)]
      exact_mod_cast shorter
    obtain ⟨share,divided,rounded⟩ := rounds.div (.ofUsize (window.count providerId)) (.ofUsize window.length) .one
      (by rw [Decimal.le_def,Decimal.value_zero,counted]; positivity)
      (by rw [Decimal.lt_def,Decimal.value_zero,measured]; exact_mod_cast positive)
      (by rw [counted,measured,Decimal.value_one]; exact ratio)
    rw [counted,measured] at rounded
    refine ⟨share,?_,fun nothing => absurd nothing empty,fun _ => ⟨divided,rounded⟩⟩
    rw [decimalShare,tracks.history,if_neg empty,count_window capacity window tracker tracks,divided]
    rfl

/-- The quota check compares the count after the selection with the rounded product of share and length. -/
theorem decimalAllowsNext_window (providerId : String) (maxShare : Decimal) (positive : Decimal.zero < maxShare)
    (fraction : maxShare ≤ Decimal.one) (next : List String) (pushed : next = Window.push capacity window providerId) :
    ∃ product, arithmetic.mul maxShare (.ofUsize next.length) = some product ∧
      product.RoundsTo (maxShare.value * next.length) ∧
      tracker.decimalAllowsNext arithmetic providerId maxShare =
        .ok (decide ((next.count providerId : ℤ) ≤ ⌈product.value⌉)) := by
  have bounded := tracks.consistent.bounded
  have nextCount := nextCount_push tracker tracks.consistent providerId
  have length := Window.length_push tracker.capacity tracker.history providerId tracks.consistent.positive bounded
  rw [tracks.size,tracks.history,← pushed] at nextCount length
  rw [tracks.size,tracks.history] at bounded
  rw [Decimal.lt_def,Decimal.value_zero] at positive
  rw [Decimal.le_def,Decimal.value_one] at fraction
  have measured := Decimal.value_ofUsize next.length (by omega)
  have share : maxShare.value * next.length ≤ next.length := mul_le_of_le_one_left (by positivity) fraction
  obtain ⟨product,multiplied,rounded⟩ := rounds.mul maxShare (.ofUsize next.length) (.ofUsize next.length)
    (by rw [Decimal.le_def,Decimal.value_zero]; exact positive.le)
    (by rw [Decimal.le_def,Decimal.value_zero,measured]; positivity)
    (by rw [measured]; exact share)
  rw [measured] at rounded
  obtain ⟨quota,word,same⟩ := rounded.ceilToUsize next.length (by omega) (by positivity) share
  refine ⟨product,multiplied,rounded,?_⟩
  have nextLen : min (min (window.length + 1) (2^64 - 1)) capacity = next.length := by omega
  have enough : ¬ tracker.count providerId + 1 <
      if window.length = capacity ∧ window.head? = some providerId then 1 else 0 := by
    split <;> omega
  simp only [decimalAllowsNext,tracks.size,tracks.history,nextLen,if_neg enough,nextCount,multiplied,word,
    orOverflow_some,expect_some,ok_bind]
  rw [← same]
  simp only [Nat.cast_le]
  rfl

/-- The program never admits a selection beyond the exact quota, and where a decimal holds the
product it admits exactly those within it. -/
theorem decimalAllowsNext_exact (providerId : String) (maxShare : Decimal) (positive : Decimal.zero < maxShare)
    (fraction : maxShare ≤ Decimal.one) :
    (tracker.decimalAllowsNext arithmetic providerId maxShare = .ok true →
      tracker.allowsNext providerId maxShare.value = true) ∧
    ∀ held : Decimal, held.value = maxShare.value * (Window.push capacity window providerId).length →
      tracker.decimalAllowsNext arithmetic providerId maxShare = .ok (tracker.allowsNext providerId maxShare.value) := by
  obtain ⟨product,_,rounded,checked⟩ := decimalAllowsNext_window capacity window tracker tracks arithmetic rounds usize
    providerId maxShare positive fraction _ rfl
  have fits := tracker.allowsNext_fits tracks.consistent providerId maxShare.value
  rw [tracks.size,tracks.history,Window.Fits,Window.quota] at fits
  have bounded := Window.push_bounded capacity window providerId (tracks.size ▸ tracks.consistent.positive)
    (tracks.history ▸ tracks.size ▸ tracks.consistent.bounded)
  generalize Window.push capacity window providerId = next at rounded checked fits bounded ⊢
  rw [Decimal.lt_def,Decimal.value_zero] at positive
  rw [Decimal.le_def,Decimal.value_one] at fraction
  have share : maxShare.value * next.length ≤ next.length := mul_le_of_le_one_left (by positivity) fraction
  rw [checked]
  constructor
  · intro admitted
    have within := of_decide_eq_true (Except.ok.inj admitted)
    have whole : ⌈maxShare.value * next.length⌉₊ < 2^96 := by
      apply lt_of_le_of_lt (Nat.ceil_le.mpr share)
      omega
    have most := rounded.ceil_le _ whole (Nat.le_ceil _)
    exact fits.mpr (by omega)
  · intro held same
    have nonnegative : 0 ≤ maxShare.value * next.length := by positivity
    rw [rounded.exact held same,← Int.natCast_ceil_eq_ceil nonnegative]
    simp only [Nat.cast_le,← fits,Bool.decide_eq_true]

end Decimals

end Record

end ShareTracker

/-- After any selections the tracker is that of the last ones: its history is the window, its counts
map exactly the providers of the window to their multiplicities, a share is the decimal quotient,
the incumbent leads the window, and the quota check compares the count after one more selection
with the decimal product of share and length. Nothing panics. -/
theorem tracker_refines_window (arithmetic : Decimal.Arithmetic) (rounds : arithmetic.Rounds) (capacity : Nat)
    (positive : 0 < capacity) (usize : capacity < 2^64) (recorded window : List String)
    (last : window = recorded.rtake (min recorded.length capacity)) :
    ∃ initial tracker, ShareTracker.new capacity = .ok initial ∧ initial.recordAll recorded = .ok tracker ∧
      tracker.history = window ∧
      (∀ providerId multiplicity, SortedMap.get providerId tracker.counts = some multiplicity ↔
        0 < multiplicity ∧ multiplicity = window.count providerId) ∧
      (∀ providerId, ∃ share, tracker.decimalShare arithmetic providerId = .ok share ∧
        (window = [] → share = Decimal.zero) ∧
        (window ≠ [] →
          arithmetic.div (.ofUsize (window.count providerId)) (.ofUsize window.length) = some share ∧
          share.RoundsTo (window.count providerId / window.length))) ∧
      (tracker.incumbentProviderId = none ↔ window = []) ∧
      (∀ providerId, tracker.incumbentProviderId = some providerId ↔ Window.Leads window providerId) ∧
      ∀ providerId, ∃ next, tracker.record providerId = .ok next ∧
        ∀ maxShare, Decimal.zero < maxShare → maxShare ≤ Decimal.one → ∃ product,
          arithmetic.mul maxShare (.ofUsize next.history.length) = some product ∧
          product.RoundsTo (maxShare.value * next.history.length) ∧
          tracker.decimalAllowsNext arithmetic providerId maxShare =
            .ok (decide ((next.history.count providerId : ℤ) ≤ ⌈product.value⌉)) := by
  obtain ⟨tracker,recordedAll,tracks⟩ := ShareTracker.recordAll_tracks capacity [] ⟨capacity,[],[]⟩
    (ShareTracker.new_tracks capacity positive) recorded
  rw [Window.foldl_push capacity positive,← last] at tracks
  obtain ⟨vacant,incumbent⟩ := ShareTracker.incumbent_window capacity window tracker tracks
  refine ⟨_,tracker,(ShareTracker.new_consistent capacity positive).1,recordedAll,tracks.history,?_,?_,vacant,incumbent,?_⟩
  · exact ShareTracker.counts_window capacity window tracker tracks
  · exact ShareTracker.decimalShare_window capacity window tracker tracks arithmetic rounds usize
  · intro providerId
    obtain ⟨next,added,pushed⟩ := ShareTracker.record_tracks capacity window tracker tracks providerId
    refine ⟨next,added,fun maxShare some one => ?_⟩
    exact ShareTracker.decimalAllowsNext_window capacity window tracker tracks arithmetic rounds usize providerId maxShare
      some one next.history pushed.history

/-- Four selections of two providers in a window of three: the oldest is dropped and the provider selected
last leads. -/
theorem tracker_refines_window_sample :
    ∃ initial tracker, ShareTracker.new 3 = .ok initial ∧ initial.recordAll ["a","b","a","b"] = .ok tracker ∧
      tracker.history = ["b","a","b"] ∧ Window.Leads ["b","a","b"] "b" ∧
      tracker.decimalShare Decimal.exact "b" =
        .ok ⟨false,6666666666666666666666666667,28,by decide,by decide⟩ ∧
      tracker.decimalAllowsNext Decimal.exact "b" ⟨false,5,1,by decide,by decide⟩ = .ok true := by
  obtain ⟨initial,tracker,fresh,recorded,history,_,shares,_,incumbent,_⟩ := tracker_refines_window Decimal.exact
    Decimal.exact_rounds 3 (by decide) (by decide) ["a","b","a","b"] ["b","a","b"] rfl
  cases fresh
  cases recorded
  exact ⟨_,_,rfl,rfl,history,(incumbent "b").mp (by decide),by decide +kernel,by decide +kernel⟩

/-- One selection in three has no exact decimal share, and the product of nine places and eight ninths, rounded up
at the last place, is rounded down to eight: a ninth selection within the exact quota is not admitted. -/
theorem tracker_rounds_down :
    (∃ tracker share, ShareTracker.recordAll ⟨3,[],[]⟩ ["a","b","b"] = .ok tracker ∧
      tracker.decimalShare Decimal.exact "a" = .ok share ∧
      share.value ≠ (tracker.history.count "a" : ℚ) / tracker.history.length) ∧
    ∃ tracker next maxShare, ShareTracker.recordAll ⟨9,[],[]⟩ (List.replicate 8 "a") = .ok tracker ∧
      tracker.record "a" = .ok next ∧ maxShare.value = 8888888888888888888888888889 / 10^28 ∧
      tracker.decimalAllowsNext Decimal.exact "a" maxShare = .ok false ∧
      (next.history.count "a" : ℤ) ≤ ⌈maxShare.value * next.history.length⌉ := by
  have third : ShareTracker.decimalShare Decimal.exact ⟨3,["a","b","b"],[("a",1),("b",2)]⟩ "a" =
      .ok ⟨false,3333333333333333333333333333,28,by decide,by decide⟩ := by decide +kernel
  refine ⟨⟨_,_,by rfl,third,?_⟩,_,_,⟨false,8888888888888888888888888889,28,by decide,by decide⟩,by rfl,by rfl,?_,?_,?_⟩
  · decide +kernel
  · decide +kernel
  · decide +kernel
  · decide +kernel

end SerenRouter
