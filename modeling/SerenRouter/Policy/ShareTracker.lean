import SerenRouter.Kernel.Outcome
import SerenRouter.Kernel.SortedMap
import SerenRouter.Kernel.Window
import Mathlib.Data.String.Basic

/-! The rolling record of the providers that served a model: the selections still in the
window, oldest first, and how often each provider occurs among them. -/
namespace SerenRouter
open Kernel

structure ShareTracker where
  capacity : Nat
  history : List String
  counts : List (String × Nat)

inductive ShareTrackerError where
  | zeroCapacity
  deriving DecidableEq

namespace ShareTracker

def new (capacity : Nat) : Except ShareTrackerError ShareTracker :=
  if capacity = 0 then .error .zeroCapacity else .ok ⟨capacity,[],[]⟩

/-- Drop the oldest selection and its count. -/
def expireOldest (tracker : ShareTracker) : Except Panic ShareTracker :=
  match tracker.history with
  | [] => .error (.expect "a full share window has an oldest entry")
  | expired :: rest => do
    let count ← expect (SortedMap.get expired tracker.counts) "every share history entry has a count"
    if count = 0 then .error (.underflow "*count -= 1")
    else if count - 1 = 0 then
      .ok { tracker with history := rest, counts := SortedMap.remove expired tracker.counts }
    else .ok { tracker with history := rest, counts := SortedMap.insert expired (count - 1) tracker.counts }

def makeRoom (tracker : ShareTracker) : Except Panic ShareTracker :=
  if tracker.history.length = tracker.capacity then tracker.expireOldest else .ok tracker

def count (tracker : ShareTracker) (providerId : String) : Nat :=
  (SortedMap.get providerId tracker.counts).getD 0

/-- Add a selection, after dropping the oldest one of a full window. -/
def record (tracker : ShareTracker) (providerId : String) : Except Panic ShareTracker := do
  let tracker ← tracker.makeRoom
  return { tracker with
    counts := SortedMap.insert providerId (tracker.count providerId + 1) tracker.counts
    history := tracker.history ++ [providerId] }

def share (tracker : ShareTracker) (providerId : String) : ℚ :=
  if tracker.history = [] then 0 else tracker.count providerId / tracker.history.length

def allowsNext (tracker : ShareTracker) (providerId : String) (maxShare : ℚ) : Bool :=
  let nextLen := min (tracker.history.length + 1) tracker.capacity
  let expiredMatches :=
    if tracker.history.length = tracker.capacity ∧ tracker.history.head? = some providerId then 1 else 0
  let nextCount := tracker.count providerId + 1 - expiredMatches
  decide (nextCount ≤ ⌈maxShare * nextLen⌉₊)

/-- The quota of `allowsNext` as a machine word, if it is one. -/
def quota (tracker : ShareTracker) (maxShare : ℚ) : Option Nat :=
  let rounded := ⌈maxShare * (min (tracker.history.length + 1) tracker.capacity : Nat)⌉
  if 0 ≤ rounded ∧ rounded < 2^64 then some rounded.toNat else none

theorem quota_fits (tracker : ShareTracker) (maxShare : ℚ) (usize : tracker.capacity < 2^64)
    (positive : 0 < maxShare) (bounded : maxShare ≤ 1) :
    ∃ quota, tracker.quota maxShare = some quota ∧ quota ≤ tracker.capacity ∧ ∀ providerId,
      (tracker.allowsNext providerId maxShare = true ↔
        tracker.count providerId + 1 - (if tracker.history.length = tracker.capacity ∧
          tracker.history.head? = some providerId then 1 else 0) ≤ quota) := by
  unfold quota allowsNext
  generalize next : min (tracker.history.length + 1) tracker.capacity = nextLen
  have within : nextLen ≤ tracker.capacity := by omega
  have least : 0 ≤ ⌈maxShare * (nextLen : Nat)⌉ := Int.ceil_nonneg (by positivity)
  have most : ⌈maxShare * (nextLen : Nat)⌉ ≤ nextLen := by
    rw [Int.ceil_le]
    push_cast
    exact mul_le_of_le_one_left (by positivity) bounded
  dsimp only
  rw [if_pos ⟨least,by omega⟩]
  refine ⟨_,rfl,by omega,fun providerId => ?_⟩
  rw [decide_eq_true_iff,Int.ceil_toNat]

/-- The most recently selected of the providers with the highest count. -/
def incumbentProviderId (tracker : ShareTracker) : Option String :=
  (tracker.counts.map Prod.snd).max?.bind (fun highestCount =>
    tracker.history.reverse.find? (fun providerId => tracker.count providerId = highestCount))

/-- How often a provider occurs in a history, when it occurs. -/
def occurrences (history : List String) (providerId : String) : Option Nat :=
  if providerId ∈ history then some (history.count providerId) else none

/-- The history fits the window and the counts are its multiplicities. -/
structure Consistent (tracker : ShareTracker) : Prop where
  positive : 0 < tracker.capacity
  bounded : tracker.history.length ≤ tracker.capacity
  counted : ∀ providerId, SortedMap.get providerId tracker.counts = occurrences tracker.history providerId

theorem new_consistent (capacity : Nat) (positive : 0 < capacity) :
    ShareTracker.new capacity = .ok ⟨capacity,[],[]⟩ ∧ Consistent ⟨capacity,[],[]⟩ :=
  ⟨if_neg (by omega),positive,by simp,fun _ => by simp [occurrences]⟩

theorem occurrences_tail (first : String) (rest : List String) (providerId : String) :
    occurrences rest providerId =
      if providerId = first then (if rest.count first = 0 then none else some (rest.count first))
      else occurrences (first :: rest) providerId := by
  by_cases same : providerId = first
  · subst same
    by_cases absent : providerId ∈ rest
    · simp [occurrences,absent,List.count_eq_zero]
    · simp [occurrences,absent,List.count_eq_zero]
  · simp [occurrences,same,List.count_cons_of_ne (Ne.symm same)]

theorem occurrences_snoc (history : List String) (added providerId : String) :
    occurrences (history ++ [added]) providerId =
      if providerId = added then some ((occurrences history added).getD 0 + 1)
      else occurrences history providerId := by
  by_cases same : providerId = added
  · subst same
    by_cases present : providerId ∈ history
    · simp [occurrences,present]
    · simp [occurrences,present,List.count_eq_zero.mpr present]
  · simp [occurrences,same,List.count_append,Ne.symm same]

section Steps
variable (tracker : ShareTracker) (consistent : Consistent tracker)
include consistent

theorem count_history (providerId : String) : tracker.count providerId = tracker.history.count providerId := by
  rw [count,consistent.counted]
  by_cases present : providerId ∈ tracker.history
  · simp [occurrences,present]
  · simp [occurrences,present,List.count_eq_zero.mpr present]

private theorem expireOldest_counted (full : tracker.history.length = tracker.capacity) :
    ∃ next, tracker.expireOldest = .ok next ∧ next.capacity = tracker.capacity ∧
      next.history = tracker.history.tail ∧
      ∀ providerId, SortedMap.get providerId next.counts = occurrences next.history providerId := by
  have positive := consistent.positive
  obtain ⟨first,rest,split⟩ : ∃ first rest, tracker.history = first :: rest :=
    List.exists_cons_of_length_pos (by omega)
  have counted := consistent.counted
  rw [split] at counted
  have known : SortedMap.get first tracker.counts = some (rest.count first + 1) := by
    rw [counted]
    simp [occurrences]
  rw [expireOldest,split]
  simp only [known,expect_some,ok_bind,Nat.add_sub_cancel,Nat.add_eq_zero_iff,one_ne_zero,and_false,
    if_false,List.tail_cons]
  split
  · rename_i last
    refine ⟨_,rfl,rfl,rfl,fun providerId => ?_⟩
    rw [SortedMap.get_remove,occurrences_tail first,if_pos last,counted]
  · rename_i several
    refine ⟨_,rfl,rfl,rfl,fun providerId => ?_⟩
    rw [SortedMap.get_insert,occurrences_tail first,if_neg several,counted]

private theorem makeRoom_counted :
    ∃ next, tracker.makeRoom = .ok next ∧ next.capacity = tracker.capacity ∧
      next.history = Window.expire tracker.capacity tracker.history ∧
      ∀ providerId, SortedMap.get providerId next.counts = occurrences next.history providerId := by
  unfold makeRoom Window.expire
  split
  · rename_i full
    exact expireOldest_counted tracker consistent full
  · exact ⟨tracker,rfl,rfl,rfl,consistent.counted⟩

theorem record_consistent (providerId : String) :
    ∃ next, tracker.record providerId = .ok next ∧ Consistent next ∧ next.capacity = tracker.capacity ∧
      next.history = Window.push tracker.capacity tracker.history providerId := by
  obtain ⟨middle,expired,capacity,history,counted⟩ := makeRoom_counted tracker consistent
  rw [record,expired,ok_bind]
  refine ⟨_,rfl,⟨?_,?_,?_⟩,capacity,?_⟩
  · rw [capacity]
    exact consistent.positive
  · dsimp only
    rw [history,capacity]
    exact Window.push_bounded _ _ providerId consistent.positive consistent.bounded
  · intro other
    rw [SortedMap.get_insert,occurrences_snoc,count,counted providerId,counted other]
  · dsimp only
    rw [history]
    rfl

theorem nextCount_push (providerId : String) : tracker.count providerId + 1 -
    (if tracker.history.length = tracker.capacity ∧ tracker.history.head? = some providerId then 1 else 0) =
    (Window.push tracker.capacity tracker.history providerId).count providerId := by
  rw [Window.count_push,if_pos rfl,count_history tracker consistent,Window.expire]
  by_cases full : tracker.history.length = tracker.capacity
  · cases split : tracker.history with
    | nil => simp
    | cons first rest =>
      rw [split] at full
      rw [if_pos full]
      by_cases same : first = providerId
      · simp [← full,same]
      · simp [same,List.count_cons_of_ne same]
  · simp [full]

/-- The check before a selection predicts the window after it. -/
theorem allowsNext_fits (providerId : String) (maxShare : ℚ) :
    tracker.allowsNext providerId maxShare = true ↔
      Window.Fits tracker.capacity maxShare tracker.history providerId := by
  have length := Window.length_push tracker.capacity tracker.history providerId consistent.positive
    consistent.bounded
  rw [allowsNext,Window.Fits,length,nextCount_push tracker consistent,decide_eq_true_iff]
  rfl

end Steps

end ShareTracker

end SerenRouter
