import Mathlib.Data.List.Count
import Mathlib.Data.List.DropRight
import Mathlib.Data.List.Nodup
import Mathlib.Algebra.Order.Floor.Semiring
import Mathlib.Algebra.Order.Floor.Ring
import Mathlib.Data.Rat.Floor
import Mathlib.Algebra.Order.BigOperators.Group.List
import Mathlib.Tactic.Linarith
import Mathlib.Tactic.Positivity

/-! Sliding windows of a fixed capacity and share quotas. A quota is a fraction of the
window; an item fits when its count after entering stays within the rounded-up quota. -/
namespace SerenRouter.Kernel.Window

variable {α : Type}

/-- The window without its oldest item, when it is full. -/
def expire (capacity : Nat) (window : List α) : List α :=
  if window.length = capacity then window.tail else window

/-- The window after one more item. -/
def push (capacity : Nat) (window : List α) (item : α) : List α := expire capacity window ++ [item]

/-- The number of places a fraction of a window may take. -/
def quota (share : ℚ) (length : Nat) : Nat := ⌈share * length⌉₊

section Push
variable (capacity : Nat) (window : List α)

theorem length_expire (positive : 0 < capacity) (bounded : window.length ≤ capacity) :
    (expire capacity window).length + 1 = min (window.length + 1) capacity := by
  unfold expire
  split
  · rw [List.length_tail]
    omega
  · omega

theorem length_push (item : α) (positive : 0 < capacity) (bounded : window.length ≤ capacity) :
    (push capacity window item).length = min (window.length + 1) capacity := by
  rw [push,List.length_append,List.length_singleton,length_expire capacity window positive bounded]

theorem push_bounded (item : α) (positive : 0 < capacity) (bounded : window.length ≤ capacity) :
    (push capacity window item).length ≤ capacity := by
  rw [length_push capacity window item positive bounded]
  omega

theorem foldl_push (positive : 0 < capacity) (items : List α) :
    items.foldl (push capacity) [] = items.rtake (min items.length capacity) := by
  induction items using List.reverseRecOn with
  | nil => rfl
  | append_singleton items item ih =>
    rw [List.foldl_append,ih,List.foldl_cons,List.foldl_nil,push,expire,List.rtake,List.rtake,List.length_append,
      List.length_singleton,List.length_drop]
    by_cases full : capacity ≤ items.length
    · have size : items.length - (items.length - min items.length capacity) = capacity := by omega
      rw [if_pos size,List.tail_drop,List.drop_append_of_le_length (by omega)]
      congr 2
      omega
    · have size : items.length - (items.length - min items.length capacity) ≠ capacity := by omega
      rw [if_neg size,List.drop_append_of_le_length (by omega)]
      congr 2
      omega

end Push

variable [DecidableEq α]

/-- How many items came after the last occurrence. -/
def age (window : List α) (item : α) : Nat := window.reverse.idxOf item

/-- An item of greatest multiplicity and, among those, the one whose last occurrence is latest. -/
structure Leads (window : List α) (item : α) : Prop where
  present : item ∈ window
  most : ∀ other ∈ window, window.count other ≤ window.count item
  latest : ∀ other ∈ window, window.count other = window.count item → age window item ≤ age window other

theorem find?_first (test : α → Bool) (items : List α) (item : α) :
    items.find? test = some item ↔ item ∈ items ∧ test item = true ∧
      ∀ other ∈ items, test other = true → items.idxOf item ≤ items.idxOf other := by
  induction items with
  | nil => simp
  | cons first rest ih =>
    by_cases passes : test first = true
    · rw [List.find?_cons_of_pos passes]
      constructor
      · intro found
        cases found
        exact ⟨by simp,passes,by simp⟩
      · rintro ⟨_,_,earliest⟩
        have place := earliest first (by simp) passes
        by_contra different
        have apart : first ≠ item := fun same => different (congrArg some same)
        rw [List.idxOf_cons_self,List.idxOf_cons_ne rest apart] at place
        omega
    · have apart (other : α) (passing : test other = true) : first ≠ other := fun same => passes (same ▸ passing)
      rw [List.find?_cons_of_neg passes,ih]
      constructor
      · rintro ⟨member,passing,earliest⟩
        refine ⟨by simp [member],passing,fun other listed fits => ?_⟩
        have inside := (List.mem_cons.mp listed).resolve_left (Ne.symm (apart other fits))
        rw [List.idxOf_cons_ne rest (apart item passing),List.idxOf_cons_ne rest (apart other fits)]
        have := earliest other inside fits
        omega
      · rintro ⟨listed,passing,earliest⟩
        have inside := (List.mem_cons.mp listed).resolve_left (Ne.symm (apart item passing))
        refine ⟨inside,passing,fun other member fits => ?_⟩
        have place := earliest other (by simp [member]) fits
        rw [List.idxOf_cons_ne rest (apart item passing),List.idxOf_cons_ne rest (apart other fits)] at place
        omega

/-- Searched from the newest item on, the first of greatest multiplicity leads. -/
theorem find?_leads (window : List α) (highest : Nat) (reached : ∃ item ∈ window, window.count item = highest)
    (bounded : ∀ item ∈ window, window.count item ≤ highest) (item : α) :
    window.reverse.find? (fun other => decide (window.count other = highest)) = some item ↔ Leads window item := by
  rw [find?_first]
  simp only [List.mem_reverse,decide_eq_true_iff]
  constructor
  · rintro ⟨present,most,latest⟩
    refine ⟨present,fun other member => ?_,fun other member same => latest other member (same.trans most)⟩
    rw [most]
    exact bounded other member
  · intro leads
    obtain ⟨top,member,multiplicity⟩ := reached
    have most : window.count item = highest := by
      apply le_antisymm (bounded item leads.present)
      rw [← multiplicity]
      exact leads.most top member
    exact ⟨leads.present,most,fun other listed same => leads.latest other listed (same.trans most.symm)⟩

/-- The item may enter: afterwards it keeps its quota. -/
def Fits (capacity : Nat) (share : ℚ) (window : List α) (item : α) : Prop :=
  (push capacity window item).count item ≤ quota share (push capacity window item).length

/-- Every item keeps its quota. -/
def Within (share : ℚ) (window : List α) : Prop :=
  ∀ item, window.count item ≤ quota share window.length

section Counts
variable (capacity : Nat) (window : List α)

theorem count_push (item other : α) :
    (push capacity window item).count other =
      (expire capacity window).count other + if item = other then 1 else 0 := by
  rw [push,List.count_append,List.count_singleton]
  simp

theorem count_expire_le (item : α) : (expire capacity window).count item ≤ window.count item := by
  unfold expire
  split
  · exact (List.tail_sublist window).count_le item
  · exact le_refl _

end Counts

theorem quota_mono (share : ℚ) (nonnegative : 0 ≤ share) (shorter longer : Nat) (le : shorter ≤ longer) :
    quota share shorter ≤ quota share longer := by
  apply Nat.ceil_mono
  exact mul_le_mul_of_nonneg_left (by exact_mod_cast le) nonnegative

/-- A window in which every item keeps its quota still does when a fitting item enters. -/
theorem within_push (capacity : Nat) (share : ℚ) (window : List α) (item : α) (positive : 0 < capacity)
    (nonnegative : 0 ≤ share) (bounded : window.length ≤ capacity) (within : Within share window)
    (fits : Fits capacity share window item) : Within share (push capacity window item) := by
  intro other
  by_cases same : item = other
  · subst same
    exact fits
  · rw [count_push,if_neg same,Nat.add_zero]
    calc (expire capacity window).count other
        ≤ window.count other := count_expire_le capacity window other
      _ ≤ quota share window.length := within other
      _ ≤ quota share (push capacity window item).length := by
        apply quota_mono share nonnegative
        rw [length_push capacity window item positive bounded]
        omega

/-- Distinct items share the places of a window. -/
theorem sum_count_le (items window : List α) (distinct : items.Nodup) :
    (items.map (fun item => window.count item)).sum ≤ window.length := by
  induction window with
  | nil => simp
  | cons first window ih =>
    have split : (items.map (fun item => (first :: window).count item)).sum =
        (items.map (fun item => window.count item)).sum + items.count first := by
      have indicator : (items.map (fun item => if first = item then 1 else 0)).sum = items.count first := by
        clear ih distinct
        induction items with
        | nil => rfl
        | cons item items ih =>
          rw [List.map_cons,List.sum_cons,ih,List.count_cons]
          by_cases same : first = item
          · simp [same,Nat.add_comm]
          · simp [same,Ne.symm same]
      rw [← indicator,← List.sum_map_add]
      simp [List.count_cons]
    have once := List.nodup_iff_count_le_one.mp distinct first
    rw [split,List.length_cons]
    omega

/-- Enough distinct items never exhaust all quotas at once: one of them fits. -/
theorem exists_fits (capacity : Nat) (share : ℚ) (window items : List α) (positive : 0 < capacity)
    (bounded : window.length ≤ capacity) (distinct : items.Nodup) (enough : 1 ≤ items.length * share) :
    ∃ item ∈ items, Fits capacity share window item := by
  by_contra none
  push Not at none
  have next := length_expire capacity window positive bounded
  have full : ∀ item ∈ items, share * ((expire capacity window).length + 1) ≤
      ((expire capacity window).count item : ℚ) := by
    intro item member
    have exceeded := none item member
    rw [Fits,count_push,if_pos rfl,push,List.length_append,List.length_singleton,quota,not_le,
      Nat.lt_succ_iff] at exceeded
    have := le_trans (Nat.le_ceil _) (Nat.cast_le (α := ℚ).mpr exceeded)
    push_cast at this
    exact this
  have total : (items.length : ℚ) * (share * ((expire capacity window).length + 1)) ≤
      ((items.map (fun item => (expire capacity window).count item)).sum : ℕ) := by
    clear none enough distinct
    induction items with
    | nil => simp
    | cons item items ih =>
      have first := full item (by simp)
      have rest := ih (fun other member => full other (by simp [member]))
      push_cast [List.map_cons,List.sum_cons,List.length_cons] at rest ⊢
      linarith
  have places : ((items.map (fun item => (expire capacity window).count item)).sum : ℚ) ≤
      (expire capacity window).length := by
    exact_mod_cast sum_count_le items (expire capacity window) distinct
  have more : ((expire capacity window).length : ℚ) + 1 ≤
      (items.length * share) * ((expire capacity window).length + 1) :=
    le_mul_of_one_le_left (by positivity) enough
  linarith

end SerenRouter.Kernel.Window
