import Mathlib.Algebra.Order.Field.Basic
import Mathlib.Tactic.Linarith
import Mathlib.Tactic.LinearCombination

/-! Exponential smoothing of a series of samples. The smoothed value is a convex
combination of the samples, so it stays between the smallest and the largest of them. -/
namespace SerenRouter.Kernel.Smoothing

variable {K : Type} [Field K]

/-- The previous value moved towards a sample. -/
def blend (weight previous sample : K) : K := weight * sample + (1 - weight) * previous

/-- The first sample, with the later ones blended in. -/
def smoothed (weight : K) : List K → Option K
  | [] => none
  | first :: rest => some (rest.foldl (blend weight) first)

theorem smoothed_snoc (weight : K) (samples : List K) (sample : K) :
    smoothed weight (samples ++ [sample]) =
      some ((smoothed weight samples).elim sample (fun previous => blend weight previous sample)) := by
  cases samples with
  | nil => rfl
  | cons first rest => simp [smoothed,List.foldl_append]

variable [LinearOrder K]

/-- Between the smallest and the largest sample. -/
def Within (samples : List K) (value : K) : Prop :=
  ∃ least greatest, samples.min? = some least ∧ samples.max? = some greatest ∧ least ≤ value ∧ value ≤ greatest

variable [IsStrictOrderedRing K]

theorem blend_between (weight previous sample low high : K) (nonnegative : 0 ≤ weight) (bounded : weight ≤ 1)
    (previousInside : low ≤ previous ∧ previous ≤ high) (sampleInside : low ≤ sample ∧ sample ≤ high) :
    low ≤ blend weight previous sample ∧ blend weight previous sample ≤ high := by
  have rest : 0 ≤ 1 - weight := sub_nonneg.mpr bounded
  have whole (bound : K) : weight * bound + (1 - weight) * bound = bound := by linear_combination
  unfold blend
  constructor
  · calc low = weight * low + (1 - weight) * low := (whole low).symm
      _ ≤ weight * sample + (1 - weight) * previous :=
        add_le_add (mul_le_mul_of_nonneg_left sampleInside.1 nonnegative)
          (mul_le_mul_of_nonneg_left previousInside.1 rest)
  · calc weight * sample + (1 - weight) * previous ≤ weight * high + (1 - weight) * high :=
        add_le_add (mul_le_mul_of_nonneg_left sampleInside.2 nonnegative)
          (mul_le_mul_of_nonneg_left previousInside.2 rest)
      _ = high := whole high

theorem foldl_between (weight low high : K) (nonnegative : 0 ≤ weight) (bounded : weight ≤ 1) (later : List K) (start : K)
    (startInside : low ≤ start ∧ start ≤ high) (laterInside : ∀ sample ∈ later, low ≤ sample ∧ sample ≤ high) :
    low ≤ later.foldl (blend weight) start ∧ later.foldl (blend weight) start ≤ high := by
  induction later generalizing start with
  | nil => exact startInside
  | cons sample later ih =>
    obtain ⟨sampleInside,othersInside⟩ := List.forall_mem_cons.mp laterInside
    apply ih _ _ othersInside
    exact blend_between weight start sample low high nonnegative bounded startInside sampleInside

/-- Smoothing never leaves the range of its samples. -/
theorem smoothed_within (weight : K) (nonnegative : 0 ≤ weight) (bounded : weight ≤ 1) (samples : List K) (value : K)
    (known : smoothed weight samples = some value) : Within samples value := by
  cases samples with
  | nil => cases known
  | cons first rest =>
    cases known
    have member : first ∈ first :: rest := List.mem_cons_self
    obtain ⟨low,least⟩ := Option.isSome_iff_exists.mp (List.isSome_min?_of_mem member)
    obtain ⟨high,greatest⟩ := Option.isSome_iff_exists.mp (List.isSome_max?_of_mem member)
    have inside (sample : K) (member : sample ∈ first :: rest) : low ≤ sample ∧ sample ≤ high :=
      ⟨(List.min?_eq_some_iff.mp least).2 sample member,(List.max?_eq_some_iff.mp greatest).2 sample member⟩
    obtain ⟨firstInside,restInside⟩ := List.forall_mem_cons.mp inside
    have between := foldl_between weight low high nonnegative bounded rest first firstInside restInside
    exact ⟨low,high,least,greatest,between⟩

end SerenRouter.Kernel.Smoothing
