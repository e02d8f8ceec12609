import SerenRouter.Kernel.Decimal
import Mathlib.Algebra.Order.Floor.Semiring
import Mathlib.Data.Rat.Floor
import Mathlib.Tactic.FieldSimp
import Mathlib.Tactic.Ring

/-! Rounding half away from zero to a number of decimal places, as a function of rationals,
and the decimals that compute it. -/
namespace SerenRouter.Kernel

/-- The nearest multiple of the last place; midpoints go away from zero. -/
def roundAway (places : Nat) (number : ℚ) : ℚ :=
  if number < 0 then -((⌊-number * 10^places + 1 / 2⌋ : ℤ) : ℚ) / 10^places
  else ((⌊number * 10^places + 1 / 2⌋ : ℤ) : ℚ) / 10^places

/-- No midpoint of the last place, of either sign, lies between two numbers. -/
def SameSide (places : Nat) (left right : ℚ) : Prop :=
  ∀ number : Nat, ((number + 1 / 2) / 10^places ≤ left ↔ (number + 1 / 2) / 10^places ≤ right) ∧
    (left ≤ -((number + 1 / 2) / 10^places) ↔ right ≤ -((number + 1 / 2) / 10^places))

section Away
variable (places : Nat)

theorem roundAway_nonneg (number : ℚ) (nonnegative : 0 ≤ number) :
    roundAway places number = ((⌊number * 10^places + 1 / 2⌋ : ℤ) : ℚ) / 10^places :=
  if_neg (not_lt.mpr nonnegative)

theorem roundAway_nonnegative (number : ℚ) (nonnegative : 0 ≤ number) : 0 ≤ roundAway places number := by
  rw [roundAway_nonneg places number nonnegative]
  have floor : 0 ≤ ⌊number * 10^places + 1 / 2⌋ := Int.floor_nonneg.mpr (by positivity)
  have cast : (0 : ℚ) ≤ ((⌊number * 10^places + 1 / 2⌋ : ℤ) : ℚ) := by exact_mod_cast floor
  positivity

theorem roundAway_integer (number : ℚ) : ∃ multiple : ℤ, roundAway places number = multiple / 10^places := by
  unfold roundAway
  split
  · exact ⟨-⌊-number * 10^places + 1 / 2⌋,by push_cast; rfl⟩
  · exact ⟨_,rfl⟩

/-- Rounding gives a multiple of the last place, which the midpoints around zero determine. -/
private theorem roundAway_midpoints (amount : ℚ) : ∃ multiple : ℤ, roundAway places amount = multiple / 10^places ∧
    ∀ number : Nat, ((number + 1 / 2) / 10^places ≤ amount ↔ (number : ℤ) + 1 ≤ multiple) ∧
      (amount ≤ -((number + 1 / 2) / 10^places) ↔ multiple ≤ -((number : ℤ) + 1)) := by
  have power : (0 : ℚ) < 10^places := by positivity
  have midpoint (number : Nat) (amount : ℚ) :
      (number + 1 / 2) / 10^places ≤ amount ↔ (number : ℤ) + 1 ≤ ⌊amount * 10^places + 1 / 2⌋ := by
    rw [Int.le_floor,div_le_iff₀ power]
    push_cast
    constructor <;> intro bound <;> linarith
  have positive (number : Nat) : (0 : ℚ) < (number + 1 / 2) / 10^places := by positivity
  by_cases negative : amount < 0
  · refine ⟨-⌊-amount * 10^places + 1 / 2⌋,?_,fun number => ⟨?_,?_⟩⟩
    · rw [roundAway,if_pos negative]
      push_cast
      rfl
    · have floor : 0 ≤ ⌊-amount * 10^places + 1 / 2⌋ :=
        Int.floor_nonneg.mpr (by have := mul_pos (neg_pos.mpr negative) power; linarith)
      exact iff_of_false (by have := positive number; linarith) (by omega)
    · rw [le_neg,midpoint]
      omega
  · refine ⟨⌊amount * 10^places + 1 / 2⌋,?_,fun number => ⟨midpoint number amount,?_⟩⟩
    · rw [roundAway,if_neg negative]
    · have floor : 0 ≤ ⌊amount * 10^places + 1 / 2⌋ :=
        Int.floor_nonneg.mpr (by have := mul_nonneg (not_lt.mp negative) power.le; linarith)
      exact iff_of_false (by have := positive number; linarith) (by omega)

/-- Two numbers are rounded alike exactly when no midpoint lies between them. -/
theorem roundAway_eq_iff (left right : ℚ) : roundAway places left = roundAway places right ↔ SameSide places left right := by
  have power : (10 : ℚ)^places ≠ 0 := by positivity
  obtain ⟨multiple,leftRounded,leftSides⟩ := roundAway_midpoints places left
  obtain ⟨other,rightRounded,rightSides⟩ := roundAway_midpoints places right
  rw [leftRounded,rightRounded,div_left_inj' power,Int.cast_inj,SameSide]
  simp only [leftSides,rightSides]
  constructor
  · rintro rfl number
    exact ⟨Iff.rfl,Iff.rfl⟩
  · intro same
    have above := same (max multiple other - 1).toNat
    have below := same (-min multiple other - 1).toNat
    omega

theorem roundAway_lt_iff (number : ℚ) (nonnegative : 0 ≤ number) (bound : Nat) :
    roundAway places number < bound ↔ number < bound - 1 / (2 * 10^places) := by
  have power : (0 : ℚ) < 10^places := by positivity
  rw [roundAway_nonneg places number nonnegative,div_lt_iff₀ power]
  have whole : (bound : ℚ) * 10^places = ((bound * 10^places : ℤ) : ℚ) := by push_cast; ring
  rw [whole,Int.cast_lt,Int.floor_lt]
  push_cast
  have half : (bound : ℚ) - 1 / (2 * 10^places) = (bound * 10^places - 1 / 2) / 10^places := by
    field_simp
  rw [half,lt_div_iff₀ power]
  constructor <;> intro below <;> linarith

theorem roundAway_multiple (multiple : Nat) : roundAway places (multiple / 10^places) = multiple / 10^places := by
  have power : (10 : ℚ)^places ≠ 0 := by positivity
  rw [roundAway_nonneg places _ (by positivity),div_mul_cancel₀ _ power]
  congr 1
  have between : ⌊(multiple : ℚ) + 1 / 2⌋ = (multiple : ℤ) := by
    rw [Int.floor_eq_iff]
    push_cast
    constructor <;> linarith
  rw [between]
  push_cast
  rfl

theorem roundAway_neg (number : ℚ) : roundAway places (-number) = -roundAway places number := by
  have half : ⌊(2 : ℚ)⁻¹⌋ = 0 := by rw [Int.floor_eq_iff]; norm_num
  unfold roundAway
  rcases lt_trichotomy number 0 with negative | rfl | positive
  · rw [if_neg (by linarith),if_pos negative]
    ring
  · simp [half]
  · rw [if_pos (by linarith),if_neg (by linarith),neg_neg]
    ring

end Away

namespace Decimal

theorem dropDigits_floor (mantissa digits : Nat) :
    (dropDigits mantissa digits : ℤ) = ⌊(mantissa : ℚ) / 10^digits + 1 / 2⌋ := by
  have power : (10 : ℚ)^digits ≠ 0 := by positivity
  have fraction : (mantissa : ℚ) / 10^digits + 1 / 2 =
      ((2 * mantissa + 10^digits : Nat) : ℚ) / ((2 * 10^digits : Nat) : ℚ) := by
    push_cast
    field_simp
  rw [fraction,Rat.floor_natCast_div_natCast]
  rfl

theorem value_signed (decimal : Decimal) :
    decimal.value = if decimal.negative then -((decimal.mantissa : ℚ) / 10^decimal.scale)
      else (decimal.mantissa : ℚ) / 10^decimal.scale := by
  unfold value
  split
  · ring
  · ring

theorem value_nonnegative (decimal : Decimal) (nonnegative : zero ≤ decimal) :
    decimal.value = (decimal.mantissa : ℚ) / 10^decimal.scale := by
  rw [value_signed]
  rcases (zero_le_iff decimal).mp nonnegative with positive | empty
  · rw [positive]
    rfl
  · simp [empty]

private theorem magnitude_rounded (mantissa scale places : Nat) :
    roundAway places ((mantissa : ℚ) / 10^scale) =
      if scale ≤ places then (mantissa : ℚ) / 10^scale
      else (dropDigits mantissa (scale - places) : ℚ) / 10^places := by
  split
  · rename_i within
    have scaled : (mantissa : ℚ) / 10^scale = ((mantissa * 10^(places - scale) : Nat) : ℚ) / 10^places := by
      rw [← Nat.sub_add_cancel within,pow_add,Nat.add_sub_cancel]
      push_cast
      field_simp
    rw [scaled,roundAway_multiple]
  · rename_i beyond
    have shifted : (mantissa : ℚ) / 10^scale * 10^places = (mantissa : ℚ) / 10^(scale - places) := by
      rw [← Nat.sub_add_cancel (le_of_not_ge beyond),pow_add,Nat.add_sub_cancel]
      field_simp
    rw [roundAway_nonneg places _ (by positivity),shifted,← dropDigits_floor]
    push_cast
    rfl

theorem roundDp_value (decimal : Decimal) (places : Nat) :
    (decimal.roundDp places).value = roundAway places decimal.value := by
  have magnitude := magnitude_rounded decimal.mantissa decimal.scale places
  rw [value_signed,value_signed]
  unfold roundDp
  split
  · rename_i within
    rw [if_pos within] at magnitude
    split
    · rw [roundAway_neg,magnitude]
    · rw [magnitude]
  · rename_i beyond
    rw [if_neg beyond] at magnitude
    dsimp only
    split
    · rw [roundAway_neg,magnitude]
    · rw [magnitude]

theorem appendZeros_value (count : Nat) (decimal : Decimal) : (appendZeros count decimal).value = decimal.value := by
  induction count generalizing decimal with
  | zero => rfl
  | succ count ih =>
    rw [appendZeros]
    split
    · rw [ih,value,value]
      dsimp only
      push_cast
      rw [pow_succ]
      field_simp
    · rfl

theorem appendZeros_scale (count : Nat) (decimal : Decimal) (room : decimal.mantissa * 10^count < 2^96)
    (digits : decimal.scale + count ≤ 28) : (appendZeros count decimal).scale = decimal.scale + count := by
  induction count generalizing decimal with
  | zero => rfl
  | succ count ih =>
    have more : 10 ≤ 10^(count + 1) := Nat.le_self_pow (by omega) 10
    have fits : decimal.mantissa * 10 < 2^96 := lt_of_le_of_lt (Nat.mul_le_mul_left _ more) room
    rw [appendZeros,dif_pos ⟨fits,by omega⟩,ih]
    · dsimp only
      omega
    · dsimp only
      rw [Nat.mul_assoc,← Nat.pow_succ']
      exact room
    · dsimp only
      omega

theorem roundDp_scale (decimal : Decimal) (places : Nat) : (decimal.roundDp places).scale ≤ places := by
  unfold roundDp
  split
  · assumption
  · exact le_refl _

theorem rounded_value (decimal : Decimal) (places : Nat) :
    ((decimal.roundDp places).rescale places).value = roundAway places decimal.value := by
  rw [rescale,if_pos (decimal.roundDp_scale places),appendZeros_value,roundDp_value]

theorem rounded_again (decimal : Decimal) (places : Nat) :
    ((((decimal.roundDp places).rescale places).roundDp places).rescale places) =
      (decimal.roundDp places).rescale places := by
  have short := decimal.roundDp_scale places
  have written : (decimal.roundDp places).rescale places =
      appendZeros (places - (decimal.roundDp places).scale) (decimal.roundDp places) := if_pos short
  have within := appendZeros_scale_le (places - (decimal.roundDp places).scale) (decimal.roundDp places)
  have again := appendZeros_again (places - (decimal.roundDp places).scale) (decimal.roundDp places)
  rw [Nat.add_sub_cancel' short] at within again
  rw [written]
  have kept : (appendZeros (places - (decimal.roundDp places).scale) (decimal.roundDp places)).roundDp places =
      appendZeros (places - (decimal.roundDp places).scale) (decimal.roundDp places) := dif_pos within
  rw [kept,rescale,if_pos within,again]

/-- The places are written out when the rounded amount is below a bound that leaves room. -/
theorem rounded_scale (decimal : Decimal) (places bound : Nat) (digits : places ≤ 28)
    (room : bound * 10^places ≤ 2^96) (nonnegative : zero ≤ decimal)
    (below : roundAway places decimal.value < bound) :
    ((decimal.roundDp places).rescale places).scale = places := by
  have short := decimal.roundDp_scale places
  have sum : (decimal.roundDp places).scale + (places - (decimal.roundDp places).scale) = places := by omega
  have rounded : zero ≤ decimal.roundDp places := by
    rw [le_def,value_zero,roundDp_value]
    exact roundAway_nonnegative places _ (by simpa [le_def] using nonnegative)
  rw [← roundDp_value,value_nonnegative _ rounded,div_lt_iff₀ (by positivity)] at below
  have mantissa : (decimal.roundDp places).mantissa < bound * 10^(decimal.roundDp places).scale := by exact_mod_cast below
  rw [rescale,if_pos short,appendZeros_scale]
  · exact sum
  · calc (decimal.roundDp places).mantissa * 10^(places - (decimal.roundDp places).scale)
        < bound * 10^(decimal.roundDp places).scale * 10^(places - (decimal.roundDp places).scale) :=
          Nat.mul_lt_mul_of_pos_right mantissa (by positivity)
      _ = bound * 10^places := by rw [Nat.mul_assoc,← pow_add,sum]
      _ ≤ 2^96 := room
  · omega

end Decimal

end SerenRouter.Kernel
