import SerenRouter.Kernel.Numeral

/-! Faithful rounding: between a number and its rounding there is no other decimal. A
product or quotient that a decimal holds is then exact, and every other one is a neighbour. -/
namespace SerenRouter.Kernel.Decimal

/-- No decimal lies strictly between the number and the decimal it is rounded to. -/
structure RoundsTo (rounded : Decimal) (number : ℚ) : Prop where
  above : ∀ decimal : Decimal, decimal.value ≤ number → decimal.value ≤ rounded.value
  below : ∀ decimal : Decimal, number ≤ decimal.value → rounded.value ≤ decimal.value

namespace RoundsTo
variable {rounded : Decimal} {number : ℚ} (rounds : rounded.RoundsTo number)
include rounds

theorem exact (held : Decimal) (same : held.value = number) : rounded.value = number := by
  apply le_antisymm
  · rw [← same]
    exact rounds.below held same.ge
  · rw [← same]
    exact rounds.above held same.le

theorem nonnegative (positive : 0 ≤ number) : 0 ≤ rounded.value := by
  have zeroBelow := rounds.above zero (by rw [value_zero]; exact positive)
  rwa [value_zero] at zeroBelow

theorem ceil_le (whole : Nat) (fits : whole < 2^96) (bounded : number ≤ whole) : ⌈rounded.value⌉ ≤ whole := by
  rw [Int.ceil_le]
  have below := rounds.below (ofNat whole fits) (by rw [value_ofNat]; exact bounded)
  rw [value_ofNat] at below
  exact_mod_cast below

end RoundsTo

/-- `Decimal::from` of a machine word. -/
def ofUsize (number : Nat) : Decimal := ofU64 (UInt64.ofNat number)

/-- `ceil`, and the machine word that it is, if it is one. -/
def ceilToUsize (decimal : Decimal) : Option Nat :=
  if 0 ≤ ⌈decimal.value⌉ ∧ ⌈decimal.value⌉ < 2^64 then some ⌈decimal.value⌉.toNat else none

theorem value_ofUsize (number : Nat) (usize : number < 2^64) : (ofUsize number).value = number := by
  rw [ofUsize,value_ofU64,UInt64.toNat_ofNat_of_lt' usize]

theorem RoundsTo.ceilToUsize {rounded : Decimal} {number : ℚ} (rounds : rounded.RoundsTo number) (whole : Nat)
    (usize : whole < 2^64) (nonnegative : 0 ≤ number) (bounded : number ≤ whole) :
    ∃ word : Nat, rounded.ceilToUsize = some word ∧ (word : ℤ) = ⌈rounded.value⌉ := by
  have least : 0 ≤ ⌈rounded.value⌉ := Int.ceil_nonneg (rounds.nonnegative nonnegative)
  have most := rounds.ceil_le whole (lt_trans usize (by decide)) bounded
  have word : ⌈rounded.value⌉ < 2^64 := by omega
  exact ⟨_,if_pos ⟨least,word⟩,Int.toNat_of_nonneg least⟩

/-- Products and quotients of nonnegative numbers are rounded faithfully, unless they exceed every decimal. -/
structure Arithmetic.Rounds (arithmetic : Arithmetic) : Prop where
  mul : ∀ left right bound : Decimal, zero ≤ left → zero ≤ right → left.value * right.value ≤ bound.value →
    ∃ product, arithmetic.mul left right = some product ∧ product.RoundsTo (left.value * right.value)
  div : ∀ dividend divisor bound : Decimal, zero ≤ dividend → zero < divisor →
    dividend.value / divisor.value ≤ bound.value →
    ∃ quotient, arithmetic.div dividend divisor = some quotient ∧ quotient.RoundsTo (dividend.value / divisor.value)

theorem shifted_le (decimal : Decimal) (places : Nat) (within : places ≤ decimal.scale) :
    decimal.value * 10^places ≤ 2^96 - 1 := by
  have power : (10 : ℚ)^decimal.scale ≠ 0 := by positivity
  have fits : (decimal.mantissa : ℚ) + 1 ≤ 2^96 := by exact_mod_cast decimal.fits
  have positive : (0 : ℚ) ≤ decimal.mantissa := by positivity
  have whole : decimal.value * 10^decimal.scale ≤ 2^96 - 1 := by
    rw [value_sign,mul_assoc,div_mul_cancel₀ _ power,sign]
    split <;> linarith
  rcases le_total decimal.value 0 with below | above
  · exact (mul_nonpos_of_nonpos_of_nonneg below (by positivity)).trans (by norm_num)
  · have fewer : (10 : ℚ)^places ≤ 10^decimal.scale := pow_le_pow_right₀ (by norm_num) within
    exact (mul_le_mul_of_nonneg_left fewer above).trans whole

theorem value_le_largest (decimal : Decimal) : decimal.value ≤ 2^96 - 1 := by
  simpa using decimal.shifted_le 0 (by omega)

section Nearest
variable (number : ℚ) (places : Nat)

theorem le_nearest (decimal : Decimal) (coarse : decimal.scale ≤ places) (smaller : decimal.value ≤ number) :
    decimal.value * 10^places ≤ ⌊number * 10^places + 1 / 2⌋ := by
  have power : (0 : ℚ) ≤ 10^places := by positivity
  have scaled := mul_le_mul_of_nonneg_right smaller power
  rw [← signedAt_value decimal places coarse] at scaled ⊢
  rw [Int.cast_le,Int.le_floor]
  linarith

theorem nearest_le (decimal : Decimal) (coarse : decimal.scale ≤ places) (larger : number ≤ decimal.value) :
    ⌊number * 10^places + 1 / 2⌋ ≤ decimal.value * 10^places := by
  have power : (0 : ℚ) ≤ 10^places := by positivity
  have scaled := mul_le_mul_of_nonneg_right larger power
  rw [← signedAt_value decimal places coarse] at scaled ⊢
  rw [Int.cast_le]
  apply Int.lt_add_one_iff.mp
  rw [Int.floor_lt]
  push_cast
  linarith

/-- A decimal with more places is smaller than any number that has no room for one more. -/
theorem finer_lt (decimal : Decimal) (finer : places < decimal.scale) (crowded : 2^96 - 1 / 2 ≤ number * 10^places * 10) :
    decimal.value * 10^places < number * 10^places ∧ decimal.value * 10^places ≤ ⌊number * 10^places + 1 / 2⌋ := by
  have small := decimal.shifted_le (places + 1) finer
  rw [pow_succ,← mul_assoc] at small
  have reached : (7922816251426433759354395034 : ℤ) ≤ ⌊number * 10^places + 1 / 2⌋ := by
    rw [Int.le_floor]
    push_cast
    linarith
  have cast : (7922816251426433759354395034 : ℚ) ≤ ⌊number * 10^places + 1 / 2⌋ := by exact_mod_cast reached
  constructor <;> linarith

/-- Rounding to so many places is faithful, when none can be added or the number has no room for one more. -/
theorem nearest_rounds (rounded : Decimal) (nearest : rounded.value * 10^places = ⌊number * 10^places + 1 / 2⌋)
    (crowded : places < 28 → 2^96 - 1 / 2 ≤ number * 10^places * 10) : rounded.RoundsTo number := by
  have power : (0 : ℚ) < 10^places := by positivity
  constructor
  · intro decimal smaller
    apply le_of_mul_le_mul_right _ power
    rw [nearest]
    rcases le_or_gt decimal.scale places with coarse | finer
    · exact le_nearest number places decimal coarse smaller
    · exact (finer_lt number places decimal finer (crowded (finer.trans_le decimal.bounded))).2
  · intro decimal larger
    apply le_of_mul_le_mul_right _ power
    rw [nearest]
    rcases le_or_gt decimal.scale places with coarse | finer
    · exact nearest_le number places decimal coarse larger
    · have below := (finer_lt number places decimal finer (crowded (finer.trans_le decimal.bounded))).1
      exact absurd (mul_le_mul_of_nonneg_right larger power.le) (not_le.mpr below)

end Nearest

/-- The fewest digits with which a mantissa fits. -/
theorem fit_least (negative : Bool) (mantissa scale : Nat) (fitted : Decimal)
    (found : fit negative mantissa scale = some fitted) :
    ∃ dropped ≤ scale, fitted.value = sign negative * (dropDigits mantissa dropped / 10^(scale - dropped)) ∧
      ∀ fewer < dropped, scale - fewer ≤ 28 → 2^96 ≤ dropDigits mantissa fewer := by
  obtain ⟨before,dropped,behind,split,chosen,earlier⟩ := List.findSome?_eq_some_iff.mp found
  have index : before = List.range dropped := by
    have position := congrArg (fun listed => listed.take before.length) split
    have place := congrArg (fun listed => listed[before.length]?) split
    have short : before.length < scale + 1 := by
      have size := congrArg List.length split
      simp at size
      omega
    simp [short] at place
    simp [List.take_range] at position
    rw [← position,place,Nat.min_eq_left (by omega)]
  have within : dropped ≤ scale := by
    have member : dropped ∈ List.range (scale + 1) := by rw [split]; simp
    rw [List.mem_range] at member
    omega
  rw [index] at earlier
  split at chosen
  · cases chosen
    refine ⟨dropped,within,value_fromParts _ _ _ _ _,fun fewer less digits => ?_⟩
    by_contra room
    have refused := earlier fewer (List.mem_range.mpr less)
    rw [dif_pos ⟨not_le.mp room,digits⟩] at refused
    cases refused
  · cases chosen

/-- Dropping as few digits as necessary rounds faithfully. -/
theorem fit_rounds (negative : Bool) (mantissa scale : Nat) (fitted : Decimal)
    (unsigned : negative = false ∨ mantissa = 0) (found : fit negative mantissa scale = some fitted) :
    fitted.RoundsTo ((mantissa : ℚ) / 10^scale) := by
  obtain ⟨dropped,within,written,least⟩ := fit_least negative mantissa scale fitted found
  have value : fitted.value = dropDigits mantissa dropped / 10^(scale - dropped) := by
    rw [written]
    rcases unsigned with rfl | rfl
    · simp [sign]
    · simp [Nat.le_zero.mp (dropDigits_le 0 dropped)]
  cases dropped with
  | zero =>
    rw [dropDigits_none,Nat.sub_zero] at value
    rw [← value]
    exact ⟨fun _ above => above,fun _ below => below⟩
  | succ dropped =>
    generalize kept : scale - (dropped + 1) = places at value
    have power : (10 : ℚ)^places ≠ 0 := by positivity
    have split : scale = places + (dropped + 1) := by omega
    have shifted : (mantissa : ℚ) / 10^scale * 10^places = mantissa / 10^(dropped + 1) := by
      rw [split,pow_add]
      field_simp
    apply nearest_rounds _ places
    · rw [shifted,value,div_mul_cancel₀ _ power,← dropDigits_floor]
      rfl
    · intro more
      have tenth : (mantissa : ℚ) / 10^scale * 10^places * 10 = mantissa / 10^dropped := by
        rw [shifted,pow_succ]
        field_simp
      rw [tenth,← not_lt,← dropDigits_lt,not_lt]
      exact least dropped (by omega) (by omega)

theorem fit_total (negative : Bool) (mantissa scale : Nat) (bound : Decimal)
    (unsigned : negative = false ∨ mantissa = 0) (room : (mantissa : ℚ) / 10^scale ≤ bound.value) :
    ∃ fitted, fit negative mantissa scale = some fitted ∧ fitted.RoundsTo ((mantissa : ℚ) / 10^scale) := by
  have small : (mantissa : ℚ) / 10^scale < 2^96 - 1 / 2 := by
    have largest := bound.value_le_largest
    linarith
  obtain ⟨fitted,found⟩ := Option.isSome_iff_exists.mp ((fit_isSome negative mantissa scale).mpr small)
  exact ⟨fitted,found,fit_rounds negative mantissa scale fitted unsigned found⟩

section LastPlace
variable (number : ℚ)

/-- The nearest multiple of the last place that a decimal can have. -/
def lastPlace : ℚ := ⌊number * 10^28 + 1 / 2⌋ / 10^28

theorem lastPlace_above (decimal : Decimal) (smaller : decimal.value ≤ number) : decimal.value ≤ lastPlace number := by
  rw [lastPlace,le_div_iff₀ (by positivity)]
  exact le_nearest number 28 decimal decimal.bounded smaller

theorem lastPlace_below (decimal : Decimal) (larger : number ≤ decimal.value) : lastPlace number ≤ decimal.value := by
  rw [lastPlace,div_le_iff₀ (by positivity)]
  exact nearest_le number 28 decimal decimal.bounded larger

/-- Rounding to the last place first loses nothing. -/
theorem RoundsTo.lastPlace {rounded : Decimal} (rounds : rounded.RoundsTo (lastPlace number)) : rounded.RoundsTo number :=
  ⟨fun decimal smaller => rounds.above decimal (lastPlace_above number decimal smaller),
    fun decimal larger => rounds.below decimal (lastPlace_below number decimal larger)⟩

end LastPlace

private theorem halfUp_floor (dividend divisor : Nat) (positive : 0 < divisor) :
    (((2 * dividend + divisor) / (2 * divisor) : Nat) : ℤ) = ⌊(dividend : ℚ) / divisor + 1 / 2⌋ := by
  have nonzero : (divisor : ℚ) ≠ 0 := by exact_mod_cast positive.ne'
  have fraction : (dividend : ℚ) / divisor + 1 / 2 = ((2 * dividend + divisor : Nat) : ℚ) / ((2 * divisor : Nat) : ℚ) := by
    push_cast
    field_simp
  rw [fraction,Rat.floor_natCast_div_natCast]
  rfl

private theorem lastPlace_quotient (dividend divisor : Decimal) (nonnegative : zero ≤ dividend)
    (divisorNonnegative : zero ≤ divisor) (mantissa : 0 < divisor.mantissa) :
    lastPlace (dividend.value / divisor.value) =
      (((2 * (dividend.mantissa * 10^(28 + divisor.scale)) + divisor.mantissa * 10^dividend.scale) /
        (2 * (divisor.mantissa * 10^dividend.scale)) : Nat) : ℚ) / 10^28 := by
  have nonzero : (divisor.mantissa : ℚ) ≠ 0 := by exact_mod_cast mantissa.ne'
  have positive : 0 < divisor.mantissa * 10^dividend.scale := by positivity
  have scaled : dividend.value / divisor.value * 10^28 =
      ((dividend.mantissa * 10^(28 + divisor.scale) : Nat) : ℚ) / ((divisor.mantissa * 10^dividend.scale : Nat) : ℚ) := by
    rw [value_nonnegative dividend nonnegative,value_nonnegative divisor divisorNonnegative,pow_add]
    push_cast
    field_simp
    norm_num
  rw [lastPlace,scaled,← halfUp_floor _ _ positive]
  rfl

theorem exact_rounds : exact.Rounds where
  mul left right bound leftNonnegative rightNonnegative room := by
    have product : left.value * right.value =
        ((left.mantissa * right.mantissa : Nat) : ℚ) / 10^(left.scale + right.scale) := by
      rw [value_nonnegative left leftNonnegative,value_nonnegative right rightNonnegative,pow_add]
      push_cast
      field_simp
    rw [product] at room ⊢
    apply fit_total _ _ _ bound _ room
    rcases signs_agree left right leftNonnegative rightNonnegative with same | empty | empty
    · exact .inl same
    · exact .inr (by simp [empty])
    · exact .inr (by simp [empty])
  div dividend divisor bound nonnegative divisorPositive room := by
    rw [lt_def,value_zero] at divisorPositive
    have divisorNonnegative : zero ≤ divisor := by rw [le_def,value_zero]; exact divisorPositive.le
    have mantissa : 0 < divisor.mantissa := by
      apply Nat.pos_of_ne_zero
      intro empty
      exact absurd divisorPositive (by simp [value,empty])
    have positive : 0 < divisor.mantissa * 10^dividend.scale := by positivity
    have placed := lastPlace_quotient dividend divisor nonnegative divisorNonnegative mantissa
    have within := lastPlace_below _ bound room
    rw [placed] at within
    obtain ⟨quotient,found,rounds⟩ := fit_total (dividend.negative != divisor.negative) _ 28 bound (by
      rcases signs_agree dividend divisor nonnegative divisorNonnegative with same | empty | empty
      · exact .inl same
      · refine .inr ?_
        rw [empty,Nat.zero_mul,Nat.mul_zero,Nat.zero_add]
        exact Nat.div_eq_of_lt (by omega)
      · exact absurd empty mantissa.ne') within
    rw [← placed] at rounds
    refine ⟨quotient,?_,rounds.lastPlace⟩
    simp only [exact,exactDiv,if_neg positive.ne']
    exact found

end SerenRouter.Kernel.Decimal
