import SerenRouter.Kernel.Json
import Mathlib.Data.Rat.Defs
import Mathlib.Algebra.Order.Field.Rat
import Mathlib.Algebra.Order.Field.Basic
import Mathlib.Tactic.Linarith
import Mathlib.Tactic.Positivity
import Mathlib.Tactic.IntervalCases

/-! Decimals with a 96-bit mantissa and at most 28 fractional digits. Comparison,
half-away-from-zero rounding, rescaling and the written form are computed here; the
arithmetic that has to round to fit, and the readers, are parameters. -/
namespace SerenRouter.Kernel

structure Decimal where
  negative : Bool
  mantissa : Nat
  scale : Nat
  fits : mantissa < 2^96
  bounded : scale ≤ 28
  deriving DecidableEq

namespace Decimal

/-- The exact value. -/
def value (decimal : Decimal) : ℚ :=
  (if decimal.negative then -1 else 1) * (decimal.mantissa : ℚ) / 10^decimal.scale

/-- `from_parts`: zero has no sign. -/
def fromParts (negative : Bool) (mantissa scale : Nat) (fits : mantissa < 2^96) (bounded : scale ≤ 28) : Decimal :=
  ⟨negative && mantissa != 0,mantissa,scale,fits,bounded⟩

def Signless (decimal : Decimal) : Prop := decimal.mantissa = 0 → decimal.negative = false

theorem fromParts_signless (negative : Bool) (mantissa scale : Nat) (fits : mantissa < 2^96) (bounded : scale ≤ 28) :
    (fromParts negative mantissa scale fits bounded).Signless := by
  intro empty
  have nothing : mantissa = 0 := empty
  simp [fromParts,nothing]

theorem fromParts_self (decimal : Decimal) (signless : decimal.Signless) :
    fromParts decimal.negative decimal.mantissa decimal.scale decimal.fits decimal.bounded = decimal := by
  have sign : (decimal.negative && decimal.mantissa != 0) = decimal.negative := by
    by_cases empty : decimal.mantissa = 0
    · rw [signless empty,Bool.false_and]
    · rw [bne_iff_ne.mpr empty,Bool.and_true]
  unfold fromParts
  cases decimal
  simp only [sign]

/-- Comparison is by value: `1.0` and `1.00` are equal, and so are the two zeros. -/
instance : LE Decimal := ⟨fun left right => left.value ≤ right.value⟩
instance : LT Decimal := ⟨fun left right => left.value < right.value⟩

theorem le_def (left right : Decimal) : left ≤ right ↔ left.value ≤ right.value := Iff.rfl
theorem lt_def (left right : Decimal) : left < right ↔ left.value < right.value := Iff.rfl
theorem not_lt_iff (left right : Decimal) : ¬ left < right ↔ right ≤ left := not_lt (α := ℚ)

instance (left right : Decimal) : Decidable (left ≤ right) :=
  inferInstanceAs (Decidable (left.value ≤ right.value))
instance (left right : Decimal) : Decidable (left < right) :=
  inferInstanceAs (Decidable (left.value < right.value))

/-- `Ord::cmp`. -/
def cmp (left right : Decimal) : Ordering := compare left.value right.value

/-- An integer below `2^96`, with no fractional digits. -/
def ofNat (number : Nat) (fits : number < 2^96 := by decide) : Decimal :=
  ⟨false,number,0,fits,by omega⟩

/-- `Decimal::from` of an unsigned 64-bit integer. -/
def ofU64 (number : UInt64) : Decimal :=
  ofNat number.toNat (lt_of_lt_of_le number.toNat_lt (by decide))

theorem million_fits : 1000000 < 2^96 := by decide
theorem largest_fits : 2^96 - 1 < 2^96 := by decide

def million : Decimal := ofNat 1000000 million_fits

/-- `Decimal::MAX`. -/
def largest : Decimal := ofNat (2^96 - 1) largest_fits

def zero : Decimal := ofNat 0
def one : Decimal := ofNat 1

def isZero (decimal : Decimal) : Bool := decimal.mantissa == 0

@[simp] theorem value_ofNat (number : Nat) (fits : number < 2^96) :
    (ofNat number fits).value = number := by
  simp [ofNat,value]

@[simp] theorem value_ofU64 (number : UInt64) : (ofU64 number).value = number.toNat := value_ofNat _ _

@[simp] theorem value_zero : zero.value = 0 := by simp [zero]
@[simp] theorem value_million : million.value = 1000000 := by simp [million]
@[simp] theorem value_one : one.value = 1 := by simp [one]

/-- The mantissa after dropping `digits` digits, rounding half away from zero. -/
def dropDigits (mantissa digits : Nat) : Nat := (2 * mantissa + 10^digits) / (2 * 10^digits)

theorem dropDigits_le (mantissa digits : Nat) : dropDigits mantissa digits ≤ mantissa := by
  have power : 1 ≤ 10^digits := Nat.one_le_pow _ _ (by omega)
  unfold dropDigits
  apply Nat.le_of_lt_succ
  rw [Nat.div_lt_iff_lt_mul (by omega)]
  have := Nat.mul_le_mul_left mantissa power
  nlinarith

/-- `round_dp_with_strategy` with midpoints away from zero. -/
def roundDp (decimal : Decimal) (places : Nat) : Decimal :=
  if within : decimal.scale ≤ places then decimal
  else ⟨decimal.negative,dropDigits decimal.mantissa (decimal.scale - places),places,
    lt_of_le_of_lt (dropDigits_le _ _) decimal.fits,by have := decimal.bounded; omega⟩

/-- Append up to `count` zero digits, as long as the mantissa still fits. -/
def appendZeros : Nat → Decimal → Decimal
  | 0, decimal => decimal
  | count + 1, decimal =>
    if room : decimal.mantissa * 10 < 2^96 ∧ decimal.scale + 1 ≤ 28 then
      appendZeros count ⟨decimal.negative,decimal.mantissa * 10,decimal.scale + 1,room.1,room.2⟩
    else decimal

theorem appendZeros_negative (count : Nat) (decimal : Decimal) :
    (appendZeros count decimal).negative = decimal.negative := by
  induction count generalizing decimal with
  | zero => rfl
  | succ count ih =>
    rw [appendZeros]
    split
    · rw [ih]
    · rfl

theorem appendZeros_scale_le (count : Nat) (decimal : Decimal) :
    (appendZeros count decimal).scale ≤ decimal.scale + count := by
  induction count generalizing decimal with
  | zero => exact le_refl _
  | succ count ih =>
    rw [appendZeros]
    split
    · apply le_trans (ih _)
      dsimp only
      omega
    · omega

/-- Zeros are appended once; what had no room for more has none afterwards. -/
theorem appendZeros_again (count : Nat) (decimal : Decimal) :
    appendZeros (decimal.scale + count - (appendZeros count decimal).scale) (appendZeros count decimal) =
      appendZeros count decimal := by
  induction count generalizing decimal with
  | zero =>
    rw [appendZeros,Nat.add_zero,Nat.sub_self]
    rfl
  | succ count ih =>
    by_cases room : decimal.mantissa * 10 < 2^96 ∧ decimal.scale + 1 ≤ 28
    · have again := ih ⟨decimal.negative,decimal.mantissa * 10,decimal.scale + 1,room.1,room.2⟩
      rw [appendZeros,dif_pos room,← Nat.add_assoc,Nat.add_right_comm]
      exact again
    · have full : appendZeros (count + 1) decimal = decimal := by rw [appendZeros,dif_neg room]
      rw [full,Nat.add_sub_cancel_left,full]

/-- `rescale`: fewer digits by rounding, more digits as far as the mantissa allows. -/
def rescale (decimal : Decimal) (places : Nat) : Decimal :=
  if decimal.scale ≤ places then appendZeros (places - decimal.scale) decimal
  else decimal.roundDp places

theorem roundDp_negative (decimal : Decimal) (places : Nat) :
    (decimal.roundDp places).negative = decimal.negative := by
  unfold roundDp
  split <;> rfl

/-- Drop up to `count` fractional digits that are zeros. -/
def stripZeros : Nat → Decimal → Decimal
  | 0, decimal => decimal
  | count + 1, decimal =>
    if decimal.mantissa % 10 = 0 ∧ decimal.scale ≠ 0 then
      stripZeros count ⟨decimal.negative,decimal.mantissa / 10,decimal.scale - 1,
        lt_of_le_of_lt (Nat.div_le_self _ _) decimal.fits,le_trans (Nat.sub_le _ _) decimal.bounded⟩
    else decimal

/-- `normalize`: no trailing zeros, and one zero. -/
def normalize (decimal : Decimal) : Decimal :=
  if decimal.isZero then zero else stripZeros decimal.scale decimal

/-- The fractional digits, padded to the scale. -/
def fractionDigits (decimal : Decimal) : List Char :=
  let digits := Nat.toDigits 10 (decimal.mantissa % 10^decimal.scale)
  List.replicate (decimal.scale - digits.length) '0' ++ digits

/-- The written form: every fractional digit of the scale is printed. -/
def toText (decimal : Decimal) : String :=
  String.ofList ((if decimal.negative then ['-'] else []) ++
    Nat.toDigits 10 (decimal.mantissa / 10^decimal.scale) ++
    if decimal.scale = 0 then [] else '.' :: decimal.fractionDigits)

section Text
open Json

private theorem toDigits_head (number : Nat) (positive : 0 < number) :
    ∃ first rest, Nat.toDigits 10 number = first :: rest ∧ first ≠ '0' := by
  induction number using Nat.strongRecOn with
  | ind number ih =>
    by_cases small : number < 10
    · rw [Nat.toDigits_of_lt_base small]
      refine ⟨_,_,rfl,?_⟩
      interval_cases number <;> decide
    · rw [Nat.toDigits_of_base_le (by omega) (by omega)]
      obtain ⟨first,rest,digits,nonzero⟩ := ih (number / 10) (by omega) (by omega)
      exact ⟨first,rest ++ [(number % 10).digitChar],by rw [digits]; rfl,nonzero⟩

private theorem dropWhile_digits (digits rest : List Char) (all : ∀ digit ∈ digits, digit.isDigit = true)
    (stops : ∀ first tail, rest = first :: tail → first.isDigit = false) :
    (digits ++ rest).dropWhile Char.isDigit = rest := by
  induction digits with
  | nil =>
    cases rest with
    | nil => rfl
    | cons first tail => simp [stops first tail rfl]
  | cons digit digits ih =>
    simp [all digit (by simp),ih (fun d member => all d (by simp [member]))]

private theorem isUnsignedNumber_toDigits (number : Nat) (tail : List Char)
    (stops : ∀ first rest, tail = first :: rest → first.isDigit = false) :
    isUnsignedNumber (Nat.toDigits 10 number ++ tail) = isFraction tail := by
  rcases Nat.eq_zero_or_pos number with rfl | positive
  · simp [isUnsignedNumber]
  · obtain ⟨first,rest,digits,nonzero⟩ := toDigits_head number positive
    have all : ∀ digit ∈ first :: rest, digit.isDigit = true := by
      intro digit member
      exact Nat.isDigit_of_mem_toDigits (by omega) (by omega) (digits ▸ member)
    rw [digits,List.cons_append,isUnsignedNumber]
    · rw [dropWhile_digits rest tail (fun d member => all d (by simp [member])) stops,
        all first (by simp),Bool.true_and]
    · simpa using nonzero

theorem fractionDigits_digits (decimal : Decimal) :
    ∀ digit ∈ decimal.fractionDigits, digit.isDigit = true := by
  intro digit member
  rcases List.mem_append.mp member with zero | present
  · rw [(List.mem_replicate.mp zero).2]
    rfl
  · exact Nat.isDigit_of_mem_toDigits (by omega) (by omega) present

/-- An unsigned numeral starts with a digit, never with the sign. -/
private theorem isNumber_signed (negative : Bool) (number : Nat) (tail : List Char) :
    isNumber ((if negative then ['-'] else []) ++ (Nat.toDigits 10 number ++ tail)) =
      isUnsignedNumber (Nat.toDigits 10 number ++ tail) := by
  cases negative with
  | true => rfl
  | false =>
    simp only [Bool.false_eq_true,if_false,List.nil_append]
    unfold isNumber
    split
    · rename_i rest equal
      obtain ⟨first,others,digits⟩ := List.exists_cons_of_ne_nil (Nat.toDigits_ne_nil (n := number) (b := 10))
      have isDigit : first.isDigit = true :=
        Nat.isDigit_of_mem_toDigits (b := 10) (n := number) (by omega) (by omega) (by rw [digits]; simp)
      rw [digits,List.cons_append] at equal
      cases equal
      cases isDigit
    · rfl

theorem toText_number (decimal : Decimal) : isNumber decimal.toText.toList = true := by
  have unsigned : isUnsignedNumber (Nat.toDigits 10 (decimal.mantissa / 10^decimal.scale) ++
      if decimal.scale = 0 then [] else '.' :: decimal.fractionDigits) = true := by
    by_cases whole : decimal.scale = 0
    · rw [if_pos whole,isUnsignedNumber_toDigits _ _ (by simp)]
      rfl
    · rw [if_neg whole,isUnsignedNumber_toDigits]
      · have digits := decimal.fractionDigits_digits
        have nonempty : decimal.fractionDigits ≠ [] := by
          simp [fractionDigits,Nat.toDigits_ne_nil]
        obtain ⟨first,rest,split⟩ := List.exists_cons_of_ne_nil nonempty
        rw [split] at digits ⊢
        have drained := dropWhile_digits rest [] (fun d member => digits d (by simp [member])) (by simp)
        rw [List.append_nil] at drained
        rw [isFraction,drained,digits first (by simp)]
        rfl
      · intro first rest equal
        cases equal
        rfl
  rw [toText,String.toList_ofList,List.append_assoc,isNumber_signed]
  exact unsigned

/-- The decimal digits of an integer, behind its sign. -/
def digitsOfInt (integer : Int) : List Char :=
  (if decide (integer < 0) then ['-'] else []) ++ (Nat.toDigits 10 integer.natAbs ++ [])

theorem digitsOfInt_number (integer : Int) : isNumber (digitsOfInt integer) = true := by
  rw [digitsOfInt,isNumber_signed,isUnsignedNumber_toDigits _ _ (by simp)]
  rfl

end Text

end Decimal

/-- An integer as a JSON number. -/
def Json.Number.ofInt (integer : Int) : Json.Number :=
  ⟨String.ofList (Decimal.digitsOfInt integer),by rw [String.toList_ofList]; exact Decimal.digitsOfInt_number integer⟩

namespace Decimal

/-- The operators that round to fit (`none` is the overflow on which `+`, `*` and `/`
panic), the two readers, and the floating-point number of a decimal. -/
structure Arithmetic where
  add : Decimal → Decimal → Option Decimal
  mul : Decimal → Decimal → Option Decimal
  div : Decimal → Decimal → Option Decimal
  fromStr : String → Option Decimal
  fromScientific : String → Option Decimal
  toF64 : Decimal → Option ℚ

/-- Sums, products and quotients of nonnegative numbers are not negative. -/
structure Arithmetic.Signed (arithmetic : Arithmetic) : Prop where
  add : ∀ left right sum, zero ≤ left → zero ≤ right → arithmetic.add left right = some sum → zero ≤ sum
  mul : ∀ left right product, zero ≤ left → zero ≤ right → arithmetic.mul left right = some product →
    zero ≤ product
  div : ∀ left right quotient, zero ≤ left → zero ≤ right → arithmetic.div left right = some quotient →
    zero ≤ quotient

theorem zero_le_iff (decimal : Decimal) : zero ≤ decimal ↔ decimal.negative = false ∨ decimal.mantissa = 0 := by
  rw [le_def,value_zero,value]
  cases negative : decimal.negative with
  | false =>
    simp only [Bool.false_eq_true,if_false,true_or,iff_true]
    positivity
  | true =>
    have power : (0 : ℚ) < 10^decimal.scale := by positivity
    simp only [if_true,reduceCtorEq,false_or]
    rw [le_div_iff₀ power,zero_mul]
    constructor
    · intro nonnegative
      have : (decimal.mantissa : ℚ) ≤ 0 := by linarith
      exact_mod_cast le_antisymm this (by positivity)
    · intro empty
      simp [empty]

theorem zero_le_ofNat (number : Nat) (fits : number < 2^96) : zero ≤ ofNat number fits :=
  (zero_le_iff _).mpr (.inl rfl)

end Decimal

end SerenRouter.Kernel
