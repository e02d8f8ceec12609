import SerenRouter.Kernel.DecimalArithmetic
import Mathlib.Data.List.TakeWhile

/-! The number that a JSON numeral denotes, and readers of decimals that judge a numeral by it.
A reader of plain numerals refuses every exponent and every magnitude without room. -/
namespace SerenRouter.Kernel
open Json (Number isNumber isUnsignedNumber isFraction isExponent)

def isExponentMark (char : Char) : Bool := char == 'e' || char == 'E'

/-- The power of ten behind the exponent mark. -/
def exponentOf (chars : List Char) : ℤ :=
  match chars.dropWhile (!isExponentMark ·) with
  | [] => 0
  | _ :: '-' :: digits => -(Nat.ofDigitChars 10 digits 0 : ℤ)
  | _ :: '+' :: digits => Nat.ofDigitChars 10 digits 0
  | _ :: digits => Nat.ofDigitChars 10 digits 0

namespace Json.Number
open Decimal (readPlain sign)

/-- The number without the limits of a decimal. -/
def value (number : Number) : ℚ :=
  match readPlain (number.text.toList.takeWhile (!isExponentMark ·)) with
  | none => 0
  | some (negative,mantissa,scale) =>
    sign negative * (mantissa / 10^scale) * 10^exponentOf number.text.toList

/-- Without an exponent. -/
def Plain (number : Number) : Prop := ∀ char ∈ number.text.toList, isExponentMark char = false

instance (number : Number) : Decidable number.Plain :=
  decidable_of_iff (number.text.toList.all (!isExponentMark ·) = true) (by simp [Plain])

end Json.Number

namespace Decimal

/-- A reader that accepts the plain numerals with room for their whole part, by their value. -/
structure Arithmetic.ReadsPlain (arithmetic : Arithmetic) : Prop where
  accepts : ∀ number : Number, (arithmetic.fromStr number.text).isSome = true ↔
    number.Plain ∧ |number.value| < 2^96 - 1 / 2
  byValue : ∀ first second : Number, first.Plain → second.Plain → first.value = second.value →
    (arithmetic.fromStr first.text).map value = (arithmetic.fromStr second.text).map value

section Fit

theorem dropDigits_lt (mantissa digits : Nat) :
    dropDigits mantissa digits < 2^96 ↔ (mantissa : ℚ) / 10^digits < 2^96 - 1 / 2 := by
  have floor : dropDigits mantissa digits < 2^96 ↔ ⌊(mantissa : ℚ) / 10^digits + 1 / 2⌋ < ((2^96 : Nat) : ℤ) := by
    rw [← dropDigits_floor]
    exact_mod_cast Iff.rfl
  rw [floor,Int.floor_lt]
  push_cast
  constructor <;> intro bound <;> linarith

theorem fit_isSome (negative : Bool) (mantissa scale : Nat) :
    (fit negative mantissa scale).isSome = true ↔ (mantissa : ℚ) / 10^scale < 2^96 - 1 / 2 := by
  rw [fit,List.findSome?_isSome_iff]
  constructor
  · rintro ⟨dropped,listed,chosen⟩
    have within : dropped ≤ scale := by
      rw [List.mem_range] at listed
      omega
    split at chosen
    · rename_i fits
      have larger : (mantissa : ℚ) / 10^scale ≤ mantissa / 10^dropped :=
        div_le_div_of_nonneg_left (by positivity) (by positivity) (pow_le_pow_right₀ (by norm_num) within)
      exact lt_of_le_of_lt larger ((dropDigits_lt mantissa dropped).mp fits.1)
    · cases chosen
  · intro room
    refine ⟨scale,List.mem_range.mpr (by omega),?_⟩
    rw [dif_pos ⟨(dropDigits_lt mantissa scale).mpr room,by omega⟩]
    rfl

theorem dropDigits_none (mantissa : Nat) : dropDigits mantissa 0 = mantissa := by
  simp [dropDigits]
  omega

private theorem fit_whole (negative : Bool) (mantissa scale : Nat) (room : mantissa < 2^96) (digits : scale ≤ 28) :
    fit negative mantissa scale = some (fromParts negative mantissa scale room digits) := by
  rw [fit,List.range_succ_eq_map,List.findSome?_cons,dif_pos ⟨by rw [dropDigits_none]; exact room,by omega⟩]
  simp [dropDigits_none]

private theorem fit_zero (negative : Bool) (mantissa scale : Nat) :
    (fit negative (mantissa * 10) (scale + 1)).map value = (fit negative mantissa scale).map value := by
  by_cases whole : mantissa * 10 < 2^96 ∧ scale + 1 ≤ 28
  · rw [fit_whole _ _ _ whole.1 whole.2,fit_whole negative mantissa scale (by omega) (by omega)]
    simp only [Option.map_some,value_fromParts,Option.some.injEq,pow_succ]
    push_cast
    rw [mul_div_mul_right _ _ (by norm_num)]
  -- The zero is dropped first, and then as many digits as without it.
  · have drops (dropped : Nat) : dropDigits (mantissa * 10) (dropped + 1) = dropDigits mantissa dropped := by
      unfold dropDigits
      rw [pow_succ,← Nat.mul_div_mul_right (2 * mantissa + 10^dropped) (2 * 10^dropped) (by decide : 0 < 10)]
      congr 1 <;> ring
    have first : ¬ (dropDigits (mantissa * 10) 0 < 2^96 ∧ scale + 1 - 0 ≤ 28) := by
      rw [dropDigits_none,Nat.sub_zero]
      exact whole
    rw [fit,List.range_succ_eq_map,List.findSome?_cons,dif_neg first,List.findSome?_map,fit]
    dsimp only
    congr 2
    funext dropped
    simp only [Function.comp_apply,Nat.succ_eq_add_one,drops,Nat.add_sub_add_right]

private theorem fit_zeros (negative : Bool) (mantissa scale count : Nat) :
    (fit negative (mantissa * 10^count) (scale + count)).map value = (fit negative mantissa scale).map value := by
  induction count with
  | zero => simp
  | succ count ih => rw [pow_succ,← Nat.mul_assoc,← Nat.add_assoc,fit_zero,ih]

private theorem fit_nothing (negative : Bool) (scale : Nat) : (fit negative 0 scale).map value = some 0 := by
  obtain ⟨fitted,found⟩ := Option.isSome_iff_exists.mp ((fit_isSome negative 0 scale).mpr (by norm_num))
  obtain ⟨dropped,_,chosen⟩ := List.exists_of_findSome?_eq_some found
  have nothing : dropDigits 0 dropped = 0 := Nat.le_zero.mp (dropDigits_le 0 dropped)
  rw [found]
  split at chosen
  · cases chosen
    simp [value_fromParts,nothing]
  · cases chosen

/-- Two spellings of one number fit the same decimal, up to its digits. -/
theorem fit_same (negative other : Bool) (mantissa scale otherMantissa otherScale : Nat)
    (same : sign negative * ((mantissa : ℚ) / 10^scale) = sign other * (otherMantissa / 10^otherScale)) :
    (fit negative mantissa scale).map value = (fit other otherMantissa otherScale).map value := by
  have power (digits : Nat) : (10 : ℚ)^digits ≠ 0 := by positivity
  have magnitude : (mantissa : ℚ) / 10^scale = otherMantissa / 10^otherScale := by
    have absolute := congrArg abs same
    simpa only [abs_mul,abs_sign,one_mul,abs_div,abs_pow,Nat.abs_cast,Nat.abs_ofNat] using absolute
  have crossed : mantissa * 10^otherScale = otherMantissa * 10^scale := by
    rw [div_eq_div_iff (power _) (power _)] at magnitude
    exact_mod_cast magnitude
  by_cases nothing : mantissa = 0
  · have empty : otherMantissa = 0 := by
      rw [nothing,Nat.zero_mul] at crossed
      simpa using crossed.symm
    rw [nothing,empty,fit_nothing,fit_nothing]
  · have positive : (mantissa : ℚ) / 10^scale ≠ 0 := div_ne_zero (by exact_mod_cast nothing) (power _)
    have signs : sign negative = sign other := mul_right_cancel₀ positive (by rw [same,← magnitude])
    have equal : negative = other := by
      cases negative <;> cases other <;> norm_num [sign] at signs <;> rfl
    subst equal
    rcases le_total scale otherScale with short | long
    · obtain ⟨count,rfl⟩ := Nat.exists_eq_add_of_le short
      have shifted : otherMantissa = mantissa * 10^count := by
        rw [pow_add,← Nat.mul_assoc,Nat.mul_right_comm] at crossed
        exact (Nat.eq_of_mul_eq_mul_right (by positivity) crossed).symm
      rw [shifted,fit_zeros]
    · obtain ⟨count,rfl⟩ := Nat.exists_eq_add_of_le long
      have shifted : mantissa = otherMantissa * 10^count := by
        rw [pow_add,← Nat.mul_assoc,Nat.mul_right_comm] at crossed
        exact Nat.eq_of_mul_eq_mul_right (by positivity) crossed
      rw [shifted,fit_zeros]

end Fit

section Read

theorem isDigit_unmarked (char : Char) (digit : char.isDigit = true) : isExponentMark char = false := by
  rw [isExponentMark,Bool.or_eq_false_iff,beq_eq_false_iff_ne,beq_eq_false_iff_ne]
  constructor <;> rintro rfl <;> cases digit

/-- Digits, and behind them nothing or a fraction. -/
def PlainDigits (digits : List Char) : Prop :=
  digits.takeWhile Char.isDigit ≠ [] ∧ (digits.dropWhile Char.isDigit = [] ∨
    ∃ fraction, digits.dropWhile Char.isDigit = '.' :: fraction ∧ fraction ≠ [] ∧
      ∀ digit ∈ fraction, digit.isDigit = true)

theorem PlainDigits.unmarked (digits : List Char) (plain : PlainDigits digits) :
    ∀ char ∈ digits, isExponentMark char = false := by
  intro char member
  rw [← List.takeWhile_append_dropWhile (p := Char.isDigit) (l := digits)] at member
  rcases List.mem_append.mp member with front | back
  · exact isDigit_unmarked char (List.mem_takeWhile_imp front)
  · rcases plain.2 with empty | ⟨fraction,split,_,all⟩
    · rw [empty] at back
      cases back
    · rw [split] at back
      rcases List.mem_cons.mp back with rfl | inside
      · rfl
      · exact isDigit_unmarked char (all char inside)

/-- The sign and the digits behind it, and the reading of the digits. -/
def splitSign : List Char → Bool × List Char
  | '-' :: rest => (true,rest)
  | rest => (false,rest)

def readDigits (negative : Bool) (digits : List Char) : Option (Bool × Nat × Nat) :=
  match digits.dropWhile Char.isDigit with
  | [] => if digits.takeWhile Char.isDigit = [] then none
    else some (negative,Nat.ofDigitChars 10 (digits.takeWhile Char.isDigit) 0,0)
  | '.' :: fraction =>
    if digits.takeWhile Char.isDigit = [] ∨ fraction = [] ∨ !fraction.all Char.isDigit then none
    else some (negative,Nat.ofDigitChars 10 (digits.takeWhile Char.isDigit ++ fraction) 0,fraction.length)
  | _ => none

theorem splitSign_unsigned (chars : List Char) (unsigned : ∀ rest, chars ≠ '-' :: rest) :
    splitSign chars = (false,chars) := by
  unfold splitSign
  split
  · rename_i rest
    exact absurd rfl (unsigned rest)
  · rfl

theorem readPlain_digits (chars : List Char) :
    readPlain chars = readDigits (splitSign chars).1 (splitSign chars).2 := rfl

theorem readPlain_isSome (chars : List Char) :
    (readPlain chars).isSome = true ↔ PlainDigits (splitSign chars).2 := by
  rw [readPlain_digits]
  unfold readDigits PlainDigits
  split
  · rename_i empty
    by_cases none : (splitSign chars).2.takeWhile Char.isDigit = [] <;> simp [none,empty]
  · rename_i fraction found
    rw [found]
    by_cases none : (splitSign chars).2.takeWhile Char.isDigit = []
    · simp [none]
    · by_cases empty : fraction = [] <;> simp [none,empty]
  · rename_i empty other
    refine iff_of_false (by simp) ?_
    rintro ⟨_,none | ⟨fraction,found,_⟩⟩
    · exact empty none
    · exact other fraction found

theorem readPlain_unmarked (chars : List Char) (read : (readPlain chars).isSome = true) :
    ∀ char ∈ chars, isExponentMark char = false := by
  have plain := ((readPlain_isSome chars).mp read).unmarked
  intro char member
  unfold splitSign at plain
  split at plain
  · rcases List.mem_cons.mp member with rfl | inside
    · rfl
    · exact plain char inside
  · exact plain char member

section Grammar

private theorem isExponent_plain (chars : List Char) (exponent : isExponent chars = true)
    (unmarked : ∀ char ∈ chars, isExponentMark char = false) : chars = [] := by
  cases chars with
  | nil => rfl
  | cons mark rest =>
    have plain : (mark == 'e' || mark == 'E') = false := unmarked mark (by simp)
    unfold isExponent at exponent
    split at exponent <;> simp_all

private theorem isFraction_plain (chars : List Char) (fraction : isFraction chars = true)
    (unmarked : ∀ char ∈ chars, isExponentMark char = false) :
    chars = [] ∨ ∃ digits, chars = '.' :: digits ∧ digits ≠ [] ∧ ∀ digit ∈ digits, digit.isDigit = true := by
  unfold isFraction at fraction
  split at fraction
  · rename_i digit rest
    rw [Bool.and_eq_true] at fraction
    have drained := isExponent_plain _ fraction.2 (fun char member =>
      unmarked char (List.mem_cons_of_mem _ (List.mem_cons_of_mem _ ((List.dropWhile_sublist _).mem member))))
    refine .inr ⟨digit :: rest,rfl,by simp,fun other member => ?_⟩
    rcases List.mem_cons.mp member with rfl | inside
    · exact fraction.1
    · simpa using List.dropWhile_eq_nil_iff.mp drained other inside
  · exact .inl (isExponent_plain _ fraction unmarked)

private theorem isUnsignedNumber_plain (chars : List Char) (number : isUnsignedNumber chars = true)
    (unmarked : ∀ char ∈ chars, isExponentMark char = false) : PlainDigits chars := by
  -- The digits end where the fraction begins; a leading zero is followed by it at once.
  have parts (digit : Char) (rest : List Char) (isDigit : digit.isDigit = true)
      (fraction : isFraction (rest.dropWhile Char.isDigit) = true)
      (plain : ∀ char ∈ digit :: rest, isExponentMark char = false) : PlainDigits (digit :: rest) := by
    refine ⟨by simp [isDigit],?_⟩
    rw [List.dropWhile_cons_of_pos isDigit]
    exact isFraction_plain _ fraction (fun char member =>
      plain char (List.mem_cons_of_mem _ ((List.dropWhile_sublist _).mem member)))
  unfold isUnsignedNumber at number
  split at number
  · cases number
  · rename_i rest
    have stops : rest.dropWhile Char.isDigit = rest := by
      rcases isFraction_plain rest number (fun char member => unmarked char (List.mem_cons_of_mem _ member)) with
        rfl | ⟨digits,rfl,_⟩
      · rfl
      · rfl
    exact parts '0' rest rfl (by rw [stops]; exact number) unmarked
  · rename_i digit rest _
    rw [Bool.and_eq_true] at number
    exact parts digit rest number.1 number.2 unmarked

theorem isNumber_plain (chars : List Char) (number : isNumber chars = true)
    (unmarked : ∀ char ∈ chars, isExponentMark char = false) : (readPlain chars).isSome = true := by
  rw [readPlain_isSome]
  unfold isNumber at number
  split at number
  · exact isUnsignedNumber_plain _ number (fun char member => unmarked char (List.mem_cons_of_mem _ member))
  · rename_i other
    rw [splitSign_unsigned chars other]
    exact isUnsignedNumber_plain _ number unmarked

end Grammar

theorem readPlain_number (number : Number) : (readPlain number.text.toList).isSome = true ↔ number.Plain :=
  ⟨readPlain_unmarked _,isNumber_plain _ number.valid⟩

theorem value_plain (number : Number) (plain : number.Plain) (negative : Bool) (mantissa scale : Nat)
    (read : readPlain number.text.toList = some (negative,mantissa,scale)) :
    number.value = sign negative * (mantissa / 10^scale) := by
  have whole : number.text.toList.takeWhile (!isExponentMark ·) = number.text.toList :=
    List.takeWhile_eq_self_iff.mpr (fun char member => by simp [plain char member])
  have nothing : number.text.toList.dropWhile (!isExponentMark ·) = [] :=
    List.dropWhile_eq_nil_iff.mpr (fun char member => by simp [plain char member])
  simp [Number.value,whole,read,exponentOf,nothing]

end Read

theorem exact_readsPlain : exact.ReadsPlain where
  accepts number := by
    simp only [exact,readStr]
    cases read : readPlain number.text.toList with
    | none =>
      have marked : ¬ number.Plain := fun plain => by simpa [read] using (readPlain_number number).mpr plain
      simp [marked]
    | some result =>
      obtain ⟨negative,mantissa,scale⟩ := result
      have plain : number.Plain := (readPlain_number number).mp (by rw [read]; rfl)
      rw [Option.bind_some,fit_isSome,value_plain number plain negative mantissa scale read,abs_mul,abs_sign,one_mul,
        abs_of_nonneg (by positivity)]
      simp [plain]
  byValue first second plain otherPlain same := by
    obtain ⟨⟨negative,mantissa,scale⟩,read⟩ := Option.isSome_iff_exists.mp ((readPlain_number first).mpr plain)
    obtain ⟨⟨other,otherMantissa,otherScale⟩,otherRead⟩ :=
      Option.isSome_iff_exists.mp ((readPlain_number second).mpr otherPlain)
    rw [value_plain first plain _ _ _ read,value_plain second otherPlain _ _ _ otherRead] at same
    simp only [exact,readStr,read,otherRead,Option.bind_some]
    exact fit_same negative other mantissa scale otherMantissa otherScale same

/-- The reader of plain numerals gives a written decimal back, and no computed zero has a sign. -/
structure Arithmetic.Rereads (arithmetic : Arithmetic) : Prop where
  toText : ∀ decimal : Decimal, decimal.Signless → arithmetic.fromStr decimal.toText = some decimal
  fromStr : ∀ text decimal, arithmetic.fromStr text = some decimal → decimal.Signless
  fromScientific : ∀ text decimal, arithmetic.fromScientific text = some decimal → decimal.Signless
  div : ∀ left right quotient, arithmetic.div left right = some quotient → quotient.Signless

section Written
variable (decimal : Decimal)

private theorem toDigits_digits (number : Nat) : ∀ digit ∈ Nat.toDigits 10 number, digit.isDigit = true :=
  fun _ member => Nat.isDigit_of_mem_toDigits (by omega) (by omega) member

theorem fractionDigits_length (some_digits : decimal.scale ≠ 0) :
    decimal.fractionDigits.length = decimal.scale := by
  have positive : 0 < 10^decimal.scale := by positivity
  have short := (Nat.length_toDigits_le_iff (b := 10) (by omega) (Nat.pos_of_ne_zero some_digits)).mpr
    (Nat.mod_lt decimal.mantissa positive)
  rw [fractionDigits,List.length_append,List.length_replicate]
  omega

theorem written_mantissa (some_digits : decimal.scale ≠ 0) :
    Nat.ofDigitChars 10 (Nat.toDigits 10 (decimal.mantissa / 10^decimal.scale) ++ decimal.fractionDigits) 0 =
      decimal.mantissa := by
  have length := decimal.fractionDigits_length some_digits
  rw [Nat.ofDigitChars_append,Nat.ofDigitChars_ten_toDigits,Nat.ofDigitChars_eq_ofDigitChars_zero,length]
  have fraction : Nat.ofDigitChars 10 decimal.fractionDigits 0 = decimal.mantissa % 10^decimal.scale := by
    rw [fractionDigits,Nat.ofDigitChars_append,Nat.ofDigitChars_replicate_zero,Nat.mul_zero,
      Nat.ofDigitChars_ten_toDigits]
  rw [fraction]
  exact Nat.div_add_mod decimal.mantissa (10^decimal.scale)

theorem readDigits_written (negative : Bool) :
    readDigits negative (Nat.toDigits 10 (decimal.mantissa / 10^decimal.scale) ++
      if decimal.scale = 0 then [] else '.' :: decimal.fractionDigits) =
        some (negative,decimal.mantissa,decimal.scale) := by
  have digits := toDigits_digits (decimal.mantissa / 10^decimal.scale)
  have present : Nat.toDigits 10 (decimal.mantissa / 10^decimal.scale) ≠ [] := Nat.toDigits_ne_nil
  by_cases whole : decimal.scale = 0
  · rw [if_pos whole,readDigits,List.takeWhile_append_of_pos digits,List.dropWhile_append_of_pos digits]
    simp only [List.takeWhile_nil,List.dropWhile_nil,List.append_nil,if_neg present]
    rw [Nat.ofDigitChars_ten_toDigits,whole,pow_zero,Nat.div_one]
  · have length := decimal.fractionDigits_length whole
    have fraction : decimal.fractionDigits ≠ [] := by
      intro empty
      rw [empty] at length
      exact whole length.symm
    have all : decimal.fractionDigits.all Char.isDigit = true := List.all_eq_true.mpr decimal.fractionDigits_digits
    rw [if_neg whole,readDigits,List.takeWhile_append_of_pos digits,List.dropWhile_append_of_pos digits]
    have point : Char.isDigit '.' = false := rfl
    simp only [List.dropWhile_cons,List.takeWhile_cons,point,Bool.false_eq_true,if_false,List.append_nil]
    rw [if_neg (by simp [present,fraction,all]),written_mantissa decimal whole,length]

theorem readPlain_toText : readPlain decimal.toText.toList = some (decimal.negative,decimal.mantissa,decimal.scale) := by
  have split : splitSign decimal.toText.toList = (decimal.negative,
      Nat.toDigits 10 (decimal.mantissa / 10^decimal.scale) ++
        if decimal.scale = 0 then [] else '.' :: decimal.fractionDigits) := by
    rw [toText,String.toList_ofList]
    cases decimal.negative with
    | true => rfl
    | false =>
      -- The first digit is not a sign.
      obtain ⟨first,rest,digits⟩ := List.exists_cons_of_ne_nil
        (Nat.toDigits_ne_nil (n := decimal.mantissa / 10^decimal.scale) (b := 10))
      have isDigit := toDigits_digits (decimal.mantissa / 10^decimal.scale) first (by rw [digits]; simp)
      rw [digits]
      simp only [Bool.false_eq_true,if_false,List.nil_append,List.cons_append]
      apply splitSign_unsigned
      intro other equal
      cases equal
      cases isDigit
  rw [readPlain_digits,split,readDigits_written]

end Written

theorem exact_rereads : exact.Rereads where
  toText decimal signless := by
    simp only [exact,readStr,readPlain_toText,Option.bind_some,fit_whole _ _ _ decimal.fits decimal.bounded]
    rw [fromParts_self decimal signless]
  fromStr text decimal read := by
    obtain ⟨_,_,fitted⟩ := Option.bind_eq_some_iff.mp read
    exact fit_signless _ _ _ decimal fitted
  fromScientific text decimal read := by
    simp only [exact,readScientific] at read
    split at read
    · cases read
    · obtain ⟨_,_,read⟩ := Option.bind_eq_some_iff.mp read
      obtain ⟨_,_,read⟩ := Option.bind_eq_some_iff.mp read
      split at read
      · cases read
      · split at read
        · exact fit_signless _ _ _ decimal read
        · exact fit_signless _ _ _ decimal read
  div left right quotient divided := by
    simp only [exact,exactDiv] at divided
    split at divided
    · cases divided
    · exact fit_signless _ _ _ quotient divided

end Decimal

end SerenRouter.Kernel
