import SerenRouter.Kernel.Rounding

/-! A concrete decimal arithmetic: exact results, rounded half away from zero to as many
digits as fit, and no result when the integer part does not fit. -/
namespace SerenRouter.Kernel.Decimal
open Json (isNumber)

/-- The decimal with the given digits, dropping as few fractional digits as necessary. -/
def fit (negative : Bool) (mantissa scale : Nat) : Option Decimal :=
  (List.range (scale + 1)).findSome? (fun dropped =>
    if fits : dropDigits mantissa dropped < 2^96 ∧ scale - dropped ≤ 28 then
      some (fromParts negative (dropDigits mantissa dropped) (scale - dropped) fits.1 fits.2)
    else none)

/-- The mantissa with its sign, at a larger scale. -/
def signedAt (decimal : Decimal) (scale : Nat) : Int :=
  (if decimal.negative then -1 else 1) * (decimal.mantissa * 10^(scale - decimal.scale) : Nat)

def exactAdd (left right : Decimal) : Option Decimal :=
  let scale := max left.scale right.scale
  let sum := left.signedAt scale + right.signedAt scale
  fit (decide (sum < 0)) sum.natAbs scale

def exactMul (left right : Decimal) : Option Decimal :=
  fit (left.negative != right.negative) (left.mantissa * right.mantissa) (left.scale + right.scale)

def exactDiv (left right : Decimal) : Option Decimal :=
  let divisor := right.mantissa * 10^left.scale
  if divisor = 0 then none
  else
    let dividend := left.mantissa * 10^(28 + right.scale)
    fit (left.negative != right.negative) ((2 * dividend + divisor) / (2 * divisor)) 28

/-- A plain numeral: an optional sign, digits and an optional fraction. -/
def readPlain (chars : List Char) : Option (Bool × Nat × Nat) :=
  let (negative,digits) := match chars with
    | '-' :: rest => (true,rest)
    | rest => (false,rest)
  let whole := digits.takeWhile Char.isDigit
  match digits.dropWhile Char.isDigit with
  | [] => if whole = [] then none else some (negative,Nat.ofDigitChars 10 whole 0,0)
  | '.' :: fraction =>
    if whole = [] ∨ fraction = [] ∨ !fraction.all Char.isDigit then none
    else some (negative,Nat.ofDigitChars 10 (whole ++ fraction) 0,fraction.length)
  | _ => none

def readStr (text : String) : Option Decimal :=
  (readPlain text.toList).bind (fun (negative,mantissa,scale) => fit negative mantissa scale)

def readScientific (text : String) : Option Decimal :=
  let isExponentMark (char : Char) := char == 'e' || char == 'E'
  match (text.toList.dropWhile (!isExponentMark ·)) with
  | [] => none
  | _ :: exponent => do
    let (negative,mantissa,scale) ← readPlain (text.toList.takeWhile (!isExponentMark ·))
    let exponent := match exponent with
      | '+' :: digits => digits
      | digits => digits
    let (lowers,power,places) ← readPlain exponent
    if places ≠ 0 then none
    else if lowers then fit negative mantissa (scale + power)
    else fit negative (mantissa * 10^(power - scale)) (scale - power)

def exact : Arithmetic where
  add := exactAdd
  mul := exactMul
  div := exactDiv
  fromStr := readStr
  fromScientific := readScientific
  toF64 decimal := some decimal.value

theorem fit_nonnegative (negative : Bool) (mantissa scale : Nat) (decimal : Decimal)
    (sign : negative = false ∨ mantissa = 0) (fitted : fit negative mantissa scale = some decimal) :
    zero ≤ decimal := by
  obtain ⟨dropped,_,chosen⟩ := List.exists_of_findSome?_eq_some fitted
  split at chosen
  · cases chosen
    rw [zero_le_iff,fromParts]
    rcases sign with positive | empty
    · exact .inl (by simp [positive])
    · refine .inr ?_
      have smaller := dropDigits_le mantissa dropped
      dsimp only
      omega
  · cases chosen

theorem fit_signless (negative : Bool) (mantissa scale : Nat) (decimal : Decimal)
    (fitted : fit negative mantissa scale = some decimal) : decimal.Signless := by
  obtain ⟨dropped,_,chosen⟩ := List.exists_of_findSome?_eq_some fitted
  split at chosen
  · cases chosen
    exact fromParts_signless _ _ _ _ _
  · cases chosen

theorem signs_agree (left right : Decimal) (leftNonnegative : zero ≤ left) (rightNonnegative : zero ≤ right) :
    (left.negative != right.negative) = false ∨ left.mantissa = 0 ∨ right.mantissa = 0 := by
  rw [zero_le_iff] at leftNonnegative rightNonnegative
  rcases leftNonnegative with positive | empty
  · rcases rightNonnegative with otherPositive | otherEmpty
    · exact .inl (by rw [positive,otherPositive]; rfl)
    · exact .inr (.inr otherEmpty)
  · exact .inr (.inl empty)

theorem signedAt_nonnegative (decimal : Decimal) (scale : Nat) (nonnegative : zero ≤ decimal) :
    0 ≤ decimal.signedAt scale := by
  unfold signedAt
  rcases (zero_le_iff decimal).mp nonnegative with positive | empty
  · rw [positive]
    simp only [Bool.false_eq_true,if_false,one_mul]
    positivity
  · simp [empty]

theorem exact_signed : exact.Signed where
  add left right sum leftNonnegative rightNonnegative added := by
    refine fit_nonnegative _ _ _ sum (.inl ?_) added
    have first := signedAt_nonnegative left (max left.scale right.scale) leftNonnegative
    have second := signedAt_nonnegative right (max left.scale right.scale) rightNonnegative
    simp only [decide_eq_false_iff_not]
    omega
  mul left right product leftNonnegative rightNonnegative multiplied := by
    refine fit_nonnegative _ _ _ product ?_ multiplied
    rcases signs_agree left right leftNonnegative rightNonnegative with same | empty | empty
    · exact .inl same
    · exact .inr (by simp [empty])
    · exact .inr (by simp [empty])
  div left right quotient leftNonnegative rightNonnegative divided := by
    simp only [exact,exactDiv] at divided
    split at divided
    · cases divided
    · rename_i nonzero
      refine fit_nonnegative _ _ _ quotient ?_ divided
      rcases signs_agree left right leftNonnegative rightNonnegative with same | empty | empty
      · exact .inl same
      · refine .inr ?_
        rw [empty,Nat.zero_mul,Nat.mul_zero,Nat.zero_add]
        exact Nat.div_eq_of_lt (by omega)
      · exact absurd (by rw [empty,Nat.zero_mul]) nonzero

/-- Results that a decimal holds are computed exactly. -/
structure Arithmetic.Faithful (arithmetic : Arithmetic) : Prop where
  add : ∀ left right result : Decimal, result.value = left.value + right.value →
    ∃ sum, arithmetic.add left right = some sum ∧ sum.value = result.value
  mul : ∀ left right result : Decimal, result.value = left.value * right.value →
    ∃ product, arithmetic.mul left right = some product ∧ product.value = result.value
  div : ∀ left right result : Decimal, right.value ≠ 0 → result.value = left.value / right.value →
    ∃ quotient, arithmetic.div left right = some quotient ∧ quotient.value = result.value

private theorem round_multiple (multiple divisor : Nat) (positive : 0 < divisor) :
    (2 * (multiple * divisor) + divisor) / (2 * divisor) = multiple := by
  have sum : 2 * (multiple * divisor) + divisor = divisor + 2 * divisor * multiple := by ring
  rw [sum,Nat.add_mul_div_left _ _ (by omega),Nat.div_eq_of_lt (by omega),Nat.zero_add]

theorem dropDigits_multiple (multiple digits : Nat) : dropDigits (multiple * 10^digits) digits = multiple :=
  round_multiple multiple (10^digits) (by positivity)

def sign (negative : Bool) : ℚ := if negative then -1 else 1

theorem value_sign (decimal : Decimal) :
    decimal.value = sign decimal.negative * (decimal.mantissa / 10^decimal.scale) := by
  rw [value,sign,mul_div_assoc]

theorem value_fromParts (negative : Bool) (mantissa scale : Nat) (fits : mantissa < 2^96) (bounded : scale ≤ 28) :
    (fromParts negative mantissa scale fits bounded).value = sign negative * (mantissa / 10^scale) := by
  rw [value_sign,fromParts]
  by_cases empty : mantissa = 0
  · simp [empty]
  · rw [bne_iff_ne.mpr empty,Bool.and_true]

theorem abs_sign (negative : Bool) : |sign negative| = 1 := by
  cases negative <;> simp [sign]

/-- The first index that is chosen, at or before a given one that is. -/
private theorem findSome?_range {β : Type} (choose : Nat → Option β) (count found : Nat) (within : found < count)
    (chosen : (choose found).isSome = true) :
    ∃ least ≤ found, ∃ result, choose least = some result ∧ (List.range count).findSome? choose = some result := by
  induction found using Nat.strongRecOn with
  | ind found ih =>
    by_cases earlier : ∃ before < found, (choose before).isSome = true
    · obtain ⟨before,less,before_chosen⟩ := earlier
      obtain ⟨least,below,result,equal,first⟩ := ih before less (by omega) before_chosen
      exact ⟨least,by omega,result,equal,first⟩
    · push Not at earlier
      obtain ⟨result,equal⟩ := Option.isSome_iff_exists.mp chosen
      obtain ⟨rest,rfl⟩ := Nat.exists_eq_add_of_lt within
      have unchosen : (List.range found).findSome? choose = none :=
        List.findSome?_eq_none_iff.mpr (fun before member => by
          simpa using earlier before (List.mem_range.mp member))
      refine ⟨found,le_refl _,result,equal,?_⟩
      rw [Nat.add_assoc,List.range_add,List.findSome?_append,unchosen,List.range_succ_eq_map]
      simp [equal]

theorem fit_value (negative : Bool) (mantissa scale : Nat) (decimal : Decimal)
    (spelled : decimal.value = sign negative * (mantissa / 10^scale)) :
    ∃ fitted, fit negative mantissa scale = some fitted ∧ fitted.value = decimal.value := by
  have power (digits : Nat) : (0 : ℚ) < 10^digits := by positivity
  have magnitude : mantissa * 10^decimal.scale = decimal.mantissa * 10^scale := by
    have same := congrArg abs (decimal.value_sign.symm.trans spelled)
    simp only [abs_mul,abs_sign,one_mul,abs_div,abs_pow,Nat.abs_cast,Nat.abs_ofNat] at same
    rw [div_eq_div_iff (power _).ne' (power _).ne'] at same
    exact_mod_cast same.symm
  -- No digit is lost by dropping the digits beyond the decimal's own scale.
  have multiple : ∃ kept, mantissa = kept * 10^(scale - decimal.scale) ∧ kept ≤ decimal.mantissa := by
    rcases le_total scale decimal.scale with short | long
    · refine ⟨mantissa,by simp [Nat.sub_eq_zero_of_le short],?_⟩
      have smaller : 10^scale ≤ 10^decimal.scale := Nat.pow_le_pow_right (by omega) short
      have bound := Nat.mul_le_mul_left decimal.mantissa smaller
      rw [← magnitude] at bound
      exact Nat.le_of_mul_le_mul_right bound (by positivity)
    · refine ⟨decimal.mantissa,?_,le_refl _⟩
      have split : 10^scale = 10^(scale - decimal.scale) * 10^decimal.scale := by rw [← pow_add,Nat.sub_add_cancel long]
      rw [split,← Nat.mul_assoc] at magnitude
      exact Nat.eq_of_mul_eq_mul_right (by positivity) magnitude
  obtain ⟨kept,equal,bounded⟩ := multiple
  have small := decimal.fits
  have short := decimal.bounded
  have chosen : (if fits : dropDigits mantissa (scale - decimal.scale) < 2^96 ∧ scale - (scale - decimal.scale) ≤ 28
      then some (fromParts negative _ _ fits.1 fits.2) else none).isSome = true := by
    rw [dif_pos]
    · rfl
    · rw [equal,dropDigits_multiple]
      omega
  obtain ⟨least,below,fitted,first,found⟩ := findSome?_range (fun dropped =>
      if fits : dropDigits mantissa dropped < 2^96 ∧ scale - dropped ≤ 28 then
        some (fromParts negative _ _ fits.1 fits.2) else none)
    (scale + 1) (scale - decimal.scale) (by omega) chosen
  refine ⟨fitted,found,?_⟩
  split at first
  · cases first
    have exponent : scale - decimal.scale = scale - decimal.scale - least + least := by omega
    have divided : mantissa = kept * 10^(scale - decimal.scale - least) * 10^least := by
      rw [Nat.mul_assoc,← pow_add,← exponent,equal]
    rw [spelled,value_fromParts]
    have dropped : dropDigits mantissa least = kept * 10^(scale - decimal.scale - least) := by
      rw [divided,dropDigits_multiple]
    have whole : (mantissa : ℚ) = dropDigits mantissa least * 10^least := by
      rw [dropped]
      exact_mod_cast divided
    have scales : (10 : ℚ)^scale = 10^(scale - least) * 10^least := by
      rw [← pow_add,Nat.sub_add_cancel (by omega)]
    rw [whole,scales,mul_div_mul_right _ _ (power least).ne']
  · cases first

theorem signedAt_value (decimal : Decimal) (scale : Nat) (within : decimal.scale ≤ scale) :
    (decimal.signedAt scale : ℚ) = decimal.value * 10^scale := by
  have split : (10 : ℚ)^scale = 10^(scale - decimal.scale) * 10^decimal.scale := by
    rw [← pow_add,Nat.sub_add_cancel within]
  have power : (10 : ℚ)^decimal.scale ≠ 0 := by positivity
  rw [value_sign,sign,signedAt,split]
  push_cast
  field_simp

private theorem sign_natAbs (number : Int) : sign (decide (number < 0)) * (number.natAbs : ℚ) = number := by
  by_cases negative : number < 0
  · have flipped : ((number.natAbs : Int) : ℚ) = -number := by
      rw [Int.ofNat_natAbs_of_nonpos negative.le]
      push_cast
      rfl
    simp only [sign,negative,decide_true,if_true,neg_one_mul]
    rw [← Int.cast_natCast,flipped,neg_neg]
  · have kept : ((number.natAbs : Int) : ℚ) = number := by rw [Int.natAbs_of_nonneg (not_lt.mp negative)]
    simp only [sign,negative,decide_false,Bool.false_eq_true,if_false,one_mul]
    rw [← Int.cast_natCast,kept]

private theorem sign_bne (left right : Bool) : sign (left != right) = sign left * sign right := by
  cases left <;> cases right <;> simp [sign]

theorem exact_faithful : exact.Faithful where
  add left right result equal := by
    refine fit_value _ _ _ result ?_
    rw [← mul_div_assoc,sign_natAbs,equal]
    push_cast
    rw [signedAt_value _ _ (le_max_left _ _),signedAt_value _ _ (le_max_right _ _)]
    field_simp
  mul left right result equal := by
    refine fit_value _ _ _ result ?_
    rw [equal,value_sign left,value_sign right,sign_bne]
    push_cast
    rw [pow_add]
    field_simp
  div left right result nonzero equal := by
    have power (digits : Nat) : (10 : ℚ)^digits ≠ 0 := by positivity
    have divisor : right.mantissa ≠ 0 := by
      intro empty
      simp [value_sign,empty] at nonzero
    have divisorCast : (right.mantissa : ℚ) ≠ 0 := by exact_mod_cast divisor
    have quotient : result.value = sign (left.negative != right.negative) *
        ((left.mantissa / 10^left.scale) / (right.mantissa / 10^right.scale)) := by
      rw [equal,value_sign left,value_sign right,sign_bne]
      cases left.negative <;> cases right.negative <;> simp [sign,neg_div,div_neg]
    have magnitude : (result.mantissa : ℚ) / 10^result.scale =
        (left.mantissa / 10^left.scale) / (right.mantissa / 10^right.scale) := by
      have same := congrArg abs (result.value_sign.symm.trans quotient)
      simpa only [abs_mul,abs_sign,one_mul,abs_div,abs_pow,Nat.abs_cast,Nat.abs_ofNat] using same
    have exponent : (10 : ℚ)^28 = 10^(28 - result.scale) * 10^result.scale := by
      rw [← pow_add,Nat.sub_add_cancel result.bounded]
    have multiple : left.mantissa * 10^(28 + right.scale) =
        result.mantissa * 10^(28 - result.scale) * (right.mantissa * 10^left.scale) := by
      have cast : (left.mantissa : ℚ) * 10^(28 + right.scale) =
          result.mantissa * 10^(28 - result.scale) * (right.mantissa * 10^left.scale) := by
        rw [pow_add,exponent]
        field_simp at magnitude ⊢
        exact magnitude.symm
      exact_mod_cast cast
    have divided : exact.div left right = fit (left.negative != right.negative)
        (result.mantissa * 10^(28 - result.scale)) 28 := by
      have positive : 0 < right.mantissa * 10^left.scale := by positivity
      simp only [exact,exactDiv,if_neg positive.ne',multiple,round_multiple _ _ positive]
    rw [divided]
    refine fit_value _ _ _ result ?_
    rw [quotient,← magnitude,exponent]
    push_cast
    field_simp

/-- Dividing by a number that is not below one never overflows. -/
def Arithmetic.Divides (arithmetic : Arithmetic) : Prop :=
  ∀ dividend divisor, one ≤ divisor → ∃ quotient, arithmetic.div dividend divisor = some quotient

private theorem exactDiv_total (dividend divisor : Decimal) (whole : Nat) (fits : whole < 2^96)
    (positive : 0 < divisor.mantissa * 10^dividend.scale)
    (bound : dividend.mantissa * 10^divisor.scale ≤ whole * (divisor.mantissa * 10^dividend.scale)) :
    ∃ quotient, exact.div dividend divisor = some quotient := by
  have shifted : dividend.mantissa * 10^(28 + divisor.scale) ≤
      whole * 10^28 * (divisor.mantissa * 10^dividend.scale) := by
    calc dividend.mantissa * 10^(28 + divisor.scale) = 10^28 * (dividend.mantissa * 10^divisor.scale) := by
          rw [pow_add]
          ring
      _ ≤ 10^28 * (whole * (divisor.mantissa * 10^dividend.scale)) := Nat.mul_le_mul_left _ bound
      _ = whole * 10^28 * (divisor.mantissa * 10^dividend.scale) := by ring
  have rounded : (2 * (dividend.mantissa * 10^(28 + divisor.scale)) + divisor.mantissa * 10^dividend.scale) /
      (2 * (divisor.mantissa * 10^dividend.scale)) ≤ whole * 10^28 := by
    rw [← round_multiple (whole * 10^28) _ positive]
    exact Nat.div_le_div_right (by omega)
  have dropped (quotient : Nat) (smaller : quotient ≤ whole * 10^28) : dropDigits quotient 28 < 2^96 := by
    calc dropDigits quotient 28 ≤ dropDigits (whole * 10^28) 28 := by
          unfold dropDigits
          exact Nat.div_le_div_right (by omega)
      _ < 2^96 := by rw [dropDigits_multiple]; exact fits
  obtain ⟨_,_,quotient,_,found⟩ := findSome?_range (fun digits =>
      if fits : dropDigits ((2 * (dividend.mantissa * 10^(28 + divisor.scale)) + divisor.mantissa * 10^dividend.scale) /
          (2 * (divisor.mantissa * 10^dividend.scale))) digits < 2^96 ∧ 28 - digits ≤ 28 then
        some (fromParts (dividend.negative != divisor.negative) _ _ fits.1 fits.2) else none)
    29 28 (by omega) (by rw [dif_pos ⟨dropped _ rounded,by omega⟩]; rfl)
  refine ⟨quotient,?_⟩
  simp only [exact,exactDiv,if_neg positive.ne']
  exact found

theorem exact_divides : exact.Divides := by
  intro dividend divisor large
  have power : (0 : ℚ) < 10^divisor.scale := by positivity
  have nonnegative : zero ≤ divisor := by
    rw [le_def,value_one] at large
    rw [le_def,value_zero]
    linarith
  rw [le_def,value_one,value_nonnegative divisor nonnegative,le_div_iff₀ power,one_mul] at large
  have mantissa : 10^divisor.scale ≤ divisor.mantissa := by exact_mod_cast large
  have least : 1 ≤ 10^dividend.scale := Nat.one_le_pow _ _ (by omega)
  have covers : 10^divisor.scale ≤ divisor.mantissa * 10^dividend.scale := by
    calc 10^divisor.scale ≤ divisor.mantissa := mantissa
      _ ≤ divisor.mantissa * 10^dividend.scale := Nat.le_mul_of_pos_right _ least
  exact exactDiv_total dividend divisor dividend.mantissa dividend.fits (lt_of_lt_of_le (by positivity) covers)
    (Nat.mul_le_mul_left _ covers)

/-- A positive number has a ratio to any larger one, and a ratio converts to floating point. -/
structure Arithmetic.Ratios (arithmetic : Arithmetic) : Prop where
  div : ∀ dividend divisor, zero < dividend → dividend ≤ divisor →
    ∃ quotient, arithmetic.div dividend divisor = some quotient
  toF64 : ∀ ratio, zero ≤ ratio → ∃ number, arithmetic.toF64 ratio = some number ∧ 0 ≤ number ∧
    (ratio.value = 1 → number = 1)

theorem exact_ratios : exact.Ratios where
  div dividend divisor positive larger := by
    rw [lt_def,value_zero] at positive
    have nonnegative : zero ≤ dividend := by rw [le_def,value_zero]; exact positive.le
    have above : zero ≤ divisor := by rw [le_def,value_zero]; exact positive.le.trans larger
    have power (digits : Nat) : (0 : ℚ) < 10^digits := by positivity
    rw [le_def,value_nonnegative dividend nonnegative,value_nonnegative divisor above,
      div_le_div_iff₀ (power _) (power _)] at larger
    have covers : dividend.mantissa * 10^divisor.scale ≤ divisor.mantissa * 10^dividend.scale := by exact_mod_cast larger
    have mantissa : 0 < dividend.mantissa := by
      apply Nat.pos_of_ne_zero
      intro empty
      exact absurd positive (by simp [value,empty])
    exact exactDiv_total dividend divisor 1 (by decide) (lt_of_lt_of_le (by positivity) covers) (by omega)
  toF64 ratio nonnegative := by
    rw [le_def,value_zero] at nonnegative
    exact ⟨ratio.value,rfl,nonnegative,id⟩

/-- A natural multiple of the last of some places. -/
def AtPlaces (places : Nat) (number : ℚ) : Prop := ∃ multiple : Nat, number = multiple / 10^places

theorem AtPlaces.add {places : Nat} {left right : ℚ} (first : AtPlaces places left) (second : AtPlaces places right) :
    AtPlaces places (left + right) := by
  obtain ⟨multiple,rfl⟩ := first
  obtain ⟨other,rfl⟩ := second
  exact ⟨multiple + other,by push_cast; ring⟩

theorem AtPlaces.natMul {places : Nat} {number : ℚ} (factor : Nat) (at_places : AtPlaces places number) :
    AtPlaces places (factor * number) := by
  obtain ⟨multiple,rfl⟩ := at_places
  exact ⟨factor * multiple,by push_cast; ring⟩

theorem AtPlaces.shift {places : Nat} {number : ℚ} (digits : Nat) (at_places : AtPlaces places number) :
    AtPlaces (places + digits) (number / 10^digits) := by
  obtain ⟨multiple,rfl⟩ := at_places
  exact ⟨multiple,by rw [pow_add]; field_simp⟩

theorem atPlaces_value (decimal : Decimal) (nonnegative : zero ≤ decimal) (places : Nat)
    (within : decimal.scale ≤ places) : AtPlaces places decimal.value := by
  refine ⟨decimal.mantissa * 10^(places - decimal.scale),?_⟩
  have split : (10 : ℚ)^places = 10^(places - decimal.scale) * 10^decimal.scale := by
    rw [← pow_add,Nat.sub_add_cancel within]
  rw [value_nonnegative decimal nonnegative,split]
  push_cast
  field_simp

theorem AtPlaces.rounded {places : Nat} {number : ℚ} (at_places : AtPlaces places number) :
    roundAway places number = number := by
  obtain ⟨multiple,rfl⟩ := at_places
  exact roundAway_multiple places multiple

theorem atPlaces_roundAway (places : Nat) (number : ℚ) (nonnegative : 0 ≤ roundAway places number) :
    AtPlaces places (roundAway places number) := by
  obtain ⟨multiple,rounded⟩ := roundAway_integer places number
  rw [rounded] at nonnegative ⊢
  have numerator : (0 : ℚ) ≤ multiple := by
    have scaled := mul_nonneg nonnegative (show (0 : ℚ) ≤ 10^places by positivity)
    rwa [div_mul_cancel₀ _ (by positivity)] at scaled
  refine ⟨multiple.toNat,?_⟩
  have same : ((multiple.toNat : ℤ) : ℚ) = multiple := by rw [Int.toNat_of_nonneg (by exact_mod_cast numerator)]
  rw [← same]
  rfl

/-- A multiple of a last place that leaves room in the mantissa is the value of a decimal. -/
theorem AtPlaces.held {places : Nat} {number : ℚ} (at_places : AtPlaces places number) (digits : places ≤ 28)
    (room : number * 10^places < 2^96) : ∃ decimal : Decimal, decimal.value = number := by
  obtain ⟨multiple,rfl⟩ := at_places
  rw [div_mul_cancel₀ _ (by positivity)] at room
  exact ⟨⟨false,multiple,places,by exact_mod_cast room,digits⟩,by simp [value]⟩

end SerenRouter.Kernel.Decimal
