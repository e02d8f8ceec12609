import SerenRouter.Kernel.SortedMap
import Mathlib.Data.String.Basic

/-! JSON values with textual numbers and key-ordered objects, and the codecs between
values and bytes. A number keeps its numeral; an object is an association list that is
canonical when it is well formed. -/
namespace SerenRouter.Kernel.Json
open SortedMap (get insert remove retain Sorted)

/-- The bytes of a string in UTF-8. -/
def utf8 (text : String) : List UInt8 := text.toByteArray.data.toList

def isExponentDigits : List Char → Bool
  | [] => false
  | digits => digits.all Char.isDigit

def isExponent : List Char → Bool
  | [] => true
  | e :: '+' :: digits => (e == 'e' || e == 'E') && isExponentDigits digits
  | e :: '-' :: digits => (e == 'e' || e == 'E') && isExponentDigits digits
  | e :: digits => (e == 'e' || e == 'E') && isExponentDigits digits

def isFraction : List Char → Bool
  | '.' :: digit :: rest => digit.isDigit && isExponent (rest.dropWhile Char.isDigit)
  | rest => isExponent rest

def isUnsignedNumber : List Char → Bool
  | [] => false
  | '0' :: rest => isFraction rest
  | digit :: rest => digit.isDigit && isFraction (rest.dropWhile Char.isDigit)

/-- The number grammar: an optional sign, an integer part without leading zeros, and
optional fraction and exponent parts. -/
def isNumber : List Char → Bool
  | '-' :: rest => isUnsignedNumber rest
  | rest => isUnsignedNumber rest

/-- A number keeps the numeral it was written with. -/
structure Number where
  text : String
  valid : isNumber text.toList = true
  deriving DecidableEq

def Number.fromStr (text : String) : Option Number :=
  if valid : isNumber text.toList = true then some ⟨text,valid⟩ else none

/-- A numeral read as an unsigned 64-bit integer: plain digits below `2^64`. -/
def Number.asU64 (number : Number) : Option UInt64 :=
  let value := Nat.ofDigitChars 10 number.text.toList 0
  if number.text.toList.all Char.isDigit ∧ value < 2^64 then some (UInt64.ofNat value) else none

inductive Value where
  | null
  | bool (value : Bool)
  | number (value : Number)
  | string (value : String)
  | array (items : List Value)
  | object (fields : List (String × Value))

namespace Value

/-- The member under a key; only objects have members. -/
def get : Value → String → Option Value
  | .object fields, key => SortedMap.get key fields
  | _, _ => none

def asStr : Value → Option String
  | .string value => some value
  | _ => none

def asBool : Value → Option Bool
  | .bool value => some value
  | _ => none

def asNumber : Value → Option Number
  | .number value => some value
  | _ => none

def asU64 : Value → Option UInt64
  | .number value => value.asU64
  | _ => none

def asArray : Value → Option (List Value)
  | .array items => some items
  | _ => none

def asObject : Value → Option (List (String × Value))
  | .object fields => some fields
  | _ => none

def isNull : Value → Bool
  | .null => true
  | _ => false

def isArray : Value → Bool
  | .array _ => true
  | _ => false

def isObject : Value → Bool
  | .object _ => true
  | _ => false

/-- Assignment through an index: it replaces or adds the member of an object and turns
`null` into an object. On any other value it would panic; no caller gets there. -/
def setIndex (value : Value) (key : String) (member : Value) : Value :=
  match value with
  | .object fields => .object (insert key member fields)
  | .null => .object [(key,member)]
  | other => other

mutual
/-- Every object of the tree has strictly increasing keys. -/
def WellFormed : Value → Prop
  | .array items => ItemsWellFormed items
  | .object fields => Sorted fields ∧ FieldsWellFormed fields
  | _ => True
def ItemsWellFormed : List Value → Prop
  | [] => True
  | item :: rest => item.WellFormed ∧ ItemsWellFormed rest
def FieldsWellFormed : List (String × Value) → Prop
  | [] => True
  | (_,member) :: rest => member.WellFormed ∧ FieldsWellFormed rest
end

mutual
/-- No object of the tree has the key. -/
def FreeOf (key : String) : Value → Prop
  | .array items => ItemsFreeOf key items
  | .object fields => FieldsFreeOf key fields
  | _ => True
def ItemsFreeOf (key : String) : List Value → Prop
  | [] => True
  | item :: rest => item.FreeOf key ∧ ItemsFreeOf key rest
def FieldsFreeOf (key : String) : List (String × Value) → Prop
  | [] => True
  | (k,member) :: rest => k ≠ key ∧ member.FreeOf key ∧ FieldsFreeOf key rest
end

mutual
/-- Remove a key from every object of the tree. -/
def prune (key : String) : Value → Value
  | .array items => .array (pruneItems key items)
  | .object fields => .object (pruneFields key fields)
  | other => other
def pruneItems (key : String) : List Value → List Value
  | [] => []
  | item :: rest => item.prune key :: pruneItems key rest
def pruneFields (key : String) : List (String × Value) → List (String × Value)
  | [] => []
  | (k,member) :: rest =>
    if k = key then pruneFields key rest else (k,member.prune key) :: pruneFields key rest
end

mutual
/-- Whether some object of the tree has the key. -/
def mentions (key : String) : Value → Bool
  | .array items => itemsMention key items
  | .object fields => fieldsMention key fields
  | _ => false
def itemsMention (key : String) : List Value → Bool
  | [] => false
  | item :: rest => item.mentions key || itemsMention key rest
def fieldsMention (key : String) : List (String × Value) → Bool
  | [] => false
  | (k,member) :: rest => k == key || member.mentions key || fieldsMention key rest
end

mutual
/-- Structural equality. -/
def same : Value → Value → Bool
  | .null, .null => true
  | .bool left, .bool right => left == right
  | .number left, .number right => left == right
  | .string left, .string right => left == right
  | .array left, .array right => sameItems left right
  | .object left, .object right => sameFields left right
  | _, _ => false
def sameItems : List Value → List Value → Bool
  | [], [] => true
  | left :: lefts, right :: rights => left.same right && sameItems lefts rights
  | _, _ => false
def sameFields : List (String × Value) → List (String × Value) → Bool
  | [], [] => true
  | (key,left) :: lefts, (other,right) :: rights => key == other && left.same right && sameFields lefts rights
  | _, _ => false
end

mutual
theorem same_iff (left right : Value) : left.same right = true ↔ left = right := by
  cases left with
  | array items =>
    cases right with
    | array others => simp [same,sameItems_iff items others]
    | _ => simp [same]
  | object fields =>
    cases right with
    | object others => simp [same,sameFields_iff fields others]
    | _ => simp [same]
  | _ => cases right <;> simp [same]
theorem sameItems_iff (left right : List Value) : sameItems left right = true ↔ left = right := by
  cases left with
  | nil => cases right <;> simp [sameItems]
  | cons item items =>
    cases right with
    | nil => simp [sameItems]
    | cons other others => simp [sameItems,same_iff item other,sameItems_iff items others]
theorem sameFields_iff (left right : List (String × Value)) : sameFields left right = true ↔ left = right := by
  cases left with
  | nil => cases right <;> simp [sameFields]
  | cons field fields =>
    obtain ⟨key,member⟩ := field
    cases right with
    | nil => simp [sameFields]
    | cons other others =>
      simp [sameFields,same_iff member other.2,sameFields_iff fields others,Prod.ext_iff]
end

instance : DecidableEq Value := fun left right => decidable_of_iff _ (same_iff left right)

@[simp] theorem get_object (fields : List (String × Value)) (key : String) :
    (Value.object fields).get key = SortedMap.get key fields := rfl

theorem get_some_object (value member : Value) (key : String) (found : value.get key = some member) :
    ∃ fields, value = .object fields ∧ SortedMap.get key fields = some member := by
  cases value with
  | object fields => exact ⟨fields,rfl,found⟩
  | _ => cases found

theorem asObject_success (value : Value) (fields : List (String × Value)) :
    value.asObject = some fields ↔ value = .object fields := by
  cases value <;> simp [asObject]

theorem isObject_exists (value : Value) : value.isObject = true ↔ ∃ fields, value = .object fields := by
  cases value <;> simp [isObject]

theorem get_setIndex (fields : List (String × Value)) (key other : String) (member : Value) :
    ((Value.object fields).setIndex key member).get other =
      if other = key then some member else (Value.object fields).get other :=
  SortedMap.get_insert key other member fields

theorem fieldsWellFormed_iff (fields : List (String × Value)) :
    FieldsWellFormed fields ↔ ∀ field ∈ fields, field.2.WellFormed := by
  induction fields with
  | nil => simp [FieldsWellFormed]
  | cons field rest ih => simp [FieldsWellFormed,ih]

theorem wellFormed_object (fields : List (String × Value)) :
    (Value.object fields).WellFormed ↔ Sorted fields ∧ ∀ field ∈ fields, field.2.WellFormed := by
  rw [WellFormed,fieldsWellFormed_iff]

theorem wellFormed_get (value member : Value) (key : String) (wellFormed : value.WellFormed)
    (found : value.get key = some member) : member.WellFormed := by
  obtain ⟨fields,rfl,read⟩ := get_some_object value member key found
  exact ((wellFormed_object fields).mp wellFormed).2 _ (SortedMap.get_mem key member fields read)

theorem wellFormed_insert (fields : List (String × Value)) (key : String) (member : Value)
    (wellFormed : (Value.object fields).WellFormed) (inner : member.WellFormed) :
    (Value.object (insert key member fields)).WellFormed := by
  rw [wellFormed_object] at wellFormed ⊢
  refine ⟨SortedMap.insert_sorted key member fields wellFormed.1,?_⟩
  intro field present
  rcases SortedMap.keys_insert key member fields field present with rfl | old
  · exact inner
  · exact wellFormed.2 field old

theorem wellFormed_retain (fields : List (String × Value)) (keep : String → Bool)
    (wellFormed : (Value.object fields).WellFormed) :
    (Value.object (retain keep fields)).WellFormed := by
  rw [wellFormed_object] at wellFormed ⊢
  refine ⟨SortedMap.retain_sorted keep fields wellFormed.1,?_⟩
  intro field present
  exact wellFormed.2 field (List.mem_filter.mp present).1

theorem wellFormed_setIndex (value : Value) (key : String) (member : Value)
    (wellFormed : value.WellFormed) (inner : member.WellFormed) :
    (value.setIndex key member).WellFormed := by
  cases value with
  | object fields => exact wellFormed_insert fields key member wellFormed inner
  | null => exact (wellFormed_object _).mpr ⟨by simp [Sorted],by simpa using inner⟩
  | _ => exact wellFormed

theorem fieldsFreeOf_iff (key : String) (fields : List (String × Value)) :
    FieldsFreeOf key fields ↔ ∀ field ∈ fields, field.1 ≠ key ∧ field.2.FreeOf key := by
  induction fields with
  | nil => simp [FieldsFreeOf]
  | cons field rest ih => simp [FieldsFreeOf,ih,and_assoc]

theorem freeOf_object (key : String) (fields : List (String × Value)) :
    (Value.object fields).FreeOf key ↔ ∀ field ∈ fields, field.1 ≠ key ∧ field.2.FreeOf key := by
  rw [FreeOf,fieldsFreeOf_iff]

theorem freeOf_insert (key field : String) (member : Value) (fields : List (String × Value))
    (free : (Value.object fields).FreeOf key) (different : field ≠ key) (inner : member.FreeOf key) :
    (Value.object (insert field member fields)).FreeOf key := by
  rw [freeOf_object] at free ⊢
  intro entry present
  rcases SortedMap.keys_insert field member fields entry present with rfl | old
  · exact ⟨different,inner⟩
  · exact free entry old

theorem freeOf_retain (key : String) (keep : String → Bool) (fields : List (String × Value))
    (free : (Value.object fields).FreeOf key) : (Value.object (retain keep fields)).FreeOf key := by
  rw [freeOf_object] at free ⊢
  exact fun entry present => free entry (List.mem_filter.mp present).1

section Prune
variable (key : String)

theorem pruneFields_keys (fields : List (String × Value)) :
    (pruneFields key fields).map Prod.fst = (fields.map Prod.fst).filter (fun k => k ≠ key) := by
  induction fields with
  | nil => rfl
  | cons field rest ih =>
    obtain ⟨k,member⟩ := field
    rw [pruneFields]
    by_cases same : k = key
    · simp [same,ih]
    · simp [same,ih]

mutual
theorem prune_wellFormed (value : Value) (wellFormed : value.WellFormed) :
    (value.prune key).WellFormed := by
  cases value with
  | array items => exact pruneItems_wellFormed items wellFormed
  | object fields =>
    refine ⟨?_,pruneFields_wellFormed fields wellFormed.2⟩
    unfold Sorted
    rw [pruneFields_keys]
    exact List.Pairwise.sublist List.filter_sublist wellFormed.1
  | _ => trivial
theorem pruneItems_wellFormed (items : List Value) (wellFormed : ItemsWellFormed items) :
    ItemsWellFormed (pruneItems key items) := by
  cases items with
  | nil => trivial
  | cons item rest =>
    exact ⟨prune_wellFormed item wellFormed.1,pruneItems_wellFormed rest wellFormed.2⟩
theorem pruneFields_wellFormed (fields : List (String × Value)) (wellFormed : FieldsWellFormed fields) :
    FieldsWellFormed (pruneFields key fields) := by
  cases fields with
  | nil => trivial
  | cons field rest =>
    obtain ⟨k,member⟩ := field
    rw [pruneFields]
    split
    · exact pruneFields_wellFormed rest wellFormed.2
    · exact ⟨prune_wellFormed member wellFormed.1,pruneFields_wellFormed rest wellFormed.2⟩
end

mutual
theorem prune_freeOf (value : Value) : (value.prune key).FreeOf key := by
  cases value with
  | array items => exact pruneItems_freeOf items
  | object fields => exact pruneFields_freeOf fields
  | _ => trivial
theorem pruneItems_freeOf (items : List Value) : ItemsFreeOf key (pruneItems key items) := by
  cases items with
  | nil => trivial
  | cons item rest => exact ⟨prune_freeOf item,pruneItems_freeOf rest⟩
theorem pruneFields_freeOf (fields : List (String × Value)) : FieldsFreeOf key (pruneFields key fields) := by
  cases fields with
  | nil => trivial
  | cons field rest =>
    obtain ⟨k,member⟩ := field
    rw [pruneFields]
    split
    · exact pruneFields_freeOf rest
    · rename_i different
      exact ⟨different,prune_freeOf member,pruneFields_freeOf rest⟩
end

@[simp] theorem asStr_prune (value : Value) : (value.prune key).asStr = value.asStr := by
  cases value <;> rfl

@[simp] theorem isArray_prune (value : Value) : (value.prune key).isArray = value.isArray := by
  cases value <;> rfl

end Prune

end Value

/-- A reader and a writer of JSON text. -/
structure Codec where
  fromSlice : List UInt8 → Option Value
  toVec : Value → Option (List UInt8)

/-- Objects are read into ordered maps. -/
def Codec.Ordered (codec : Codec) : Prop :=
  ∀ bytes value, codec.fromSlice bytes = some value → value.WellFormed

/-- Every value can be written. -/
def Codec.Total (codec : Codec) : Prop := ∀ value, ∃ bytes, codec.toVec value = some bytes

/-- What a JSON library documents: it reads objects into ordered maps, and writes every value
compactly (control characters escaped, no white space), an object with its brace first, as a
text that a JSON reader understands as that value. The library's own reader may accept less
than the reader at the other end: it limits the nesting. -/
structure Codec.Lawful (codec : Codec) (reader : List UInt8 → Option Value) : Prop where
  ordered : codec.Ordered
  total : codec.Total
  compact : ∀ value bytes, codec.toVec value = some bytes → ∀ byte ∈ bytes, byte ≠ 10 ∧ byte ≠ 13
  opens : ∀ fields bytes, codec.toVec (.object fields) = some bytes → bytes.head? = some 123
  understood : ∀ value bytes, value.WellFormed → codec.toVec value = some bytes → reader bytes = some value

end SerenRouter.Kernel.Json
