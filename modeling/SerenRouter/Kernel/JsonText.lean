import SerenRouter.Kernel.Json

/-! A concrete codec: compact JSON text in UTF-8 and a reader for it. It shows that the
documented behaviour of a JSON library can be had, and runs on concrete bytes. -/
namespace SerenRouter.Kernel.Json
open SortedMap (ofList)

namespace JsonText

def hexDigit (digit : Nat) : Char := "0123456789abcdef".toList.getD digit '0'

/-- The escapes of quotes, backslashes and control characters; the rest is written raw. -/
def escape (char : Char) : List Char :=
  if char = '"' then ['\\','"']
  else if char = '\\' then ['\\','\\']
  else if char = '\x08' then ['\\','b']
  else if char = '\t' then ['\\','t']
  else if char = '\n' then ['\\','n']
  else if char = '\x0c' then ['\\','f']
  else if char = '\r' then ['\\','r']
  else if char.toNat < 32 then ['\\','u','0','0',hexDigit (char.toNat / 16),hexDigit (char.toNat % 16)]
  else [char]

def printString (text : String) : List Char := '"' :: (text.toList.flatMap escape ++ ['"'])

mutual
def print : Value → List Char
  | .null => "null".toList
  | .bool true => "true".toList
  | .bool false => "false".toList
  | .number number => number.text.toList
  | .string text => printString text
  | .array [] => ['[',']']
  | .array (item :: items) => '[' :: (print item ++ printItems items)
  | .object [] => ['{','}']
  | .object ((key,value) :: fields) => '{' :: (printString key ++ ':' :: (print value ++ printFields fields))
/-- The items behind the first one, and the closing bracket. -/
def printItems : List Value → List Char
  | [] => [']']
  | item :: items => ',' :: (print item ++ printItems items)
/-- The fields behind the first one, and the closing brace. -/
def printFields : List (String × Value) → List Char
  | [] => ['}']
  | (key,value) :: fields => ',' :: (printString key ++ ':' :: (print value ++ printFields fields))
end

def isSpace (char : Char) : Bool := char == ' ' || char == '\t' || char == '\n' || char == '\r'

def skipSpace (chars : List Char) : List Char := chars.dropWhile isSpace

def hexValue (char : Char) : Option Nat := "0123456789abcdef".toList.idxOf? char.toLower

/-- The characters of a string up to its closing quote. -/
def readString : List Char → Option (List Char × List Char)
  | [] => none
  | '"' :: rest => some ([],rest)
  | '\\' :: '"' :: rest => (readString rest).map (fun (text,rest) => ('"' :: text,rest))
  | '\\' :: '\\' :: rest => (readString rest).map (fun (text,rest) => ('\\' :: text,rest))
  | '\\' :: '/' :: rest => (readString rest).map (fun (text,rest) => ('/' :: text,rest))
  | '\\' :: 'b' :: rest => (readString rest).map (fun (text,rest) => ('\x08' :: text,rest))
  | '\\' :: 't' :: rest => (readString rest).map (fun (text,rest) => ('\t' :: text,rest))
  | '\\' :: 'n' :: rest => (readString rest).map (fun (text,rest) => ('\n' :: text,rest))
  | '\\' :: 'f' :: rest => (readString rest).map (fun (text,rest) => ('\x0c' :: text,rest))
  | '\\' :: 'r' :: rest => (readString rest).map (fun (text,rest) => ('\r' :: text,rest))
  | '\\' :: 'u' :: a :: b :: c :: d :: rest => do
    let code := (((← hexValue a) * 16 + (← hexValue b)) * 16 + (← hexValue c)) * 16 + (← hexValue d)
    if 0xd800 ≤ code ∧ code < 0xe000 then none
    else (readString rest).map (fun (text,rest) => (Char.ofNat code :: text,rest))
  | '\\' :: _ => none
  | char :: rest =>
    if char.toNat < 32 then none else (readString rest).map (fun (text,rest) => (char :: text,rest))

def isNumberChar (char : Char) : Bool :=
  char.isDigit || char == '-' || char == '+' || char == '.' || char == 'e' || char == 'E'

mutual
def readValue : Nat → List Char → Option (Value × List Char)
  | 0, _ => none
  | fuel + 1, chars =>
    match skipSpace chars with
    | 'n' :: 'u' :: 'l' :: 'l' :: rest => some (.null,rest)
    | 't' :: 'r' :: 'u' :: 'e' :: rest => some (.bool true,rest)
    | 'f' :: 'a' :: 'l' :: 's' :: 'e' :: rest => some (.bool false,rest)
    | '"' :: rest => (readString rest).map (fun (text,rest) => (.string (String.ofList text),rest))
    | '[' :: rest =>
      match skipSpace rest with
      | ']' :: rest => some (.array [],rest)
      | rest => do
        let (item,rest) ← readValue fuel rest
        let (items,rest) ← readItems fuel rest
        return (.array (item :: items),rest)
    | '{' :: rest =>
      match skipSpace rest with
      | '}' :: rest => some (.object [],rest)
      | rest => do
        let (field,rest) ← readField fuel rest
        let (fields,rest) ← readFields fuel rest
        return (.object (ofList (field :: fields)),rest)
    | chars =>
      (Number.fromStr (String.ofList (chars.takeWhile isNumberChar))).map (fun number =>
        (.number number,chars.dropWhile isNumberChar))
def readItems : Nat → List Char → Option (List Value × List Char)
  | 0, _ => none
  | fuel + 1, chars =>
    match skipSpace chars with
    | ']' :: rest => some ([],rest)
    | ',' :: rest => do
      let (item,rest) ← readValue fuel rest
      let (items,rest) ← readItems fuel rest
      return (item :: items,rest)
    | _ => none
def readField : Nat → List Char → Option ((String × Value) × List Char)
  | 0, _ => none
  | fuel + 1, chars =>
    match skipSpace chars with
    | '"' :: rest => do
      let (key,rest) ← readString rest
      match skipSpace rest with
      | ':' :: rest => do
        let (value,rest) ← readValue fuel rest
        return ((String.ofList key,value),rest)
      | _ => none
    | _ => none
def readFields : Nat → List Char → Option (List (String × Value) × List Char)
  | 0, _ => none
  | fuel + 1, chars =>
    match skipSpace chars with
    | '}' :: rest => some ([],rest)
    | ',' :: rest => do
      let (field,rest) ← readField fuel rest
      let (fields,rest) ← readFields fuel rest
      return (field :: fields,rest)
    | _ => none
end

/-- A text is one value with nothing but white space behind it. -/
def readText (chars : List Char) : Option Value := do
  let (value,rest) ← readValue chars.length chars
  if skipSpace rest = [] then some value else none

section Strings

theorem readString_plain (char : Char) (rest : List Char) (notQuote : char ≠ '"') (notBackslash : char ≠ '\\')
    (printable : ¬ char.toNat < 32) :
    readString (char :: rest) = (readString rest).map (fun (text,rest) => (char :: text,rest)) := by
  rw [readString,if_neg printable] <;> simp [notQuote,notBackslash]

theorem readString_control (char : Char) (rest : List Char) (control : char.toNat < 32) :
    readString ('\\' :: 'u' :: '0' :: '0' :: hexDigit (char.toNat / 16) :: hexDigit (char.toNat % 16) :: rest) =
      (readString rest).map (fun (text,rest) => (char :: text,rest)) := by
  have digits : ∀ code < 32, hexValue (hexDigit (code / 16)) = some (code / 16) ∧
      hexValue (hexDigit (code % 16)) = some (code % 16) := by decide
  obtain ⟨high,low⟩ := digits char.toNat control
  have zero : hexValue '0' = some 0 := by decide
  have whole : ((0 * 16 + 0) * 16 + char.toNat / 16) * 16 + char.toNat % 16 = char.toNat := by omega
  have scalar : ¬ (0xd800 ≤ char.toNat ∧ char.toNat < 0xe000) := by omega
  rw [readString]
  simp only [zero,high,low,Option.bind_eq_bind,Option.bind_some,whole,if_neg scalar,Char.ofNat_toNat]

theorem readString_escape (char : Char) (rest : List Char) :
    readString (escape char ++ rest) = (readString rest).map (fun (text,rest) => (char :: text,rest)) := by
  unfold escape
  split
  · subst_vars; rfl
  split
  · subst_vars; rfl
  split
  · subst_vars; rfl
  split
  · subst_vars; rfl
  split
  · subst_vars; rfl
  split
  · subst_vars; rfl
  split
  · subst_vars; rfl
  split
  · rename_i control
    exact readString_control char rest control
  · rename_i notQuote notBackslash _ _ _ _ _ printable
    exact readString_plain char rest notQuote notBackslash printable

theorem readString_print (text rest : List Char) :
    readString (text.flatMap escape ++ '"' :: rest) = some (text,rest) := by
  induction text with
  | nil => rfl
  | cons char text ih => rw [List.flatMap_cons,List.append_assoc,readString_escape,ih]; rfl

end Strings

section Numbers

private theorem numberChars_digits (chars : List Char) (digits : chars.all Char.isDigit = true) :
    chars.all isNumberChar = true := by
  rw [List.all_eq_true] at digits ⊢
  intro char member
  simp [isNumberChar,digits char member]

private theorem numberChars_behind (chars : List Char)
    (behind : (chars.dropWhile Char.isDigit).all isNumberChar = true) : chars.all isNumberChar = true := by
  rw [← List.takeWhile_append_dropWhile (p := Char.isDigit) (l := chars),List.all_append,behind,Bool.and_true]
  exact numberChars_digits _ (List.all_takeWhile)

private theorem exponentDigits_chars (chars : List Char) (valid : isExponentDigits chars = true) :
    chars.all isNumberChar = true := by
  cases chars with
  | nil => rfl
  | cons digit digits => exact numberChars_digits _ valid

private theorem exponent_chars (chars : List Char) (valid : isExponent chars = true) :
    chars.all isNumberChar = true := by
  unfold isExponent at valid
  split at valid
  · rfl
  all_goals
    rw [Bool.and_eq_true] at valid
    have digits := exponentDigits_chars _ valid.2
    have mark := valid.1
    simp only [List.all_cons,digits,Bool.and_true]
    simp only [isNumberChar] at mark ⊢
    grind

private theorem fraction_chars (chars : List Char) (valid : isFraction chars = true) :
    chars.all isNumberChar = true := by
  unfold isFraction at valid
  split at valid
  · rename_i digit rest
    rw [Bool.and_eq_true] at valid
    have tail := numberChars_behind rest (exponent_chars _ valid.2)
    simp [List.all_cons,tail,isNumberChar,valid.1]
  · exact exponent_chars _ valid

private theorem unsigned_chars (chars : List Char) (valid : isUnsignedNumber chars = true) :
    chars.all isNumberChar = true ∧ chars ≠ [] := by
  unfold isUnsignedNumber at valid
  split at valid
  · cases valid
  · exact ⟨by simpa [isNumberChar] using fraction_chars _ valid,by simp⟩
  · rename_i digit rest _
    rw [Bool.and_eq_true] at valid
    have tail := numberChars_behind rest (fraction_chars _ valid.2)
    exact ⟨by simp [List.all_cons,tail,isNumberChar,valid.1],by simp⟩

theorem number_chars (chars : List Char) (valid : isNumber chars = true) :
    chars.all isNumberChar = true ∧ chars ≠ [] := by
  unfold isNumber at valid
  split at valid
  · exact ⟨by simpa [isNumberChar] using (unsigned_chars _ valid).1,by simp⟩
  · exact unsigned_chars _ valid

/-- The text behind a value does not continue a number. -/
def Stops (rest : List Char) : Prop := ∀ char tail, rest = char :: tail → isNumberChar char = false

theorem readValue_number (fuel : Nat) (number : Number) (rest : List Char) (stops : Stops rest) :
    readValue (fuel + 1) (number.text.toList ++ rest) = some (.number number,rest) := by
  obtain ⟨chars,nonempty⟩ := number_chars _ number.valid
  have taken : (number.text.toList ++ rest).takeWhile isNumberChar = number.text.toList := by
    rw [List.takeWhile_append_of_pos (by simpa using chars)]
    cases rest with
    | nil => simp
    | cons char tail => simp [stops char tail rfl]
  have dropped : (number.text.toList ++ rest).dropWhile isNumberChar = rest := by
    rw [List.dropWhile_append_of_pos (by simpa using chars)]
    cases rest with
    | nil => rfl
    | cons char tail => simp [stops char tail rfl]
  obtain ⟨first,digits,split⟩ := List.exists_cons_of_ne_nil nonempty
  rw [split] at chars
  have isChar : isNumberChar first = true := by simp at chars; exact chars.1
  have visible : isSpace first = false := by
    cases space : isSpace first with
    | false => rfl
    | true =>
      simp only [isSpace,Bool.or_eq_true,beq_iff_eq] at space
      rcases space with ((rfl | rfl) | rfl) | rfl <;> exact absurd isChar (by decide)
  have tight : skipSpace (number.text.toList ++ rest) = number.text.toList ++ rest := by
    simp [split,skipSpace,visible]
  rw [readValue,tight]
  have read : Number.fromStr number.text = some number := by simp [Number.fromStr,number.valid]
  -- Every other value starts with a character that no number has.
  split
  case h_7 =>
    rw [taken,dropped,String.ofList_toList,read]
    rfl
  all_goals
    rename_i equal
    rw [split,List.cons_append,List.cons.injEq] at equal
    rw [equal.1] at isChar
    exact absurd isChar (by decide)

theorem number_head (number : Number) :
    ∃ first rest, number.text.toList = first :: rest ∧ isNumberChar first = true := by
  obtain ⟨chars,nonempty⟩ := number_chars _ number.valid
  obtain ⟨first,rest,split⟩ := List.exists_cons_of_ne_nil nonempty
  rw [split,List.all_cons,Bool.and_eq_true] at chars
  exact ⟨first,rest,split,chars.1⟩

end Numbers

section RoundTrip

theorem isNumberChar_visible (char : Char) (number : isNumberChar char = true) :
    isSpace char = false ∧ char ≠ ']' := by
  constructor
  · cases space : isSpace char with
    | false => rfl
    | true =>
      simp only [isSpace,Bool.or_eq_true,beq_iff_eq] at space
      rcases space with ((rfl | rfl) | rfl) | rfl <;> exact absurd number (by decide)
  · rintro rfl
    exact absurd number (by decide)

theorem print_head (value : Value) :
    ∃ first rest, print value = first :: rest ∧ isSpace first = false ∧ first ≠ ']' := by
  cases value with
  | null => exact ⟨_,_,rfl,by decide,by decide⟩
  | bool truth => cases truth <;> exact ⟨_,_,rfl,by decide,by decide⟩
  | number number =>
    obtain ⟨first,rest,split,isChar⟩ := number_head number
    exact ⟨first,rest,split,isNumberChar_visible first isChar⟩
  | string text => exact ⟨_,_,rfl,by decide,by decide⟩
  | array items => cases items <;> exact ⟨_,_,rfl,by decide,by decide⟩
  | object fields => cases fields <;> exact ⟨_,_,rfl,by decide,by decide⟩

theorem skipSpace_print (value : Value) (rest : List Char) :
    skipSpace (print value ++ rest) = print value ++ rest := by
  obtain ⟨first,tail,split,visible,_⟩ := print_head value
  simp [split,skipSpace,visible]

theorem readField_print (fuel : Nat) (key : String) (value : Value) (rest : List Char)
    (read : readValue fuel (print value ++ rest) = some (value,rest)) :
    readField (fuel + 1) (printString key ++ ':' :: (print value ++ rest)) = some ((key,value),rest) := by
  have quoted : skipSpace (printString key ++ ':' :: (print value ++ rest)) =
      '"' :: (key.toList.flatMap escape ++ '"' :: ':' :: (print value ++ rest)) := by
    simp [printString,skipSpace,isSpace]
  have colon : skipSpace (':' :: (print value ++ rest)) = ':' :: (print value ++ rest) := by
    simp [skipSpace,isSpace]
  rw [readField,quoted]
  simp only [readString_print,colon,read,Option.bind_eq_bind,Option.bind_some,String.ofList_toList]
  rfl

theorem stops_items (items : List Value) (rest : List Char) : Stops (printItems items ++ rest) := by
  intro char tail equal
  cases items <;> (rw [printItems,List.cons_append,List.cons.injEq] at equal; rw [← equal.1]; decide)

theorem stops_fields (fields : List (String × Value)) (rest : List Char) :
    Stops (printFields fields ++ rest) := by
  intro char tail equal
  cases fields <;> (rw [printFields,List.cons_append,List.cons.injEq] at equal; rw [← equal.1]; decide)

mutual
theorem readValue_print (value : Value) (fuel : Nat) (rest : List Char) (wellFormed : value.WellFormed)
    (stops : Stops rest) (enough : (print value).length ≤ fuel) :
    readValue fuel (print value ++ rest) = some (value,rest) := by
  obtain ⟨less,rfl⟩ : ∃ less, fuel = less + 1 := by
    obtain ⟨first,tail,split,_⟩ := print_head value
    rw [split,List.length_cons] at enough
    exact ⟨fuel - 1,by omega⟩
  cases value with
  | null => rfl
  | bool truth => cases truth <;> rfl
  | number number => exact readValue_number less number rest stops
  | string text =>
    have quoted : skipSpace (printString text ++ rest) = '"' :: (text.toList.flatMap escape ++ '"' :: rest) := by
      simp [printString,skipSpace,isSpace]
    rw [print,readValue,quoted]
    simp [readString_print]
  | array items =>
    cases items with
    | nil => rfl
    | cons item items =>
      simp only [print,List.length_cons,List.length_append] at enough
      have inner := readValue_print item less (printItems items ++ rest) wellFormed.1
        (stops_items items rest) (by omega)
      have outer := readItems_print items less rest wellFormed.2 (by omega)
      have bracket : skipSpace (print (.array (item :: items)) ++ rest) =
          '[' :: (print item ++ (printItems items ++ rest)) := by
        simp [print,skipSpace,isSpace]
      rw [readValue,bracket]
      simp only [skipSpace_print]
      obtain ⟨first,tail,split,_,notClosing⟩ := print_head item
      split
      · rename_i equal
        rw [split,List.cons_append,List.cons.injEq] at equal
        exact absurd equal.1 notClosing
      · simp [inner,outer]
  | object fields =>
    cases fields with
    | nil => rfl
    | cons field fields =>
      obtain ⟨key,member⟩ := field
      simp only [print,printString,List.length_cons,List.length_append] at enough
      obtain ⟨more,rfl⟩ : ∃ more, less = more + 1 := ⟨less - 1,by omega⟩
      have inner := readValue_print member more (printFields fields ++ rest) wellFormed.2.1
        (stops_fields fields rest) (by omega)
      have outer := readFields_print fields (more + 1) rest wellFormed.2.2 (by omega)
      have field := readField_print more key member (printFields fields ++ rest) inner
      have brace : skipSpace (print (.object ((key,member) :: fields)) ++ rest) =
          '{' :: (printString key ++ ':' :: (print member ++ (printFields fields ++ rest))) := by
        simp [print,skipSpace,isSpace]
      have quote : skipSpace (printString key ++ ':' :: (print member ++ (printFields fields ++ rest))) =
          printString key ++ ':' :: (print member ++ (printFields fields ++ rest)) := by
        simp [printString,skipSpace,isSpace]
      rw [readValue,brace]
      simp only [quote]
      split
      · rename_i equal
        simp [printString] at equal
      · simp [field,outer,SortedMap.ofList_of_sorted _ wellFormed.1]
theorem readItems_print (items : List Value) (fuel : Nat) (rest : List Char)
    (wellFormed : Value.ItemsWellFormed items) (enough : (printItems items).length ≤ fuel) :
    readItems fuel (printItems items ++ rest) = some (items,rest) := by
  cases items with
  | nil =>
    obtain ⟨less,rfl⟩ : ∃ less, fuel = less + 1 := ⟨fuel - 1,by simp [printItems] at enough; omega⟩
    rfl
  | cons item items =>
    simp only [printItems,List.length_cons,List.length_append] at enough
    obtain ⟨less,rfl⟩ : ∃ less, fuel = less + 1 := ⟨fuel - 1,by omega⟩
    have inner := readValue_print item less (printItems items ++ rest) wellFormed.1
      (stops_items items rest) (by omega)
    have outer := readItems_print items less rest wellFormed.2 (by omega)
    have comma : skipSpace (printItems (item :: items) ++ rest) =
        ',' :: (print item ++ (printItems items ++ rest)) := by
      simp [printItems,skipSpace,isSpace]
    rw [readItems,comma]
    simp [inner,outer]
theorem readFields_print (fields : List (String × Value)) (fuel : Nat) (rest : List Char)
    (wellFormed : Value.FieldsWellFormed fields) (enough : (printFields fields).length ≤ fuel) :
    readFields fuel (printFields fields ++ rest) = some (fields,rest) := by
  cases fields with
  | nil =>
    obtain ⟨less,rfl⟩ : ∃ less, fuel = less + 1 := ⟨fuel - 1,by simp [printFields] at enough; omega⟩
    rfl
  | cons field fields =>
    obtain ⟨key,member⟩ := field
    simp only [printFields,printString,List.length_cons,List.length_append] at enough
    obtain ⟨less,rfl⟩ : ∃ less, fuel = less + 2 := ⟨fuel - 2,by omega⟩
    have inner := readValue_print member less (printFields fields ++ rest) wellFormed.1
      (stops_fields fields rest) (by omega)
    have outer := readFields_print fields (less + 1) rest wellFormed.2 (by omega)
    have field := readField_print less key member (printFields fields ++ rest) inner
    have comma : skipSpace (printFields ((key,member) :: fields) ++ rest) =
        ',' :: (printString key ++ ':' :: (print member ++ (printFields fields ++ rest))) := by
      simp [printFields,skipSpace,isSpace]
    rw [readFields,comma]
    simp [field,outer]
end

theorem readText_print (value : Value) (wellFormed : value.WellFormed) :
    readText (print value) = some value := by
  have read := readValue_print value (print value).length [] wellFormed (by intro _ _ equal; cases equal)
    (le_refl _)
  rw [List.append_nil] at read
  simp only [readText,read,Option.bind_eq_bind,Option.bind_some]
  exact if_pos rfl

end RoundTrip

theorem read_wellFormed (fuel : Nat) :
    (∀ chars value rest, readValue fuel chars = some (value,rest) → value.WellFormed) ∧
    (∀ chars items rest, readItems fuel chars = some (items,rest) → Value.ItemsWellFormed items) ∧
    (∀ chars field rest, readField fuel chars = some (field,rest) → field.2.WellFormed) ∧
    ∀ chars fields rest, readFields fuel chars = some (fields,rest) → Value.FieldsWellFormed fields := by
  induction fuel with
  | zero => refine ⟨?_,?_,?_,?_⟩ <;> intro _ _ _ read <;> cases read
  | succ fuel ih =>
    obtain ⟨values,items,field,fields⟩ := ih
    refine ⟨?_,?_,?_,?_⟩
    · intro chars value rest read
      rw [readValue] at read
      split at read
      · cases read; trivial
      · cases read; trivial
      · cases read; trivial
      · obtain ⟨text,_,equal⟩ := Option.map_eq_some_iff.mp read
        cases equal
        trivial
      · split at read
        · cases read; trivial
        · simp only [Option.bind_eq_bind,Option.bind_eq_some_iff] at read
          obtain ⟨⟨item,middle⟩,first,⟨others,last⟩,second,equal⟩ := read
          cases equal
          exact ⟨values _ item middle first,items _ others last second⟩
      · split at read
        · cases read; exact ⟨SortedMap.sorted_nil,trivial⟩
        · simp only [Option.bind_eq_bind,Option.bind_eq_some_iff] at read
          obtain ⟨⟨one,middle⟩,first,⟨others,last⟩,second,equal⟩ := read
          cases equal
          rw [Value.wellFormed_object]
          refine ⟨SortedMap.ofList_sorted _,fun entry member => ?_⟩
          have together : Value.FieldsWellFormed (one :: others) :=
            ⟨field _ one middle first,fields _ others last second⟩
          exact (Value.fieldsWellFormed_iff _).mp together entry (SortedMap.ofList_mem _ entry member)
      · obtain ⟨number,_,equal⟩ := Option.map_eq_some_iff.mp read
        cases equal
        trivial
    · intro chars value rest read
      rw [readItems] at read
      split at read
      · cases read; trivial
      · simp only [Option.bind_eq_bind,Option.bind_eq_some_iff] at read
        obtain ⟨⟨item,middle⟩,first,⟨others,last⟩,second,equal⟩ := read
        cases equal
        exact ⟨values _ item middle first,items _ others last second⟩
      · cases read
    · intro chars value rest read
      rw [readField] at read
      split at read
      · simp only [Option.bind_eq_bind,Option.bind_eq_some_iff] at read
        obtain ⟨⟨key,middle⟩,_,read⟩ := read
        split at read
        · simp only [Option.bind_eq_some_iff] at read
          obtain ⟨⟨member,last⟩,second,equal⟩ := read
          cases equal
          exact values _ member last second
        · cases read
      · cases read
    · intro chars value rest read
      rw [readFields] at read
      split at read
      · cases read; trivial
      · simp only [Option.bind_eq_bind,Option.bind_eq_some_iff] at read
        obtain ⟨⟨one,middle⟩,first,⟨others,last⟩,second,equal⟩ := read
        cases equal
        exact ⟨field _ one middle first,fields _ others last second⟩
      · cases read

section Compact

/-- A character that is not a line ending. -/
def isInline (char : Char) : Bool := char != '\n' && char != '\r'

theorem hexDigit_inline : ∀ digit < 16, isInline (hexDigit digit) = true := by decide

theorem escape_inline (char : Char) : (escape char).all isInline = true := by
  unfold escape
  split
  · decide
  split
  · decide
  split
  · decide
  split
  · decide
  split
  · decide
  split
  · decide
  split
  · decide
  split
  · have high := hexDigit_inline (char.toNat / 16) (by omega)
    have low := hexDigit_inline (char.toNat % 16) (by omega)
    simp only [List.all_cons,high,low,List.all_nil]
    decide
  · rename_i newline _ return_ _
    simp [isInline,newline,return_]

theorem printString_inline (text : String) : (printString text).all isInline = true := by
  have escaped : (text.toList.flatMap escape).all isInline = true := by
    simp only [List.all_flatMap,List.all_eq_true]
    exact fun char _ => List.all_eq_true.mp (escape_inline char)
  simp only [printString,List.all_cons,List.all_append,escaped]
  decide

theorem number_inline (number : Number) : number.text.toList.all isInline = true := by
  have chars := (number_chars _ number.valid).1
  rw [List.all_eq_true] at chars ⊢
  intro char member
  have isChar := chars char member
  have notNewline : char ≠ '\n' := by rintro rfl; exact absurd isChar (by decide)
  have notReturn : char ≠ '\r' := by rintro rfl; exact absurd isChar (by decide)
  simp [isInline,notNewline,notReturn]

mutual
theorem print_inline (value : Value) : (print value).all isInline = true := by
  cases value with
  | null => rfl
  | bool truth => cases truth <;> rfl
  | number number => exact number_inline number
  | string text => exact printString_inline text
  | array items =>
    cases items with
    | nil => rfl
    | cons item items =>
      simp only [print,List.all_cons,List.all_append,print_inline item,printItems_inline items]
      decide
  | object fields =>
    cases fields with
    | nil => rfl
    | cons field fields =>
      simp only [print,List.all_cons,List.all_append,printString_inline,print_inline field.2,
        printFields_inline fields]
      decide
theorem printItems_inline (items : List Value) : (printItems items).all isInline = true := by
  cases items with
  | nil => rfl
  | cons item items =>
    simp only [printItems,List.all_cons,List.all_append,print_inline item,printItems_inline items]
    decide
theorem printFields_inline (fields : List (String × Value)) : (printFields fields).all isInline = true := by
  cases fields with
  | nil => rfl
  | cons field fields =>
    simp only [printFields,List.all_cons,List.all_append,printString_inline,print_inline field.2,
      printFields_inline fields]
    decide
end

theorem utf8_ofList (chars : List Char) : utf8 (String.ofList chars) = chars.flatMap String.utf8EncodeChar := by
  rw [utf8,String.toByteArray_ofList,List.utf8Encode,List.data_toByteArray]

theorem utf8EncodeChar_ascii (char : Char) (byte : UInt8) (member : byte ∈ String.utf8EncodeChar char)
    (ascii : byte.toNat < 128) : char.toNat = byte.toNat := by
  unfold String.utf8EncodeChar at member
  change char.val.toNat = byte.toNat
  simp only at member
  -- Every byte of a longer encoding is at least 128.
  split at member
  · obtain rfl := List.mem_singleton.mp member
    rw [UInt8.toNat_ofNat']
    omega
  split at member
  · simp only [List.mem_cons,List.not_mem_nil,or_false] at member
    rcases member with rfl | rfl <;> (rw [UInt8.toNat_ofNat'] at ascii; omega)
  split at member
  · simp only [List.mem_cons,List.not_mem_nil,or_false] at member
    rcases member with rfl | rfl | rfl <;> (rw [UInt8.toNat_ofNat'] at ascii; omega)
  · simp only [List.mem_cons,List.not_mem_nil,or_false] at member
    rcases member with rfl | rfl | rfl | rfl <;> (rw [UInt8.toNat_ofNat'] at ascii; omega)

theorem utf8_inline (chars : List Char) (inline_ : chars.all isInline = true) :
    ∀ byte ∈ utf8 (String.ofList chars), byte ≠ 10 ∧ byte ≠ 13 := by
  intro byte member
  rw [utf8_ofList,List.mem_flatMap] at member
  obtain ⟨char,present,encoded⟩ := member
  have kept := List.all_eq_true.mp inline_ char present
  constructor
  · rintro rfl
    have same := utf8EncodeChar_ascii char 10 encoded (by decide)
    obtain rfl : char = '\n' := Char.toNat_inj.mp same
    cases kept
  · rintro rfl
    have same := utf8EncodeChar_ascii char 13 encoded (by decide)
    obtain rfl : char = '\r' := Char.toNat_inj.mp same
    cases kept

end Compact

end JsonText

def JsonText.codec : Codec where
  fromSlice bytes := (String.fromUTF8? ⟨⟨bytes⟩⟩).bind (fun text => JsonText.readText text.toList)
  toVec value := some (utf8 (String.ofList (JsonText.print value)))

theorem JsonText.fromUTF8_utf8 (text : String) : String.fromUTF8? ⟨⟨utf8 text⟩⟩ = some text := by
  have same : (⟨⟨utf8 text⟩⟩ : ByteArray) = text.toByteArray := by simp [utf8]
  rw [same,String.fromUTF8?,dif_pos text.isValidUTF8]
  rfl

theorem JsonText.codec_lawful : JsonText.codec.Lawful JsonText.codec.fromSlice where
  ordered bytes value read := by
    obtain ⟨text,_,parsed⟩ := Option.bind_eq_some_iff.mp read
    simp only [readText,Option.bind_eq_bind,Option.bind_eq_some_iff] at parsed
    obtain ⟨⟨other,rest⟩,readValue,parsed⟩ := parsed
    split at parsed
    · cases parsed
      exact (read_wellFormed _).1 _ _ _ readValue
    · cases parsed
  total value := ⟨_,rfl⟩
  compact value bytes written := by
    cases written
    exact utf8_inline _ (print_inline value)
  opens fields bytes written := by
    cases written
    cases fields <;> (rw [print,utf8_ofList,List.flatMap_cons]; rfl)
  understood value bytes wellFormed written := by
    cases written
    change (String.fromUTF8? _).bind _ = _
    rw [fromUTF8_utf8,Option.bind_some,String.toList_ofList,readText_print value wellFormed]

end SerenRouter.Kernel.Json
