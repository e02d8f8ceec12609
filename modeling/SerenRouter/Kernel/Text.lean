import Mathlib.Data.List.Basic
import Mathlib.Data.String.Basic

/-! Prefixes, suffixes and trimming of strings and byte lists, as the standard library
of the source language documents them. -/
namespace SerenRouter.Kernel

theorem dropPrefix_success {α : Type} [BEq α] [LawfulBEq α] (whole front rest : List α) :
    whole.dropPrefix? front = some rest ↔ whole = front ++ rest := by
  simp [List.dropPrefix?_eq_some_iff]

theorem dropPrefix_none {α : Type} [BEq α] [LawfulBEq α] (whole front : List α) :
    whole.dropPrefix? front = none ↔ ∀ rest, whole ≠ front ++ rest := by
  constructor
  · intro absent rest equal
    rw [(dropPrefix_success whole front rest).mpr equal] at absent
    cases absent
  · intro different
    cases found : whole.dropPrefix? front with
    | none => rfl
    | some rest => exact absurd ((dropPrefix_success whole front rest).mp found) (different rest)

/-- Two lists joined at a separator are equal when their parts are, or when one front goes on past
the separator of the other. -/
theorem joined_eq {α : Type} (separator : α) (left right leftRest rightRest : List α) :
    left ++ separator :: leftRest = right ++ separator :: rightRest ↔
      (left = right ∧ leftRest = rightRest) ∨
      (∃ middle, right = left ++ separator :: middle ∧ leftRest = middle ++ separator :: rightRest) ∨
      ∃ middle, left = right ++ separator :: middle ∧ rightRest = middle ++ separator :: leftRest := by
  constructor
  · intro same
    rcases List.append_eq_append_iff.mp same with ⟨between,equal,rest⟩ | ⟨between,equal,rest⟩
    · cases between with
      | nil =>
        cases rest
        exact .inl ⟨by simp [equal],rfl⟩
      | cons first middle =>
        cases rest
        exact .inr (.inl ⟨middle,equal,rfl⟩)
    · cases between with
      | nil =>
        cases rest
        exact .inl ⟨by simp [equal],rfl⟩
      | cons first middle =>
        cases rest
        exact .inr (.inr ⟨middle,equal,rfl⟩)
  · rintro (⟨rfl,rfl⟩ | ⟨middle,rfl,rfl⟩ | ⟨middle,rfl,rfl⟩) <;> simp

namespace Text

theorem slash_toList (front back : String) : (front ++ "/" ++ back).toList = front.toList ++ '/' :: back.toList := by
  simp [String.toList_append]

theorem slash_eq (left right leftRest rightRest : String) :
    left ++ "/" ++ leftRest = right ++ "/" ++ rightRest ↔
      (left = right ∧ leftRest = rightRest) ∨
      (∃ middle, right = left ++ "/" ++ middle ∧ leftRest = middle ++ "/" ++ rightRest) ∨
      ∃ middle, left = right ++ "/" ++ middle ∧ rightRest = middle ++ "/" ++ leftRest := by
  have strings (test : List Char → Prop) : (∃ chars, test chars) ↔ ∃ text : String, test text.toList :=
    ⟨fun ⟨chars,holds⟩ => ⟨String.ofList chars,by rwa [String.toList_ofList]⟩,fun ⟨text,holds⟩ => ⟨text.toList,holds⟩⟩
  simp only [← String.toList_inj,slash_toList,joined_eq,strings]

/-- `str::strip_prefix`. -/
def stripPrefix (text front : String) : Option String :=
  (text.toList.dropPrefix? front.toList).map String.ofList

/-- `str::strip_suffix`. -/
def stripSuffix (text back : String) : Option String :=
  (text.toList.dropSuffix? back.toList).map String.ofList

theorem stripPrefix_success (text front rest : String) :
    stripPrefix text front = some rest ↔ text = front ++ rest := by
  unfold stripPrefix
  rw [Option.map_eq_some_iff]
  constructor
  · rintro ⟨tail,found,rfl⟩
    rw [← String.toList_inj,String.toList_append,String.toList_ofList]
    exact (dropPrefix_success _ _ _).mp found
  · rintro rfl
    exact ⟨rest.toList,(dropPrefix_success _ _ _).mpr String.toList_append,String.ofList_toList⟩

theorem stripSuffix_success (text back rest : String) :
    stripSuffix text back = some rest ↔ text = rest ++ back := by
  unfold stripSuffix
  rw [Option.map_eq_some_iff]
  constructor
  · rintro ⟨front,found,rfl⟩
    obtain ⟨suffix,split,same⟩ := List.dropSuffix?_eq_some_iff.mp found
    rw [← String.toList_inj,String.toList_append,String.toList_ofList,split,eq_of_beq same]
  · rintro rfl
    exact ⟨rest.toList,List.dropSuffix?_eq_some_iff.mpr ⟨back.toList,String.toList_append,beq_self_eq_true _⟩,
      String.ofList_toList⟩

theorem stripSuffix_none (text back : String) : stripSuffix text back = none ↔ ∀ rest, text ≠ rest ++ back := by
  rw [Option.eq_none_iff_forall_ne_some]
  exact forall_congr' (fun rest => not_congr (stripSuffix_success text back rest))

theorem append_ne (left right back other : String) (last otherLast : Char)
    (ends : back.toList.getLast? = some last) (otherEnds : other.toList.getLast? = some otherLast)
    (different : last ≠ otherLast) : left ++ back ≠ right ++ other := by
  intro same
  have lasts := congrArg (fun text : String => text.toList.getLast?) same
  simp only [String.toList_append,List.getLast?_append,ends,otherEnds,Option.some_or,Option.some.injEq] at lasts
  exact different lasts

/-- The characters with the Unicode property `White_Space`. -/
def isWhitespace (char : Char) : Bool :=
  let code := char.toNat
  (9 ≤ code && code ≤ 13) || code == 0x20 || code == 0x85 || code == 0xa0 || code == 0x1680 ||
    (0x2000 ≤ code && code ≤ 0x200a) || code == 0x2028 || code == 0x2029 || code == 0x202f ||
    code == 0x205f || code == 0x3000

/-- `str::trim`. -/
def trim (text : String) : String :=
  String.ofList ((text.toList.dropWhile isWhitespace).reverse.dropWhile isWhitespace).reverse

/-- `text.trim().is_empty()`. -/
def isBlank (text : String) : Bool := (trim text).isEmpty

end Text

end SerenRouter.Kernel
