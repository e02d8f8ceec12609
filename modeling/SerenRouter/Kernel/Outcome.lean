import Mathlib.Logic.Basic
import Mathlib.Data.List.Basic

/-! Partial computations with panics. A computation of the modelled programs either
returns or panics; the panic keeps the text that the failing call names. The
inversion lemmas below peel one bind at a time. -/
namespace SerenRouter.Kernel

/-- Why a computation stopped without a value. -/
inductive Panic where
  | expect (message : String)
  | overflow (operator : String)
  | underflow (counter : String)
  deriving DecidableEq, Repr

/-- `Option::expect` and `Result::expect`: the value, or a panic with the text. -/
def expect {α : Type} (value : Option α) (message : String) : Except Panic α :=
  match value with
  | some value => .ok value
  | none => .error (.expect message)

/-- A checked operator: `none` is the overflow on which the operator panics. -/
def orOverflow {α : Type} (value : Option α) (operator : String) : Except Panic α :=
  match value with
  | some value => .ok value
  | none => .error (.overflow operator)

@[simp] theorem expect_some {α : Type} (value : α) (message : String) :
    expect (some value) message = .ok value := rfl

@[simp] theorem orOverflow_some {α : Type} (value : α) (operator : String) :
    orOverflow (some value) operator = .ok value := rfl

theorem expect_success {α : Type} (value : Option α) (message : String) (result : α) :
    expect value message = .ok result ↔ value = some result := by
  cases value <;> simp [expect]

theorem orOverflow_success {α : Type} (value : Option α) (operator : String) (result : α) :
    orOverflow value operator = .ok result ↔ value = some result := by
  cases value <;> simp [orOverflow]

section Binds
variable {ε α β : Type}

@[simp] theorem ok_bind (value : α) (next : α → Except ε β) :
    ((.ok value : Except ε α) >>= next) = next value := rfl

@[simp] theorem error_bind (error : ε) (next : α → Except ε β) :
    ((.error error : Except ε α) >>= next) = .error error := rfl

theorem bind_success (first : Except ε α) (next : α → Except ε β) (result : β) :
    (first >>= next) = .ok result ↔ ∃ value, first = .ok value ∧ next value = .ok result := by
  cases first with
  | error error => simp
  | ok value => simp

theorem bind_congr_right (first : Except ε α) (left right : α → Except ε β)
    (same : ∀ value, first = .ok value → left value = right value) :
    (first >>= left) = (first >>= right) := by
  cases first with
  | error error => rfl
  | ok value => exact same value rfl

theorem guard_success (refused : Prop) [Decidable refused] (error : ε) (next : Except ε α) (result : α) :
    (if refused then .error error else next) = .ok result ↔ ¬ refused ∧ next = .ok result := by
  split
  · simp [*]
  · simp [*]

@[simp] theorem pure_success (value result : α) :
    (pure value : Except ε α) = .ok result ↔ value = result := by
  simp [pure,Except.pure]

theorem mapError_success {ε' : Type} (answer : Except ε α) (rename : ε → ε') (value : α) :
    answer.mapError rename = .ok value ↔ answer = .ok value := by
  cases answer <;> simp [Except.mapError]

theorem toOption_some (answer : Except ε α) (value : α) : answer.toOption = some value ↔ answer = .ok value := by
  cases answer <;> simp [Except.toOption]

theorem mapM_mem (f : α → Except ε β) (items : List α) (results : List β) (ran : items.mapM f = .ok results)
    (result : β) : result ∈ results ↔ ∃ item ∈ items, f item = .ok result := by
  induction items generalizing results with
  | nil =>
    cases ran
    simp
  | cons item items ih =>
    rw [List.mapM_cons,bind_success] at ran
    obtain ⟨first,here,ran⟩ := ran
    rw [bind_success] at ran
    obtain ⟨rest,there,equal⟩ := ran
    cases equal
    simp [ih rest there,here,eq_comm]

theorem mapM_each (f : α → Except ε β) (items : List α) (results : List β) (ran : items.mapM f = .ok results)
    (item : α) (member : item ∈ items) : ∃ result, f item = .ok result := by
  induction items generalizing results with
  | nil => cases member
  | cons first items ih =>
    rw [List.mapM_cons,bind_success] at ran
    obtain ⟨result,here,ran⟩ := ran
    rw [bind_success] at ran
    obtain ⟨rest,there,_⟩ := ran
    rcases List.mem_cons.mp member with rfl | inside
    · exact ⟨result,here⟩
    · exact ih rest there inside

theorem mapM_total (f : α → Except ε β) (items : List α)
    (total : ∀ item ∈ items, ∃ result, f item = .ok result) : ∃ results, items.mapM f = .ok results := by
  induction items with
  | nil => exact ⟨[],rfl⟩
  | cons item items ih =>
    obtain ⟨first,here⟩ := total item (by simp)
    obtain ⟨rest,there⟩ := ih (fun other member => total other (by simp [member]))
    exact ⟨first :: rest,by rw [List.mapM_cons,here,ok_bind,there]; rfl⟩

theorem mapM_map {γ : Type} (f : α → Except ε β) (after : β → γ) (before : α → γ) (items : List α) (results : List β)
    (same : ∀ item ∈ items, ∀ result, f item = .ok result → after result = before item)
    (ran : items.mapM f = .ok results) : results.map after = items.map before := by
  induction items generalizing results with
  | nil =>
    cases ran
    rfl
  | cons item items ih =>
    rw [List.mapM_cons,bind_success] at ran
    obtain ⟨first,here,ran⟩ := ran
    rw [bind_success] at ran
    obtain ⟨rest,there,equal⟩ := ran
    cases equal
    rw [List.map_cons,List.map_cons,same item (by simp) first here,
      ih rest (fun other member => same other (by simp [member])) there]

theorem mapM_pure (f : α → Except ε β) (answer : α → β) (items : List α)
    (answers : ∀ item ∈ items, f item = .ok (answer item)) : items.mapM f = .ok (items.map answer) := by
  induction items with
  | nil => rfl
  | cons item items ih =>
    rw [List.mapM_cons,answers item (by simp),ok_bind,
      ih (fun other member => answers other (by simp [member]))]
    rfl

theorem forM_success (f : α → Except ε Unit) (items : List α) :
    items.forM f = .ok () ↔ ∀ item ∈ items, f item = .ok () := by
  induction items with
  | nil => exact ⟨fun _ => by simp,fun _ => rfl⟩
  | cons item items ih =>
    change (f item >>= fun _ => items.forM f) = .ok () ↔ _
    rw [bind_success,List.forall_mem_cons]
    constructor
    · rintro ⟨_,first,rest⟩
      exact ⟨first,ih.mp rest⟩
    · rintro ⟨first,rest⟩
      exact ⟨(),first,ih.mpr rest⟩

theorem foldlM_total (f : β → α → Except ε β) (items : List α) (initial : β)
    (total : ∀ item ∈ items, ∀ state, ∃ next, f state item = .ok next) :
    ∃ final, items.foldlM f initial = .ok final := by
  induction items generalizing initial with
  | nil => exact ⟨initial,rfl⟩
  | cons item items ih =>
    obtain ⟨next,here⟩ := total item (by simp) initial
    obtain ⟨final,rest⟩ := ih next (fun other member => total other (by simp [member]))
    exact ⟨final,by rw [List.foldlM_cons,here,ok_bind,rest]⟩

end Binds

/-- Every panic of the computation has the property. -/
def Blames {ε α : Type} (blame : ε → Prop) (computation : Except ε α) : Prop :=
  ∀ panic, computation = .error panic → blame panic

namespace Blames
variable {α β : Type}

theorem ok {ε : Type} (blame : ε → Prop) (value : α) : Blames blame (.ok value) := by
  intro panic ran
  cases ran

theorem bind {ε : Type} (blame : ε → Prop) (first : Except ε α) (next : α → Except ε β)
    (blames : Blames blame first) (later : ∀ value, first = .ok value → Blames blame (next value)) :
    Blames blame (first >>= next) := by
  cases first with
  | error panic =>
    intro other ran
    cases ran
    exact blames panic rfl
  | ok value => exact later value rfl

theorem expect (blame : Panic → Prop) (value : Option α) (message : String) (blamed : blame (.expect message)) :
    Blames blame (Kernel.expect value message) := by
  cases value with
  | some value => exact .ok blame value
  | none =>
    intro panic ran
    cases ran
    exact blamed

theorem orOverflow (blame : Panic → Prop) (value : Option α) (operator : String)
    (blamed : blame (.overflow operator)) : Blames blame (Kernel.orOverflow value operator) := by
  cases value with
  | some value => exact .ok blame value
  | none =>
    intro panic ran
    cases ran
    exact blamed

end Blames

end SerenRouter.Kernel
