import Mathlib.Data.List.Basic

/-! The first least and the last greatest element of a list under a comparison, and
comparisons of optional values that put the missing ones last. -/
namespace SerenRouter.Kernel

variable {α : Type} (cmp : α → α → Ordering)

/-- `Iterator::min_by`: among equals the first one is kept. -/
def minBy : List α → Option α
  | [] => none
  | first :: rest => some (rest.foldl (fun best next => if cmp best next = .gt then next else best) first)

/-- `Iterator::max_by`: among equals the last one is kept. -/
def maxBy : List α → Option α
  | [] => none
  | first :: rest => some (rest.foldl (fun best next => if cmp best next = .gt then best else next) first)

private theorem fold_choice (choose : α → α → α) (either : ∀ best next, choose best next = best ∨ choose best next = next)
    (first : α) (rest : List α) : rest.foldl choose first ∈ first :: rest := by
  induction rest generalizing first with
  | nil => simp
  | cons next rest ih =>
    rw [List.foldl_cons]
    rcases List.mem_cons.mp (ih (choose first next)) with equal | inside
    · rw [equal]
      rcases either first next with kept | kept <;> simp [kept]
    · simp [inside]

theorem minBy_mem (items : List α) (best : α) (found : minBy cmp items = some best) : best ∈ items := by
  cases items with
  | nil => cases found
  | cons first rest =>
    cases found
    exact fold_choice _ (fun best next => by split <;> simp) first rest

theorem maxBy_mem (items : List α) (best : α) (found : maxBy cmp items = some best) : best ∈ items := by
  cases items with
  | nil => cases found
  | cons first rest =>
    cases found
    exact fold_choice _ (fun best next => by split <;> simp) first rest

theorem minBy_none (items : List α) : minBy cmp items = none ↔ items = [] := by
  cases items <;> simp [minBy]

theorem maxBy_none (items : List α) : maxBy cmp items = none ↔ items = [] := by
  cases items <;> simp [maxBy]

section Order
variable [Std.TransCmp cmp]

private theorem fold_extreme (choose : α → α → α)
    (below : ∀ best next, (cmp (choose best next) best).isLE ∧ (cmp (choose best next) next).isLE)
    (first : α) (rest : List α) : ∀ item ∈ first :: rest, (cmp (rest.foldl choose first) item).isLE := by
  induction rest generalizing first with
  | nil => simp [Std.ReflCmp.compare_self]
  | cons next rest ih =>
    intro item member
    rw [List.foldl_cons]
    have chosen := ih (choose first next) _ (List.mem_cons_self ..)
    obtain ⟨belowFirst,belowNext⟩ := below first next
    rcases List.mem_cons.mp member with rfl | member
    · exact Std.TransCmp.isLE_trans chosen belowFirst
    rcases List.mem_cons.mp member with rfl | inside
    · exact Std.TransCmp.isLE_trans chosen belowNext
    · exact ih (choose first next) item (List.mem_cons_of_mem _ inside)

theorem minBy_least (items : List α) (best : α) (found : minBy cmp items = some best) :
    ∀ item ∈ items, (cmp best item).isLE := by
  cases items with
  | nil => cases found
  | cons first rest =>
    cases found
    apply fold_extreme
    intro best next
    split
    · rename_i greater
      exact ⟨by rw [Std.OrientedCmp.lt_of_gt greater]; rfl,by simp [Std.ReflCmp.compare_self]⟩
    · rename_i notGreater
      exact ⟨by simp [Std.ReflCmp.compare_self],by simpa [Ordering.isLE_iff_ne_gt] using notGreater⟩

theorem maxBy_greatest (items : List α) (best : α) (found : maxBy cmp items = some best) :
    ∀ item ∈ items, (cmp item best).isLE := by
  cases items with
  | nil => cases found
  | cons first rest =>
    cases found
    apply fold_extreme (fun left right => cmp right left)
    intro best next
    split
    · rename_i greater
      exact ⟨by simp [Std.ReflCmp.compare_self],by rw [Std.OrientedCmp.lt_of_gt greater]; rfl⟩
    · rename_i notGreater
      exact ⟨by simpa [Ordering.isLE_iff_ne_gt] using notGreater,by simp [Std.ReflCmp.compare_self]⟩

end Order

/-- Present values by their comparison, before the missing ones. -/
def missingLast (left right : Option α) : Ordering :=
  match left, right with
  | some left, some right => cmp left right
  | some _, none => .lt
  | none, some _ => .gt
  | none, none => .eq

instance missingLast_trans [Std.TransCmp cmp] : Std.TransCmp (missingLast cmp) where
  eq_swap := by
    rintro (_ | left) (_ | right)
    · rfl
    · rfl
    · rfl
    · exact @Std.OrientedCmp.eq_swap α cmp _ left right
  isLE_trans := by
    rintro (_ | left) (_ | middle) (_ | right) first second
    case some.some.some => exact @Std.TransCmp.isLE_trans α cmp _ _ _ _ first second
    all_goals simp_all [missingLast]

theorem missingLast_lt (left right : Option α) : missingLast cmp left right = .lt ↔
    ∃ present ∈ left, ∀ other ∈ right, cmp present other = .lt := by
  cases left <;> cases right <;> simp [missingLast]

end SerenRouter.Kernel
