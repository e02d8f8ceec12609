import SerenRouter.Kernel.Outcome
import SerenRouter.Kernel.SortedMap

/-! Values gathered under their keys in an ordered map, in the order in which they come, and
the values of a map replaced by what a computation makes of its entries. -/
namespace SerenRouter.Kernel.SortedMap

variable {κ ν : Type} [LinearOrder κ]

/-- Append a value to the list under a key. -/
def push (key : κ) (value : ν) (entries : List (κ × List ν)) : List (κ × List ν) :=
  insert key ((get key entries).getD [] ++ [value]) entries

def gather (pairs : List (κ × ν)) : List (κ × List ν) :=
  pairs.foldl (fun entries pair => push pair.1 pair.2 entries) []

/-- The values of one key, in the order in which they come. -/
def valuesOf (key : κ) (pairs : List (κ × ν)) : List ν :=
  (pairs.filter (fun pair => pair.1 = key)).map Prod.snd

/-- A key without values is absent. -/
def present (values : List ν) : Option (List ν) := if values = [] then none else some values

theorem present_some (values found : List ν) : present values = some found ↔ values ≠ [] ∧ values = found := by
  unfold present
  split
  · simp_all
  · simp_all

theorem present_getD (values : List ν) : (present values).getD [] = values := by
  unfold present
  split <;> simp [*]

theorem valuesOf_append (key : κ) (left right : List (κ × ν)) :
    valuesOf key (left ++ right) = valuesOf key left ++ valuesOf key right := by
  simp [valuesOf]

theorem get_push (key other : κ) (value : ν) (entries : List (κ × List ν)) (pairs : List (κ × ν))
    (holds : ∀ key, get key entries = present (valuesOf key pairs)) :
    get other (push key value entries) = present (valuesOf other (pairs ++ [(key,value)])) := by
  rw [push,get_insert,holds,present_getD,valuesOf_append]
  split
  · rename_i same
    subst same
    simp [valuesOf,present]
  · rename_i different
    simp [valuesOf,holds,Ne.symm different]

theorem foldl_push (pairs before : List (κ × ν)) (entries : List (κ × List ν))
    (holds : ∀ key, get key entries = present (valuesOf key before)) (key : κ) :
    get key (pairs.foldl (fun entries pair => push pair.1 pair.2 entries) entries) =
      present (valuesOf key (before ++ pairs)) := by
  induction pairs generalizing before entries with
  | nil => simpa using holds key
  | cons pair pairs ih =>
    rw [List.foldl_cons,ih (before ++ [pair]) _ (fun other => get_push pair.1 other pair.2 entries before holds),
      List.append_assoc,List.singleton_append]

theorem get_gather (pairs : List (κ × ν)) (key : κ) : get key (gather pairs) = present (valuesOf key pairs) :=
  foldl_push pairs [] [] (fun _ => rfl) key

theorem gather_sorted (pairs : List (κ × ν)) : Sorted (gather pairs) := by
  have grows (entries : List (κ × List ν)) (sorted : Sorted entries) :
      Sorted (pairs.foldl (fun entries pair => push pair.1 pair.2 entries) entries) := by
    induction pairs generalizing entries with
    | nil => exact sorted
    | cons pair pairs ih => exact ih _ (insert_sorted _ _ _ sorted)
  exact grows [] sorted_nil

theorem mem_gather (pairs : List (κ × ν)) (key : κ) (values : List ν) :
    (key,values) ∈ gather pairs ↔ values ≠ [] ∧ valuesOf key pairs = values := by
  have read : get key (gather pairs) = some values ↔ values ≠ [] ∧ valuesOf key pairs = values := by
    rw [get_gather,present_some]
    constructor
    · rintro ⟨nonempty,rfl⟩
      exact ⟨nonempty,rfl⟩
    · rintro ⟨nonempty,rfl⟩
      exact ⟨nonempty,rfl⟩
  rw [← read]
  exact ⟨mem_get key values _ (gather_sorted pairs),get_mem key values _⟩

theorem mapM_sorted {ε ω : Type} (f : κ × ν → Except ε (κ × ω))
    (keeps : ∀ entry result, f entry = .ok result → result.1 = entry.1) (entries : List (κ × ν))
    (results : List (κ × ω)) (ran : entries.mapM f = .ok results) (sorted : Sorted entries) : Sorted results := by
  have keys := mapM_map f Prod.fst Prod.fst entries results (fun entry _ => keeps entry) ran
  rw [Sorted,keys]
  exact sorted

theorem get_mapM {ε ω : Type} (f : κ × ν → Except ε (κ × ω)) (keeps : ∀ entry result, f entry = .ok result → result.1 = entry.1)
    (entries : List (κ × ν)) (results : List (κ × ω)) (ran : entries.mapM f = .ok results) (key : κ) (result : ω) :
    get key results = some result ↔ ∃ value, get key entries = some value ∧ f (key,value) = .ok (key,result) := by
  induction entries generalizing results with
  | nil =>
    cases ran
    simp
  | cons entry entries ih =>
    rw [List.mapM_cons,bind_success] at ran
    obtain ⟨first,here,ran⟩ := ran
    rw [bind_success] at ran
    obtain ⟨rest,there,equal⟩ := ran
    cases equal
    obtain ⟨k,v⟩ := entry
    obtain ⟨k',w⟩ := first
    obtain rfl : k' = k := keeps (k,v) (k',w) here
    rw [get_cons,get_cons]
    by_cases same : key = k'
    · subst same
      simp [here]
    · simp [same,ih rest there]

end SerenRouter.Kernel.SortedMap
