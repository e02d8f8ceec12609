import Mathlib.Order.Lattice
import Mathlib.Data.List.Basic

/-! Ordered maps as key-sorted association lists. The operations are total on every
list; sortedness makes the representation canonical, so that two sorted maps with
the same lookups are the same list. -/
namespace SerenRouter.Kernel.SortedMap

variable {κ ν : Type} [LinearOrder κ]

/-- The value stored under a key. -/
def get (key : κ) : List (κ × ν) → Option ν
  | [] => none
  | (k,v) :: rest => if key = k then some v else get key rest

/-- Store a value under a key, at its place in the key order. -/
def insert (key : κ) (value : ν) : List (κ × ν) → List (κ × ν)
  | [] => [(key,value)]
  | (k,v) :: rest =>
    if key < k then (key,value) :: (k,v) :: rest
    else if key = k then (key,value) :: rest
    else (k,v) :: insert key value rest

/-- Keep the entries whose key satisfies the test. -/
def retain (keep : κ → Bool) (entries : List (κ × ν)) : List (κ × ν) :=
  entries.filter (fun entry => keep entry.1)

/-- Drop the entry under a key. -/
def remove (key : κ) (entries : List (κ × ν)) : List (κ × ν) :=
  retain (fun k => k ≠ key) entries

/-- Build a map by inserting the entries in order; the last value under a key wins. -/
def ofList (entries : List (κ × ν)) : List (κ × ν) :=
  entries.foldl (fun built entry => insert entry.1 entry.2 built) []

/-- Keys in strictly increasing order. -/
def Sorted (entries : List (κ × ν)) : Prop :=
  (entries.map Prod.fst).Pairwise (· < ·)

@[simp] theorem get_nil (key : κ) : get key ([] : List (κ × ν)) = none := rfl

theorem get_cons (key k : κ) (v : ν) (rest : List (κ × ν)) :
    get key ((k,v) :: rest) = if key = k then some v else get key rest := rfl

@[simp] theorem sorted_nil : Sorted ([] : List (κ × ν)) := List.Pairwise.nil

theorem sorted_cons (k : κ) (v : ν) (rest : List (κ × ν)) :
    Sorted ((k,v) :: rest) ↔ (∀ entry ∈ rest, k < entry.1) ∧ Sorted rest := by
  simp [Sorted]

theorem get_mem (key : κ) (value : ν) (entries : List (κ × ν))
    (found : get key entries = some value) : (key,value) ∈ entries := by
  induction entries with
  | nil => cases found
  | cons entry rest ih =>
    obtain ⟨k,v⟩ := entry
    rw [get_cons] at found
    split at found
    · rename_i same
      cases found
      simp [same]
    · exact List.mem_cons_of_mem _ (ih found)

theorem get_eq_none (key : κ) (entries : List (κ × ν)) :
    get key entries = none ↔ ∀ entry ∈ entries, entry.1 ≠ key := by
  induction entries with
  | nil => simp
  | cons entry rest ih =>
    obtain ⟨k,v⟩ := entry
    rw [get_cons]
    by_cases same : key = k
    · simp [same]
    · simp [same,ih,Ne.symm same]

theorem mem_get (key : κ) (value : ν) (entries : List (κ × ν)) (sorted : Sorted entries)
    (member : (key,value) ∈ entries) : get key entries = some value := by
  induction entries with
  | nil => cases member
  | cons entry rest ih =>
    obtain ⟨k,v⟩ := entry
    obtain ⟨least,tail⟩ := (sorted_cons k v rest).mp sorted
    rw [get_cons]
    rcases List.mem_cons.mp member with equal | inside
    · cases equal
      simp
    · rw [if_neg (ne_of_gt (least _ inside)),ih tail inside]

theorem get_insert (key other : κ) (value : ν) (entries : List (κ × ν)) :
    get other (insert key value entries) = if other = key then some value else get other entries := by
  induction entries with
  | nil => simp [insert,get_cons]
  | cons entry rest ih =>
    obtain ⟨k,v⟩ := entry
    rw [insert]
    split
    · rw [get_cons]
    split
    · rename_i same
      subst same
      rw [get_cons,get_cons]
      split <;> rfl
    · rename_i different
      rw [get_cons,ih,get_cons]
      by_cases here : other = k
      · subst here
        simp [Ne.symm different]
      · simp [here]

@[simp] theorem get_insert_self (key : κ) (value : ν) (entries : List (κ × ν)) :
    get key (insert key value entries) = some value := by
  simp [get_insert]

theorem get_insert_ne (key other : κ) (value : ν) (entries : List (κ × ν)) (different : other ≠ key) :
    get other (insert key value entries) = get other entries := by
  simp [get_insert,different]

/-- The later of two values under a key stays, wherever the first one was put. -/
theorem insert_insert (key : κ) (value other : ν) (entries : List (κ × ν)) :
    insert key other (insert key value entries) = insert key other entries := by
  induction entries with
  | nil => simp [insert]
  | cons entry rest ih =>
    obtain ⟨k,v⟩ := entry
    rw [insert]
    split
    · rename_i less
      simp [insert,less]
    split
    · rename_i same
      simp [insert,same]
    · rename_i less different
      rw [insert,if_neg less,if_neg different,ih,insert,if_neg less,if_neg different]

theorem insert_retain_insert (keep : κ → Bool) (key : κ) (value : ν) (entries : List (κ × ν))
    (kept : keep key = true) :
    insert key value (retain keep (insert key value entries)) = retain keep (insert key value entries) := by
  induction entries with
  | nil => simp [insert,retain,kept]
  | cons entry rest ih =>
    obtain ⟨k,v⟩ := entry
    unfold retain at ih ⊢
    rw [insert]
    split
    · rw [List.filter_cons_of_pos (by simpa using kept),insert]
      simp
    split
    · rw [List.filter_cons_of_pos (by simpa using kept),insert]
      simp
    · rename_i less different
      by_cases stays : keep k = true
      · rw [List.filter_cons_of_pos (by simpa using stays),insert,if_neg less,if_neg different,ih]
      · rw [List.filter_cons_of_neg (by simpa using stays),ih]

theorem insert_remove_insert (key other : κ) (value : ν) (entries : List (κ × ν)) (different : key ≠ other) :
    insert key value (remove other (insert key value entries)) = remove other (insert key value entries) :=
  insert_retain_insert _ key value entries (decide_eq_true different)

theorem remove_remove (key : κ) (entries : List (κ × ν)) : remove key (remove key entries) = remove key entries := by
  simp [remove,retain,List.filter_filter]

theorem get_retain (keep : κ → Bool) (key : κ) (entries : List (κ × ν)) :
    get key (retain keep entries) = if keep key then get key entries else none := by
  induction entries with
  | nil => simp [retain]
  | cons entry rest ih =>
    obtain ⟨k,v⟩ := entry
    unfold retain at ih ⊢
    by_cases kept : keep k
    · rw [List.filter_cons_of_pos (by simpa using kept),get_cons,get_cons,ih]
      by_cases same : key = k
      · simp [same,kept]
      · simp [same]
    · rw [List.filter_cons_of_neg (by simpa using kept),ih,get_cons]
      by_cases same : key = k
      · simp [same,kept]
      · simp [same]

theorem get_remove (key other : κ) (entries : List (κ × ν)) :
    get other (remove key entries) = if other = key then none else get other entries := by
  rw [remove,get_retain]
  by_cases same : other = key <;> simp [same]

theorem keys_insert (key : κ) (value : ν) (entries : List (κ × ν)) (entry : κ × ν)
    (member : entry ∈ insert key value entries) : entry = (key,value) ∨ entry ∈ entries := by
  induction entries with
  | nil => simpa [insert] using member
  | cons first rest ih =>
    obtain ⟨k,v⟩ := first
    rw [insert] at member
    split at member
    · simpa using member
    split at member
    · rcases List.mem_cons.mp member with equal | inside
      · exact .inl equal
      · exact .inr (List.mem_cons_of_mem _ inside)
    · rcases List.mem_cons.mp member with equal | inside
      · exact .inr (by simp [equal])
      · rcases ih inside with equal | present
        · exact .inl equal
        · exact .inr (List.mem_cons_of_mem _ present)

theorem insert_sorted (key : κ) (value : ν) (entries : List (κ × ν)) (sorted : Sorted entries) :
    Sorted (insert key value entries) := by
  induction entries with
  | nil => simp [insert,Sorted]
  | cons entry rest ih =>
    obtain ⟨k,v⟩ := entry
    obtain ⟨least,tail⟩ := (sorted_cons k v rest).mp sorted
    rw [insert]
    split
    · rename_i smaller
      refine (sorted_cons _ _ _).mpr ⟨?_,sorted⟩
      intro entry member
      rcases List.mem_cons.mp member with rfl | inside
      · exact smaller
      · exact lt_trans smaller (least entry inside)
    split
    · rename_i same
      subst same
      exact (sorted_cons _ _ _).mpr ⟨least,tail⟩
    · rename_i notSmaller different
      refine (sorted_cons _ _ _).mpr ⟨?_,ih tail⟩
      intro entry member
      rcases keys_insert _ _ _ _ member with rfl | inside
      · exact lt_of_le_of_ne (not_lt.mp notSmaller) (Ne.symm different)
      · exact least entry inside

theorem retain_sorted (keep : κ → Bool) (entries : List (κ × ν)) (sorted : Sorted entries) :
    Sorted (retain keep entries) :=
  List.Pairwise.sublist (List.Sublist.map _ List.filter_sublist) sorted

theorem remove_sorted (key : κ) (entries : List (κ × ν)) (sorted : Sorted entries) : Sorted (remove key entries) :=
  retain_sorted _ entries sorted

theorem ofList_sorted (entries : List (κ × ν)) : Sorted (ofList entries) := by
  have grows (built : List (κ × ν)) (sorted : Sorted built) :
      Sorted (entries.foldl (fun built entry => insert entry.1 entry.2 built) built) := by
    induction entries generalizing built with
    | nil => exact sorted
    | cons entry rest ih => exact ih _ (insert_sorted _ _ _ sorted)
  exact grows [] sorted_nil

theorem ofList_mem (entries : List (κ × ν)) : ∀ entry ∈ ofList entries, entry ∈ entries := by
  have grows (built : List (κ × ν)) : ∀ entry ∈ entries.foldl (fun built entry =>
      insert entry.1 entry.2 built) built, entry ∈ built ∨ entry ∈ entries := by
    induction entries generalizing built with
    | nil => exact fun entry member => .inl member
    | cons first rest ih =>
      intro entry member
      rcases ih _ entry member with inserted | later
      · rcases keys_insert _ _ _ _ inserted with rfl | old
        · exact .inr (by simp)
        · exact .inl old
      · exact .inr (by simp [later])
  intro entry member
  exact (grows [] entry member).resolve_left (by simp)

/-- With distinct keys the built map holds exactly the entries. -/
theorem ofList_get (key : κ) (value : ν) (entries : List (κ × ν)) (distinct : (entries.map Prod.fst).Nodup) :
    get key (ofList entries) = some value ↔ (key,value) ∈ entries := by
  have kept (rest built : List (κ × ν)) (absent : key ∉ rest.map Prod.fst) :
      get key (rest.foldl (fun built entry => insert entry.1 entry.2 built) built) = get key built := by
    induction rest generalizing built with
    | nil => rfl
    | cons entry rest ih =>
      rw [List.map_cons,List.mem_cons,not_or] at absent
      rw [List.foldl_cons,ih _ absent.2,get_insert_ne _ _ _ _ absent.1]
  have grows (rest built : List (κ × ν)) (apart : (rest.map Prod.fst).Nodup) (member : (key,value) ∈ rest) :
      get key (rest.foldl (fun built entry => insert entry.1 entry.2 built) built) = some value := by
    induction rest generalizing built with
    | nil => cases member
    | cons entry rest ih =>
      rw [List.map_cons,List.nodup_cons] at apart
      rcases List.mem_cons.mp member with rfl | inside
      · rw [List.foldl_cons,kept rest _ apart.1,get_insert_self]
      · exact ih _ apart.2 inside
  exact ⟨fun found => ofList_mem entries _ (get_mem key value _ found),grows entries [] distinct⟩

theorem insert_last (key : κ) (value : ν) (entries : List (κ × ν))
    (largest : ∀ entry ∈ entries, entry.1 < key) :
    insert key value entries = entries ++ [(key,value)] := by
  induction entries with
  | nil => rfl
  | cons entry rest ih =>
    obtain ⟨k,v⟩ := entry
    have smaller : k < key := largest (k,v) (by simp)
    rw [insert,if_neg (not_lt_of_gt smaller),if_neg (ne_of_gt smaller),
      ih (fun entry member => largest entry (by simp [member]))]
    rfl

theorem ofList_of_sorted (entries : List (κ × ν)) (sorted : Sorted entries) :
    ofList entries = entries := by
  have rebuilt (built rest : List (κ × ν)) (together : Sorted (built ++ rest)) :
      rest.foldl (fun built entry => insert entry.1 entry.2 built) built = built ++ rest := by
    induction rest generalizing built with
    | nil => simp
    | cons entry rest ih =>
      obtain ⟨k,v⟩ := entry
      have below : ∀ entry ∈ built, entry.1 < k := by
        intro entry member
        have ordered := (List.pairwise_append.mp (by simpa [Sorted] using together)).2.2
        exact ordered entry.1 (List.mem_map_of_mem member) k (by simp)
      rw [List.foldl_cons,insert_last k v built below,ih _ (by simpa using together)]
      simp
  exact rebuilt [] entries sorted

theorem sorted_ext (left right : List (κ × ν)) (leftSorted : Sorted left) (rightSorted : Sorted right)
    (same : ∀ key, get key left = get key right) : left = right := by
  induction left generalizing right with
  | nil =>
    cases right with
    | nil => rfl
    | cons entry rest =>
      obtain ⟨k,v⟩ := entry
      have absent := same k
      simp [get_cons] at absent
  | cons entry left ih =>
    obtain ⟨k,v⟩ := entry
    obtain ⟨least,tail⟩ := (sorted_cons k v left).mp leftSorted
    cases right with
    | nil =>
      have absent := same k
      simp [get_cons] at absent
    | cons other right =>
      obtain ⟨k',v'⟩ := other
      obtain ⟨least',tail'⟩ := (sorted_cons k' v' right).mp rightSorted
      -- The smallest keys agree: each is present on the other side.
      have forward : k' ≤ k := by
        have found := get_mem k v ((k',v') :: right) (by rw [← same k]; simp [get_cons])
        rcases List.mem_cons.mp found with equal | inside
        · cases equal
          exact le_refl _
        · exact le_of_lt (least' _ inside)
      have backward : k ≤ k' := by
        have found := get_mem k' v' ((k,v) :: left) (by rw [same k']; simp [get_cons])
        rcases List.mem_cons.mp found with equal | inside
        · cases equal
          exact le_refl _
        · exact le_of_lt (least _ inside)
      obtain rfl : k = k' := le_antisymm backward forward
      have value : v = v' := by simpa [get_cons] using same k
      subst value
      have rest : left = right := by
        refine ih right tail tail' (fun key => ?_)
        have read := same key
        rw [get_cons,get_cons] at read
        by_cases here : key = k
        · subst here
          rw [(get_eq_none key left).mpr (fun entry member => ne_of_gt (least entry member)),
            (get_eq_none key right).mpr (fun entry member => ne_of_gt (least' entry member))]
        · simpa [here] using read
      rw [rest]

end SerenRouter.Kernel.SortedMap
