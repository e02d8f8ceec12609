import Mathlib.Logic.Basic
import Mathlib.Data.List.Basic

/-! Unordered maps as partial functions: two maps with the same lookups are equal. -/
namespace SerenRouter.Kernel

abbrev HashMap (κ ν : Type) := κ → Option ν

namespace HashMap
variable {κ ν : Type}

def empty : HashMap κ ν := fun _ => none

@[simp] theorem empty_apply (key : κ) : (empty : HashMap κ ν) key = none := rfl

variable [DecidableEq κ]

def insert (map : HashMap κ ν) (key : κ) (value : ν) : HashMap κ ν :=
  fun other => if other = key then some value else map other

def remove (map : HashMap κ ν) (key : κ) : HashMap κ ν :=
  fun other => if other = key then none else map other

theorem insert_apply (map : HashMap κ ν) (key other : κ) (value : ν) :
    map.insert key value other = if other = key then some value else map other := rfl

@[simp] theorem insert_self (map : HashMap κ ν) (key : κ) (value : ν) :
    map.insert key value key = some value := by simp [insert]

theorem insert_ne (map : HashMap κ ν) (key other : κ) (value : ν) (different : other ≠ key) :
    map.insert key value other = map other := by simp [insert,different]

theorem remove_apply (map : HashMap κ ν) (key other : κ) :
    map.remove key other = if other = key then none else map other := rfl

/-- A value taken out and put back under the same key leaves the other keys alone. -/
@[simp] theorem insert_remove (map : HashMap κ ν) (key : κ) (value : ν) :
    (map.remove key).insert key value = map.insert key value := by
  funext other
  simp only [insert_apply,remove_apply]
  split <;> rfl

section Offers
variable {ω : Type} (key : ω → κ)

/-- An entry is only taken for a new key. -/
def offer (map : HashMap κ ω) (entry : ω) : HashMap κ ω :=
  if (map (key entry)).isSome then map else map.insert (key entry) entry

/-- Under every key stands the first entry that was offered for it. -/
theorem foldl_offer (map : HashMap κ ω) (entries : List ω) (other : κ) :
    (entries.foldl (offer key) map) other = (map other).or (entries.find? (fun entry => key entry = other)) := by
  induction entries generalizing map with
  | nil => simp
  | cons entry entries ih =>
    rw [List.foldl_cons,ih,List.find?_cons,offer]
    by_cases same : key entry = other
    · subst same
      cases held : map (key entry) <;> simp [held]
    · cases held : map (key entry) <;> simp [insert_apply,same,Ne.symm same]

end Offers

end HashMap

end SerenRouter.Kernel
