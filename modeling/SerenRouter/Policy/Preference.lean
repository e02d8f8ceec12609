import SerenRouter.Kernel.Json
import SerenRouter.Kernel.Text
import SerenRouter.Kernel.Outcome

/-! The routing preference of a request: its explicit sort, or the shortcut behind its
model, or the default. Parsing leaves the canonical model in the request. -/
namespace SerenRouter
open Kernel Kernel.Json

def nitroSuffix : String := ":nitro"
def floorSuffix : String := ":floor"

inductive Preference where
  | default
  | balanced
  | price
  | throughput
  | latency
  deriving DecidableEq

structure RequestPreference where
  canonicalModel : String
  preference : Preference

inductive PreferenceError where
  | invalidModel
  | invalidSort
  deriving DecidableEq

def PreferenceError.message : PreferenceError → String
  | .invalidModel => "model must be a string"
  | .invalidSort => "provider.sort must be one of: price, throughput, latency"

def parseSort (sort : Value) : Except PreferenceError Preference :=
  match sort.asStr with
  | some "price" => .ok .price
  | some "throughput" => .ok .throughput
  | some "latency" => .ok .latency
  | _ => .error .invalidSort

/-- The model without its shortcut, and the preference of the shortcut. -/
def splitShortcut (model : String) : String × Preference :=
  match Text.stripSuffix model nitroSuffix with
  | some model => (model,.throughput)
  | none =>
    match Text.stripSuffix model floorSuffix with
    | some model => (model,.price)
    | none => (model,.default)

/-- The JSON pointer `/provider/sort`. -/
def sortOf (request : Value) : Option Value :=
  (request.get "provider").bind (fun provider => provider.get "sort")

/-- The explicit sort, when there is one. -/
def explicitPreference (request : Value) : Except PreferenceError (Option Preference) :=
  match sortOf request with
  | some sort => (parseSort sort).map some
  | none => .ok none

def parseRequest (request : Value) : Except PreferenceError (RequestPreference × Value) :=
  match (request.get "model").bind Value.asStr with
  | none => .error .invalidModel
  | some model => do
    let explicit ← explicitPreference request
    return (⟨(splitShortcut model).1,explicit.getD (splitShortcut model).2⟩,
      request.setIndex "model" (.string (splitShortcut model).1))

/-- The balanced preference has no spelling in a request. -/
theorem parseRequest_preference (request left : Value) (parsed : RequestPreference)
    (read : parseRequest request = .ok (parsed,left)) : parsed.preference ≠ .balanced := by
  have shortcut (model : String) : (splitShortcut model).2 ≠ .balanced := by
    unfold splitShortcut
    split
    · simp
    split <;> simp
  have named (sort : Value) (preference : Preference) (sorted : parseSort sort = .ok preference) :
      preference ≠ .balanced := by
    unfold parseSort at sorted
    split at sorted <;> cases sorted <;> simp
  unfold parseRequest at read
  split at read
  · cases read
  · rename_i model _
    rw [bind_success] at read
    obtain ⟨explicit,sorted,read⟩ := read
    cases read
    unfold explicitPreference at sorted
    split at sorted
    · rename_i sort _
      cases found : parseSort sort with
      | error error =>
        rw [found] at sorted
        cases sorted
      | ok preference =>
        rw [found] at sorted
        cases sorted
        exact named sort preference found
    · cases sorted
      exact shortcut model

end SerenRouter
