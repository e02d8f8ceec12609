import SerenRouter.Catalog
import SerenRouter.Ledger

/-! The lookup of a generation: which id a query asks for, and the reply to what the ledger
answers. A provider with public names is shown under its display name only. -/
namespace SerenRouter
open Kernel Kernel.Json
open Kernel.SortedMap (get)

/-- The display names of the providers that have a public name and tag, by id. -/
def publicProviderNames (registry : Registry) : List (String × String) :=
  SortedMap.ofList (registry.providers.filterMap (fun provider =>
    match provider.publicDisplayName, provider.publicTag with
    | some displayName, some _ => some (provider.id,displayName)
    | _, _ => none))

def publicProviderName (names : List (String × String)) (providerId : String) : String :=
  (get providerId names).getD providerId

/-- A query that could not be read has no id. -/
def requestedId (query : Option String) : Option String := query.filter (fun id => !Text.isBlank id)

def decimalValue (value : Decimal) : Value := .number ⟨value.toText,value.toText_number⟩

def integerValue (integer : Int) : Value := .number (Number.ofInt integer)

/-- `None` is `null`. -/
def nullable {α : Type} (value : α → Value) (optional : Option α) : Value := (optional.map value).getD .null

def apiError (status : StatusCode) (message : String) : Reply :=
  jsonReply status (.object [("error",.object [("message",.string message)])])

namespace StatusCode

theorem notFound_valid : 100 ≤ 404 ∧ 404 < 1000 := by decide
theorem serviceUnavailable_valid : 100 ≤ 503 ∧ 503 < 1000 := by decide

def notFound : StatusCode := ⟨404,notFound_valid⟩
def serviceUnavailable : StatusCode := ⟨503,serviceUnavailable_valid⟩

end StatusCode

def idRequired : Reply := apiError .badRequest "id is required"
def generationNotFound : Reply := apiError .notFound "generation not found"
def ledgerUnavailable : Reply := apiError .serviceUnavailable "generation ledger unavailable"

section Response
variable (timestampText : Nat → String) (names : List (String × String))

def generationData (generation : Generation) : List (String × Value) :=
  [("created_at",.string (timestampText generation.createdAt)),
    ("id",.string generation.id),
    ("latency",integerValue generation.latencyMs),
    ("model",.string generation.canonicalSlug),
    ("provider_name",.string (publicProviderName names generation.providerId)),
    ("tokens_completion",nullable integerValue generation.completionTokens),
    ("tokens_prompt",nullable integerValue generation.promptTokens),
    ("total_cost",nullable decimalValue generation.reportedCostUsd)]

def generationResponse (generation : Generation) : Reply :=
  jsonReply .ok (.object [("data",.object (generationData timestampText names generation))])

/-- The reply to an answer of the ledger; a failure is that of the statement or of the way to the database. -/
def lookupReply : Except String (Option Generation) → Reply
  | .ok (some generation) => generationResponse timestampText names generation
  | .ok none => generationNotFound
  | .error _ => ledgerUnavailable

end Response

theorem publicProviderNames_entries (providers : List Provider) :
    providers.filterMap (fun provider => match provider.publicDisplayName, provider.publicTag with
      | some displayName, some _ => some (provider.id,displayName)
      | _, _ => none) =
    (providers.filter (fun provider => provider.publicDisplayName.isSome && provider.publicTag.isSome)).map
      (fun provider => (provider.id,provider.catalogDisplayName)) := by
  induction providers with
  | nil => rfl
  | cons provider providers ih =>
    rw [List.filterMap_cons,List.filter_cons]
    cases name : provider.publicDisplayName with
    | none => simp [ih]
    | some displayName =>
      cases tag : provider.publicTag with
      | none => simp [ih]
      | some tag => simp [ih,Provider.catalogDisplayName,name,tag]

/-- A provider with public names is looked up under the name that the catalog lists, any other one under its id. -/
theorem publicProviderName_catalog (registry : Registry) (valid : registry.validate = .ok ()) (provider : Provider)
    (member : provider ∈ registry.providers) :
    publicProviderName (publicProviderNames registry) provider.id =
      if provider.publicDisplayName.isSome && provider.publicTag.isSome then provider.catalogDisplayName
      else provider.id := by
  have distinct := registry.validate_distinct valid
  have keyed : ((registry.providers.filter (fun provider =>
      provider.publicDisplayName.isSome && provider.publicTag.isSome)).map
        (fun provider => (provider.id,provider.catalogDisplayName))).map Prod.fst =
      (registry.providers.filter (fun provider =>
        provider.publicDisplayName.isSome && provider.publicTag.isSome)).map Provider.id := by
    rw [List.map_map]
    rfl
  rw [publicProviderName,publicProviderNames,publicProviderNames_entries]
  split
  · rename_i named
    rw [(SortedMap.ofList_get provider.id provider.catalogDisplayName _ (by
      rw [keyed]
      exact distinct.sublist (List.filter_sublist.map _))).mpr
        (List.mem_map.mpr ⟨provider,List.mem_filter.mpr ⟨member,named⟩,rfl⟩)]
    rfl
  · rename_i unnamed
    cases found : get provider.id (SortedMap.ofList ((registry.providers.filter (fun provider =>
        provider.publicDisplayName.isSome && provider.publicTag.isSome)).map
          (fun provider => (provider.id,provider.catalogDisplayName)))) with
    | none => rfl
    | some name =>
      -- The entry is that of a provider with the same id, which is the provider itself.
      obtain ⟨other,present,same⟩ := List.mem_map.mp (SortedMap.ofList_mem _ _ (SortedMap.get_mem _ _ _ found))
      obtain ⟨known,named⟩ := List.mem_filter.mp present
      have equal := List.inj_on_of_nodup_map distinct known member (congrArg Prod.fst same)
      exact absurd (equal ▸ named) unnamed

end SerenRouter
