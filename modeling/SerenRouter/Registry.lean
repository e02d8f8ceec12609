import SerenRouter.Kernel.Decimal
import SerenRouter.Kernel.Outcome
import SerenRouter.Kernel.Text
import Mathlib.Data.Finset.Basic

/-! The provider registry: providers, their model mappings and request constraints,
the routing profiles, and the validation that runs before anything is built from it. -/
namespace SerenRouter
open Kernel

inductive RoutingProfile where
  | production
  | beta
  deriving DecidableEq

namespace RoutingProfile

/-- `ALL`, in the derived order. -/
def all : List RoutingProfile := [.production,.beta]

def asStr : RoutingProfile → String
  | .production => "production"
  | .beta => "beta"

def sidecarAlias (profile : RoutingProfile) (canonicalModel : String) : String :=
  "seren-profile-" ++ profile.asStr ++ "/" ++ canonicalModel

theorem mem_all (profile : RoutingProfile) : profile ∈ all := by
  cases profile <;> decide

/-- The aliases of two profiles part at the first letter of the profile. -/
theorem sidecarAlias_inj (left right : RoutingProfile) (leftModel rightModel : String) :
    left.sidecarAlias leftModel = right.sidecarAlias rightModel ↔ left = right ∧ leftModel = rightModel := by
  refine ⟨fun same => ?_,by rintro ⟨rfl,rfl⟩; rfl⟩
  have spelled : ("seren-profile-" ++ left.asStr ++ "/" ++ leftModel).toList =
      ("seren-profile-" ++ right.asStr ++ "/" ++ rightModel).toList := congrArg String.toList same
  simp only [String.toList_append,List.append_assoc,List.append_cancel_left_eq] at spelled
  have initials := congrArg List.head? spelled
  cases left <;> cases right
  · exact ⟨rfl,String.toList_inj.mp (List.append_cancel_left (List.append_cancel_left spelled))⟩
  · cases initials
  · cases initials
  · exact ⟨rfl,String.toList_inj.mp (List.append_cancel_left (List.append_cancel_left spelled))⟩

/-- The place in the derived order. -/
def index : RoutingProfile → Nat
  | .production => 0
  | .beta => 1

instance : LinearOrder RoutingProfile :=
  LinearOrder.lift' index (by intro left right same; cases left <;> cases right <;> trivial)

end RoutingProfile

inductive CompletionEndpoint where
  | chat
  | legacy
  deriving DecidableEq

structure TopPBounds where
  min : Decimal
  max : Decimal

structure RequestConstraints where
  endpoints : Finset CompletionEndpoint
  supportsStreaming : Bool
  topP : Option TopPBounds

namespace RequestConstraints

/-- `RequestConstraints::default()`. -/
def default : RequestConstraints := ⟨{.chat,.legacy},true,none⟩

def supportsEndpoint (constraints : RequestConstraints) (endpoint : CompletionEndpoint) : Bool :=
  decide (endpoint ∈ constraints.endpoints)

def permitsStreaming (constraints : RequestConstraints) (stream : Bool) : Bool :=
  !stream || constraints.supportsStreaming

def permitsTopP (constraints : RequestConstraints) (topP : Option Decimal) : Bool :=
  match constraints.topP, topP with
  | some bounds, some topP => decide (bounds.min ≤ topP) && decide (topP ≤ bounds.max)
  | _, _ => true

end RequestConstraints

structure ModelMapping where
  slug : String
  name : String
  contextLength : Nat
  providerModelId : String
  inputPricePerMtok : Decimal
  cachedInputPricePerMtok : Option Decimal
  outputPricePerMtok : Decimal
  requestConstraints : RequestConstraints

structure Provider where
  id : String
  displayName : String
  publicDisplayName : Option String
  publicTag : Option String
  baseUrl : String
  secretEnv : String
  enabled : Bool
  priority : Nat
  catalogUrl : Option String
  profiles : Finset RoutingProfile
  models : List ModelMapping

structure Registry where
  providers : List Provider

inductive RegistryValidationError where
  | duplicateProviderId (id : String)
  | emptyProviderPublicDisplayName (id : String)
  | emptyProviderPublicTag (id : String)
  | incompleteProviderPublicAliases (id : String)
  | emptyProviderProfiles (id : String)
  | emptyModelName (providerId slug : String)
  | zeroModelContextLength (providerId slug : String)
  | emptyModelCompletionEndpoints (providerId slug : String)
  | invalidModelTopPBounds (providerId slug : String) (min max : Decimal)

namespace TopPBounds

/-- The rejected bounds: not `0 <= min <= max <= 1`. -/
def invalid (bounds : TopPBounds) : Bool :=
  decide (bounds.min < Decimal.zero) || decide (bounds.max < bounds.min) || decide (Decimal.one < bounds.max)

end TopPBounds

namespace Registry
open RegistryValidationError

/-- The checks on one mapping, in the order in which they are made. -/
def validateMapping (provider : Provider) (mapping : ModelMapping) : Except RegistryValidationError Unit :=
  if Text.isBlank mapping.name then .error (emptyModelName provider.id mapping.slug)
  else if mapping.contextLength = 0 then .error (zeroModelContextLength provider.id mapping.slug)
  else if mapping.requestConstraints.endpoints = ∅ then
    .error (emptyModelCompletionEndpoints provider.id mapping.slug)
  else match mapping.requestConstraints.topP with
    | some bounds =>
      if bounds.invalid then
        .error (invalidModelTopPBounds provider.id mapping.slug bounds.min bounds.max)
      else .ok ()
    | none => .ok ()

/-- The checks on one provider; `seen` holds the ids of the providers before it. -/
def validateProvider (seen : List String) (provider : Provider) : Except RegistryValidationError Unit :=
  if provider.id ∈ seen then .error (duplicateProviderId provider.id)
  else if provider.publicDisplayName.isSome ≠ provider.publicTag.isSome then
    .error (incompleteProviderPublicAliases provider.id)
  else if provider.publicDisplayName.any Text.isBlank then
    .error (emptyProviderPublicDisplayName provider.id)
  else if provider.publicTag.any Text.isBlank then .error (emptyProviderPublicTag provider.id)
  else if provider.profiles = ∅ then .error (emptyProviderProfiles provider.id)
  else provider.models.forM (validateMapping provider)

def validateFrom (seen : List String) : List Provider → Except RegistryValidationError Unit
  | [] => .ok ()
  | provider :: rest => do
    validateProvider seen provider
    validateFrom (provider.id :: seen) rest

def validate (registry : Registry) : Except RegistryValidationError Unit :=
  validateFrom [] registry.providers

/-- What the checks ask of a mapping. -/
structure MappingValid (mapping : ModelMapping) : Prop where
  named : Text.isBlank mapping.name = false
  sized : mapping.contextLength ≠ 0
  endpoints : mapping.requestConstraints.endpoints ≠ ∅
  bounds : ∀ bounds, mapping.requestConstraints.topP = some bounds → bounds.invalid = false

theorem validateMapping_success (provider : Provider) (mapping : ModelMapping) :
    validateMapping provider mapping = .ok () ↔ MappingValid mapping := by
  rw [validateMapping,guard_success,guard_success,guard_success,Bool.not_eq_true]
  have bounds : (∀ bounds, mapping.requestConstraints.topP = some bounds → bounds.invalid = false) ↔
      (match mapping.requestConstraints.topP with
        | some bounds =>
          if bounds.invalid then
            .error (invalidModelTopPBounds provider.id mapping.slug bounds.min bounds.max)
          else .ok ()
        | none => .ok ()) = Except.ok () := by
    cases mapping.requestConstraints.topP with
    | none => simp
    | some bounds => simp
  constructor
  · rintro ⟨named,sized,endpoints,lawful⟩
    exact ⟨named,sized,endpoints,bounds.mpr lawful⟩
  · rintro ⟨named,sized,endpoints,lawful⟩
    exact ⟨named,sized,endpoints,bounds.mp lawful⟩

theorem validateProvider_fresh (seen : List String) (provider : Provider)
    (accepted : validateProvider seen provider = .ok ()) : provider.id ∉ seen := by
  intro member
  rw [validateProvider,if_pos member] at accepted
  cases accepted

theorem validateFrom_distinct (seen : List String) (providers : List Provider)
    (accepted : validateFrom seen providers = .ok ()) :
    (providers.map Provider.id).Nodup ∧ ∀ provider ∈ providers, provider.id ∉ seen := by
  induction providers generalizing seen with
  | nil => simp
  | cons provider rest ih =>
    rw [validateFrom,bind_success] at accepted
    obtain ⟨_,first,accepted⟩ := accepted
    obtain ⟨distinct,fresh⟩ := ih (provider.id :: seen) accepted
    have new := validateProvider_fresh seen provider first
    refine ⟨List.nodup_cons.mpr ⟨?_,distinct⟩,?_⟩
    · intro member
      obtain ⟨other,present,same⟩ := List.mem_map.mp member
      exact fresh other present (by simp [same])
    · intro other member
      rcases List.mem_cons.mp member with rfl | inside
      · exact new
      · exact fun old => fresh other inside (by simp [old])

theorem validate_distinct (registry : Registry) (accepted : registry.validate = .ok ()) :
    (registry.providers.map Provider.id).Nodup :=
  (validateFrom_distinct [] registry.providers accepted).1

end Registry

end SerenRouter
