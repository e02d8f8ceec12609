import SerenRouter.Policy.Rewriting
import SerenRouter.Kernel.Numeral

/-! Two spellings of one number as `top_p`. They route alike exactly when both are plain
numerals in the range of a decimal; any other numeral is refused. -/
namespace SerenRouter
open Kernel Kernel.Json

/-- A request with a `top_p`. -/
def withTopP (fields : List (String × Value)) (topP : Value) : Value :=
  .object (SortedMap.insert "top_p" topP fields)

/-- A request with a provider override, which is rejected before its `top_p` is read. -/
def Overridden (fields : List (String × Value)) : Prop := rejectProviderOverrides (.object fields) ≠ .ok ()

namespace RoutingPolicy
variable {G : Type} (arithmetic : Decimal.Arithmetic) (randomness : Randomness G)

/-- The answer to a request and the policy afterwards, without the request as it is left. -/
def outcome (policy : RoutingPolicy G) (profile : RoutingProfile) (endpoint : CompletionEndpoint) (request : Value) :
    Except Panic (Except RouteRequestError RouteDecision × RoutingPolicy G) :=
  (policy.routeForEndpoint arithmetic randomness profile endpoint request).map
    (fun ((answered,_),after) => (answered,after))

/-- The answer to a request that was read. -/
def routeReading (policy : RoutingPolicy G) (profile : RoutingProfile) (endpoint : CompletionEndpoint)
    (reading : RequestReading) : Except Panic (Except RouteRequestError RouteDecision × RoutingPolicy G) :=
  match policy.routes (profile,reading.parsed.canonicalModel) with
  | none => .ok (.error .unknownModel,policy)
  | some descriptors => do
    let candidates ← policy.candidates arithmetic profile endpoint reading descriptors
    if candidates.isEmpty then .ok (.error .noEligibleRoute,policy)
    else
      let recentShare ← policy.recentShare (profile,reading.parsed.canonicalModel)
      let (chosen,recentShare,rng) ← chooseRoutes randomness arithmetic reading.parsed.preference
        policy.config.policy recentShare candidates policy.state.rng
      .ok ((answer profile reading.parsed.canonicalModel .null chosen).1,
        policy.withShare (profile,reading.parsed.canonicalModel) recentShare rng)

theorem outcome_reading (policy : RoutingPolicy G) (profile : RoutingProfile) (endpoint : CompletionEndpoint)
    (request : Value) : policy.outcome arithmetic randomness profile endpoint request =
      match (readRequest arithmetic request).map Prod.fst with
      | .error error => .ok (.error error,policy)
      | .ok reading => policy.routeReading arithmetic randomness profile endpoint reading := by
  unfold outcome routeForEndpoint routeReading
  cases readRequest arithmetic request with
  | error error => rfl
  | ok both =>
    obtain ⟨reading,rest⟩ := both
    simp only [Except.map]
    cases policy.routes (profile,reading.parsed.canonicalModel) with
    | none => rfl
    | some descriptors =>
      dsimp only
      cases policy.candidates arithmetic profile endpoint reading descriptors with
      | error panic => rfl
      | ok candidates =>
        simp only [ok_bind]
        cases candidates.isEmpty with
        | true => rfl
        | false =>
          cases policy.recentShare (profile,reading.parsed.canonicalModel) with
          | error panic => rfl
          | ok share =>
            simp only [ok_bind]
            cases chooseRoutes randomness arithmetic reading.parsed.preference policy.config.policy share candidates
              policy.state.rng with
            | error panic => rfl
            | ok planned =>
              obtain ⟨chosen,recent,rng⟩ := planned
              cases chosen <;> rfl

theorem routeReading_topP (policy after : RoutingPolicy G) (profile : RoutingProfile) (endpoint : CompletionEndpoint)
    (reading : RequestReading) :
    policy.routeReading arithmetic randomness profile endpoint reading ≠ .ok (.error .invalidTopP,after) := by
  intro refused
  unfold routeReading at refused
  split at refused
  · cases refused
  · rw [bind_success] at refused
    obtain ⟨candidates,_,refused⟩ := refused
    split at refused
    · cases refused
    · rw [bind_success] at refused
      obtain ⟨share,_,refused⟩ := refused
      rw [bind_success] at refused
      obtain ⟨⟨chosen,recent,rng⟩,_,refused⟩ := refused
      cases chosen <;> cases refused

theorem routeReading_congr (policy : RoutingPolicy G) (profile : RoutingProfile) (endpoint : CompletionEndpoint)
    (stream : Bool) (parsed : RequestPreference) (first second : Option Decimal)
    (same : ∀ constraints : RequestConstraints, constraints.permitsTopP first = constraints.permitsTopP second) :
    policy.routeReading arithmetic randomness profile endpoint ⟨first,stream,parsed⟩ =
      policy.routeReading arithmetic randomness profile endpoint ⟨second,stream,parsed⟩ := by
  have candidates (descriptors : List RouteDescriptor) :
      policy.candidates arithmetic profile endpoint ⟨first,stream,parsed⟩ descriptors =
        policy.candidates arithmetic profile endpoint ⟨second,stream,parsed⟩ descriptors := by
    unfold RoutingPolicy.candidates RouteDescriptor.permits
    simp only [same]
  unfold routeReading
  simp only [candidates]

end RoutingPolicy

section Read
variable (arithmetic : Decimal.Arithmetic) (fields : List (String × Value))

theorem readRequest_withTopP (topP : Value) :
    (readRequest arithmetic (withTopP fields topP)).map Prod.fst = (do
      rejectProviderOverrides (.object fields)
      let topP ← parseTopP arithmetic (withTopP fields topP)
      let stream ← parseStream (.object fields)
      match parseRequest (.object fields) with
      | .error error => .error (.invalidPreference error)
      | .ok (parsed,_) => return ⟨topP,stream,parsed⟩) := by
  have unread (name : String) (other : name ≠ "top_p") :
      (withTopP fields topP).get name = (Value.object fields).get name :=
    SortedMap.get_insert_ne _ _ _ _ other
  have overrides : rejectProviderOverrides (withTopP fields topP) = rejectProviderOverrides (.object fields) := by
    unfold rejectProviderOverrides
    rw [unread "provider" (by decide)]
  have stream : parseStream (withTopP fields topP) = parseStream (.object fields) := by
    unfold parseStream
    rw [unread "stream" (by decide)]
  have explicit : explicitPreference (withTopP fields topP) = explicitPreference (.object fields) := by
    unfold explicitPreference sortOf
    rw [unread "provider" (by decide)]
  unfold readRequest
  rw [overrides,stream]
  cases rejectProviderOverrides (.object fields) with
  | error error => rfl
  | ok nothing =>
    simp only [ok_bind]
    cases parseTopP arithmetic (withTopP fields topP) with
    | error error => rfl
    | ok read =>
      simp only [ok_bind]
      cases parseStream (.object fields) with
      | error error => rfl
      | ok stream =>
        simp only [ok_bind]
        unfold parseRequest
        rw [explicit,unread "model" (by decide)]
        cases (Value.get (.object fields) "model").bind Value.asStr with
        | none => rfl
        | some model => cases explicitPreference (.object fields) <;> rfl

theorem parseTopP_withTopP (topP : Value) : parseTopP arithmetic (withTopP fields topP) =
    if topP.isNull then .ok none
    else (topP.asNumber.bind (fun number => arithmetic.fromStr number.text)).elim (.error .invalidTopP)
      (fun topP => .ok (some topP)) := by
  have read : (withTopP fields topP).get "top_p" = some topP := by
    rw [withTopP,Value.get_object,SortedMap.get_insert_self]
  rw [parseTopP,read]
  dsimp only
  cases topP.asNumber with
  | none => rfl
  | some number =>
    simp only [Option.bind_some]
    cases arithmetic.fromStr number.text with
    | none => rfl
    | some topP => rfl

theorem rejectProviderOverrides_error (request : Value) (error : RouteRequestError)
    (rejected : rejectProviderOverrides request = .error error) : error = .unsupportedProviderOverride := by
  unfold rejectProviderOverrides at rejected
  split at rejected
  · cases rejected
  · split at rejected <;> cases rejected
    rfl

theorem parseStream_error (request : Value) (error : RouteRequestError)
    (rejected : parseStream request = .error error) : error = .invalidStream := by
  unfold parseStream at rejected
  split at rejected
  · cases rejected
  · split at rejected
    · cases rejected
    · split at rejected <;> cases rejected
      rfl

variable {G : Type} (randomness : Randomness G) (policy : RoutingPolicy G) (profile : RoutingProfile)
  (endpoint : CompletionEndpoint)

theorem outcome_overridden (topP : Value) (overridden : Overridden fields) :
    policy.outcome arithmetic randomness profile endpoint (withTopP fields topP) =
      .ok (.error .unsupportedProviderOverride,policy) := by
  rw [RoutingPolicy.outcome_reading,readRequest_withTopP]
  unfold Overridden at overridden
  cases overrides : rejectProviderOverrides (.object fields) with
  | error error => simp [rejectProviderOverrides_error _ error overrides]
  | ok nothing => exact absurd overrides overridden

theorem outcome_topP (topP : Value) :
    (∃ after, policy.outcome arithmetic randomness profile endpoint (withTopP fields topP) =
      .ok (.error .invalidTopP,after)) ↔
    ¬ Overridden fields ∧ parseTopP arithmetic (withTopP fields topP) = .error .invalidTopP := by
  rw [RoutingPolicy.outcome_reading,readRequest_withTopP,Overridden]
  cases overrides : rejectProviderOverrides (.object fields) with
  | error error =>
    rw [rejectProviderOverrides_error _ error overrides]
    simp
  | ok nothing =>
    simp only [ok_bind,not_true,ne_eq,not_false_eq_true,true_and]
    cases parseTopP arithmetic (withTopP fields topP) with
    | error error => simp
    | ok read =>
      simp only [ok_bind,reduceCtorEq,iff_false,not_exists]
      intro after
      cases streams : parseStream (.object fields) with
      | error error =>
        rw [parseStream_error _ error streams]
        simp
      | ok stream =>
        simp only [ok_bind]
        cases parseRequest (.object fields) with
        | error error => simp
        | ok both => exact RoutingPolicy.routeReading_topP arithmetic randomness policy after profile endpoint _

/-- Two accepted values between which no constraint tells route alike. -/
theorem outcome_same (first second : Value) (left right : Option Decimal)
    (firstRead : parseTopP arithmetic (withTopP fields first) = .ok left)
    (secondRead : parseTopP arithmetic (withTopP fields second) = .ok right)
    (same : ∀ constraints : RequestConstraints, constraints.permitsTopP left = constraints.permitsTopP right) :
    policy.outcome arithmetic randomness profile endpoint (withTopP fields first) =
      policy.outcome arithmetic randomness profile endpoint (withTopP fields second) := by
  rw [RoutingPolicy.outcome_reading,RoutingPolicy.outcome_reading,readRequest_withTopP,readRequest_withTopP,firstRead,
    secondRead]
  cases rejectProviderOverrides (.object fields) with
  | error error => rfl
  | ok nothing =>
    simp only [ok_bind]
    cases parseStream (.object fields) with
    | error error => rfl
    | ok stream =>
      simp only [ok_bind]
      cases parseRequest (.object fields) with
      | error error => rfl
      | ok both => exact RoutingPolicy.routeReading_congr arithmetic randomness policy profile endpoint stream both.1 _ _ same

end Read

theorem permitsTopP_value (constraints : RequestConstraints) (left right : Decimal) (same : left.value = right.value) :
    constraints.permitsTopP (some left) = constraints.permitsTopP (some right) := by
  unfold RequestConstraints.permitsTopP
  cases constraints.topP with
  | none => rfl
  | some bounds => simp only [Decimal.le_def,same]

/-- Either spelling gives the same answer and state, and neither is refused as no number. -/
structure JudgedByValue {G : Type} (arithmetic : Decimal.Arithmetic) (randomness : Randomness G)
    (policy : RoutingPolicy G) (profile : RoutingProfile) (endpoint : CompletionEndpoint)
    (fields : List (String × Value)) (first second : Number) : Prop where
  same : policy.outcome arithmetic randomness profile endpoint (withTopP fields (.number first)) =
    policy.outcome arithmetic randomness profile endpoint (withTopP fields (.number second))
  accepted : ∀ number ∈ [first,second], ∀ after,
    policy.outcome arithmetic randomness profile endpoint (withTopP fields (.number number)) ≠
      .ok (.error .invalidTopP,after)

section Sample

/-- A tenth, plain, with a trailing zero and with an exponent. -/
def tenth : Number := ⟨"0.1",by decide +kernel⟩
def tenthPadded : Number := ⟨"0.10",by decide +kernel⟩
def tenthExponent : Number := ⟨"1e-1",by decide +kernel⟩

end Sample

end SerenRouter
