import SerenRouter.SseFrames

/-! What a public transformer with prices emits: events with the public fields only, each
object usage with its cost, then one end of the stream. The step lemma says all that one
event can do; the run lemma follows the events of a whole buffer. -/
namespace SerenRouter
open Kernel Kernel.Json Kernel.Framing
open Kernel.SortedMap (get insert)

/-- The public form of a completion: allowed fields, the canonical model, nothing private. -/
structure PublicValue (canonicalModel : String) (value : Value) : Prop where
  isObject : value.isObject = true
  allowed : ∀ fields, value = .object fields → ∀ field ∈ fields, isPublicField field.1 = true
  model : value.get "model" = some (.string canonicalModel)
  free : value.FreeOf "provider_specific_fields"

theorem sanitize_public (response value : Value) (canonicalModel : String)
    (accepted : sanitizePublicCompletionValue response canonicalModel = .ok value) :
    PublicValue canonicalModel value := by
  obtain ⟨fields,_,_,_,rfl⟩ := (sanitize_success response value canonicalModel).mp accepted
  refine ⟨rfl,?_,?_,publicFields_freeOf fields canonicalModel⟩
  · intro _ equal
    cases equal
    exact publicFields_allowed fields canonicalModel
  · rw [Value.get_object,get_publicFields,if_pos rfl]

theorem sanitize_wellFormed (response value : Value) (canonicalModel : String)
    (accepted : sanitizePublicCompletionValue response canonicalModel = .ok value)
    (wellFormed : response.WellFormed) : value.WellFormed := by
  obtain ⟨fields,rfl,_,_,rfl⟩ := (sanitize_success response value canonicalModel).mp accepted
  exact publicFields_wellFormed fields canonicalModel wellFormed

theorem sanitizeAliased_public (codec : Codec) (reader : List UInt8 → Option Value)
    (lawful : codec.Lawful reader) (body bytes : List UInt8)
    (canonicalModel : String) (accepted : sanitizeAliasedJsonResponse codec body canonicalModel = .ok bytes) :
    ∃ value, PublicValue canonicalModel value ∧ reader bytes = some value := by
  unfold sanitizeAliasedJsonResponse at accepted
  cases read : codec.fromSlice body with
  | none => simp [read] at accepted
  | some response =>
    cases sanitized : sanitizePublicCompletionValue response canonicalModel with
    | error rejection => simp [read,sanitized] at accepted
    | ok value =>
      cases written : codec.toVec value with
      | none => simp [read,sanitized,written] at accepted
      | some json =>
        simp only [read,sanitized,written,Except.ok.injEq] at accepted
        subst accepted
        have wellFormed := sanitize_wellFormed response value canonicalModel sanitized
          (lawful.ordered body response read)
        exact ⟨value,sanitize_public response value canonicalModel sanitized,
          lawful.understood value json wellFormed written⟩

theorem PublicValue.setUsage (canonicalModel : String) (value usage : Value)
    (isPublic : PublicValue canonicalModel value) (free : usage.FreeOf "provider_specific_fields") :
    PublicValue canonicalModel (value.setIndex "usage" usage) := by
  obtain ⟨isObject,allowed,model,clean⟩ := isPublic
  obtain ⟨fields,rfl⟩ := (Value.isObject_exists value).mp isObject
  refine ⟨rfl,?_,?_,Value.freeOf_insert _ _ _ fields clean (by decide) free⟩
  · intro _ equal field member
    cases equal
    rcases SortedMap.keys_insert _ _ _ field member with rfl | old
    · rfl
    · exact allowed fields rfl field old
  · rw [Value.get_setIndex,if_neg (by decide)]
    exact model

/-- An event's usage is an object exactly when a cost was computed, and then it states it. -/
def Accounts (value : Value) : Option CostedUsage → Prop
  | some costed => Carries value costed
  | none => isTerminalUsageEvent value = false

theorem carries_terminal (value : Value) (costed : CostedUsage) (carries : Carries value costed) :
    isTerminalUsageEvent value = true := by
  obtain ⟨usage,_,found,_⟩ := carries
  simp [isTerminalUsageEvent,found,Value.isObject]

namespace EventState
variable (arithmetic : Decimal.Arithmetic) (state : EventState)

theorem priceEvent_success (value result : Value) (costed : Option CostedUsage)
    (isObject : value.isObject = true)
    (ran : state.priceEvent arithmetic value = .ok (.ok costed,result)) :
    (state.prices.isSome = true → Accounts result costed) ∧
      (result = state.deferUsage value ∨ ∃ usage cost, value.get "usage" = some (.object usage) ∧
        result = value.setIndex "usage" (.object (costedFields usage cost state.providerCostPolicy))) := by
  obtain ⟨fields,rfl⟩ := (Value.isObject_exists value).mp isObject
  cases priced : state.prices with
  | none =>
    simp only [priceEvent,priced,pure_success] at ran
    cases ran
    exact ⟨by simp,.inl rfl⟩
  | some prices =>
    simp only [priceEvent,priced] at ran
    cases defer : isDeepinfraPreliminaryUsage (.object fields) state.providerCostPolicy with
    | true =>
      simp only [defer,Bool.not_true,Bool.false_and,Bool.false_eq_true,if_false,pure_success] at ran
      cases ran
      refine ⟨fun _ => ?_,.inl rfl⟩
      simp [Accounts,isTerminalUsageEvent,deferUsage,defer,Value.get_setIndex,Value.isObject]
    | false =>
      have kept : state.deferUsage (.object fields) = .object fields := by simp [deferUsage,defer]
      rw [kept] at ran ⊢
      cases terminal : isTerminalUsageEvent (.object fields) with
      | false =>
        simp only [defer,terminal,Bool.and_false,Bool.false_eq_true,if_false,pure_success] at ran
        cases ran
        exact ⟨fun _ => terminal,.inl rfl⟩
      | true =>
        simp only [defer,terminal,Bool.not_false,Bool.and_self,if_true] at ran
        rw [bind_success] at ran
        obtain ⟨⟨outcome,value⟩,injected,ran⟩ := ran
        cases outcome with
        | error omission => cases ran
        | ok computed =>
          cases ran
          obtain ⟨usage,read,_,_,_,written⟩ := inject_success _ _ _ _ _ _ injected
          exact ⟨fun _ => inject_carries _ _ _ _ _ _ injected,.inr ⟨usage,_,read,written⟩⟩

theorem priceEvent_public (canonicalModel : String) (value result : Value) (costed : Option CostedUsage)
    (isPublic : PublicValue canonicalModel value)
    (ran : state.priceEvent arithmetic value = .ok (.ok costed,result)) :
    PublicValue canonicalModel result := by
  rcases (priceEvent_success arithmetic state value result costed isPublic.isObject ran).2
    with rfl | ⟨usage,cost,read,rfl⟩
  · unfold deferUsage
    split
    · exact isPublic.setUsage canonicalModel value .null trivial
    · exact isPublic
  · refine isPublic.setUsage canonicalModel value _ (costedFields_freeOf _ usage cost _ ?_ (by decide))
    obtain ⟨fields,rfl,found⟩ := Value.get_some_object value _ "usage" read
    exact ((Value.freeOf_object _ fields).mp isPublic.free _ (SortedMap.get_mem _ _ _ found)).2

theorem priceEvent_wellFormed (value result : Value) (costed : Option CostedUsage)
    (isObject : value.isObject = true) (wellFormed : value.WellFormed)
    (ran : state.priceEvent arithmetic value = .ok (.ok costed,result)) : result.WellFormed := by
  rcases (priceEvent_success arithmetic state value result costed isObject ran).2
    with rfl | ⟨usage,cost,read,rfl⟩
  · unfold deferUsage
    split
    · exact Value.wellFormed_setIndex value "usage" .null wellFormed trivial
    · exact wellFormed
  · exact Value.wellFormed_setIndex value "usage" _ wellFormed
      (costedFields_wellFormed usage cost _ (Value.wellFormed_get value _ "usage" wellFormed read))

end EventState

/-- How a line reads: the end marker, a JSON value, or neither. -/
inductive EventReading where
  | malformed
  | done
  | json (value : Value)
  deriving DecidableEq

def readLine (reader : List UInt8 → Option Value) (line : List UInt8) : EventReading :=
  match singleDataLine line with
  | none => .malformed
  | some (_,data) =>
    if data = done then .done
    else
      match reader data with
      | none => .malformed
      | some value => .json value

/-- The text of an event with a JSON value. -/
def Writes (codec : Codec) (value : Value) (text : List UInt8) : Prop :=
  ∃ dataPrefix json separator, IsDataPrefix dataPrefix ∧ codec.toVec value = some json ∧
    IsSeparator separator ∧ text = dataPrefix ++ json ++ separator

/-- All that one event can do to a transformer with a response model. -/
inductive PublicStep (codec : Codec) (canonicalModel : String) (state : EventState) (event : List UInt8) :
    EventState → List UInt8 → Option CostedUsage → Prop where
  | refused (text : List UInt8) (generic : genericUpstreamErrorEvent codec canonicalModel = .ok text) :
      PublicStep codec canonicalModel state event { state with closed := true, costedUsage := none } text none
  | settled (available : state.prices.isSome = true → state.costedUsage.isSome = true)
      (read : readLine codec.fromSlice (splitSeparator event).1 = .done) :
      PublicStep codec canonicalModel state event { state with closed := true, costedUsage := none } event
        state.costedUsage
  | passed (value : Value) (text : List UInt8) (costed : Option CostedUsage)
      (written : Terminated event → Writes codec value text)
      (isPublic : PublicValue canonicalModel value) (wellFormed : codec.Ordered → value.WellFormed)
      (accounted : state.prices.isSome = true → Accounts value costed) :
      PublicStep codec canonicalModel state event { state with costedUsage := costed.or state.costedUsage }
        text none

section Step
variable (codec : Codec) (arithmetic : Decimal.Arithmetic) (canonicalModel : String)

theorem closeWithGenericError_step (state next : EventState) (event output : List UInt8)
    (completion : Option CostedUsage)
    (ran : state.closeWithGenericError codec canonicalModel = .ok (next,output,completion)) :
    PublicStep codec canonicalModel state event next output completion := by
  rw [EventState.closeWithGenericError,bind_success] at ran
  obtain ⟨text,generic,ran⟩ := ran
  cases ran
  exact .refused _ generic

theorem splitSeparator_ends (event body separator : List UInt8) (split : splitSeparator event = (body,separator))
    (terminated : Terminated event) : IsSeparator separator := by
  obtain ⟨_,_,again,ends,_⟩ := splitSeparator_terminated event terminated
  rw [split] at again
  cases again
  exact ends

theorem transformPublicEvent_step (state next : EventState) (event output : List UInt8)
    (completion : Option CostedUsage)
    (ran : state.transformPublicEvent codec arithmetic event canonicalModel = .ok (next,output,completion)) :
    PublicStep codec canonicalModel state event next output completion := by
  obtain ⟨body,separator,split⟩ : ∃ body separator, splitSeparator event = (body,separator) := ⟨_,_,rfl⟩
  simp only [EventState.transformPublicEvent,split] at ran
  cases line : singleDataLine body with
  | none =>
    rw [line] at ran
    exact closeWithGenericError_step codec canonicalModel state next event output completion ran
  | some parts =>
    obtain ⟨dataPrefix,data⟩ := parts
    simp only [line] at ran
    by_cases marker : data = done
    · rw [if_pos marker] at ran
      split at ran
      · exact closeWithGenericError_step codec canonicalModel state next event output completion ran
      · rename_i available
        cases ran
        refine .settled (fun priced => ?_) (by simp [readLine,split,line,marker])
        cases stored : state.costedUsage with
        | none => simp [priced,stored] at available
        | some costed => rfl
    · rw [if_neg marker] at ran
      cases parsed : codec.fromSlice data with
      | none =>
        rw [parsed] at ran
        exact closeWithGenericError_step codec canonicalModel state next event output completion ran
      | some value =>
        simp only [parsed] at ran
        cases accepted : sanitizePublicCompletionValue value canonicalModel with
        | error rejection =>
          rw [accepted] at ran
          exact closeWithGenericError_step codec canonicalModel state next event output completion ran
        | ok sanitized =>
          have isPublic := sanitize_public value sanitized canonicalModel accepted
          simp only [accepted] at ran
          rw [bind_success] at ran
          obtain ⟨⟨outcome,result⟩,priceRan,ran⟩ := ran
          cases outcome with
          | error omission =>
            exact closeWithGenericError_step codec canonicalModel state next event output completion ran
          | ok costed =>
            cases written : codec.toVec result with
            | none =>
              simp only [written] at ran
              exact closeWithGenericError_step codec canonicalModel state next event output completion ran
            | some json =>
              simp only [written] at ran
              cases ran
              refine .passed result _ costed (fun terminated => ⟨dataPrefix,json,separator,?_,written,
                splitSeparator_ends event body separator split terminated,rfl⟩) ?_ (fun ordered => ?_) ?_
              · exact (singleDataLine_success body dataPrefix data line).2.1
              · exact state.priceEvent_public arithmetic canonicalModel _ _ _ isPublic priceRan
              · have wellFormed := sanitize_wellFormed value sanitized canonicalModel accepted
                  (ordered data value parsed)
                exact state.priceEvent_wellFormed arithmetic _ _ _ isPublic.isObject wellFormed priceRan
              · exact (state.priceEvent_success arithmetic _ _ _ isPublic.isObject priceRan).1

theorem PublicStep.configuration (state next : EventState) (event output : List UInt8)
    (completion : Option CostedUsage) (step : PublicStep codec canonicalModel state event next output completion) :
    next.responseModel = state.responseModel ∧ next.prices = state.prices ∧
      next.providerCostPolicy = state.providerCostPolicy := by
  cases step <;> exact ⟨rfl,rfl,rfl⟩

theorem PublicStep.completes (state next : EventState) (event output : List UInt8) (costed : CostedUsage)
    (step : PublicStep codec canonicalModel state event next output (some costed)) : next.closed = true := by
  generalize equal : some costed = completion at step
  cases step with
  | refused text generic => rfl
  | settled available read => rfl
  | passed value text costed written isPublic wellFormed accounted => cases equal

end Step

end SerenRouter
