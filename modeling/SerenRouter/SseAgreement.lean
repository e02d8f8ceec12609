import SerenRouter.SseClient

/-! Two runs over inputs that differ only in what the public boundary drops: private fields,
the provider's model name and the text of what cannot be read. -/
namespace SerenRouter
open Kernel Kernel.Json Kernel.Framing
open Kernel.SortedMap (get insert)

/-- A member `error` that is not null. -/
def hasError (value : Value) : Bool := (value.get "error").any (fun error => !error.isNull)

/-- Agreement on what a public completion shows: every public field but the model, up to
private members, and the presence of an error. -/
structure AgreePublicly (left right : Value) : Prop where
  fields : ∀ field, isPublicField field = true → field ≠ "model" →
    (left.get field).map (Value.prune "provider_specific_fields") =
      (right.get field).map (Value.prune "provider_specific_fields")
  errors : hasError left = hasError right

/-- `recognized` for any value; what is not an object has no members. -/
def isCompletion (value : Value) : Bool :=
  ((value.get "id").bind Value.asStr).any (fun id => !id.isEmpty) &&
    ((value.get "object").bind Value.asStr).any isCompletionObject &&
    (value.get "choices").any Value.isArray

theorem isCompletion_object (value : Value) (complete : isCompletion value = true) :
    ∃ fields, value = .object fields := by
  cases value with
  | object fields => exact ⟨fields,rfl⟩
  | _ => cases complete

theorem sanitize_decides (value : Value) (canonicalModel : String) :
    sanitizePublicCompletionValue value canonicalModel =
      if hasError value then .error .embeddedError
      else if isCompletion value then .ok (.object (publicFields (value.asObject.getD []) canonicalModel))
      else .error .unrecognizedShape := by
  cases value <;> rfl

section Agreement
variable (left right : Value) (agree : AgreePublicly left right)
include agree

/-- A reading that private members do not influence is the same on both sides. -/
theorem AgreePublicly.reads {α : Type} (field : String) (read : Value → α) (isPublic : isPublicField field = true)
    (notModel : field ≠ "model") (blind : ∀ value : Value, read (value.prune "provider_specific_fields") = read value) :
    (left.get field).map read = (right.get field).map read := by
  have same := congrArg (Option.map read) (agree.fields field isPublic notModel)
  simpa [Option.map_map,Function.comp_def,blind] using same

theorem AgreePublicly.completes : isCompletion left = isCompletion right := by
  have ids := agree.reads left right "id" Value.asStr rfl (by decide) (by simp)
  have objects := agree.reads left right "object" Value.asStr rfl (by decide) (by simp)
  have choices := agree.reads left right "choices" Value.isArray rfl (by decide) (by simp)
  have ids := congrArg (Option.bind · id) ids
  have objects := congrArg (Option.bind · id) objects
  have choices := congrArg (Option.any id) choices
  simp only [Option.bind_map,Function.id_comp] at ids objects
  simp only [Option.any_map,id_eq] at choices
  rw [isCompletion,isCompletion,ids,objects,choices]

theorem sanitize_agree (canonicalModel : String) (leftFormed : left.WellFormed) (rightFormed : right.WellFormed) :
    sanitizePublicCompletionValue left canonicalModel = sanitizePublicCompletionValue right canonicalModel := by
  rw [sanitize_decides,sanitize_decides,agree.errors,agree.completes]
  cases complete : isCompletion right with
  | false => rfl
  | true =>
    obtain ⟨rightFields,rfl⟩ := isCompletion_object right complete
    obtain ⟨leftFields,rfl⟩ := isCompletion_object left (by rw [agree.completes]; exact complete)
    have same : publicFields leftFields canonicalModel = publicFields rightFields canonicalModel := by
      refine SortedMap.sorted_ext _ _ (publicFields_wellFormed leftFields canonicalModel leftFormed).1
        (publicFields_wellFormed rightFields canonicalModel rightFormed).1 (fun key => ?_)
      rw [get_publicFields,get_publicFields]
      split
      · rfl
      rename_i notModel
      split
      · rename_i isPublic
        exact agree.fields key isPublic notModel
      · rfl
    simp [Value.asObject,same]

end Agreement

/-- The framing of an event's text: its separator and the prefix of its data. -/
def eventFrame (event : List UInt8) : List UInt8 × Option (List UInt8) :=
  ((splitSeparator event).2,(singleDataLine (splitSeparator event).1).map Prod.fst)

/-- Two events that the public boundary must not distinguish: both unreadable, the same end
marker, or JSON in the same frame that agrees publicly. -/
def EventsAgree (codec : Codec) (left right : List UInt8) : Prop :=
  match readLine codec.fromSlice (splitSeparator left).1, readLine codec.fromSlice (splitSeparator right).1 with
  | .malformed, .malformed => True
  | .done, .done => left = right
  | .json value, .json other => eventFrame left = eventFrame right ∧ AgreePublicly value other
  | _, _ => False

/-- Two tails: both without an end marker, or the same one. -/
def TailsAgree (left right : List UInt8) : Prop :=
  UsageCostTransformer.endsWithDone left = UsageCostTransformer.endsWithDone right ∧
    (UsageCostTransformer.endsWithDone left = true → left = right)

/-- Streams with the same framing whose events agree one by one. -/
def StreamsAgree (codec : Codec) (left right : List UInt8) : Prop :=
  List.Forall₂ (EventsAgree codec) (frames nextEventEnd left).1 (frames nextEventEnd right).1 ∧
    TailsAgree (frames nextEventEnd left).2 (frames nextEventEnd right).2

section Readings
variable (codec : Codec) (arithmetic : Decimal.Arithmetic) (state : EventState) (canonicalModel : String)

theorem transformPublicEvent_malformed (event : List UInt8)
    (read : readLine codec.fromSlice (splitSeparator event).1 = .malformed) :
    state.transformPublicEvent codec arithmetic event canonicalModel =
      state.closeWithGenericError codec canonicalModel := by
  unfold readLine at read
  simp only [EventState.transformPublicEvent]
  cases line : singleDataLine (splitSeparator event).1 with
  | none => rfl
  | some parts =>
    obtain ⟨dataPrefix,data⟩ := parts
    simp only [line] at read ⊢
    split at read
    · cases read
    rename_i notDone
    rw [if_neg notDone]
    cases parsed : codec.fromSlice data with
    | none => rfl
    | some value => simp [parsed] at read

/-- What an event with a JSON value does is decided by its frame and its public form. -/
theorem transformPublicEvent_json (event : List UInt8) (value : Value)
    (read : readLine codec.fromSlice (splitSeparator event).1 = .json value) :
    ∃ dataPrefix data, eventFrame event = ((splitSeparator event).2,some dataPrefix) ∧
      codec.fromSlice data = some value ∧
      state.transformPublicEvent codec arithmetic event canonicalModel =
        match sanitizePublicCompletionValue value canonicalModel with
        | .error _ => state.closeWithGenericError codec canonicalModel
        | .ok value => do
          match ← state.priceEvent arithmetic value with
          | (.error _,_) => state.closeWithGenericError codec canonicalModel
          | (.ok costed,value) =>
            match codec.toVec value with
            | none => state.closeWithGenericError codec canonicalModel
            | some json =>
              return ({ state with costedUsage := costed.or state.costedUsage },
                dataPrefix ++ json ++ (splitSeparator event).2,none) := by
  unfold readLine at read
  simp only [EventState.transformPublicEvent,eventFrame]
  cases line : singleDataLine (splitSeparator event).1 with
  | none => simp [line] at read
  | some parts =>
    obtain ⟨dataPrefix,data⟩ := parts
    simp only [line] at read ⊢
    split at read
    · cases read
    rename_i notDone
    cases parsed : codec.fromSlice data with
    | none => simp [parsed] at read
    | some other =>
      simp only [parsed,EventReading.json.injEq] at read
      subst read
      refine ⟨dataPrefix,data,rfl,parsed,?_⟩
      exact if_neg notDone

theorem transformPublicEvent_agree (ordered : codec.Ordered) (left right : List UInt8)
    (agree : EventsAgree codec left right) :
    state.transformPublicEvent codec arithmetic left canonicalModel =
      state.transformPublicEvent codec arithmetic right canonicalModel := by
  unfold EventsAgree at agree
  split at agree
  · rename_i leftRead rightRead
    rw [transformPublicEvent_malformed codec arithmetic state canonicalModel left leftRead,
      transformPublicEvent_malformed codec arithmetic state canonicalModel right rightRead]
  · rw [agree]
  · rename_i value other leftRead rightRead
    obtain ⟨framed,values⟩ := agree
    obtain ⟨leftPrefix,leftData,leftFrame,leftParsed,leftStep⟩ :=
      transformPublicEvent_json codec arithmetic state canonicalModel left value leftRead
    obtain ⟨rightPrefix,rightData,rightFrame,rightParsed,rightStep⟩ :=
      transformPublicEvent_json codec arithmetic state canonicalModel right other rightRead
    rw [leftFrame,rightFrame,Prod.mk.injEq,Option.some.injEq] at framed
    rw [leftStep,rightStep,framed.1,framed.2,sanitize_agree value other values canonicalModel
      (ordered _ _ leftParsed) (ordered _ _ rightParsed)]
  · cases agree

theorem finish_agree (left right : List UInt8) (serves : ServesModel canonicalModel state)
    (agree : TailsAgree left right) :
    (⟨state,left⟩ : UsageCostTransformer).finish codec = (⟨state,right⟩ : UsageCostTransformer).finish codec := by
  have model : state.responseModel = some canonicalModel := serves
  obtain ⟨same,equal⟩ := agree
  simp only [UsageCostTransformer.finish,model,← same]
  cases marked : UsageCostTransformer.endsWithDone left with
  | false => rfl
  | true => rw [equal marked]

end Readings

section Streams
variable (codec : Codec) (arithmetic : Decimal.Arithmetic) (ordered : codec.Ordered)
include ordered

/-- The run of a public transformer is a function of what the boundary shows. -/
theorem run_agree (prices : ProviderPrices) (policy : ProviderReportedCostPolicy) (canonicalModel : String)
    (left right : List (List UInt8)) (agree : StreamsAgree codec left.flatten right.flatten) :
    (UsageCostTransformer.priced prices policy canonicalModel).run codec arithmetic left =
      (UsageCostTransformer.priced prices policy canonicalModel).run codec arithmetic right := by
  let fresh := UsageCostTransformer.priced prices policy canonicalModel
  have serves : ServesModel canonicalModel fresh.toEventState := rfl
  have preserves := eventMachine_preserves codec arithmetic canonicalModel
  obtain ⟨events,marked,tails⟩ := agree
  have active : (eventMachine codec arithmetic).closed fresh.toEventState = false := rfl
  have interchangeable := (eventMachine codec arithmetic).consume_congr (ServesModel canonicalModel) preserves
    fresh.toEventState _ _ (frames nextEventEnd left.flatten).2 serves (events.imp (by
      intro one other agree state serves
      simp only [eventMachine,EventState.transformEvent,show state.responseModel = some canonicalModel from serves]
      exact transformPublicEvent_agree codec arithmetic state canonicalModel ordered one other agree))
  rw [run_consume codec arithmetic canonicalModel fresh left serves rfl rfl,
    run_consume codec arithmetic canonicalModel fresh right serves rfl rfl,interchangeable,
    (eventMachine codec arithmetic).consume_tail _ _ (frames nextEventEnd left.flatten).2
      (frames nextEventEnd right.flatten).2 active,bind_assoc]
  apply bind_congr_right
  intro progress ran
  have pending := (eventMachine codec arithmetic).consume_pending _ _ _ progress active ran
  have model := (eventMachine codec arithmetic).consume_preserves _ preserves _ _ _ progress serves ran
  simp only [ok_bind]
  cases shut : progress.state.closed with
  | true => simp [UsageCostTransformer.finish,shut]
  | false =>
    rw [show (eventMachine codec arithmetic).closed progress.state = false from shut,if_neg (by simp)] at pending
    rw [pending,finish_agree codec progress.state canonicalModel _ _ model ⟨marked,tails⟩,
      show (eventMachine codec arithmetic).closed progress.state = false from shut]
    rfl

/-- Two bodies that the public boundary must not distinguish. -/
def BodiesAgree (codec : Codec) (left right : List UInt8) : Prop :=
  match codec.fromSlice left, codec.fromSlice right with
  | none, none => True
  | some value, some other => AgreePublicly value other
  | _, _ => False

theorem sanitizeAliased_agree (canonicalModel : String) (left right : List UInt8)
    (agree : BodiesAgree codec left right) :
    sanitizeAliasedJsonResponse codec left canonicalModel =
      sanitizeAliasedJsonResponse codec right canonicalModel := by
  unfold BodiesAgree at agree
  unfold sanitizeAliasedJsonResponse
  cases leftRead : codec.fromSlice left with
  | none =>
    cases rightRead : codec.fromSlice right with
    | none => rfl
    | some other => simp [leftRead,rightRead] at agree
  | some value =>
    cases rightRead : codec.fromSlice right with
    | none => simp [leftRead,rightRead] at agree
    | some other =>
      simp only [leftRead,rightRead] at agree ⊢
      rw [sanitize_agree value other agree canonicalModel (ordered left value leftRead)
        (ordered right other rightRead)]

end Streams

end SerenRouter
