import SerenRouter.SseAgreement
import SerenRouter.Kernel.JsonText
import SerenRouter.Kernel.DecimalArithmetic

/-! The guarantees of public streams: chunks do not matter, what is billed is what the client
was told, and nothing private crosses the boundary. -/
namespace SerenRouter
open Kernel Kernel.Json Kernel.Framing
open Kernel.SortedMap (get)

section Totality
variable (codec : Codec) (arithmetic : Decimal.Arithmetic) (total : codec.Total)
include total

theorem genericUpstreamErrorEvent_total (canonicalModel : String) :
    ∃ text, genericUpstreamErrorEvent codec canonicalModel = .ok text := by
  obtain ⟨json,written⟩ := total (genericUpstreamError canonicalModel)
  exact ⟨_,by rw [genericUpstreamErrorEvent,written]; rfl⟩

theorem closeWithGenericError_total (state : EventState) (canonicalModel : String) :
    ∃ result, state.closeWithGenericError codec canonicalModel = .ok result := by
  obtain ⟨text,generic⟩ := genericUpstreamErrorEvent_total codec total canonicalModel
  exact ⟨_,by rw [EventState.closeWithGenericError,generic]; rfl⟩

variable (prices : ProviderPrices)
  (defined : ∀ usage cached, ∃ cost, providerCostUsd arithmetic prices usage cached = .ok cost)
include defined

omit total in
theorem priceEvent_total (state : EventState) (priced : state.prices = some prices) (value : Value) :
    ∃ result, state.priceEvent arithmetic value = .ok result := by
  simp only [EventState.priceEvent,priced]
  split
  · obtain ⟨⟨costed,result⟩,injected⟩ := inject_total arithmetic (state.deferUsage value) prices
      state.providerCostPolicy defined
    exact ⟨_,by rw [injected]; rfl⟩
  · exact ⟨_,rfl⟩

theorem transformPublicEvent_total (state : EventState) (priced : state.prices = some prices)
    (event : List UInt8) (canonicalModel : String) :
    ∃ result, state.transformPublicEvent codec arithmetic event canonicalModel = .ok result := by
  have refuse := closeWithGenericError_total codec total state canonicalModel
  simp only [EventState.transformPublicEvent]
  split
  · exact refuse
  split
  · split
    · exact refuse
    · exact ⟨_,rfl⟩
  split
  · exact refuse
  split
  · exact refuse
  rename_i sanitized _
  obtain ⟨⟨outcome,value⟩,ran⟩ := priceEvent_total arithmetic prices defined state priced sanitized
  rw [ran]
  cases outcome with
  | error omission => exact refuse
  | ok costed =>
    obtain ⟨json,written⟩ := total value
    simp only [ok_bind,written]
    exact ⟨_,rfl⟩

/-- When the registry's formula is defined, every stream runs to its end. -/
theorem run_total (policy : ProviderReportedCostPolicy) (canonicalModel : String) (chunks : List (List UInt8)) :
    ∃ result, (UsageCostTransformer.priced prices policy canonicalModel).run codec arithmetic chunks =
      .ok result := by
  let fresh := UsageCostTransformer.priced prices policy canonicalModel
  have serves : ServesModel canonicalModel fresh.toEventState := rfl
  obtain ⟨progress,ran,model,_⟩ := (eventMachine codec arithmetic).consume_total
    (fun state => state.responseModel = some canonicalModel ∧ state.prices = some prices)
    (by
      rintro state event ⟨model,priced⟩
      obtain ⟨⟨next,output,completion⟩,stepped⟩ :=
        transformPublicEvent_total codec arithmetic total prices defined state priced event canonicalModel
      have step : (eventMachine codec arithmetic).step state event = .ok (next,output,completion) := by
        simp only [eventMachine,EventState.transformEvent,model,stepped]
      have kept := (eventMachine_step codec arithmetic canonicalModel _ _ _ _ _ model step).configuration
      exact ⟨next,output,completion,step,kept.1.trans model,kept.2.1.trans priced⟩)
    fresh.toEventState (frames nextEventEnd chunks.flatten).1 (frames nextEventEnd chunks.flatten).2 ⟨rfl,rfl⟩
  have finished : ∃ result, (⟨progress.state,progress.pending⟩ : UsageCostTransformer).finish codec = .ok result := by
    obtain ⟨text,generic⟩ := genericUpstreamErrorEvent_total codec total canonicalModel
    simp only [UsageCostTransformer.finish,model,generic]
    split
    · exact ⟨_,rfl⟩
    split
    · split <;> exact ⟨_,rfl⟩
    · exact ⟨_,rfl⟩
  obtain ⟨⟨remainder,final⟩,finish⟩ := finished
  exact ⟨_,by rw [run_consume codec arithmetic canonicalModel fresh chunks serves rfl rfl,ran,ok_bind,finish]; rfl⟩

end Totality

/-- How a stream is cut into chunks is invisible: the output, whether the transformer
closed, and the completed usage are those of the whole stream in one chunk. -/
theorem chunks_invisible (codec : Codec) (arithmetic : Decimal.Arithmetic) (prices : ProviderPrices)
    (policy : ProviderReportedCostPolicy) (canonicalModel : String) (chunks : List (List UInt8)) :
    (UsageCostTransformer.priced prices policy canonicalModel).run codec arithmetic chunks =
        (UsageCostTransformer.priced prices policy canonicalModel).run codec arithmetic [chunks.flatten] ∧
      ∀ result, (UsageCostTransformer.priced prices policy canonicalModel).run codec arithmetic chunks =
        .ok result → result.completed.length ≤ 1 := by
  have serves : ServesModel canonicalModel
    (UsageCostTransformer.priced prices policy canonicalModel).toEventState := rfl
  constructor
  · rw [run_consume codec arithmetic canonicalModel _ chunks serves rfl rfl,
      run_consume codec arithmetic canonicalModel _ [chunks.flatten] serves rfl rfl]
    simp
  · intro result ran
    exact run_completed codec arithmetic canonicalModel _ chunks result serves rfl rfl ran

theorem PublicValue.noError (canonicalModel : String) (value : Value)
    (isPublic : PublicValue canonicalModel value) : value.get "error" = none := by
  obtain ⟨fields,rfl⟩ := (Value.isObject_exists value).mp isPublic.isObject
  rw [Value.get_object,SortedMap.get_eq_none]
  intro field member same
  exact absurd (same ▸ isPublic.allowed fields rfl field member) (by decide)

theorem Accounts.cost (value : Value) (costed : Option CostedUsage) (usage : List (String × Value))
    (accounted : Accounts value costed) (found : value.get "usage" = some (.object usage)) :
    ∃ cost, get "cost" usage = some (.number cost) := by
  cases costed with
  | none => simp [Accounts,isTerminalUsageEvent,found,Value.isObject] at accounted
  | some costed =>
    obtain ⟨_,cost,read,stated,_⟩ := accounted
    rw [found] at read
    cases read
    exact ⟨cost,stated⟩

/-- What the client of a finished stream sees and what was billed for it. -/
structure SettledStream (reader : List UInt8 → Option Value) (result : StreamRun) (events : List Value) : Prop where
  ends : clientEvents reader result.output = events.map .json ++ [.done]
  once : result.completed.length ≤ 1
  billed : result.completed ≠ [] ↔ ∀ event ∈ events, event.get "error" = none
  stated : ∀ costed ∈ result.completed, ∃ event, (terminalEvents events).getLast? = some event ∧
    Carries event costed
  costs : ∀ event ∈ events, ∀ usage, event.get "usage" = some (.object usage) →
    ∃ cost, get "cost" usage = some (.number cost)

/-- Fifteen cents per million prompt tokens, sixty per million completion tokens. -/
def samplePrices : ProviderPrices :=
  ⟨⟨⟨false,15,2,by decide,by decide⟩,⟨false,60,2,by decide,by decide⟩⟩,none⟩

/-- A terminal event with a private member. -/
def sampleEvent (secret : String) : List UInt8 :=
  utf8 ("data: \x7b\"choices\":[],\"id\":\"c\",\"object\":\"chat.completion.chunk\",\"vendor\":\"" ++ secret ++
    "\",\"usage\":\x7b\"prompt_tokens\":16,\"completion_tokens\":3\x7d\x7d\n\n")

def sampleEnd : List UInt8 := utf8 "data: [DONE]\n\n"

/-- Whatever is emitted, and every accepted body, is public or the router's own error; and
inputs that agree on what is public cause the same output and the same completed usage. -/
theorem boundary_confidential (codec : Codec) (reader : List UInt8 → Option Value) (lawful : codec.Lawful reader)
    (arithmetic : Decimal.Arithmetic)
    (prices : ProviderPrices) (policy : ProviderReportedCostPolicy) (canonicalModel : String) :
    (∀ chunks last output completed,
      (UsageCostTransformer.priced prices policy canonicalModel).transformAll codec arithmetic chunks =
        .ok (last,output,completed) →
      ∀ reading ∈ clientEvents reader output, PublicReading canonicalModel reading) ∧
    (∀ chunks result,
      (UsageCostTransformer.priced prices policy canonicalModel).run codec arithmetic chunks = .ok result →
      ∀ reading ∈ clientEvents reader result.output, PublicReading canonicalModel reading) ∧
    (∀ body bytes, sanitizeAliasedJsonResponse codec body canonicalModel = .ok bytes →
      ∃ value, reader bytes = some value ∧ PublicValue canonicalModel value) ∧
    (∀ left right, StreamsAgree codec left.flatten right.flatten →
      (UsageCostTransformer.priced prices policy canonicalModel).run codec arithmetic left =
        (UsageCostTransformer.priced prices policy canonicalModel).run codec arithmetic right) ∧
    ∀ left right, BodiesAgree codec left right →
      sanitizeAliasedJsonResponse codec left canonicalModel =
        sanitizeAliasedJsonResponse codec right canonicalModel := by
  refine ⟨?_,?_,?_,?_,?_⟩
  · intro chunks last output completed ran
    exact transformAll_client codec reader arithmetic lawful prices policy canonicalModel chunks last output completed ran
  · intro chunks result ran
    obtain ⟨values,emitted,ending⟩ :=
      run_client codec reader arithmetic lawful prices policy canonicalModel chunks result ran
    have ends := endings_public canonicalModel
    rcases ending with ⟨_,read⟩ | ⟨_,read⟩
    · rw [read]
      exact readings_public codec canonicalModel values _ emitted ends.2.2
    · rw [read]
      exact readings_public codec canonicalModel values _ emitted ends.2.1
  · intro body bytes accepted
    obtain ⟨value,isPublic,read⟩ := sanitizeAliased_public codec reader lawful body bytes canonicalModel accepted
    exact ⟨value,read,isPublic⟩
  · exact fun left right agree => run_agree codec arithmetic lawful.ordered prices policy canonicalModel left right agree
  · exact fun left right agree => sanitizeAliased_agree codec lawful.ordered canonicalModel left right agree

/-- What the event with the private member reads as. -/
def sampleFields (secret : String) : List (String × Value) :=
  [("choices",.array []),("id",.string "c"),("object",.string "chat.completion.chunk"),
    ("usage",.object [("completion_tokens",.number ⟨"3",by decide⟩),("prompt_tokens",.number ⟨"16",by decide⟩)]),
    ("vendor",.string secret)]

theorem sampleFields_agree (one other : String) :
    AgreePublicly (.object (sampleFields one)) (.object (sampleFields other)) := by
  refine ⟨fun field isPublic _ => ?_,rfl⟩
  have different : field ≠ "vendor" := by rintro rfl; exact absurd isPublic (by decide)
  simp [sampleFields,SortedMap.get_cons,different]

theorem sampleStreams_agree :
    StreamsAgree JsonText.codec (sampleEvent "acme" ++ sampleEnd) (sampleEvent "zed" ++ sampleEnd) := by
  have acme : frames nextEventEnd (sampleEvent "acme" ++ sampleEnd) = ([sampleEvent "acme",sampleEnd],[]) := by
    decide +kernel
  have zed : frames nextEventEnd (sampleEvent "zed" ++ sampleEnd) = ([sampleEvent "zed",sampleEnd],[]) := by
    decide +kernel
  have acmeRead : readLine JsonText.codec.fromSlice (splitSeparator (sampleEvent "acme")).1 =
    .json (.object (sampleFields "acme")) := by decide +kernel
  have zedRead : readLine JsonText.codec.fromSlice (splitSeparator (sampleEvent "zed")).1 =
    .json (.object (sampleFields "zed")) := by decide +kernel
  have framed : eventFrame (sampleEvent "acme") = eventFrame (sampleEvent "zed") := by decide +kernel
  have marker : readLine JsonText.codec.fromSlice (splitSeparator sampleEnd).1 = .done := by decide +kernel
  rw [StreamsAgree,acme,zed]
  refine ⟨.cons ?_ (.cons ?_ .nil),rfl,fun _ => rfl⟩
  · rw [EventsAgree,acmeRead,zedRead]
    exact ⟨framed,sampleFields_agree "acme" "zed"⟩
  · rw [EventsAgree,marker]

theorem boundary_confidential_sample :
    (UsageCostTransformer.priced samplePrices .usageCostOnly "m").run JsonText.codec Decimal.exact
        [sampleEvent "acme" ++ sampleEnd] =
      (UsageCostTransformer.priced samplePrices .usageCostOnly "m").run JsonText.codec Decimal.exact
        [sampleEvent "zed" ++ sampleEnd] := by
  refine (boundary_confidential JsonText.codec _ JsonText.codec_lawful Decimal.exact samplePrices .usageCostOnly
    "m").2.2.2.1 _ _ ?_
  simpa using sampleStreams_agree

end SerenRouter
