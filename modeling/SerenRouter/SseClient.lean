import SerenRouter.SseRuns

/-! What a client reads from the output of a public transformer: the JSON events that were
emitted, in order, and one end marker behind which nothing follows. -/
namespace SerenRouter
open Kernel Kernel.Json Kernel.Framing

/-- A client's reading of a byte stream. A tail without separator is read as a last line. -/
def clientEvents (reader : List UInt8 → Option Value) (output : List UInt8) : List EventReading :=
  (frames nextEventEnd output).1.map (fun event => readLine reader (splitSeparator event).1) ++
    if (frames nextEventEnd output).2 = [] then []
    else [readLine reader (UsageCostTransformer.finalLine (frames nextEventEnd output).2)]

section Reading
variable (codec : Codec) (reader : List UInt8 → Option Value)

theorem clientEvents_nil : clientEvents reader [] = [] := rfl

theorem clientEvents_cons (event rest : List UInt8) (whole : nextEventEnd event = some event.length) :
    clientEvents reader (event ++ rest) = readLine reader (splitSeparator event).1 :: clientEvents reader rest := by
  simp only [clientEvents,frames_cons nextEventEnd nextEventEnd_stable event rest whole,List.map_cons,
    List.cons_append]

theorem readLine_done (line : List UInt8) :
    readLine reader line = .done ↔ ∃ dataPrefix, singleDataLine line = some (dataPrefix,done) := by
  unfold readLine
  constructor
  · intro read
    split at read
    · cases read
    rename_i dataPrefix data found
    split at read
    · rename_i marker
      exact ⟨dataPrefix,marker ▸ found⟩
    split at read <;> cases read
  · rintro ⟨dataPrefix,found⟩
    simp [found]

theorem clientEvents_done (event rest : List UInt8) (terminated : Terminated event)
    (read : readLine codec.fromSlice (splitSeparator event).1 = .done) :
    clientEvents reader (event ++ rest) = .done :: clientEvents reader rest := by
  obtain ⟨body,separator,split,ends,rfl⟩ := splitSeparator_terminated event terminated
  obtain ⟨dataPrefix,line⟩ := (readLine_done _ _).mp read
  have marked := (readLine_done reader _).mpr ⟨dataPrefix,line⟩
  rw [split] at line
  have single := (singleDataLine_success body dataPrefix done line).1
  rw [clientEvents_cons reader _ rest (nextEventEnd_event body separator single ends),marked]

theorem clientEvents_tail (pending : List UInt8) (unfinished : nextEventEnd pending = none)
    (marked : UsageCostTransformer.endsWithDone pending = true) : clientEvents reader pending = [.done] := by
  have nonempty : pending ≠ [] := by
    rintro rfl
    exact absurd marked (by decide)
  rw [clientEvents,frames_none nextEventEnd nextEventEnd_stable pending unfinished]
  rw [UsageCostTransformer.endsWithDone,Option.any_eq_true] at marked
  obtain ⟨⟨dataPrefix,data⟩,line,marker⟩ := marked
  simp only [beq_iff_eq] at marker
  subst marker
  simp [nonempty,readLine,line]

variable (lawful : codec.Lawful reader)
include lawful

theorem written_line (value : Value) (json : List UInt8) (isObject : value.isObject = true)
    (written : codec.toVec value = some json) : SingleLine json ∧ json.head? = some 123 := by
  obtain ⟨fields,rfl⟩ := (Value.isObject_exists value).mp isObject
  have compact := lawful.compact _ json written
  exact ⟨⟨fun present => (compact 10 present).1 rfl,fun present => (compact 13 present).2 rfl⟩,
    lawful.opens fields json written⟩

/-- An emitted event is read back as the value it was written from. -/
theorem clientEvents_writes (value : Value) (text rest : List UInt8) (isObject : value.isObject = true)
    (wellFormed : value.WellFormed) (writes : Writes codec value text) :
    clientEvents reader (text ++ rest) = .json value :: clientEvents reader rest := by
  obtain ⟨dataPrefix,json,separator,known,written,ends,rfl⟩ := writes
  obtain ⟨single,brace⟩ := written_line codec reader lawful value json isObject written
  have line := singleDataLine_prefixed dataPrefix json known single (by rw [brace]; decide)
  have whole := nextEventEnd_event (dataPrefix ++ json) separator
    (singleDataLine_success _ _ _ line).1 ends
  have notDone : json ≠ done := by
    rintro rfl
    exact absurd brace (by decide)
  rw [clientEvents_cons reader _ rest whole,splitSeparator_append _ _ ends]
  simp [readLine,line,notDone,lawful.understood value json wellFormed written]

theorem clientEvents_flatten (values : List Value) (texts : List (List UInt8)) (rest : List UInt8)
    (writes : List.Forall₂ (Writes codec) values texts)
    (readable : ∀ value ∈ values, value.isObject = true ∧ value.WellFormed) :
    clientEvents reader (texts.flatten ++ rest) = values.map .json ++ clientEvents reader rest := by
  induction writes with
  | nil => rfl
  | cons written writes ih =>
    obtain ⟨isObject,wellFormed⟩ := readable _ (List.mem_cons_self)
    rw [List.flatten_cons,List.append_assoc,
      clientEvents_writes codec reader lawful _ _ _ isObject wellFormed written,
      ih (fun value member => readable value (List.mem_cons_of_mem _ member))]
    rfl

omit lawful in
theorem genericUpstreamError_wellFormed (canonicalModel : String) :
    (genericUpstreamError canonicalModel).WellFormed := by
  have order : (["code","message","metadata"] : List String).Pairwise (· < ·) := by decide
  exact ⟨List.pairwise_singleton _ _,
    ⟨order,trivial,trivial,⟨List.pairwise_singleton _ _,trivial,trivial⟩,trivial⟩,trivial⟩

theorem clientEvents_generic (canonicalModel : String) (text : List UInt8)
    (generic : genericUpstreamErrorEvent codec canonicalModel = .ok text) :
    clientEvents reader text = [.json (genericUpstreamError canonicalModel),.done] := by
  rw [genericUpstreamErrorEvent,bind_success] at generic
  obtain ⟨json,written,generic⟩ := generic
  rw [expect_success] at written
  cases generic
  have halves : utf8 "\n\ndata: [DONE]\n\n" = lfSeparator ++ (utf8 "data: [DONE]\n\n" ++ []) := rfl
  rw [halves,← List.append_assoc,clientEvents_writes codec reader lawful (genericUpstreamError canonicalModel) _ _ rfl
    (genericUpstreamError_wellFormed canonicalModel)
    ⟨utf8 "data: ",json,lfSeparator,.inr rfl,written,.inl rfl,rfl⟩,
    clientEvents_done codec reader (utf8 "data: [DONE]\n\n") [] (.inl ⟨utf8 "data: [DONE]",rfl⟩) rfl]
  rfl

end Reading

/-- A public reading: a public event, the generic error, or the end. -/
def PublicReading (canonicalModel : String) : EventReading → Prop
  | .malformed => False
  | .done => True
  | .json value => PublicValue canonicalModel value ∨ value = genericUpstreamError canonicalModel

theorem readings_public (codec : Codec) (canonicalModel : String) (values : List Value) (rest : List EventReading)
    (emitted : ∀ value ∈ values, EmittedEvent codec canonicalModel value)
    (ends : ∀ reading ∈ rest, PublicReading canonicalModel reading) :
    ∀ reading ∈ values.map EventReading.json ++ rest, PublicReading canonicalModel reading := by
  intro reading member
  rcases List.mem_append.mp member with inside | tail
  · obtain ⟨value,present,rfl⟩ := List.mem_map.mp inside
    exact .inl (emitted value present).isPublic
  · exact ends reading tail

theorem endings_public (canonicalModel : String) :
    (∀ reading ∈ ([] : List EventReading), PublicReading canonicalModel reading) ∧
      (∀ reading ∈ [EventReading.done], PublicReading canonicalModel reading) ∧
      ∀ reading ∈ [.json (genericUpstreamError canonicalModel),EventReading.done],
        PublicReading canonicalModel reading := by
  simp [PublicReading]

section PublicRuns
variable (codec : Codec) (reader : List UInt8 → Option Value) (arithmetic : Decimal.Arithmetic) (lawful : codec.Lawful reader)
include lawful

/-- What the events of a buffer make a client read, and how the buffer left the transformer. -/
theorem consume_client (canonicalModel : String) (state : EventState) (events : List (List UInt8))
    (tail rest : List UInt8) (progress : Progress EventState UInt8 UInt8 CostedUsage)
    (serves : ServesModel canonicalModel state) (priced : state.prices.isSome = true)
    (active : state.closed = false) (terminated : ∀ event ∈ events, Terminated event)
    (ran : (eventMachine codec arithmetic).consume state events tail = .ok progress) :
    ∃ values, (∀ value ∈ values, EmittedEvent codec canonicalModel value) ∧
      ((progress.state.closed = false ∧ progress.pending = tail ∧ progress.completed = none ∧
          Charged state.costedUsage values progress.state.costedUsage ∧
          clientEvents reader (progress.output ++ rest) = values.map .json ++ clientEvents reader rest) ∨
        (progress.state.closed = true ∧ progress.completed = none ∧
          clientEvents reader progress.output =
            values.map .json ++ [.json (genericUpstreamError canonicalModel),.done]) ∨
        (progress.state.closed = true ∧ (∃ costed, progress.completed = some costed ∧
          Charged state.costedUsage values (some costed)) ∧
          clientEvents reader progress.output = values.map .json ++ [.done])) := by
  obtain ⟨values,texts,last,writes,emitted,output,ending⟩ :=
    consume_public codec arithmetic canonicalModel state events tail progress serves priced active terminated ran
  have readable : ∀ value ∈ values, value.isObject = true ∧ value.WellFormed :=
    fun value member => ⟨(emitted value member).isPublic.isObject,(emitted value member).wellFormed lawful.ordered⟩
  refine ⟨values,emitted,?_⟩
  obtain ⟨next,pending,produced,completed⟩ := progress
  dsimp only at output ending ⊢
  subst output
  cases ending with
  | unfinished active charged =>
    refine .inl ⟨active,rfl,rfl,charged,?_⟩
    rw [List.append_nil]
    exact clientEvents_flatten codec reader lawful values texts rest writes readable
  | refused shut text generic =>
    refine .inr (.inl ⟨shut,rfl,?_⟩)
    rw [clientEvents_flatten codec reader lawful values texts _ writes readable,
      clientEvents_generic codec reader lawful canonicalModel last generic]
  | settled shut event costed terminated read charged =>
    refine .inr (.inr ⟨shut,⟨costed,rfl,charged⟩,?_⟩)
    have end_ := clientEvents_done codec reader last [] terminated read
    rw [List.append_nil] at end_
    rw [clientEvents_flatten codec reader lawful values texts _ writes readable,end_,clientEvents_nil]

/-- Whatever a transformer has emitted so far reads publicly. -/
theorem transformAll_client (prices : ProviderPrices) (policy : ProviderReportedCostPolicy)
    (canonicalModel : String) (chunks : List (List UInt8)) (last : UsageCostTransformer) (output : List UInt8)
    (completed : List CostedUsage)
    (ran : (UsageCostTransformer.priced prices policy canonicalModel).transformAll codec arithmetic chunks =
      .ok (last,output,completed)) :
    ∀ reading ∈ clientEvents reader output, PublicReading canonicalModel reading := by
  let fresh := UsageCostTransformer.priced prices policy canonicalModel
  have serves : ServesModel canonicalModel fresh.toEventState := rfl
  have active : (eventMachine codec arithmetic).closed fresh.toEventState = false := rfl
  rw [transformAll_flatten codec arithmetic canonicalModel fresh chunks serves rfl,Machine.feed,active,
    if_neg (by simp),Machine.drain_consume,bind_success] at ran
  obtain ⟨progress,consumed,ran⟩ := ran
  cases ran
  obtain ⟨values,emitted,ending⟩ := consume_client codec reader arithmetic lawful canonicalModel _ _ _ [] progress
    serves rfl rfl (events_terminated _) consumed
  have ends := endings_public canonicalModel
  rcases ending with ⟨_,_,_,_,read⟩ | ⟨_,_,read⟩ | ⟨_,_,read⟩
  · rw [List.append_nil,clientEvents_nil] at read
    rw [read]
    exact readings_public codec canonicalModel values _ emitted ends.1
  · rw [read]
    exact readings_public codec canonicalModel values _ emitted ends.2.2
  · rw [read]
    exact readings_public codec canonicalModel values _ emitted ends.2.1

omit lawful in
theorem finish_public (canonicalModel : String) (transformer : UsageCostTransformer) (remainder : List UInt8)
    (final : Option CostedUsage) (serves : ServesModel canonicalModel transformer.toEventState)
    (priced : transformer.prices.isSome = true) (active : transformer.closed = false)
    (finished : transformer.finish codec = .ok (remainder,final)) :
    (final = none ∧ genericUpstreamErrorEvent codec canonicalModel = .ok remainder) ∨
      ∃ costed, final = some costed ∧ transformer.costedUsage = some costed ∧
        remainder = transformer.pending ∧ UsageCostTransformer.endsWithDone transformer.pending = true := by
  have model : transformer.responseModel = some canonicalModel := serves
  rw [UsageCostTransformer.finish,active,if_neg (by simp)] at finished
  simp only [model,priced,true_and] at finished
  split at finished
  · rename_i marked
    cases stored : transformer.costedUsage with
    | none =>
      simp only [stored,Option.isNone_none,if_true] at finished
      rw [bind_success] at finished
      obtain ⟨text,generic,finished⟩ := finished
      cases finished
      exact .inl ⟨rfl,generic⟩
    | some costed =>
      simp only [stored,Option.isNone_some,Bool.false_eq_true,if_false] at finished
      cases finished
      exact .inr ⟨costed,rfl,rfl,rfl,marked⟩
  · rw [bind_success] at finished
    obtain ⟨text,generic,finished⟩ := finished
    cases finished
    exact .inl ⟨rfl,generic⟩

/-- A finished run: public events, then either the generic error with nothing billed, or a
billed end whose cost the last terminal event states. -/
theorem run_client (prices : ProviderPrices) (policy : ProviderReportedCostPolicy) (canonicalModel : String)
    (chunks : List (List UInt8)) (result : StreamRun)
    (ran : (UsageCostTransformer.priced prices policy canonicalModel).run codec arithmetic chunks = .ok result) :
    ∃ values, (∀ value ∈ values, EmittedEvent codec canonicalModel value) ∧
      ((result.completed = [] ∧ clientEvents reader result.output =
          values.map .json ++ [.json (genericUpstreamError canonicalModel),.done]) ∨
        ((∃ costed, result.completed = [costed] ∧ Charged none values (some costed)) ∧
          clientEvents reader result.output = values.map .json ++ [.done])) := by
  let fresh := UsageCostTransformer.priced prices policy canonicalModel
  have serves : ServesModel canonicalModel fresh.toEventState := rfl
  rw [run_consume codec arithmetic canonicalModel fresh chunks serves rfl rfl,bind_success] at ran
  obtain ⟨progress,consumed,ran⟩ := ran
  rw [bind_success] at ran
  obtain ⟨⟨remainder,final⟩,finished,ran⟩ := ran
  cases ran
  obtain ⟨values,emitted,ending⟩ := consume_client codec reader arithmetic lawful canonicalModel _ _ _ remainder progress
    serves rfl rfl (events_terminated _) consumed
  refine ⟨values,emitted,?_⟩
  dsimp only
  rcases ending with ⟨active,kept,silent,charged,read⟩ | ⟨shut,silent,read⟩ | ⟨shut,⟨costed,completes,charged⟩,read⟩
  · have configured := (eventMachine codec arithmetic).consume_preserves
      (fun state => ServesModel canonicalModel state ∧ state.prices.isSome = true)
      (by
        intro state event next output completion holds stepped
        have step := eventMachine_step codec arithmetic canonicalModel _ _ _ _ _ holds.1 stepped
        exact ⟨step.configuration.1.trans holds.1,by rw [step.configuration.2.1]; exact holds.2⟩)
      _ _ _ progress ⟨serves,rfl⟩ consumed
    rw [read]
    rcases finish_public codec canonicalModel _ remainder final configured.1 configured.2 active finished
      with ⟨rfl,generic⟩ | ⟨costed,rfl,stored,rfl,marked⟩
    · exact .inl ⟨by simp [silent],by rw [clientEvents_generic codec reader lawful canonicalModel _ generic]⟩
    · have unfinished := tail_unfinished nextEventEnd nextEventEnd_stable chunks.flatten
      rw [← kept] at unfinished
      refine .inr ⟨⟨costed,by simp [silent],?_⟩,by rw [clientEvents_tail reader _ unfinished marked]⟩
      rw [← stored]
      exact charged
  · rw [UsageCostTransformer.finish,if_pos (show progress.state.closed = true from shut)] at finished
    cases finished
    exact .inl ⟨by simp [silent],by simpa using read⟩
  · rw [UsageCostTransformer.finish,if_pos (show progress.state.closed = true from shut)] at finished
    cases finished
    exact .inr ⟨⟨costed,by simp [completes],charged⟩,by simpa using read⟩

end PublicRuns

end SerenRouter
