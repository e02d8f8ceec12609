import SerenRouter.StreamGuarantees

/-! Comment frames in a public stream. The transformer takes any frame but a single data line
for a malformed event, so a comment ends the stream with the generic error; it goes
unnoticed exactly where the stream is over, or would be refused there anyway. -/
namespace SerenRouter
open Kernel Kernel.Json Kernel.Framing

/-- A line feed, with or without a carriage return. -/
def IsLineEnding (bytes : List UInt8) : Prop := bytes = [10] ∨ bytes = [13,10]

/-- A colon, a text, and the end of the line. -/
structure CommentLine where
  text : List UInt8
  ending : List UInt8
  single : SingleLine text
  ends : IsLineEnding ending

def CommentLine.bytes (line : CommentLine) : List UInt8 := 58 :: (line.text ++ line.ending)

/-- Comment lines, and the blank line that ends the frame. -/
structure CommentFrame where
  first : CommentLine
  rest : List CommentLine
  blank : List UInt8
  ends : IsLineEnding blank

def CommentFrame.bytes (frame : CommentFrame) : List UInt8 :=
  frame.first.bytes ++ (frame.rest.map CommentLine.bytes).flatten ++ frame.blank

inductive StreamPart where
  | event (bytes : List UInt8)
  | comment (frame : CommentFrame)

def eventsOf : List StreamPart → List (List UInt8)
  | [] => []
  | .event bytes :: parts => bytes :: eventsOf parts
  | .comment _ :: parts => eventsOf parts

def wire : List StreamPart → List UInt8
  | [] => []
  | .event bytes :: parts => bytes ++ wire parts
  | .comment frame :: parts => frame.bytes ++ wire parts

/-- The events in front of the first comment, and those behind it if there is one. -/
def atFirstComment : List StreamPart → List (List UInt8) × Option (List (List UInt8))
  | [] => ([],none)
  | .event bytes :: parts => (bytes :: (atFirstComment parts).1,(atFirstComment parts).2)
  | .comment _ :: parts => ([],some (eventsOf parts))

theorem atFirstComment_none (parts : List StreamPart) (absent : (atFirstComment parts).2 = none) :
    wire parts = (eventsOf parts).flatten := by
  induction parts with
  | nil => rfl
  | cons part parts ih =>
    cases part with
    | event bytes => rw [wire,eventsOf,List.flatten_cons,ih absent]
    | comment frame => cases absent

/-- The stream up to the first comment is that of the events; there a colon follows. -/
theorem atFirstComment_some (parts : List StreamPart) (behind : List (List UInt8))
    (present : (atFirstComment parts).2 = some behind) :
    eventsOf parts = (atFirstComment parts).1 ++ behind ∧
      ∃ more, wire parts = (atFirstComment parts).1.flatten ++ 58 :: more := by
  induction parts with
  | nil => cases present
  | cons part parts ih =>
    cases part with
    | event bytes =>
      obtain ⟨events,more,written⟩ := ih present
      exact ⟨by rw [eventsOf,events]; rfl,more,by rw [wire,written]; simp [atFirstComment]⟩
    | comment frame =>
      cases present
      exact ⟨rfl,_,rfl⟩

theorem singleDataLine_colon (line more : List UInt8) (starts : line <+: 58 :: more) : singleDataLine line = none := by
  cases read : singleDataLine line with
  | none => rfl
  | some parts =>
    obtain ⟨_,known,rfl⟩ := singleDataLine_success line parts.1 parts.2 read
    obtain ⟨rest,joined⟩ := starts
    have head := congrArg List.head? joined
    rcases known with marker | marker <;>
      simp [marker,show utf8 "data:" = [100,97,116,97,58] from rfl,
        show utf8 "data: " = [100,97,116,97,58,32] from rfl] at head

theorem splitSeparator_starts (event : List UInt8) : (splitSeparator event).1 <+: event := by
  unfold splitSeparator
  split
  · rw [List.splitAt_eq]
    exact List.take_prefix _ event
  · rw [List.splitAt_eq]
    exact List.take_prefix _ event

theorem finalLine_starts (pending : List UInt8) : UsageCostTransformer.finalLine pending <+: pending := by
  have dropped (ending line : List UInt8) (found : pending.dropSuffix? ending = some line) : line <+: pending := by
    obtain ⟨rest,rfl,_⟩ := List.dropSuffix?_eq_some_iff.mp found
    exact List.prefix_append line rest
  unfold UsageCostTransformer.finalLine
  cases crlf : pending.dropSuffix? [13,10] with
  | some line => exact dropped _ line crlf
  | none =>
    cases lf : pending.dropSuffix? [10] with
    | some line => exact dropped _ line lf
    | none => exact List.prefix_rfl

section Runs
variable (codec : Codec) (reader : List UInt8 → Option Value) (arithmetic : Decimal.Arithmetic)
  (canonicalModel : String)

/-- The rest of a run: the events of a buffer, then the end of the input. -/
def runFrom (state : EventState) (buffer : List UInt8) : Except Panic StreamRun := do
  let progress ← (eventMachine codec arithmetic).consume state (frames nextEventEnd buffer).1
    (frames nextEventEnd buffer).2
  let (remainder,final) ← (⟨progress.state,progress.pending⟩ : UsageCostTransformer).finish codec
  return ⟨progress.output ++ remainder,progress.state.closed,progress.completed.toList ++ final.toList⟩

/-- What a client reads, and what is completed. -/
def clientOutcome (result : Except Panic StreamRun) : Except Panic (List EventReading × List CostedUsage) :=
  result.map (fun run => (clientEvents reader run.output,run.completed))

theorem clientOutcome_success (result : Except Panic StreamRun) (events : List EventReading)
    (completed : List CostedUsage) :
    clientOutcome reader result = .ok (events,completed) ↔
      ∃ run, result = .ok run ∧ clientEvents reader run.output = events ∧ run.completed = completed := by
  cases result with
  | error panic => simp [clientOutcome,Except.map]
  | ok run => simp [clientOutcome,Except.map]

/-- A transformer that is over, or answers the next event, or the end of the input, with the
generic error. -/
def OverOrRefused (state : EventState) (events : List (List UInt8)) (tail : List UInt8) : Prop :=
  state.closed = true ∨
    match events with
    | event :: _ => state.transformPublicEvent codec arithmetic event canonicalModel =
        state.closeWithGenericError codec canonicalModel
    | [] => UsageCostTransformer.endsWithDone tail = false ∨ (state.prices.isSome ∧ state.costedUsage.isNone)

/-- No comment reaches an open transformer, unless the stream would be refused there anyway. -/
def CommentsUnreached (state : EventState) (parts : List StreamPart) (tail : List UInt8) : Prop :=
  ∀ behind, (atFirstComment parts).2 = some behind →
    ∀ progress, (eventMachine codec arithmetic).consume state (atFirstComment parts).1 [] = .ok progress →
      OverOrRefused codec arithmetic canonicalModel progress.state behind tail

theorem run_runFrom (transformer : UsageCostTransformer) (chunks : List (List UInt8))
    (serves : ServesModel canonicalModel transformer.toEventState) (fresh : transformer.pending = [])
    (active : transformer.closed = false) :
    transformer.run codec arithmetic chunks = runFrom codec arithmetic transformer.toEventState chunks.flatten :=
  run_consume codec arithmetic canonicalModel transformer chunks serves fresh active

section State
variable (state : EventState) (serves : ServesModel canonicalModel state) (active : state.closed = false)
include serves active

/-- A run over some events and a buffer behind them: a transformer that the events close drops
the buffer. -/
theorem runFrom_append (events : List (List UInt8)) (buffer : List UInt8)
    (whole : ∀ event ∈ events, nextEventEnd event = some event.length) :
    runFrom codec arithmetic state (events.flatten ++ buffer) = (do
      let progress ← (eventMachine codec arithmetic).consume state events []
      if progress.state.closed then .ok ⟨progress.output,true,progress.completed.toList⟩
      else
        let rest ← runFrom codec arithmetic progress.state buffer
        .ok ⟨progress.output ++ rest.output,rest.closed,rest.completed⟩) := by
  have open_ : (eventMachine codec arithmetic).closed state = false := active
  rw [runFrom,frames_flatten nextEventEnd nextEventEnd_stable events buffer whole,
    (eventMachine codec arithmetic).consume_append state events _ [] _ open_,bind_assoc]
  apply bind_congr_right
  intro progress consumed
  cases shut : progress.state.closed with
  | true =>
    rw [if_pos (show (eventMachine codec arithmetic).closed progress.state = true from shut)]
    simp [UsageCostTransformer.finish,shut,pure,Except.pure]
  | false =>
    have silent : progress.completed = none := by
      cases completes : progress.completed with
      | none => rfl
      | some costed =>
        have closes := Machine.consume_completed _ _ (eventMachine_preserves codec arithmetic canonicalModel)
          (eventMachine_completesOnce codec arithmetic canonicalModel) state events [] progress serves consumed costed
          completes
        rw [show (eventMachine codec arithmetic).closed progress.state = false from shut] at closes
        cases closes
    rw [show (eventMachine codec arithmetic).closed progress.state = false from shut]
    simp only [Bool.false_eq_true,if_false,runFrom,bind_assoc]
    apply bind_congr_right
    intro rest _
    simp [silent,pure,Except.pure,List.append_assoc]

variable (text : List UInt8) (generic : genericUpstreamErrorEvent codec canonicalModel = .ok text)
include generic

theorem runFrom_colon (more : List UInt8) :
    ∃ closed, runFrom codec arithmetic state (58 :: more) = .ok ⟨text,closed,[]⟩ := by
  have model : state.responseModel = some canonicalModel := serves
  cases found : nextEventEnd (58 :: more) with
  | none =>
    have unmarked : UsageCostTransformer.endsWithDone (58 :: more) = false := by
      rw [UsageCostTransformer.endsWithDone,singleDataLine_colon _ more (finalLine_starts _)]
      rfl
    refine ⟨false,?_⟩
    rw [runFrom,frames_none nextEventEnd nextEventEnd_stable _ found]
    simp [Machine.consume,UsageCostTransformer.finish,active,model,unmarked,generic,pure,Except.pure]
  | some length =>
    have refused : (eventMachine codec arithmetic).step state ((58 :: more).take length) =
        .ok ({ state with closed := true, costedUsage := none },text,none) := by
      have line := singleDataLine_colon _ more
        ((splitSeparator_starts ((58 :: more).take length)).trans (List.take_prefix length _))
      simp [eventMachine,EventState.transformEvent,model,EventState.transformPublicEvent,line,
        EventState.closeWithGenericError,generic,pure,Except.pure]
    refine ⟨true,?_⟩
    rw [runFrom,frames_some nextEventEnd nextEventEnd_stable _ length found,Machine.consume,refused,ok_bind]
    simp [eventMachine,UsageCostTransformer.finish,pure,Except.pure]

variable (lawful : codec.Lawful reader) (priced : state.prices.isSome = true)
include lawful priced

/-- The client reads the generic error at once exactly when the next event, or the end of the
input, is refused. -/
theorem runFrom_refused (buffer : List UInt8) :
    clientOutcome reader (runFrom codec arithmetic state buffer) =
        .ok ([.json (genericUpstreamError canonicalModel),.done],[]) ↔
      OverOrRefused codec arithmetic canonicalModel state (frames nextEventEnd buffer).1
        (frames nextEventEnd buffer).2 := by
  have model : state.responseModel = some canonicalModel := serves
  have read := clientEvents_generic codec reader lawful canonicalModel text generic
  have refusal : state.closeWithGenericError codec canonicalModel =
      .ok ({ state with closed := true, costedUsage := none },text,none) := by
    rw [EventState.closeWithGenericError,generic]
    rfl
  have terminated := events_terminated buffer
  unfold runFrom OverOrRefused
  simp only [active,Bool.false_eq_true,false_or]
  generalize (frames nextEventEnd buffer).2 = tail at *
  cases cut : (frames nextEventEnd buffer).1 with
  | nil =>
    simp only [Machine.consume,ok_bind,UsageCostTransformer.finish,active,Bool.false_eq_true,if_false,model]
    cases marked : UsageCostTransformer.endsWithDone tail with
    | false => simp [generic,pure,Except.pure,clientOutcome,Except.map,read]
    | true =>
      cases stored : state.costedUsage with
      | none => simp [priced,generic,pure,Except.pure,clientOutcome,Except.map,read]
      | some costed => simp [pure,Except.pure,clientOutcome,Except.map]
  | cons event events =>
    have ends := terminated event (by rw [cut]; simp)
    have unfolded : (eventMachine codec arithmetic).step state event =
        state.transformPublicEvent codec arithmetic event canonicalModel := by
      simp only [eventMachine,EventState.transformEvent]
      rw [model]
    rw [Machine.consume,unfolded]
    dsimp only
    cases stepped : state.transformPublicEvent codec arithmetic event canonicalModel with
    | error panic => simp [clientOutcome,Except.map,refusal]
    | ok result =>
      obtain ⟨next,output,completion⟩ := result
      have step := transformPublicEvent_step codec arithmetic canonicalModel state next event output completion stepped
      rw [refusal]
      cases step with
      | refused text' generic' =>
        rw [generic] at generic'
        cases generic'
        simp [eventMachine,UsageCostTransformer.finish,pure,Except.pure,clientOutcome,Except.map,read]
      | settled available _ =>
        obtain ⟨costed,stored⟩ := Option.isSome_iff_exists.mp (available priced)
        simp [eventMachine,UsageCostTransformer.finish,pure,Except.pure,clientOutcome,Except.map,stored]
      | passed value _ costed written isPublic wellFormed accounted =>
        refine iff_of_false (fun reads => ?_) (fun same => ?_)
        · -- A passed event is read first, and it is not the generic error.
          have open_ : (eventMachine codec arithmetic).closed
              { state with costedUsage := costed.or state.costedUsage } = false := active
          rw [ok_bind,open_,if_neg (by simp),clientOutcome_success] at reads
          obtain ⟨run,ran,first,_⟩ := reads
          rw [bind_success] at ran
          obtain ⟨progress,consumed,ran⟩ := ran
          rw [bind_success] at consumed ran
          obtain ⟨later,_,consumed⟩ := consumed
          obtain ⟨last,_,ran⟩ := ran
          cases consumed
          cases ran
          dsimp only at first
          rw [List.append_assoc,clientEvents_writes codec reader lawful value output _ isPublic.isObject
            (wellFormed lawful.ordered) (written ends)] at first
          have same := EventReading.json.inj (List.cons.inj first).1
          rw [same] at isPublic
          cases isPublic.noError
        · have shut := congrArg EventState.closed (Prod.mk.inj (Except.ok.inj same)).1
          rw [show EventState.closed _ = state.closed from rfl,active] at shut
          cases shut

end State

end Runs

theorem clientOutcome_behind (codec : Codec) (reader : List UInt8 → Option Value) (lawful : codec.Lawful reader)
    (arithmetic : Decimal.Arithmetic) (canonicalModel : String) (state : EventState) (events : List (List UInt8))
    (progress : Progress EventState UInt8 UInt8 CostedUsage) (serves : ServesModel canonicalModel state)
    (priced : state.prices.isSome = true) (active : state.closed = false)
    (terminated : ∀ event ∈ events, Terminated event)
    (consumed : (eventMachine codec arithmetic).consume state events [] = .ok progress)
    (notClosed : progress.state.closed = false) :
    ∃ values : List Value, ∀ rest : Except Panic StreamRun,
      clientOutcome reader (do let rest ← rest; .ok ⟨progress.output ++ rest.output,rest.closed,rest.completed⟩) =
        (clientOutcome reader rest).map (fun outcome => (values.map .json ++ outcome.1,outcome.2)) := by
  obtain ⟨values,texts,last,writes,emitted,output,ending⟩ :=
    consume_public codec arithmetic canonicalModel state events [] progress serves priced active terminated consumed
  have readable (value : Value) (member : value ∈ values) : value.isObject = true ∧ value.WellFormed :=
    ⟨(emitted value member).isPublic.isObject,(emitted value member).wellFormed lawful.ordered⟩
  refine ⟨values,fun rest => ?_⟩
  cases rest with
  | error panic => rfl
  | ok rest =>
    have silent : last = [] := by
      obtain ⟨stop,pending,_,completed⟩ := progress
      dsimp only at ending notClosed
      cases ending with
      | unfinished active charged => rfl
      | refused shut text generic => rw [notClosed] at shut; cases shut
      | settled shut event costed ends read charged => rw [notClosed] at shut; cases shut
    simp only [clientOutcome,ok_bind,Except.map]
    rw [output,silent,List.append_nil,clientEvents_flatten codec reader lawful values texts rest.output writes readable]

/-- A colon behind some events changes nothing exactly when the events close the transformer,
or what is behind them is refused at once. -/
theorem interrupted_iff (codec : Codec) (reader : List UInt8 → Option Value) (lawful : codec.Lawful reader)
    (arithmetic : Decimal.Arithmetic) (canonicalModel : String) (state : EventState)
    (serves : ServesModel canonicalModel state) (priced : state.prices.isSome = true) (active : state.closed = false)
    (before behind : List (List UInt8)) (tail more : List UInt8)
    (whole : ∀ event ∈ before, nextEventEnd event = some event.length)
    (terminated : ∀ event ∈ before, Terminated event)
    (back : frames nextEventEnd (behind.flatten ++ tail) = (behind,tail)) :
    clientOutcome reader (runFrom codec arithmetic state (before.flatten ++ 58 :: more)) =
        clientOutcome reader (runFrom codec arithmetic state (before.flatten ++ (behind.flatten ++ tail))) ↔
      ∀ progress, (eventMachine codec arithmetic).consume state before [] = .ok progress →
        OverOrRefused codec arithmetic canonicalModel progress.state behind tail := by
  rw [runFrom_append codec arithmetic canonicalModel state serves active before _ whole,
    runFrom_append codec arithmetic canonicalModel state serves active before _ whole]
  cases consumed : (eventMachine codec arithmetic).consume state before [] with
  | error panic => simp
  | ok progress =>
    simp only [ok_bind,Except.ok.injEq,forall_eq']
    cases shut : progress.state.closed with
    | true => simp [OverOrRefused,shut]
    | false =>
      obtain ⟨kept,configured⟩ := (eventMachine codec arithmetic).consume_preserves
        (fun state => ServesModel canonicalModel state ∧ state.prices.isSome = true)
        (by
          intro state event next output completion holds stepped
          have step := eventMachine_step codec arithmetic canonicalModel _ _ _ _ _ holds.1 stepped
          exact ⟨step.configuration.1.trans holds.1,by rw [step.configuration.2.1]; exact holds.2⟩)
        state before [] progress ⟨serves,priced⟩ consumed
      obtain ⟨text,generic⟩ := genericUpstreamErrorEvent_total codec lawful.total canonicalModel
      obtain ⟨closed,refused⟩ := runFrom_colon codec arithmetic canonicalModel progress.state kept shut text generic more
      obtain ⟨values,behindReads⟩ := clientOutcome_behind codec reader lawful arithmetic canonicalModel state before
        progress serves priced active terminated consumed shut
      have asRefused := runFrom_refused codec reader arithmetic canonicalModel progress.state kept shut text generic
        lawful configured (behind.flatten ++ tail)
      rw [back] at asRefused
      simp only [Bool.false_eq_true,if_false]
      rw [behindReads,behindReads,refused,← asRefused]
      have read := clientEvents_generic codec reader lawful canonicalModel text generic
      cases plain : clientOutcome reader (runFrom codec arithmetic progress.state (behind.flatten ++ tail)) with
      | error panic => simp [clientOutcome,Except.map]
      | ok outcome =>
        simp only [clientOutcome,Except.map,read,Except.ok.injEq,Prod.mk.injEq,List.append_cancel_left_eq]
        rw [Prod.ext_iff]
        constructor
        · rintro ⟨first,second⟩
          exact ⟨first.symm,second.symm⟩
        · rintro ⟨first,second⟩
          exact ⟨first.symm,second.symm⟩

/-- Inserted comments are transparent exactly when none of them reaches an open transformer,
or the stream would be refused there anyway. -/
theorem comments_transparent_iff (codec : Codec) (reader : List UInt8 → Option Value) (lawful : codec.Lawful reader)
    (arithmetic : Decimal.Arithmetic) (prices : ProviderPrices) (policy : ProviderReportedCostPolicy)
    (canonicalModel : String) (chunks woven : List (List UInt8)) (parts : List StreamPart)
    (events : eventsOf parts = (frames nextEventEnd chunks.flatten).1)
    (inserted : woven.flatten = wire parts ++ (frames nextEventEnd chunks.flatten).2) :
    clientOutcome reader ((UsageCostTransformer.priced prices policy canonicalModel).run codec arithmetic woven) =
        clientOutcome reader ((UsageCostTransformer.priced prices policy canonicalModel).run codec arithmetic chunks) ↔
      CommentsUnreached codec arithmetic canonicalModel
        (UsageCostTransformer.priced prices policy canonicalModel).toEventState parts
        (frames nextEventEnd chunks.flatten).2 := by
  let fresh := UsageCostTransformer.priced prices policy canonicalModel
  have serves : ServesModel canonicalModel fresh.toEventState := rfl
  have joined := frames_join nextEventEnd nextEventEnd_stable chunks.flatten
  rw [run_runFrom codec arithmetic canonicalModel fresh woven serves rfl rfl,
    run_runFrom codec arithmetic canonicalModel fresh chunks serves rfl rfl]
  cases found : (atFirstComment parts).2 with
  | none =>
    have same : woven.flatten = chunks.flatten := by rw [inserted,atFirstComment_none parts found,events,joined]
    rw [same]
    exact iff_of_true rfl (fun behind present => by rw [found] at present; cases present)
  | some behind =>
    obtain ⟨split,more,written⟩ := atFirstComment_some parts behind found
    have whole := events_whole chunks.flatten
    have terminated := events_terminated chunks.flatten
    have unfinished := tail_unfinished nextEventEnd nextEventEnd_stable chunks.flatten
    have back : frames nextEventEnd (behind.flatten ++ (frames nextEventEnd chunks.flatten).2) =
        (behind,(frames nextEventEnd chunks.flatten).2) := by
      rw [frames_flatten nextEventEnd nextEventEnd_stable behind _
        (fun event member => whole event (by rw [← events,split]; simp [member])),
        frames_none nextEventEnd nextEventEnd_stable _ unfinished,List.append_nil]
    have front (event : List UInt8) (member : event ∈ (atFirstComment parts).1) :
        event ∈ (frames nextEventEnd chunks.flatten).1 := by
      rw [← events,split]
      simp [member]
    have plain : chunks.flatten = (atFirstComment parts).1.flatten ++
        (behind.flatten ++ (frames nextEventEnd chunks.flatten).2) := by
      rw [← List.append_assoc,← List.flatten_append,← split,events,joined]
    rw [inserted,written,List.append_assoc,List.cons_append]
    conv_lhs => rhs; rw [plain]
    rw [interrupted_iff codec reader lawful arithmetic canonicalModel fresh.toEventState serves rfl rfl _ behind _ _
      (fun event member => whole event (front event member))
      (fun event member => terminated event (front event member)) back]
    simp [CommentsUnreached,found,fresh]

section Sample

/-- `: keepalive`, and a blank line. -/
def keepalive : CommentFrame :=
  ⟨⟨utf8 " keepalive",[10],by unfold SingleLine; decide +kernel,.inl rfl⟩,[],[10],.inl rfl⟩

def plainStream : List UInt8 := sampleEvent "acme" ++ sampleEnd

theorem plainStream_frames :
    frames nextEventEnd plainStream = ([sampleEvent "acme",sampleEnd],[]) := by decide +kernel

def sampleRun (bytes : List UInt8) : Except Panic StreamRun :=
  (UsageCostTransformer.priced samplePrices .usageCostOnly "m").run JsonText.codec Decimal.exact [bytes]

/-- A comment behind the end marker is not noticed. -/
theorem comments_transparent_sample :
    clientOutcome JsonText.codec.fromSlice (sampleRun (plainStream ++ keepalive.bytes)) =
      clientOutcome JsonText.codec.fromSlice (sampleRun plainStream) := by
  have whole := plainStream_frames
  apply (comments_transparent_iff JsonText.codec _ JsonText.codec_lawful Decimal.exact samplePrices .usageCostOnly "m"
    [plainStream] [plainStream ++ keepalive.bytes]
    [.event (sampleEvent "acme"),.event sampleEnd,.comment keepalive] (by simp [whole,eventsOf])
    (by simp only [List.flatten_singleton,whole,List.append_nil]; simp [wire,plainStream])).mpr
  intro behind _ progress consumed
  have shut : ((eventMachine JsonText.codec Decimal.exact).consume
      (UsageCostTransformer.priced samplePrices .usageCostOnly "m").toEventState
      [sampleEvent "acme",sampleEnd] []).toOption.map (fun progress => progress.state.closed) = some true := by
    decide +kernel
  rw [show (atFirstComment [.event (sampleEvent "acme"),.event sampleEnd,.comment keepalive]).1 =
    [sampleEvent "acme",sampleEnd] from rfl] at consumed
  rw [consumed] at shut
  exact .inl (Option.some.inj shut)

/-- A comment in front of the stream turns a billed completion into the generic error. -/
theorem comment_refused :
    frames nextEventEnd plainStream = ([sampleEvent "acme",sampleEnd],[]) ∧
    wire [.comment keepalive,.event (sampleEvent "acme"),.event sampleEnd] =
      utf8 ": keepalive\n\n" ++ plainStream ∧
    clientOutcome JsonText.codec.fromSlice (sampleRun (utf8 ": keepalive\n\n" ++ plainStream)) =
      .ok ([.json (genericUpstreamError "m"),.done],[]) ∧
    clientOutcome JsonText.codec.fromSlice (sampleRun (utf8 ": keepalive\n\n" ++ plainStream)) ≠
      clientOutcome JsonText.codec.fromSlice (sampleRun plainStream) := by
  have refused : clientOutcome JsonText.codec.fromSlice (sampleRun (utf8 ": keepalive\n\n" ++ plainStream)) =
      .ok ([.json (genericUpstreamError "m"),.done],[]) := by decide +kernel
  have billed : (sampleRun plainStream).toOption.map (fun run => run.completed.length) = some 1 := by decide +kernel
  refine ⟨plainStream_frames,by decide +kernel,refused,fun same => ?_⟩
  rw [refused] at same
  obtain ⟨run,ran,_,uncosted⟩ := (clientOutcome_success _ _ _ _).mp same.symm
  rw [ran] at billed
  simp [Except.toOption,uncosted] at billed

end Sample

end SerenRouter
