import SerenRouter.Proxy
import SerenRouter.SseRuns
import SerenRouter.StreamGuarantees

/-! The driver of a streamed reply. It feeds the chunks of the source to the transformer and
settles the generation behind it; the transformer and the generation are taken and put back
on every branch. The transformer alone, fed from the same source, is the specification. -/
namespace SerenRouter
open Kernel Kernel.Json Kernel.Framing

namespace GenerationContext

/-- `get_or_insert`: the first observation stays. -/
def observeFirstOutput (generation : GenerationContext) (observedAt : Nat) : GenerationContext :=
  { generation with firstOutputAt := some (generation.firstOutputAt.getD observedAt) }

end GenerationContext

/-- The instants read during a poll of the source. -/
structure Clock where
  arrivedAt : Nat → Nat
  completedAt : Nat → Nat

/-- How a generation is consumed: by `record_at`, or by `warn_incomplete`. -/
inductive Settlement where
  | recorded (generation : GenerationContext) (costed : CostedUsage) (completedAt : Nat)
  | incomplete (generation : GenerationContext) (reason : String)

def closedReason : String := "stream was closed before a costed terminal usage event"
def errorReason : String := "upstream stream returned an error"
def endedReason : String := "stream ended before a costed usage event and [DONE]"
def transformerPresent : String := "transformer is present until the source ends"

/-- The unfold state. The source is what it has yet to yield, and how often it was polled. -/
structure StreamState (E : Type) where
  input : List (Except E (List UInt8))
  polls : Nat
  transformer : Option UsageCostTransformer
  generation : Option GenerationContext

/-- One step of the unfold: the item it yields, if any, and the settlements made on the way. -/
structure Polled (E : Type) where
  item : Option (Except E (List UInt8))
  state : StreamState E
  settled : List Settlement

/-- `take` the generation for a settlement, when there are both. -/
def settle (generation : Option GenerationContext) (settlement : Option (GenerationContext → Settlement)) :
    Option GenerationContext × List Settlement :=
  match settlement, generation with
  | some settlement, some generation => (none,[settlement generation])
  | _, _ => (generation,[])

section Driver
variable (codec : Codec) (arithmetic : Decimal.Arithmetic) (clock : Clock)

/-- `record` what was completed during a poll. -/
def recordCompleted (generation : Option GenerationContext) (completed : Option CostedUsage) (polls : Nat) :
    Option GenerationContext × List Settlement :=
  settle generation (completed.map (fun costed generation =>
    .recorded generation costed (clock.completedAt polls)))

variable {E : Type}

/-- The loop around the source, up to the next item of the output. -/
def sourceLoop (polls : Nat) (transformer : Option UsageCostTransformer) (generation : Option GenerationContext) :
    List (Except E (List UInt8)) → Except Panic (Polled E)
  | .ok chunk :: input => do
    let generation := if chunk.isEmpty then generation
      else generation.map (fun generation => generation.observeFirstOutput (clock.arrivedAt polls))
    let current ← expect transformer transformerPresent
    let (next,output,completed) ← current.transform codec arithmetic chunk
    let transformer := if next.closed then none else some next
    let (generation,recorded) := recordCompleted clock generation completed polls
    let (generation,warned) := settle generation
      (if next.closed && completed.isNone then some (fun generation => .incomplete generation closedReason) else none)
    if !output.isEmpty then
      return ⟨some (.ok output),⟨input,polls + 1,transformer,generation⟩,recorded ++ warned⟩
    else
      let polled ← sourceLoop (polls + 1) transformer generation input
      return { polled with settled := recorded ++ warned ++ polled.settled }
  | .error error :: input =>
    let (generation,warned) := settle generation (some (fun generation => .incomplete generation errorReason))
    .ok ⟨some (.error error),⟨input,polls + 1,none,generation⟩,warned⟩
  | [] => do
    let current ← expect transformer transformerPresent
    let (output,completed) ← current.finish codec
    let (generation,recorded) := recordCompleted clock generation completed polls
    let (generation,warned) := settle generation (some (fun generation => .incomplete generation endedReason))
    return ⟨if output.isEmpty then none else some (.ok output),⟨[],polls + 1,none,generation⟩,recorded ++ warned⟩

/-- The closure of the unfold: it ends once the transformer is gone. -/
def poll (state : StreamState E) : Except Panic (Polled E) :=
  if state.transformer.isNone then .ok ⟨none,state,[]⟩
  else sourceLoop codec arithmetic clock state.polls state.transformer state.generation state.input

def StreamState.remaining (state : StreamState E) : Nat :=
  state.input.length + if state.transformer.isSome then 1 else 0

theorem StreamState.remaining_le (state : StreamState E) : state.remaining ≤ state.input.length + 1 := by
  unfold StreamState.remaining
  split <;> omega

theorem sourceLoop_shrinks (polls : Nat) (transformer : Option UsageCostTransformer)
    (generation : Option GenerationContext) (input : List (Except E (List UInt8))) (polled : Polled E)
    (ran : sourceLoop codec arithmetic clock polls transformer generation input = .ok polled) :
    polled.state.remaining < input.length + 1 := by
  induction input generalizing polls transformer generation polled with
  | nil =>
    simp only [sourceLoop,bind_success] at ran
    obtain ⟨current,_,⟨output,completed⟩,_,ran⟩ := ran
    cases ran
    simp [StreamState.remaining]
  | cons item input ih =>
    cases item with
    | error error =>
      cases ran
      simp only [StreamState.remaining,Option.isSome_none,Bool.false_eq_true,if_false,List.length_cons]
      omega
    | ok chunk =>
      simp only [sourceLoop,bind_success] at ran
      obtain ⟨current,_,⟨next,output,completed⟩,_,ran⟩ := ran
      dsimp only at ran
      split at ran
      · cases ran
        exact Nat.lt_succ_of_le (StreamState.remaining_le _)
      · rw [bind_success] at ran
        obtain ⟨later,looped,ran⟩ := ran
        cases ran
        have shorter := ih _ _ _ later looped
        simp only [List.length_cons]
        exact Nat.lt_succ_of_lt shorter

theorem poll_shrinks (state : StreamState E) (polled : Polled E) (item : Except E (List UInt8))
    (ran : poll codec arithmetic clock state = .ok polled) (yields : polled.item = some item) :
    polled.state.remaining < state.remaining := by
  unfold poll at ran
  split at ran
  · cases ran
    cases yields
  · rename_i present
    have shorter := sourceLoop_shrinks codec arithmetic clock _ _ _ _ polled ran
    have counted : state.remaining = state.input.length + 1 := by
      rw [StreamState.remaining,if_pos (by simpa [Option.isSome_iff_ne_none] using present)]
    rw [counted]
    exact shorter

/-- A stream polled to completion: the items it yielded, how its generation was settled, and
how often its source was polled. -/
structure Driven (E : Type) where
  emitted : List (Except E (List UInt8))
  settled : List Settlement
  polls : Nat

def drive (state : StreamState E) : Except Panic (Driven E) :=
  match _ran : poll codec arithmetic clock state with
  | .error panic => .error panic
  | .ok polled =>
    match _yields : polled.item with
    | none => .ok ⟨[],polled.settled,polled.state.polls⟩
    | some item => do
      let rest ← drive polled.state
      return ⟨item :: rest.emitted,polled.settled ++ rest.settled,rest.polls⟩
termination_by state.remaining
decreasing_by exact poll_shrinks codec arithmetic clock state polled item _ran _yields

def streamWithResponseTransformer (input : List (Except E (List UInt8))) (transformer : UsageCostTransformer)
    (generation : Option GenerationContext) : Except Panic (Driven E) :=
  drive codec arithmetic clock ⟨input,0,some transformer,generation⟩

theorem drive_step (state : StreamState E) :
    drive codec arithmetic clock state = (do
      let polled ← poll codec arithmetic clock state
      match polled.item with
      | none => .ok ⟨[],polled.settled,polled.state.polls⟩
      | some item => do
        let rest ← drive codec arithmetic clock polled.state
        return ⟨item :: rest.emitted,polled.settled ++ rest.settled,rest.polls⟩) := by
  rw [drive]
  split
  · rename_i panic ran
    rw [ran]
    rfl
  · rename_i polled ran
    rw [ran,ok_bind]
    split <;> rename_i yields <;> rw [yields]

end Driver

/-- Why a source is read no further. -/
inductive SourceEnd (E : Type) where
  | closed
  | failed (error : E)
  | ended

def SourceEnd.reason {E : Type} : SourceEnd E → String
  | .closed => closedReason
  | .failed _ => errorReason
  | .ended => endedReason

/-- What a transformer does with a source: its outputs, one for each chunk and one at the end,
why it stops, what it completed, the poll of the first chunk with bytes, and the polls. -/
structure Fed (E : Type) where
  outputs : List (List UInt8)
  ending : SourceEnd E
  completed : Option CostedUsage
  firstOutput : Option Nat
  polls : Nat

/-- One more chunk and its output in front. -/
def Fed.behind {E : Type} (rest : Fed E) (chunk output : List UInt8) : Fed E :=
  ⟨output :: rest.outputs,rest.ending,rest.completed,
    if chunk.isEmpty then rest.firstOutput.map (· + 1) else some 0,rest.polls + 1⟩

section Feed
variable (codec : Codec) (arithmetic : Decimal.Arithmetic) {E : Type}

/-- The transformer by itself, fed until it closes, or the source fails or ends. -/
def feedSource (transformer : UsageCostTransformer) : List (Except E (List UInt8)) → Except Panic (Fed E)
  | [] => do
    let (output,completed) ← transformer.finish codec
    return ⟨[output],.ended,completed,none,1⟩
  | .error error :: _ => .ok ⟨[],.failed error,none,none,1⟩
  | .ok chunk :: input => do
    let (next,output,completed) ← transformer.transform codec arithmetic chunk
    if next.closed then return ⟨[output],.closed,completed,if chunk.isEmpty then none else some 0,1⟩
    else
      let rest ← feedSource next input
      return rest.behind chunk output

namespace Fed
variable (fed : Fed E)

def items : List (Except E (List UInt8)) :=
  (fed.outputs.filter (fun output => !output.isEmpty)).map .ok ++
    match fed.ending with
    | .failed error => [.error error]
    | _ => []

variable (clock : Clock) (generation : GenerationContext) (polls : Nat)

/-- The generation as it is when it is settled. -/
def context : GenerationContext :=
  match fed.firstOutput with
  | none => generation
  | some index => generation.observeFirstOutput (clock.arrivedAt (polls + index))

/-- A completed usage is recorded; without one the generation is incomplete. -/
def settlement : Settlement :=
  match fed.completed with
  | some costed => .recorded (fed.context clock generation polls) costed (clock.completedAt (polls + fed.polls - 1))
  | none => .incomplete (fed.context clock generation polls) fed.ending.reason

end Fed

end Feed

@[simp] theorem settle_none (generation : Option GenerationContext) : settle generation none = (generation,[]) := rfl

@[simp] theorem settle_some (generation : GenerationContext) (settlement : GenerationContext → Settlement) :
    settle (some generation) (some settlement) = (none,[settlement generation]) := rfl

@[simp] theorem settle_absent (settlement : Option (GenerationContext → Settlement)) :
    settle none settlement = (none,[]) := by
  cases settlement <;> rfl

section Transformer
variable (codec : Codec) (arithmetic : Decimal.Arithmetic) (canonicalModel : String)
  (transformer : UsageCostTransformer) (serves : ServesModel canonicalModel transformer.toEventState)
  (active : transformer.closed = false)
include serves active

/-- A chunk leaves a public transformer public. Closing never goes unsaid, and a usage is
completed only by closing. -/
theorem transform_closes (chunk output : List UInt8) (next : UsageCostTransformer) (completed : Option CostedUsage)
    (ran : transformer.transform codec arithmetic chunk = .ok (next,output,completed)) :
    ServesModel canonicalModel next.toEventState ∧ (next.closed = true → output ≠ []) ∧
      (next.closed = false → completed = none) := by
  have open_ : (eventMachine codec arithmetic).closed transformer.toEventState = false := active
  rw [UsageCostTransformer.transform,Machine.feed,open_,if_neg (by simp),Machine.drain_consume,bind_success] at ran
  obtain ⟨progress,consumed,ran⟩ := ran
  cases ran
  have preserves := eventMachine_preserves codec arithmetic canonicalModel
  refine ⟨Machine.consume_preserves _ _ preserves _ _ _ progress serves consumed,fun shut => ?_,fun notClosed => ?_⟩
  · refine Machine.consume_speaks _ _ preserves _ _ _ progress serves ?_ consumed active shut
    intro state event next output completion serves running member stepped closes
    have step := eventMachine_step codec arithmetic canonicalModel state next event output completion serves stepped
    cases step with
    | refused text generic =>
      rw [genericUpstreamErrorEvent,bind_success] at generic
      obtain ⟨json,_,generic⟩ := generic
      cases generic
      simp [show utf8 "data: " = [100,97,116,97,58,32] from rfl]
    | settled available read =>
      rintro rfl
      rcases events_terminated _ _ member with ends | ends <;> simp [lfSeparator,crlfSeparator] at ends
    | passed value text costed written isPublic wellFormed accounted =>
      exact absurd running (by simp [show (eventMachine codec arithmetic).closed state = true from closes])
  · cases completes : progress.completed with
    | none => rfl
    | some costed =>
      have shut := Machine.consume_completed _ _ preserves (eventMachine_completesOnce codec arithmetic canonicalModel)
        _ _ _ progress serves consumed costed completes
      exact absurd notClosed (by simp [show progress.state.closed = true from shut])

end Transformer

namespace Fed
variable {E : Type} (rest : Fed E) (chunk output : List UInt8)

theorem items_behind :
    (rest.behind chunk output).items = if output.isEmpty then rest.items else .ok output :: rest.items := by
  cases output <;> simp [items,behind]

omit chunk output in
theorem items_flatten : (rest.items.filterMap Except.toOption).flatten = rest.outputs.flatten := by
  have errors : (match rest.ending with
      | .failed error => [(.error error : Except E (List UInt8))]
      | _ => []).filterMap Except.toOption = [] := by
    cases rest.ending <;> rfl
  have texts (outputs : List (List UInt8)) :
      (outputs.map (.ok : List UInt8 → Except E (List UInt8))).filterMap Except.toOption = outputs := by
    rw [List.filterMap_map]
    exact List.filterMap_some
  rw [items,List.filterMap_append,errors,List.append_nil,texts,List.flatten_filter_not_isEmpty]

theorem context_behind (clock : Clock) (generation : GenerationContext) (polls : Nat) :
    (rest.behind chunk output).context clock generation polls = rest.context clock
      (if chunk.isEmpty then generation else generation.observeFirstOutput (clock.arrivedAt polls)) (polls + 1) := by
  unfold context behind
  cases chunk with
  | nil =>
    cases rest.firstOutput with
    | none => rfl
    | some index => simp [Nat.add_assoc,Nat.add_comm 1]
  | cons byte chunk => cases rest.firstOutput <;> rfl

theorem settlement_behind (clock : Clock) (generation : GenerationContext) (polls : Nat) :
    (rest.behind chunk output).settlement clock generation polls = rest.settlement clock
      (if chunk.isEmpty then generation else generation.observeFirstOutput (clock.arrivedAt polls)) (polls + 1) := by
  have last : polls + (rest.polls + 1) - 1 = polls + 1 + rest.polls - 1 := by omega
  unfold settlement
  rw [context_behind]
  simp only [behind,last]

end Fed

/-- A panic that is none of the driver's own. -/
def Foreign (panic : Panic) : Prop := panic ≠ .expect transformerPresent

section Panics
variable (codec : Codec) (arithmetic : Decimal.Arithmetic)

theorem checked_foreign {α : Type} (value : Option α) (operator : String) :
    Blames Foreign (orOverflow value operator) :=
  .orOverflow Foreign value operator (fun same => by cases same)

theorem roundedCost_foreign (costPerMillion : Decimal) : Blames Foreign (roundedCost arithmetic costPerMillion) := by
  refine .bind Foreign _ _ (checked_foreign _ _) (fun cost _ => ?_)
  exact .expect Foreign _ _ (by unfold Foreign; decide)

theorem providerCostUsd_foreign (prices : ProviderPrices) (usage : Usage) (cached : Option UInt64) :
    Blames Foreign (providerCostUsd arithmetic prices usage cached) := by
  unfold providerCostUsd
  split
  · refine .bind Foreign _ _ ?_ (fun _ _ => .ok Foreign _)
    refine .bind Foreign _ _ (checked_foreign _ _) (fun promptCost _ => ?_)
    refine .bind Foreign _ _ (checked_foreign _ _) (fun completionCost _ => ?_)
    exact .bind Foreign _ _ (checked_foreign _ _) (fun cost _ => roundedCost_foreign arithmetic cost)
  split
  · exact .ok Foreign _
  split
  · exact .ok Foreign _
  · refine .bind Foreign _ _ (checked_foreign _ _) (fun uncachedCost _ => ?_)
    refine .bind Foreign _ _ (checked_foreign _ _) (fun cachedCost _ => ?_)
    refine .bind Foreign _ _ (checked_foreign _ _) (fun promptCost _ => ?_)
    refine .bind Foreign _ _ (checked_foreign _ _) (fun completionCost _ => ?_)
    refine .bind Foreign _ _ (checked_foreign _ _) (fun cost _ => ?_)
    exact .bind Foreign _ _ (roundedCost_foreign arithmetic cost) (fun _ _ => .ok Foreign _)

theorem inject_foreign (response : Value) (prices : ProviderPrices) (policy : ProviderReportedCostPolicy) :
    Blames Foreign (injectUsageCostValueWithPolicy arithmetic response prices policy) := by
  unfold injectUsageCostValueWithPolicy
  dsimp only
  split
  · exact .ok Foreign _
  split
  · exact .ok Foreign _
  rename_i usage _ tokens _
  refine .bind Foreign _ _ ?_ (fun result _ => ?_)
  · unfold providerCost
    split
    · exact .ok Foreign _
    · exact .ok Foreign _
    split
    · exact .ok Foreign _
    · exact .ok Foreign _
    · refine .bind Foreign _ _ (providerCostUsd_foreign arithmetic prices tokens _) (fun cost _ => ?_)
      split <;> exact .ok Foreign _
  · split
    · exact .ok Foreign _
    · exact .bind Foreign _ _ (.expect Foreign _ _ (by unfold Foreign; decide)) (fun _ _ => .ok Foreign _)

theorem genericUpstreamErrorEvent_foreign (canonicalModel : String) :
    Blames Foreign (genericUpstreamErrorEvent codec canonicalModel) :=
  .bind Foreign _ _ (.expect Foreign _ _ (by unfold Foreign; decide)) (fun _ _ => .ok Foreign _)

theorem transformPublicEvent_foreign (state : EventState) (event : List UInt8) (canonicalModel : String) :
    Blames Foreign (state.transformPublicEvent codec arithmetic event canonicalModel) := by
  have refuse : Blames Foreign (state.closeWithGenericError codec canonicalModel) :=
    .bind Foreign _ _ (genericUpstreamErrorEvent_foreign codec canonicalModel) (fun _ _ => .ok Foreign _)
  simp only [EventState.transformPublicEvent]
  split
  · exact refuse
  split
  · split
    · exact refuse
    · exact .ok Foreign _
  split
  · exact refuse
  split
  · exact refuse
  refine .bind Foreign _ _ ?_ ?_
  · simp only [EventState.priceEvent]
    split
    · split
      · exact .bind Foreign _ _ (inject_foreign arithmetic _ _ _) (fun _ _ => .ok Foreign _)
      · exact .ok Foreign _
    · exact .ok Foreign _
  · rintro ⟨costed,value⟩ _
    cases costed with
    | error omission => exact refuse
    | ok costed =>
      dsimp only
      split
      · exact refuse
      · exact .ok Foreign _

theorem feedSource_foreign {E : Type} (canonicalModel : String) (transformer : UsageCostTransformer)
    (serves : ServesModel canonicalModel transformer.toEventState) (active : transformer.closed = false)
    (input : List (Except E (List UInt8))) : Blames Foreign (feedSource codec arithmetic transformer input) := by
  have generic := genericUpstreamErrorEvent_foreign codec canonicalModel
  induction input generalizing transformer with
  | nil =>
    refine .bind Foreign _ _ ?_ (fun _ _ => .ok Foreign _)
    simp only [UsageCostTransformer.finish,active,Bool.false_eq_true,if_false,show transformer.responseModel = _ from serves]
    split
    · split
      · exact .bind Foreign _ _ generic (fun _ _ => .ok Foreign _)
      · exact .ok Foreign _
    · exact .bind Foreign _ _ generic (fun _ _ => .ok Foreign _)
  | cons item input ih =>
    cases item with
    | error error => exact .ok Foreign _
    | ok chunk =>
      refine .bind Foreign _ _ ?_ ?_
      · refine .bind Foreign _ _ ?_ (fun _ _ => .ok Foreign _)
        unfold Machine.feed
        split
        · exact .ok Foreign _
        rw [Machine.drain_consume]
        refine Machine.consume_blames _ Foreign _ (eventMachine_preserves codec arithmetic canonicalModel) _ _ _ serves ?_
        intro state event serves
        simp only [eventMachine,EventState.transformEvent,show state.responseModel = _ from serves]
        exact transformPublicEvent_foreign codec arithmetic state event canonicalModel
      · rintro ⟨next,output,completed⟩ ran
        dsimp only
        split
        · exact .ok Foreign _
        · rename_i notClosed
          obtain ⟨kept,_,_⟩ := transform_closes codec arithmetic canonicalModel transformer serves active chunk output
            next completed ran
          exact .bind Foreign _ _ (ih next kept (by simpa using notClosed)) (fun _ _ => .ok Foreign _)

end Panics

section Refinement
variable (codec : Codec) (arithmetic : Decimal.Arithmetic) (clock : Clock) {E : Type}

theorem drive_over (input : List (Except E (List UInt8))) (polls : Nat) (generation : Option GenerationContext) :
    drive codec arithmetic clock ⟨input,polls,none,generation⟩ = .ok ⟨[],[],polls⟩ := by
  rw [drive_step]
  rfl

/-- The loop at a chunk that leaves the transformer open: an empty output is not yielded, and
the source is polled again. -/
theorem drive_passes (transformer next : UsageCostTransformer) (generation : GenerationContext)
    (chunk output : List UInt8) (input : List (Except E (List UInt8))) (polls : Nat)
    (ran : transformer.transform codec arithmetic chunk = .ok (next,output,none)) (active : next.closed = false) :
    drive codec arithmetic clock ⟨.ok chunk :: input,polls,some transformer,some generation⟩ = (do
      let rest ← drive codec arithmetic clock ⟨input,polls + 1,some next,
        some (if chunk.isEmpty then generation else generation.observeFirstOutput (clock.arrivedAt polls))⟩
      return ⟨if output.isEmpty then rest.emitted else .ok output :: rest.emitted,rest.settled,rest.polls⟩) := by
  have observed : (if chunk.isEmpty then some generation
      else (some generation).map (fun generation => generation.observeFirstOutput (clock.arrivedAt polls))) =
      some (if chunk.isEmpty then generation else generation.observeFirstOutput (clock.arrivedAt polls)) := by
    split <;> rfl
  rw [drive_step]
  simp only [poll,Option.isNone_some,Bool.false_eq_true,if_false,sourceLoop,observed,expect_some,ok_bind,ran,active,
    recordCompleted,Option.map_none,settle_none,Bool.false_and,List.nil_append]
  cases output with
  | nil =>
    simp only [List.isEmpty_nil,Bool.not_true,Bool.false_eq_true,if_false,if_true]
    rw [drive_step]
    simp only [poll,Option.isNone_some,Bool.false_eq_true,if_false,bind_assoc]
    apply bind_congr_right
    intro polled _
    cases item : polled.item with
    | none => simp [pure,Except.pure]
    | some yielded => simp [pure,Except.pure]
  | cons byte output => simp [pure,Except.pure]

/-- The driver does what the transformer does by itself, and settles the generation once. -/
theorem drive_feeds (canonicalModel : String) (transformer : UsageCostTransformer)
    (serves : ServesModel canonicalModel transformer.toEventState) (active : transformer.closed = false)
    (generation : GenerationContext) (input : List (Except E (List UInt8))) (polls : Nat) :
    drive codec arithmetic clock ⟨input,polls,some transformer,some generation⟩ = (do
      let fed ← feedSource codec arithmetic transformer input
      return ⟨fed.items,[fed.settlement clock generation polls],polls + fed.polls⟩) := by
  induction input generalizing transformer generation polls with
  | nil =>
    rw [drive_step]
    simp only [poll,Option.isNone_some,Bool.false_eq_true,if_false,sourceLoop,expect_some,ok_bind,feedSource,bind_assoc]
    apply bind_congr_right
    rintro ⟨output,completed⟩ _
    cases completed <;> cases output <;>
      simp [recordCompleted,pure,Except.pure,drive_over,Fed.items,Fed.settlement,Fed.context,SourceEnd.reason]
  | cons item input ih =>
    cases item with
    | error error =>
      rw [drive_step]
      simp [poll,sourceLoop,feedSource,drive_over,pure,Except.pure,Fed.items,Fed.settlement,Fed.context,
        SourceEnd.reason]
    | ok chunk =>
      cases ran : transformer.transform codec arithmetic chunk with
      | error panic =>
        rw [drive_step]
        simp [poll,sourceLoop,feedSource,ran]
      | ok result =>
        obtain ⟨next,output,completed⟩ := result
        obtain ⟨kept,speaks,silent⟩ := transform_closes codec arithmetic canonicalModel transformer serves active chunk
          output next completed ran
        rw [feedSource,ran,ok_bind]
        cases shut : next.closed with
        | true =>
          obtain ⟨byte,rest,rfl⟩ := List.exists_cons_of_ne_nil (speaks shut)
          rw [drive_step]
          cases completed <;> cases chunk <;>
            simp [poll,sourceLoop,ran,shut,recordCompleted,drive_over,pure,Except.pure,Fed.items,Fed.settlement,
              Fed.context,SourceEnd.reason]
        | false =>
          obtain rfl := silent shut
          rw [drive_passes codec arithmetic clock transformer next generation chunk output input polls ran shut,
            ih next kept shut]
          simp only [shut,Bool.false_eq_true,if_false,bind_assoc]
          apply bind_congr_right
          intro fed _
          simp only [pure_bind,fed.items_behind chunk output,fed.settlement_behind chunk output]
          rw [show (fed.behind chunk output).polls = fed.polls + 1 from rfl,Nat.add_right_comm,Nat.add_assoc]

end Refinement

/-- A stream polled to completion yields exactly what its transformer says up to closing, the
transport error or the end, polls its source no further, and settles its generation once:
it records the usage that was completed, or else reports it incomplete. No panic is the
driver's own. -/
theorem stream_settles_once (codec : Codec) (arithmetic : Decimal.Arithmetic) (clock : Clock) {E : Type}
    (canonicalModel : String) (transformer : UsageCostTransformer)
    (isPublic : transformer.responseModel = some canonicalModel) (active : transformer.closed = false)
    (generation : GenerationContext) (input : List (Except E (List UInt8))) :
    (∃ fed driven, feedSource codec arithmetic transformer input = .ok fed ∧
      streamWithResponseTransformer codec arithmetic clock input transformer (some generation) = .ok driven ∧
      driven.emitted = fed.items ∧
      (driven.emitted.filterMap Except.toOption).flatten = fed.outputs.flatten ∧
      driven.polls = fed.polls ∧
      ((∃ costed, fed.completed = some costed ∧
          driven.settled = [.recorded (fed.context clock generation 0) costed (clock.completedAt (fed.polls - 1))]) ∨
        (fed.completed = none ∧
          driven.settled = [.incomplete (fed.context clock generation 0) fed.ending.reason]))) ∨
    ∃ panic, feedSource codec arithmetic transformer input = .error panic ∧
      streamWithResponseTransformer codec arithmetic clock input transformer (some generation) = .error panic ∧
      panic ≠ .expect transformerPresent := by
  have refines := drive_feeds codec arithmetic clock canonicalModel transformer isPublic active generation input 0
  unfold streamWithResponseTransformer
  rw [refines]
  cases ran : feedSource codec arithmetic transformer input with
  | error panic =>
    exact .inr ⟨panic,rfl,rfl,feedSource_foreign codec arithmetic canonicalModel transformer isPublic active input
      panic ran⟩
  | ok fed =>
    refine .inl ⟨fed,_,rfl,rfl,rfl,fed.items_flatten,Nat.zero_add _,?_⟩
    simp only [Fed.settlement]
    cases completes : fed.completed with
    | none => exact .inr ⟨rfl,rfl⟩
    | some costed => exact .inl ⟨costed,rfl,by rw [Nat.zero_add]⟩

section Sample

def sampleGeneration : GenerationContext := ⟨"vendor/model","alpha",.ok,0,1,2,none,.production⟩

def sampleSource : List (Except Unit (List UInt8)) := [.ok (sampleEvent "acme"),.ok sampleEnd,.error ()]

def sampleTransformer : UsageCostTransformer := UsageCostTransformer.priced samplePrices .usageCostOnly "m"

/-- The error behind the end marker is not read. -/
theorem stream_settles_once_sample :
    ∃ driven generation costed,
      streamWithResponseTransformer JsonText.codec Decimal.exact ⟨id,id⟩ sampleSource sampleTransformer
        (some sampleGeneration) = .ok driven ∧
      driven.polls = 2 ∧ driven.settled = [.recorded generation costed 1] := by
  have fedAs : (feedSource JsonText.codec Decimal.exact sampleTransformer sampleSource).toOption.map
      (fun fed => (fed.completed.isSome,fed.polls)) = some (true,2) := by decide +kernel
  rcases stream_settles_once JsonText.codec Decimal.exact ⟨id,id⟩ "m" sampleTransformer rfl rfl sampleGeneration
    sampleSource with ⟨fed,driven,ran,drove,_,_,polls,settled⟩ | ⟨panic,ran,_⟩
  · rw [ran,Except.toOption,Option.map_some] at fedAs
    obtain ⟨completes,polled⟩ := Prod.mk.inj (Option.some.inj fedAs)
    rcases settled with ⟨costed,_,recorded⟩ | ⟨silent,_⟩
    · rw [polled] at recorded polls
      exact ⟨driven,_,costed,drove,polls,recorded⟩
    · rw [silent] at completes
      cases completes
  · rw [ran] at fedAs
    cases fedAs

end Sample

end SerenRouter
