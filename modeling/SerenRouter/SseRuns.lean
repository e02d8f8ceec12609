import SerenRouter.SsePublic

/-! Whole runs of a public transformer: how the input was cut into chunks is invisible, and
a finished run is a sequence of public events behind which the stream ends once. -/
namespace SerenRouter
open Kernel Kernel.Json Kernel.Framing

section Runs
variable (codec : Codec) (arithmetic : Decimal.Arithmetic)

theorem transformAll_feedAll (transformer : UsageCostTransformer) (chunks : List (List UInt8)) :
    transformer.transformAll codec arithmetic chunks = (do
      let session ← (eventMachine codec arithmetic).feedAll nextEventEnd transformer.toEventState
        transformer.pending chunks
      return (⟨session.state,session.pending⟩,session.output,session.completed)) := by
  induction chunks generalizing transformer with
  | nil => rfl
  | cons chunk chunks ih =>
    simp only [UsageCostTransformer.transformAll,UsageCostTransformer.transform,Machine.feedAll,bind_assoc,
      ih]
    apply bind_congr_right
    intro progress _
    simp only [pure_bind]
    apply bind_congr_right
    intro session _
    rfl

variable (canonicalModel : String)

/-- The states of a public transformer. -/
def ServesModel (state : EventState) : Prop := state.responseModel = some canonicalModel

theorem eventMachine_step (state next : EventState) (event output : List UInt8) (completion : Option CostedUsage)
    (serves : ServesModel canonicalModel state)
    (ran : (eventMachine codec arithmetic).step state event = .ok (next,output,completion)) :
    PublicStep codec canonicalModel state event next output completion := by
  apply transformPublicEvent_step codec arithmetic
  have unfolded : (eventMachine codec arithmetic).step state event =
      state.transformPublicEvent codec arithmetic event canonicalModel := by
    simp only [eventMachine,EventState.transformEvent]
    rw [serves]
  rw [← unfolded]
  exact ran

theorem eventMachine_preserves : (eventMachine codec arithmetic).Preserves (ServesModel canonicalModel) := by
  intro state event next output completion serves ran
  have step := eventMachine_step codec arithmetic canonicalModel _ _ _ _ _ serves ran
  exact step.configuration.1.trans serves

theorem eventMachine_completesOnce :
    (eventMachine codec arithmetic).CompletesOnce (ServesModel canonicalModel) := by
  intro state event next output completion serves ran
  exact (eventMachine_step codec arithmetic canonicalModel _ _ _ _ _ serves ran).completes

/-- A public transformer that has read nothing yet does with the chunks what it does with
their concatenation. -/
theorem transformAll_flatten (transformer : UsageCostTransformer) (chunks : List (List UInt8))
    (serves : ServesModel canonicalModel transformer.toEventState) (fresh : transformer.pending = []) :
    transformer.transformAll codec arithmetic chunks = (do
      let progress ← (eventMachine codec arithmetic).feed nextEventEnd transformer.toEventState [] chunks.flatten
      return (⟨progress.state,progress.pending⟩,progress.output,progress.completed.toList)) := by
  rw [transformAll_feedAll,fresh,Machine.feedAll_flatten (eventMachine codec arithmetic) nextEventEnd
    nextEventEnd_stable (ServesModel canonicalModel) (eventMachine_preserves codec arithmetic canonicalModel)
    (eventMachine_completesOnce codec arithmetic canonicalModel) _ _ chunks serves rfl,bind_assoc]
  rfl

theorem run_consume (transformer : UsageCostTransformer) (chunks : List (List UInt8))
    (serves : ServesModel canonicalModel transformer.toEventState) (fresh : transformer.pending = [])
    (active : transformer.closed = false) :
    transformer.run codec arithmetic chunks = (do
      let progress ← (eventMachine codec arithmetic).consume transformer.toEventState
        (frames nextEventEnd chunks.flatten).1 (frames nextEventEnd chunks.flatten).2
      let (remainder,final) ← (⟨progress.state,progress.pending⟩ : UsageCostTransformer).finish codec
      return ⟨progress.output ++ remainder,progress.state.closed,progress.completed.toList ++ final.toList⟩) := by
  have open_ : (eventMachine codec arithmetic).closed transformer.toEventState = false := active
  rw [UsageCostTransformer.run,transformAll_flatten codec arithmetic canonicalModel transformer chunks serves fresh,
    Machine.feed,open_,if_neg (by simp),Machine.drain_consume,bind_assoc]
  rfl

theorem run_completed (transformer : UsageCostTransformer) (chunks : List (List UInt8)) (result : StreamRun)
    (serves : ServesModel canonicalModel transformer.toEventState) (fresh : transformer.pending = [])
    (active : transformer.closed = false) (ran : transformer.run codec arithmetic chunks = .ok result) :
    result.completed.length ≤ 1 := by
  rw [run_consume codec arithmetic canonicalModel transformer chunks serves fresh active,bind_success] at ran
  obtain ⟨progress,consumed,ran⟩ := ran
  rw [bind_success] at ran
  obtain ⟨⟨remainder,final⟩,finished,ran⟩ := ran
  cases ran
  cases completes : progress.completed with
  | none => cases final <;> simp
  | some costed =>
    have shut := (eventMachine codec arithmetic).consume_completed _
      (eventMachine_preserves codec arithmetic canonicalModel)
      (eventMachine_completesOnce codec arithmetic canonicalModel) _ _ _ progress serves consumed costed completes
    have silent : final = none := by
      rw [UsageCostTransformer.finish,if_pos (show progress.state.closed = true from shut)] at finished
      cases finished
      rfl
    simp [silent]

end Runs

/-- The events with an object usage, in order. -/
def terminalEvents (events : List Value) : List Value := events.filter isTerminalUsageEvent

/-- The stored cost after some events is the one the last terminal event states. -/
def Charged (before : Option CostedUsage) (events : List Value) (after : Option CostedUsage) : Prop :=
  match (terminalEvents events).getLast? with
  | some event => ∃ costed, after = some costed ∧ Carries event costed
  | none => after = before

theorem Charged.cons (before after costed : Option CostedUsage) (event : Value) (events : List Value)
    (accounted : Accounts event costed) (charged : Charged (costed.or before) events after) :
    Charged before (event :: events) after := by
  unfold Charged terminalEvents at *
  cases costed with
  | none =>
    rw [List.filter_cons_of_neg (by simpa [Accounts] using accounted)]
    exact charged
  | some costed =>
    rw [List.filter_cons_of_pos (carries_terminal event costed accounted),List.getLast?_cons]
    cases last : (events.filter isTerminalUsageEvent).getLast? with
    | none =>
      simp only [last] at charged
      exact ⟨costed,charged,accounted⟩
    | some later =>
      simp only [last] at charged
      exact charged

/-- An emitted event: public, accounted for, and well formed when the codec is ordered. -/
structure EmittedEvent (codec : Codec) (canonicalModel : String) (value : Value) : Prop where
  isPublic : PublicValue canonicalModel value
  wellFormed : codec.Ordered → value.WellFormed
  accounted : ∃ costed, Accounts value costed

/-- How the events of a buffer leave a public transformer with prices. The last text is what
it emitted behind the passed events. -/
inductive PublicEnding (codec : Codec) (canonicalModel : String) (before : Option CostedUsage)
    (events : List Value) (tail : List UInt8) :
    EventState → List UInt8 → List UInt8 → Option CostedUsage → Prop where
  | unfinished (state : EventState) (active : state.closed = false)
      (charged : Charged before events state.costedUsage) :
      PublicEnding codec canonicalModel before events tail state tail [] none
  | refused (state : EventState) (shut : state.closed = true) (text : List UInt8)
      (generic : genericUpstreamErrorEvent codec canonicalModel = .ok text) :
      PublicEnding codec canonicalModel before events tail state [] text none
  | settled (state : EventState) (shut : state.closed = true) (event : List UInt8) (costed : CostedUsage)
      (terminated : Terminated event) (read : readLine codec.fromSlice (splitSeparator event).1 = .done)
      (charged : Charged before events (some costed)) :
      PublicEnding codec canonicalModel before events tail state [] event (some costed)

theorem PublicEnding.cons (codec : Codec) (canonicalModel : String) (before costed : Option CostedUsage)
    (event : Value) (events : List Value) (tail : List UInt8) (state : EventState) (pending last : List UInt8)
    (completed : Option CostedUsage) (accounted : Accounts event costed)
    (ending : PublicEnding codec canonicalModel (costed.or before) events tail state pending last completed) :
    PublicEnding codec canonicalModel before (event :: events) tail state pending last completed := by
  cases ending with
  | unfinished active charged => exact .unfinished state active (charged.cons _ _ _ _ _ accounted)
  | refused shut text generic => exact .refused state shut last generic
  | settled shut event costed terminated read charged =>
    exact .settled state shut last costed terminated read (charged.cons _ _ _ _ _ accounted)

section PublicRuns
variable (codec : Codec) (arithmetic : Decimal.Arithmetic) (canonicalModel : String)

/-- The events of a buffer: public events, each with its cost, and one of three endings. -/
theorem consume_public (state : EventState) (events : List (List UInt8)) (tail : List UInt8)
    (progress : Progress EventState UInt8 UInt8 CostedUsage)
    (serves : ServesModel canonicalModel state) (priced : state.prices.isSome = true)
    (active : state.closed = false) (terminated : ∀ event ∈ events, Terminated event)
    (ran : (eventMachine codec arithmetic).consume state events tail = .ok progress) :
    ∃ values texts last, List.Forall₂ (Writes codec) values texts ∧
      (∀ value ∈ values, EmittedEvent codec canonicalModel value) ∧
      progress.output = texts.flatten ++ last ∧
      PublicEnding codec canonicalModel state.costedUsage values tail progress.state progress.pending last
        progress.completed := by
  induction events generalizing state progress with
  | nil =>
    cases ran
    exact ⟨[],[],[],.nil,by simp,rfl,.unfinished state active rfl⟩
  | cons event events ih =>
    rw [Machine.consume,bind_success] at ran
    obtain ⟨⟨next,output,completion⟩,stepped,ran⟩ := ran
    have step := eventMachine_step codec arithmetic canonicalModel state next event output completion serves stepped
    obtain ⟨model,prices,_⟩ := step.configuration
    have ends := terminated event (by simp)
    dsimp only at ran
    cases step with
    | refused text generic =>
      rw [if_pos (show (eventMachine codec arithmetic).closed _ = true from rfl)] at ran
      cases ran
      exact ⟨[],[],output,.nil,by simp,rfl,.refused _ rfl output generic⟩
    | settled available read =>
      rw [if_pos (show (eventMachine codec arithmetic).closed _ = true from rfl)] at ran
      cases ran
      obtain ⟨costed,stored⟩ := Option.isSome_iff_exists.mp (available priced)
      refine ⟨[],[],event,.nil,by simp,rfl,?_⟩
      rw [stored]
      exact .settled _ rfl event costed ends read rfl
    | passed value text costed written isPublic wellFormed accounted =>
      rw [show (eventMachine codec arithmetic).closed { state with costedUsage := costed.or state.costedUsage }
        = false from active,if_neg (by simp),bind_success] at ran
      obtain ⟨later,rest,ran⟩ := ran
      cases ran
      obtain ⟨values,texts,last,writes,emitted,output,ending⟩ := ih
        { state with costedUsage := costed.or state.costedUsage } later serves priced active (fun other member => terminated other (by simp [member])) rest
      have accounts := accounted priced
      refine ⟨value :: values,_ :: texts,last,.cons (written ends) writes,?_,?_,?_⟩
      · intro other member
        rcases List.mem_cons.mp member with rfl | inside
        · exact ⟨isPublic,wellFormed,costed,accounts⟩
        · exact emitted other inside
      · simp [output]
      · rw [Option.or_none]
        exact ending.cons codec canonicalModel _ _ _ _ _ _ _ _ _ accounts

end PublicRuns

end SerenRouter
