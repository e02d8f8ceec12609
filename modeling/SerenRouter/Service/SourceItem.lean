import SerenRouter.StreamDriver

/-! One item of the source of a streamed reply. The loop of the driver takes an item at a time,
so that other requests are served between two of them. -/
namespace SerenRouter
open Kernel Kernel.Json

/-- What the loop does with one item: what it yields, what stays of its state, and the settlement made. -/
structure Fetched (E : Type) where
  item : Option (Except E (List UInt8))
  transformer : Option UsageCostTransformer
  generation : Option GenerationContext
  settled : List Settlement

section Item
variable (codec : Codec) (arithmetic : Decimal.Arithmetic) (arrivedAt completedAt : Nat) {E : Type}

/-- The body of the loop; the end of the source is no item. -/
def sourceItem (transformer : UsageCostTransformer) (generation : Option GenerationContext) :
    Option (Except E (List UInt8)) → Except Panic (Fetched E)
  | some (.ok chunk) => do
    let generation := if chunk.isEmpty then generation
      else generation.map (fun generation => generation.observeFirstOutput arrivedAt)
    let (next,output,completed) ← transformer.transform codec arithmetic chunk
    let (generation,recorded) := settle generation
      (completed.map (fun costed generation => .recorded generation costed completedAt))
    let (generation,warned) := settle generation
      (if next.closed && completed.isNone then some (fun generation => .incomplete generation closedReason) else none)
    return ⟨if output.isEmpty then none else some (.ok output),if next.closed then none else some next,generation,
      recorded ++ warned⟩
  | some (.error error) =>
    let (generation,warned) := settle generation (some (fun generation => .incomplete generation errorReason))
    .ok ⟨some (.error error),none,generation,warned⟩
  | none => do
    let (output,completed) ← transformer.finish codec
    let (generation,recorded) := settle generation
      (completed.map (fun costed generation => .recorded generation costed completedAt))
    let (generation,warned) := settle generation (some (fun generation => .incomplete generation endedReason))
    return ⟨if output.isEmpty then none else some (.ok output),none,generation,recorded ++ warned⟩

end Item

section Loop
variable (codec : Codec) (arithmetic : Decimal.Arithmetic) (clock : Clock) {E : Type} (polls : Nat)
  (transformer : UsageCostTransformer) (generation : Option GenerationContext)

/-- The loop around the source does what one item does, and goes on when that yields nothing. -/
theorem sourceLoop_chunk (chunk : List UInt8) (input : List (Except E (List UInt8))) :
    sourceLoop codec arithmetic clock polls (some transformer) generation (.ok chunk :: input) = (do
      let fetched ← sourceItem codec arithmetic (clock.arrivedAt polls) (clock.completedAt polls) transformer generation
        (some (.ok chunk))
      match fetched.item with
      | some item => return ⟨some item,⟨input,polls + 1,fetched.transformer,fetched.generation⟩,fetched.settled⟩
      | none =>
        let polled ← sourceLoop codec arithmetic clock (polls + 1) fetched.transformer fetched.generation input
        return { polled with settled := fetched.settled ++ polled.settled }) := by
  simp only [sourceLoop,sourceItem,expect_some,ok_bind,bind_assoc]
  apply bind_congr_right
  rintro ⟨next,output,completed⟩ _
  cases output <;> rfl

theorem sourceLoop_failed (error : E) (input : List (Except E (List UInt8))) :
    sourceLoop codec arithmetic clock polls (some transformer) generation (.error error :: input) = (do
      let fetched ← sourceItem codec arithmetic (clock.arrivedAt polls) (clock.completedAt polls) transformer generation
        (some (.error error))
      return ⟨fetched.item,⟨input,polls + 1,fetched.transformer,fetched.generation⟩,fetched.settled⟩) := rfl

theorem sourceLoop_ended :
    sourceLoop codec arithmetic clock polls (some transformer) generation [] = (do
      let fetched ← sourceItem (E := E) codec arithmetic (clock.arrivedAt polls) (clock.completedAt polls) transformer
        generation none
      return ⟨fetched.item,⟨[],polls + 1,fetched.transformer,fetched.generation⟩,fetched.settled⟩) := by
  simp only [sourceLoop,sourceItem,expect_some,ok_bind,bind_assoc]
  rfl

end Loop

section Public
variable (codec : Codec) (arithmetic : Decimal.Arithmetic) (arrivedAt completedAt : Nat) {E : Type}
  (transformer : UsageCostTransformer) (generation : GenerationContext)

/-- An empty output is not yielded. -/
def yielded (output : List UInt8) : Option (Except E (List UInt8)) := if output.isEmpty then none else some (.ok output)

/-- The generation once the chunk has arrived. -/
def GenerationContext.observe (chunk : List UInt8) : GenerationContext :=
  if chunk.isEmpty then generation else generation.observeFirstOutput arrivedAt

/-- A completed usage is recorded; without one the generation is incomplete. -/
def GenerationContext.settlement (completed : Option CostedUsage) (reason : String) : Settlement :=
  match completed with
  | some costed => .recorded generation costed completedAt
  | none => .incomplete generation reason

/-- The four ways in which a public stream takes an item: it goes on, or it ends and settles its generation. -/
inductive SourceCase : Option (Except E (List UInt8)) → Fetched E → Prop
  | passed (chunk output : List UInt8) (next : UsageCostTransformer)
    (ran : transformer.transform codec arithmetic chunk = .ok (next,output,none)) (active : next.closed = false) :
    SourceCase (some (.ok chunk)) ⟨yielded output,some next,some (generation.observe arrivedAt chunk),[]⟩
  | closed (chunk output : List UInt8) (next : UsageCostTransformer) (completed : Option CostedUsage)
    (ran : transformer.transform codec arithmetic chunk = .ok (next,output,completed)) (shut : next.closed = true)
    (speaks : output ≠ []) :
    SourceCase (some (.ok chunk)) ⟨some (.ok output),none,none,
      [(generation.observe arrivedAt chunk).settlement completedAt completed closedReason]⟩
  | failed (error : E) :
    SourceCase (some (.error error)) ⟨some (.error error),none,none,[.incomplete generation errorReason]⟩
  | ended (output : List UInt8) (completed : Option CostedUsage)
    (finished : transformer.finish codec = .ok (output,completed)) :
    SourceCase none ⟨yielded output,none,none,[generation.settlement completedAt completed endedReason]⟩

theorem sourceItem_cases (canonicalModel : String) (serves : ServesModel canonicalModel transformer.toEventState)
    (active : transformer.closed = false) (item : Option (Except E (List UInt8))) (fetched : Fetched E)
    (ran : sourceItem codec arithmetic arrivedAt completedAt transformer (some generation) item = .ok fetched) :
    SourceCase codec arithmetic arrivedAt completedAt transformer generation item fetched := by
  cases item with
  | none =>
    rw [sourceItem,bind_success] at ran
    obtain ⟨⟨output,completed⟩,finished,ran⟩ := ran
    cases completed with
    | none =>
      cases ran
      exact .ended output none finished
    | some costed =>
      cases ran
      exact .ended output (some costed) finished
  | some item =>
    cases item with
    | error error =>
      cases ran
      exact .failed error
    | ok chunk =>
      rw [sourceItem,bind_success] at ran
      obtain ⟨⟨next,output,completed⟩,transformed,ran⟩ := ran
      obtain ⟨_,speaks,silent⟩ := transform_closes codec arithmetic canonicalModel transformer serves active chunk output
        next completed transformed
      have observed : (if chunk.isEmpty then some generation
          else (some generation).map (fun generation => generation.observeFirstOutput arrivedAt)) =
          some (generation.observe arrivedAt chunk) := by
        unfold GenerationContext.observe
        split <;> rfl
      simp only [observed] at ran
      cases shut : next.closed with
      | false =>
        obtain rfl := silent shut
        simp only [shut,Option.map_none,settle_none,Bool.false_and,Bool.false_eq_true,if_false] at ran
        cases ran
        exact .passed chunk output next transformed shut
      | true =>
        have spoken := speaks shut
        have full : output.isEmpty = false := by simpa using spoken
        cases completed with
        | none =>
          simp only [shut,full,Option.map_none,settle_none] at ran
          cases ran
          exact .closed chunk output next none transformed shut spoken
        | some costed =>
          simp only [shut,full,Option.map_some,settle_some] at ran
          cases ran
          exact .closed chunk output next (some costed) transformed shut spoken

end Public

end SerenRouter
