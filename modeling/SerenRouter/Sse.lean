import SerenRouter.UsageCost
import SerenRouter.Kernel.Framing

/-! Server-sent events: the framing of a byte stream into events and the transformer that
adds the cost to terminal usage. The transformer is a framing machine over its events. -/
namespace SerenRouter
open Kernel Kernel.Json Kernel.Framing

/-- The position of the first occurrence of a nonempty needle. -/
def findSubslice : List UInt8 → List UInt8 → Option Nat
  | [], _ => none
  | byte :: haystack, needle =>
    if needle.isPrefixOf (byte :: haystack) then some 0 else (findSubslice haystack needle).map (· + 1)

/-- Two line feeds. -/
def lfSeparator : List UInt8 := [10,10]

/-- Two pairs of carriage return and line feed. -/
def crlfSeparator : List UInt8 := [13,10,13,10]

def nextEventEnd (bytes : List UInt8) : Option Nat :=
  let lf := (findSubslice bytes lfSeparator).map (· + 2)
  let crlf := (findSubslice bytes crlfSeparator).map (· + 4)
  match lf, crlf with
  | some lf, some crlf => some (min lf crlf)
  | some lf, none => some lf
  | none, some crlf => some crlf
  | none, none => none

/-- An event without its separator, and the separator. -/
def splitSeparator (event : List UInt8) : List UInt8 × List UInt8 :=
  if crlfSeparator.isSuffixOf event then event.splitAt (event.length - 4)
  else event.splitAt (event.length - 2)

/-- A single line `data:`, split into its prefix and its data; one blank belongs to the prefix. -/
def singleDataLine (body : List UInt8) : Option (List UInt8 × List UInt8) :=
  if 10 ∈ body ∨ 13 ∈ body then none
  else (body.dropPrefix? (utf8 "data:")).map (fun data =>
    let data := (data.dropPrefix? (utf8 " ")).getD data
    body.splitAt (body.length - data.length))

def done : List UInt8 := utf8 "[DONE]"

def isTerminalUsageEvent (value : Value) : Bool :=
  (value.get "usage").any Value.isObject

def isDeepinfraPreliminaryUsage (value : Value) (policy : ProviderReportedCostPolicy) : Bool :=
  if policy ≠ .deepInfraEstimatedCost ∨
      ((value.get "choices").bind Value.asArray).all List.isEmpty then false
  else ((value.get "usage").bind Value.asObject).any (fun usage =>
    (SortedMap.get "cost" usage).all Value.isNull && (SortedMap.get "estimated_cost" usage).all Value.isNull)

def genericUpstreamError (canonicalModel : String) : Value :=
  .object [("error",.object [("code",.string "upstream_error"),("message",.string "upstream request failed"),
    ("metadata",.object [("model",.string canonicalModel)])])]

/-- The transformer without its pending bytes. -/
structure EventState where
  prices : Option ProviderPrices
  responseModel : Option String
  costedUsage : Option CostedUsage
  providerCostPolicy : ProviderReportedCostPolicy
  closed : Bool

structure UsageCostTransformer extends EventState where
  pending : List UInt8

namespace UsageCostTransformer

def new (prices : ProviderPrices) : UsageCostTransformer where
  pending := []
  prices := some prices
  responseModel := none
  costedUsage := none
  providerCostPolicy := .usageCostOnly
  closed := false

def withResponseModel (transformer : UsageCostTransformer) (responseModel : String) : UsageCostTransformer :=
  { transformer with responseModel := some responseModel }

def withProviderCostPolicy (transformer : UsageCostTransformer) (policy : ProviderReportedCostPolicy) :
    UsageCostTransformer :=
  { transformer with providerCostPolicy := policy }

end UsageCostTransformer

section Transform
variable (codec : Codec) (arithmetic : Decimal.Arithmetic)

def genericUpstreamErrorEvent (canonicalModel : String) : Except Panic (List UInt8) := do
  let error ← expect (codec.toVec (genericUpstreamError canonicalModel)) "static error serializes"
  return utf8 "data: " ++ error ++ utf8 "\n\ndata: [DONE]\n\n"

namespace EventState

def closeWithGenericError (state : EventState) (responseModel : String) :
    Except Panic (EventState × List UInt8 × Option CostedUsage) := do
  let event ← genericUpstreamErrorEvent codec responseModel
  return ({ state with closed := true, costedUsage := none },event,none)

/-- A preliminary usage is emitted as `null` until the terminal event states its cost. -/
def deferUsage (state : EventState) (value : Value) : Value :=
  if isDeepinfraPreliminaryUsage value state.providerCostPolicy then value.setIndex "usage" .null else value

/-- The cost of a terminal usage event, when the transformer has prices. -/
def priceEvent (state : EventState) (value : Value) :
    Except Panic (Except CostOmission (Option CostedUsage) × Value) :=
  let defer := isDeepinfraPreliminaryUsage value state.providerCostPolicy
  let value := state.deferUsage value
  match state.prices with
  | some prices =>
    if !defer && isTerminalUsageEvent value then do
      let (costed,value) ← injectUsageCostValueWithPolicy arithmetic value prices state.providerCostPolicy
      return (costed.map some,value)
    else return (.ok none,value)
  | none => return (.ok none,value)

def transformPublicEvent (state : EventState) (event : List UInt8) (responseModel : String) :
    Except Panic (EventState × List UInt8 × Option CostedUsage) :=
  let (body,separator) := splitSeparator event
  match singleDataLine body with
  | none => state.closeWithGenericError codec responseModel
  | some (dataPrefix,data) =>
    if data = done then
      if state.prices.isSome ∧ state.costedUsage.isNone then state.closeWithGenericError codec responseModel
      else return ({ state with closed := true, costedUsage := none },event,state.costedUsage)
    else
      match codec.fromSlice data with
      | none => state.closeWithGenericError codec responseModel
      | some value =>
        match sanitizePublicCompletionValue value responseModel with
        | .error _ => state.closeWithGenericError codec responseModel
        | .ok value => do
          match ← state.priceEvent arithmetic value with
          | (.error _,_) => state.closeWithGenericError codec responseModel
          | (.ok costed,value) =>
            match codec.toVec value with
            | none => state.closeWithGenericError codec responseModel
            | some json =>
              return ({ state with costedUsage := costed.or state.costedUsage },
                dataPrefix ++ json ++ separator,none)

def transformInternalEvent (state : EventState) (event : List UInt8) :
    Except Panic (EventState × List UInt8 × Option CostedUsage) :=
  let (body,separator) := splitSeparator event
  match singleDataLine body with
  | none => return (state,event,none)
  | some (dataPrefix,data) =>
    if data = done then return ({ state with costedUsage := none },event,state.costedUsage)
    else
      match codec.fromSlice data with
      | none => return (state,event,none)
      | some value => do
        let (value,sanitized) := stripProviderSpecificFields value
        let defer := isDeepinfraPreliminaryUsage value state.providerCostPolicy
        let (costed,value) ← state.priceEvent arithmetic value
        let costed := costed.toOption.join
        if costed.isNone && !sanitized && !defer then return (state,event,none)
        else
          match codec.toVec value with
          | none => return (state,event,none)
          | some json =>
            return ({ state with costedUsage := costed.or state.costedUsage },
              dataPrefix ++ json ++ separator,none)

def transformEvent (state : EventState) (event : List UInt8) :
    Except Panic (EventState × List UInt8 × Option CostedUsage) :=
  match state.responseModel with
  | some responseModel => state.transformPublicEvent codec arithmetic event responseModel
  | none => state.transformInternalEvent codec arithmetic event

end EventState

/-- The loop of `transform` is the loop of a framing machine over the events. -/
def eventMachine : Machine EventState UInt8 UInt8 CostedUsage Panic where
  step := EventState.transformEvent codec arithmetic
  closed := EventState.closed

namespace UsageCostTransformer

def transform (transformer : UsageCostTransformer) (bytes : List UInt8) :
    Except Panic (UsageCostTransformer × List UInt8 × Option CostedUsage) := do
  let progress ← (eventMachine codec arithmetic).feed nextEventEnd transformer.toEventState
    transformer.pending bytes
  return (⟨progress.state,progress.pending⟩,progress.output,progress.completed)

/-- The pending bytes without one line ending. -/
def finalLine (pending : List UInt8) : List UInt8 :=
  ((pending.dropSuffix? [13,10]).or (pending.dropSuffix? [10])).getD pending

def endsWithDone (pending : List UInt8) : Bool :=
  (singleDataLine (finalLine pending)).any (fun (_,data) => data == done)

def finish (transformer : UsageCostTransformer) : Except Panic (List UInt8 × Option CostedUsage) :=
  if transformer.closed then return ([],none)
  else
    match transformer.responseModel with
    | some responseModel =>
      if endsWithDone transformer.pending then
        if transformer.prices.isSome ∧ transformer.costedUsage.isNone then
          return (← genericUpstreamErrorEvent codec responseModel,none)
        else return (transformer.pending,transformer.costedUsage)
      else return (← genericUpstreamErrorEvent codec responseModel,none)
    | none =>
      return (transformer.pending,
        if endsWithDone transformer.pending then transformer.costedUsage else none)

/-- Chunk after chunk through `transform`, with every completion it returns. -/
def transformAll (transformer : UsageCostTransformer) : List (List UInt8) →
    Except Panic (UsageCostTransformer × List UInt8 × List CostedUsage)
  | [] => return (transformer,[],[])
  | chunk :: chunks => do
    let (next,output,completed) ← transformer.transform codec arithmetic chunk
    let (last,rest,later) ← next.transformAll chunks
    return (last,output ++ rest,completed.toList ++ later)

end UsageCostTransformer

/-- A whole stream: what was emitted, whether the transformer closed before the end of the
input, and every completed usage that was returned. -/
structure StreamRun where
  output : List UInt8
  closed : Bool
  completed : List CostedUsage
  deriving DecidableEq

namespace UsageCostTransformer

def run (transformer : UsageCostTransformer) (chunks : List (List UInt8)) : Except Panic StreamRun := do
  let (last,output,completed) ← transformer.transformAll codec arithmetic chunks
  let (remainder,final) ← last.finish codec
  return ⟨output ++ remainder,last.closed,completed ++ final.toList⟩

/-- The configuration of the proxy: prices, the policy of the provider, a response model. -/
def priced (prices : ProviderPrices) (policy : ProviderReportedCostPolicy) (responseModel : String) :
    UsageCostTransformer :=
  ((new prices).withProviderCostPolicy policy).withResponseModel responseModel

end UsageCostTransformer

end Transform

end SerenRouter
