import SerenRouter.Kernel.Text

/-! The marker by which the sidecar names the provider that served a response. -/
namespace SerenRouter
open Kernel

/-- Header names are lower case; `get` answers the first value of a name. -/
structure HeaderMap where
  entries : List (String × List UInt8)

namespace HeaderMap

def get (headers : HeaderMap) (name : String) : Option (List UInt8) :=
  headers.entries.lookup name

/-- `HeaderValue::to_str`: only visible ASCII characters, spaces and tabs. -/
def toStr (value : List UInt8) : Option String :=
  if value.all (fun byte => (32 ≤ byte && byte < 127) || byte == 9) then
    some (String.ofList (value.map (fun byte => Char.ofNat byte.toNat)))
  else none

end HeaderMap

def servedProviderHeader : String := "x-seren-served-provider"

/-- A provider id that is not empty and has no white space around it. -/
structure ServedProvider where
  asStr : String
  nonempty : asStr ≠ ""
  trimmed : Text.trim asStr = asStr

def ServedProvider.fromHeaders (headers : HeaderMap) : Option ServedProvider := do
  let providerId ← (headers.get servedProviderHeader).bind HeaderMap.toStr
  if nonempty : providerId ≠ "" then
    if trimmed : Text.trim providerId = providerId then some ⟨providerId,nonempty,trimmed⟩ else none
  else none

end SerenRouter
