import SerenRouter.Registry
import SerenRouter.Attribution
import SerenRouter.Kernel.Gather
import Mathlib.Data.Prod.Lex
import Mathlib.Data.List.Sort

/-! The sidecar's configuration compiled from the registry: a concrete route for every mapping
of an enabled provider, and a virtual model with failover targets for every profile and slug. -/
namespace SerenRouter
open Kernel

structure SidecarConfigOptions where
  llmPort : UInt16
  adminAddr : Option String
  statsAddr : Option String
  readinessAddr : String
  enableIpv6 : Bool

/-- `SidecarConfigOptions::default()`. -/
def SidecarConfigOptions.default : SidecarConfigOptions := ⟨4000,none,none,"127.0.0.1:19001",false⟩

inductive SidecarConfigError where
  | registry (error : RegistryValidationError)
  | serialize (message : String)

structure RuntimeConfig where
  adminAddr : Option String
  statsAddr : Option String
  readinessAddr : String
  enableIpv6 : Bool

structure ModelParams where
  baseUrl : String
  model : String
  apiKey : String

structure ModelOverrides where
  model : String

structure HeaderModifier where
  set : List (String × String)

structure Eviction where
  consecutiveFailures : Nat
  duration : String

structure Health where
  eviction : Eviction

structure ModelRoute where
  name : String
  provider : String
  params : ModelParams
  passthrough : String
  overrides : ModelOverrides
  responseHeaders : HeaderModifier
  health : Health

structure VirtualTarget where
  model : String
  priority : Nat

structure Failover where
  targets : List VirtualTarget

structure VirtualRouting where
  failover : Failover

structure VirtualModel where
  name : String
  routing : VirtualRouting

structure LlmConfig where
  port : UInt16
  models : List ModelRoute
  virtualModels : List VirtualModel

structure ResourceName where
  name : String
  resourceNamespace : String

structure PolicyTarget where
  route : ResourceName

structure RetryPolicy where
  attempts : Nat
  codes : List Nat
  condition : String

structure RoutePolicy where
  retry : RetryPolicy

structure TargetedRoutePolicy where
  name : ResourceName
  target : PolicyTarget
  policy : RoutePolicy

structure AgentGatewayConfig where
  config : RuntimeConfig
  llm : LlmConfig
  policies : List TargetedRoutePolicy

def ModelRoute.new (provider : Provider) (mapping : ModelMapping) : ModelRoute where
  name := provider.id ++ "/" ++ mapping.slug
  provider := "openAI"
  params := ⟨provider.baseUrl,mapping.providerModelId,"$" ++ provider.secretEnv⟩
  passthrough := "detect"
  overrides := ⟨mapping.providerModelId⟩
  responseHeaders := ⟨[(servedProviderHeader,provider.id)]⟩
  health := ⟨⟨1,"60s"⟩⟩

def TargetedRoutePolicy.llmRetry : TargetedRoutePolicy where
  name := ⟨"llm-retry","internal"⟩
  target := ⟨⟨"llm:request","internal"⟩⟩
  policy := ⟨⟨2,[429],"response.code >= 500 && response.code < 600"⟩⟩

/-- The enabled providers with each of their mappings, in registry order. -/
def enabledMappings (registry : Registry) : List (Provider × ModelMapping) :=
  (registry.providers.filter Provider.enabled).flatMap (fun provider =>
    provider.models.map (fun mapping => (provider,mapping)))

/-- A profile and a slug, ordered by the profile first. -/
abbrev ProfileSlug := Lex (RoutingProfile × String)

/-- The target that a mapping adds under each profile of its provider. -/
def profileTargets (entry : Provider × ModelMapping) : List (ProfileSlug × VirtualTarget) :=
  (RoutingProfile.all.filter (fun profile => profile ∈ entry.1.profiles)).map (fun profile =>
    (toLex (profile,entry.2.slug),⟨(ModelRoute.new entry.1 entry.2).name,entry.1.priority⟩))

def virtualModel (entry : ProfileSlug × List VirtualTarget) : VirtualModel where
  name := (ofLex entry.1).1.sidecarAlias (ofLex entry.1).2
  routing := ⟨⟨entry.2.insertionSort (fun left right => left.priority ≤ right.priority)⟩⟩

def buildConfig (registry : Registry) (options : SidecarConfigOptions) :
    Except RegistryValidationError AgentGatewayConfig := do
  registry.validate
  let models := (enabledMappings registry).map (fun (provider,mapping) => ModelRoute.new provider mapping)
  let targetsByProfileSlug := SortedMap.gather ((enabledMappings registry).flatMap profileTargets)
  return {
    config := ⟨options.adminAddr,options.statsAddr,options.readinessAddr,options.enableIpv6⟩
    llm := ⟨options.llmPort,models,targetsByProfileSlug.map virtualModel⟩
    policies := [.llmRetry] }

/-- The serializer answers the bytes of the document or the text of its error. -/
def compile (toYaml : AgentGatewayConfig → Except String (List UInt8)) (registry : Registry)
    (options : SidecarConfigOptions) : Except SidecarConfigError (List UInt8) :=
  match buildConfig registry options with
  | .error error => .error (.registry error)
  | .ok config =>
    match toYaml config with
    | .error message => .error (.serialize message)
    | .ok bytes => .ok bytes

theorem buildConfig_success (registry : Registry) (options : SidecarConfigOptions) (config : AgentGatewayConfig) :
    buildConfig registry options = .ok config ↔ registry.validate = .ok () ∧ config = {
      config := ⟨options.adminAddr,options.statsAddr,options.readinessAddr,options.enableIpv6⟩
      llm := ⟨options.llmPort,(enabledMappings registry).map (fun (provider,mapping) => ModelRoute.new provider mapping),
        (SortedMap.gather ((enabledMappings registry).flatMap profileTargets)).map virtualModel⟩
      policies := [.llmRetry] } := by
  rw [buildConfig,bind_success]
  constructor
  · rintro ⟨⟨⟩,valid,equal⟩
    cases equal
    exact ⟨valid,rfl⟩
  · rintro ⟨valid,rfl⟩
    exact ⟨(),valid,rfl⟩

end SerenRouter
