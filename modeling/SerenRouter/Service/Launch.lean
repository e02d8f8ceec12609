import SerenRouter.Configuration
import SerenRouter.Coverage
import SerenRouter.Service.Clients

/-! How the service is started: from the environment, the registry file and the upstream catalogs. Exactly when it
starts, and what the keys of the environment guard in every run of it. -/
namespace SerenRouter
open Kernel Kernel.Json Kernel.Json.JsonText

/-- The code of others: the readers of the configuration and of the registry file, and the database driver, which
refuses some addresses. -/
structure LaunchApi (Url : Type) where
  config : ConfigApi Url
  parseRegistry : List UInt8 → Option Registry
  connectLazy : String → Bool

/-- What a process finds: its variables, the files, and what the upstream catalogs answer to it. -/
structure Surroundings where
  env : Environment
  files : String → Option (List UInt8)
  answers : List (Option (List UpstreamModel))

inductive ProxyConfigError where
  | invalidSidecarUrl
  | invalidRouting (error : RoutingPolicyError)

inductive StartupError where
  | configuration (error : ConfigError)
  | readRegistry (path : String)
  | parseRegistry (path : String)
  | registryValidation (error : RegistryValidationError)
  | panicked (panic : Panic)
  | pricing (error : PriceTableError)
  | databaseUrlRequired
  | databaseUrlEmpty
  | invalidDatabaseUrl
  | proxy (error : ProxyConfigError)

def RouterConfig.auth {Url : Type} (config : RouterConfig Url) : GatewayAuth :=
  match config.betaGatewayKey with
  | some betaKey => (GatewayAuth.new (utf8 config.gatewayKey)).withBetaKey (utf8 betaKey)
  | none => GatewayAuth.new (utf8 config.gatewayKey)

def databaseUrl (env : Environment) : Except StartupError String :=
  match env "DATABASE_URL" with
  | .error _ => .error .databaseUrlRequired
  | .ok url => if Text.isBlank url then .error .databaseUrlEmpty else .ok (Text.trim url)

def trimEndSlashes (text : String) : String := String.ofList (text.toList.reverse.dropWhile (· = '/')).reverse

section Start
variable {Url G : Type} (api : LaunchApi Url) (surroundings : Surroundings)

def loadRegistry (registryPath : String) : Except StartupError Registry :=
  match surroundings.files registryPath with
  | none => .error (.readRegistry registryPath)
  | some bytes =>
    match api.parseRegistry bytes with
    | none => .error (.parseRegistry registryPath)
    | some reviewed =>
      let registry := hydrateUpstreamCoverage api.config.arithmetic reviewed surroundings.answers
      match registry.validate with
      | .error error => .error (.registryValidation error)
      | .ok () => .ok registry

/-- The base of the sidecar's addresses. -/
def sidecarBaseUrl (sidecarUrl : String) : Except ProxyConfigError Url :=
  match api.config.url.parse (trimEndSlashes sidecarUrl ++ "/") with
  | none => .error .invalidSidecarUrl
  | some url =>
    if !api.config.url.isHttp url || api.config.url.isDecorated url then .error .invalidSidecarUrl else .ok url

def ProxyState.new (sidecarUrl : String) (priceTable : PriceTable) (registry : Registry) (routingConfig : RoutingConfig)
    (rng : G) : Except ProxyConfigError (ProxyState × RoutingPolicy G) := do
  let _ ← sidecarBaseUrl api sidecarUrl
  let routing ← (RoutingPolicy.fromRegistryWithRng api.config.arithmetic registry routingConfig .empty rng).mapError
    .invalidRouting
  return (⟨priceTable,SerenRouter.publicProviderAliases registry⟩,routing)

/-- Up to where the service begins to listen. -/
def runService (codec : Codec) (randomness : Randomness G) (timestampText : Nat → String) (rng : G) :
    Except StartupError (Router G × RoutingPolicy G) := do
  let config ← (RouterConfig.fromEnv api.config surroundings.env).mapError .configuration
  let registry ← loadRegistry api surroundings config.registryPath
  let catalog ← (Catalog.fromRegistry api.config.arithmetic registry).mapError .panicked
  let priceTable ← (PriceTable.fromRegistry registry).mapError .pricing
  let databaseUrl ← databaseUrl surroundings.env
  if api.connectLazy databaseUrl then
    let (proxy,routing) ← (ProxyState.new api config.sidecarUrl priceTable registry config.routing rng).mapError .proxy
    return (⟨codec,api.config.arithmetic,randomness,timestampText,recoveryBackoff,config.auth,proxy,catalog,
      publicProviderNames registry⟩,routing)
  else .error .invalidDatabaseUrl

end Start

section Launched
variable {Url G : Type} (api : LaunchApi Url) (surroundings : Surroundings)

/-- What a started service was built from. -/
structure Launched (codec : Codec) (rng : G) (config : RouterConfig Url) (registry : Registry) (router : Router G)
    (routing : RoutingPolicy G) : Prop where
  configured : RouterConfig.fromEnv api.config surroundings.env = .ok config
  loaded : loadRegistry api surroundings config.registryPath = .ok registry
  encodes : router.codec = codec
  computes : router.arithmetic = api.config.arithmetic
  guards : router.auth = config.auth
  lists : Catalog.fromRegistry api.config.arithmetic registry = .ok router.catalog
  prices : PriceTable.fromRegistry registry = .ok router.proxy.priceTable
  routes : RoutingPolicy.fromRegistryWithRng router.arithmetic registry config.routing .empty rng = .ok routing
  connects : ∃ address, databaseUrl surroundings.env = .ok address ∧ api.connectLazy address = true
  reaches : ∃ url, sidecarBaseUrl api config.sidecarUrl = .ok url

theorem runService_launched (codec : Codec) (randomness : Randomness G) (timestampText : Nat → String) (rng : G)
    (router : Router G) (routing : RoutingPolicy G)
    (started : runService api surroundings codec randomness timestampText rng = .ok (router,routing)) :
    ∃ config registry, Launched api surroundings codec rng config registry router routing := by
  unfold runService at started
  obtain ⟨config,configured,started⟩ := (bind_success _ _ _).mp started
  obtain ⟨registry,loaded,started⟩ := (bind_success _ _ _).mp started
  obtain ⟨catalog,lists,started⟩ := (bind_success _ _ _).mp started
  obtain ⟨priceTable,prices,started⟩ := (bind_success _ _ _).mp started
  obtain ⟨address,addressed,started⟩ := (bind_success _ _ _).mp started
  rw [mapError_success] at configured lists prices
  split at started
  · rename_i connected
    obtain ⟨⟨proxy,routed⟩,built,started⟩ := (bind_success _ _ _).mp started
    rw [mapError_success] at built
    obtain ⟨url,reached,built⟩ := (bind_success _ _ _).mp built
    obtain ⟨policy,routes,built⟩ := (bind_success _ _ _).mp built
    rw [mapError_success] at routes
    cases built
    cases started
    exact ⟨config,registry,⟨configured,loaded,rfl,rfl,rfl,lists,prices,routes,⟨address,addressed,connected⟩,url,reached⟩⟩
  · cases started

/-- The loaded registry extends the one that was reviewed. -/
theorem loadRegistry_success (registryPath : String) (registry : Registry)
    (loaded : loadRegistry api surroundings registryPath = .ok registry) :
    ∃ bytes reviewed, surroundings.files registryPath = some bytes ∧ api.parseRegistry bytes = some reviewed ∧
      registry = hydrateUpstreamCoverage api.config.arithmetic reviewed surroundings.answers ∧
      registry.validate = .ok () ∧ reviewed.Extends registry := by
  unfold loadRegistry at loaded
  split at loaded
  · cases loaded
  · rename_i bytes present
    split at loaded
    · cases loaded
    · rename_i reviewed parsed
      dsimp only at loaded
      split at loaded
      · cases loaded
      · rename_i valid
        cases loaded
        exact ⟨bytes,reviewed,present,parsed,rfl,valid,coverage_extends _ reviewed _ valid⟩

end Launched

section Keys
variable {Url G : Type}

/-- The variable that holds the key of a profile. -/
def RoutingProfile.keySetting : RoutingProfile → Setting
  | .production => .gatewayKey
  | .beta => .betaGatewayKey

/-- The request presents the key that the environment holds for the profile. -/
def Presents (env : Environment) (request : Request) (profile : RoutingProfile) : Prop :=
  ∃ credential : String, env profile.keySetting.name = .ok credential ∧ credential.toList.all isVisible = true ∧
    request.headers.get authorizationHeader = some (utf8 ("Bearer " ++ credential))

theorem utf8_injective (left right : String) (same : utf8 left = utf8 right) : left = right := by
  have texts := JsonText.fromUTF8_utf8 left
  rw [same,JsonText.fromUTF8_utf8] at texts
  exact (Option.some.inj texts).symm

/-- A variable without a default gives what it holds. -/
theorem gives_required (env : Environment) (setting : Setting) (required : setting.default = none) (text : String) :
    env.Gives setting text ↔ env setting.name = .ok text := by
  simp [Environment.Gives,required]

/-- The keys of the configuration are those of the environment. -/
theorem RouterConfig.Read.key {env : Environment} {config : RouterConfig Url} (read : config.Read env)
    (profile : RoutingProfile) (bytes : List UInt8) : config.auth.key profile = some bytes ↔
      ∃ credential, env profile.keySetting.name = .ok credential ∧ bytes = utf8 credential := by
  obtain ⟨production,beta,_⟩ := read
  rw [gives_required env .gatewayKey rfl] at production
  cases profile with
  | production =>
    have held : config.auth.key .production = some (utf8 config.gatewayKey) := by
      unfold RouterConfig.auth
      split <;> rfl
    rw [held,RoutingProfile.keySetting,production]
    simp [eq_comm]
  | beta =>
    rw [RoutingProfile.keySetting]
    rcases beta with ⟨none_,absent⟩ | ⟨key,some_,present⟩
    · have held : config.auth.key .beta = none := by
        unfold RouterConfig.auth
        rw [none_]
        rfl
      rw [held,absent]
      simp
    · rw [gives_required env .betaGatewayKey rfl] at present
      have held : config.auth.key .beta = some (utf8 key) := by
        unfold RouterConfig.auth
        rw [some_]
        rfl
      rw [held,present]
      simp [eq_comm]

/-- The two variables do not hold the same key. -/
theorem RouterConfig.Read.apart {env : Environment} {config : RouterConfig Url} (read : config.Read env)
    (credential : String) (production : env Setting.gatewayKey.name = .ok credential) :
    env Setting.betaGatewayKey.name ≠ .ok credential := by
  intro beta
  have same : config.gatewayKey = credential := by
    have given := (gives_required env .gatewayKey rfl _).mp read.gatewayKey
    exact Except.ok.inj (given.symm.trans production)
  rcases read.betaGatewayKey with ⟨_,absent⟩ | ⟨key,held,given⟩
  · cases absent.symm.trans beta
  · rw [gives_required env .betaGatewayKey rfl,beta] at given
    exact (read.keys .betaGatewayKey key held).2 (same ▸ Except.ok.inj given.symm)

theorem RouterConfig.Read.authorize {env : Environment} {config : RouterConfig Url} (read : config.Read env)
    (request : Request) (profile : RoutingProfile) :
    config.auth.authorize request.headers = some profile ↔ Presents env request profile := by
  have apart (one other : RoutingProfile) (credential : String) (first : config.auth.key one = some (utf8 credential))
      (second : config.auth.key other = some (utf8 credential)) : other = one := by
    obtain ⟨key,present,equal⟩ := (read.key one _).mp first
    obtain ⟨again,found,other_⟩ := (read.key other _).mp second
    cases utf8_injective _ _ equal
    cases utf8_injective _ _ other_
    cases one <;> cases other
    · rfl
    · exact absurd found (read.apart credential present)
    · exact absurd present (read.apart credential found)
    · rfl
  rw [authorize_iff]
  constructor
  · rintro ⟨credential,header,visible,held,_⟩
    obtain ⟨key,present,same⟩ := (read.key profile _).mp held
    cases utf8_injective _ _ same
    exact ⟨credential,present,visible,header⟩
  · rintro ⟨credential,present,visible,header⟩
    have held := (read.key profile (utf8 credential)).mpr ⟨credential,present,rfl⟩
    exact ⟨credential,header,visible,held,fun other same => apart profile other credential held same⟩

end Keys

namespace Router
variable {G : Type} (router : Router G)

/-- A guarded request without a profile has been told so, and is over. -/
def Refused (request : Request) (events : List RequestEvent) (flight : Option Flight) : Prop :=
  router.auth.authorize request.headers = none → ∀ target, request.target = .guarded target →
    events = [.replied unauthorized] ∧ flight = none

theorem refusals_kept (start : RouterState G) :
    router.Kept start (fun _ _ _ request events flight => router.Refused request events flight) := by
  refine ⟨?_,?_,?_⟩
  · intro _ _ found draw now request turn routing _ arrives refused target guarded
    unfold arrive at arrives
    rw [guarded] at arrives
    dsimp only at arrives
    rw [refused] at arrives
    cases arrives
    exact ⟨rfl,rfl⟩
  · intro _ _ _ request events action number flight turn before _ refused target guarded
    cases (before refused target guarded).2
  · intro _ _ _ request events profile id looked before refused target guarded
    cases (before refused target guarded).2

end Router

section Sample

/-- The URL reader on the addresses of the sample. -/
def sampleUrls : UrlApi String where
  parse text := if text.isEmpty then none else some text
  scheme url := String.ofList (url.toList.takeWhile (· ≠ ':'))
  hostStr _ := some "127.0.0.1"
  username _ := ""
  password _ := none
  query _ := none
  fragment _ := none

def sampleReviewed : Registry :=
  ⟨[{ sampleProvider "alpha" 0 ["vendor/model"] with catalogUrl := some "https://catalog.test/models" }]⟩

def sampleApi : LaunchApi String :=
  ⟨⟨sampleUrls,Decimal.exact,fun text => if text = "0.1" then some (some (1 / 10)) else none⟩,
    fun _ => some sampleReviewed,fun _ => true⟩

def sampleVariables : List (String × String) :=
  [("SEREN_ROUTER_GATEWAY_KEY","p"),("SEREN_ROUTER_BETA_GATEWAY_KEY","b"),
    ("SEREN_ROUTER_COMBINED_PRICE_CEILING_PER_MTOK","10"),("SEREN_ROUTER_HYSTERESIS_FRACTION","0.1"),
    ("SEREN_ROUTER_MAX_SHARE","0.6"),("SEREN_ROUTER_SHARE_WINDOW"," 100 "),("DATABASE_URL","postgres://ledger")]

def sampleEnv (name : String) : Except VarError String :=
  match sampleVariables.lookup name with
  | some value => .ok value
  | none => .error .notPresent

def sampleSurroundings (answers : List (Option (List UpstreamModel))) : Surroundings :=
  ⟨sampleEnv,fun path => if path = defaultRegistryPath then some [] else none,answers⟩

/-- A run of the service that is started in these surroundings, as an observer sees it. -/
def observeLaunch {α : Type} (answers : List (Option (List UpstreamModel))) (actions : List (RouterAction Unit))
    (observe : List (RouterAction Unit × List (Nat × RequestEvent)) → RouterState Unit → α) : Option α :=
  (runService sampleApi (sampleSurroundings answers) JsonText.codec firstIndex (fun _ => "now") ()).toOption.bind
    (fun started => (started.1.run (started.1.start started.2 []) actions).toOption.map (fun ran => observe ran.1 ran.2))

theorem observeLaunch_success {α : Type} (answers : List (Option (List UpstreamModel)))
    (actions : List (RouterAction Unit))
    (observe : List (RouterAction Unit × List (Nat × RequestEvent)) → RouterState Unit → α) (seen : α)
    (observed : observeLaunch answers actions observe = some seen) :
    ∃ router routing trace final, runService sampleApi (sampleSurroundings answers) JsonText.codec firstIndex
        (fun _ => "now") () = .ok (router,routing) ∧
      router.run (router.start routing []) actions = .ok (trace,final) ∧ observe trace final = seen := by
  obtain ⟨⟨router,routing⟩,started,observed⟩ := Option.bind_eq_some_iff.mp observed
  obtain ⟨⟨trace,final⟩,ran,equal⟩ := Option.map_eq_some_iff.mp observed
  exact ⟨router,routing,trace,final,(toOption_some _ _).mp started,(toOption_some _ _).mp ran,equal⟩

def samplePrompt : List UInt8 := utf8 "\x7b\"model\":\"vendor/model\"\x7d"

/-- One request with a key that nobody has, and one of the production profile. -/
def sampleVisits : List (RouterAction Unit) :=
  [sampleArrival 0 "x" .models,sampleArrival 1 "p" (.completions .chat samplePrompt),
    .answer 1 (fun _ => some sampleResponse) 5]

end Sample

section Started
variable {Url G : Type}

theorem databaseUrl_success (env : Environment) (address : String) : databaseUrl env = .ok address ↔
    ∃ text, env "DATABASE_URL" = .ok text ∧ Text.isBlank text = false ∧ address = Text.trim text := by
  unfold databaseUrl
  split
  · rename_i error absent
    constructor
    · intro refused
      cases refused
    · rintro ⟨text,present,_⟩
      cases absent.symm.trans present
  · rename_i text present
    rw [guard_success]
    constructor
    · rintro ⟨filled,same⟩
      exact ⟨text,present,Bool.eq_false_iff.mpr filled,(Except.ok.inj same).symm⟩
    · rintro ⟨other,found,filled,rfl⟩
      cases present.symm.trans found
      exact ⟨Bool.eq_false_iff.mp filled,rfl⟩

/-- Exactly when the service starts: the variables hold what they must, the sidecar's address can be extended, the
registry file with what the upstream catalogs add to it can be served, and the database's address is understood. -/
theorem launches_iff (api : LaunchApi Url) (divides : api.config.arithmetic.Divides) (surroundings : Surroundings)
    (codec : Codec) (randomness : Randomness G) (timestampText : Nat → String) (rng : G) :
    (∃ started, runService api surroundings codec randomness timestampText rng = .ok started) ↔
      (∀ setting, surroundings.env.Admits api.config setting) ∧
      (∃ url base, surroundings.env.Gives .sidecarUrl url ∧ sidecarBaseUrl api (Text.trim url) = .ok base) ∧
      (∃ path bytes reviewed, surroundings.env.Gives .registryPath path ∧
        surroundings.files (Text.trim path) = some bytes ∧ api.parseRegistry bytes = some reviewed ∧
        Ready api.config.arithmetic
          (hydrateUpstreamCoverage api.config.arithmetic reviewed surroundings.answers)) ∧
      ∃ address, surroundings.env "DATABASE_URL" = .ok address ∧ Text.isBlank address = false ∧
        api.connectLazy (Text.trim address) = true := by
  constructor
  · rintro ⟨⟨router,routing⟩,started⟩
    obtain ⟨config,registry,launched⟩ :=
      runService_launched api surroundings codec randomness timestampText rng router routing started
    obtain ⟨admitted,read⟩ := RouterConfig.fromEnv_success api.config surroundings.env config launched.configured
    obtain ⟨url,given,sidecarUrl⟩ := read.sidecarUrl
    obtain ⟨base,reached⟩ := launched.reaches
    obtain ⟨path,pathGiven,_,registryPath⟩ := ((registryPathFromEnv_checks surroundings.env).success _).mp read.registryPath
    obtain ⟨bytes,reviewed,present,parsed,rfl,valid,_⟩ :=
      loadRegistry_success api surroundings config.registryPath registry launched.loaded
    obtain ⟨address,addressed,connected⟩ := launched.connects
    obtain ⟨text,held,filled,rfl⟩ := (databaseUrl_success surroundings.env address).mp addressed
    have starts : Starts api.config.arithmetic
        (hydrateUpstreamCoverage api.config.arithmetic reviewed surroundings.answers) config.routing .empty rng :=
      ⟨valid,⟨_,launched.lists⟩,⟨_,launched.prices⟩,routing,launched.computes ▸ launched.routes⟩
    have ready := (starts_iff api.config.arithmetic divides _ config.routing .empty rng).mp starts
    exact ⟨admitted,⟨url,base,given,sidecarUrl ▸ reached⟩,
      ⟨path,bytes,reviewed,pathGiven,registryPath ▸ present,parsed,ready⟩,text,held,filled,connected⟩
  · rintro ⟨admitted,⟨url,base,given,reached⟩,⟨path,bytes,reviewed,pathGiven,present,parsed,ready⟩,
      ⟨text,held,filled,connected⟩⟩
    obtain ⟨config,configured⟩ := (RouterConfig.fromEnv_accepts api.config surroundings.env).mpr admitted
    have read := (RouterConfig.fromEnv_success api.config surroundings.env config configured).2
    have sidecarUrl : config.sidecarUrl = Text.trim url := by
      obtain ⟨other,otherGiven,same⟩ := read.sidecarUrl
      rw [same,(optionalEnv_checks surroundings.env .sidecarUrl _ rfl).unique other url otherGiven given]
    have registryPath : config.registryPath = Text.trim path := by
      obtain ⟨other,otherGiven,_,same⟩ := ((registryPathFromEnv_checks surroundings.env).success _).mp read.registryPath
      rw [same,(optionalEnv_checks surroundings.env .registryPath _ rfl).unique other path otherGiven pathGiven]
    have loaded : loadRegistry api surroundings config.registryPath =
        .ok (hydrateUpstreamCoverage api.config.arithmetic reviewed surroundings.answers) := by
      unfold loadRegistry
      rw [registryPath,present]
      dsimp only
      rw [parsed]
      dsimp only
      rw [ready.valid]
    generalize hydrateUpstreamCoverage api.config.arithmetic reviewed surroundings.answers = registry at ready loaded
    obtain ⟨_,⟨catalog,lists⟩,⟨table,prices⟩,policy,routes⟩ :=
      (starts_iff api.config.arithmetic divides _ config.routing .empty rng).mpr ready
    have addressed := (databaseUrl_success surroundings.env _).mpr ⟨text,held,filled,rfl⟩
    have proxied : ProxyState.new api config.sidecarUrl table registry config.routing rng =
        .ok (⟨table,publicProviderAliases registry⟩,policy) := by
      unfold ProxyState.new
      rw [sidecarUrl,reached,ok_bind,(mapError_success _ _ _).mpr routes]
      rfl
    refine ⟨(⟨codec,api.config.arithmetic,randomness,timestampText,recoveryBackoff,config.auth,
      ⟨table,publicProviderAliases registry⟩,catalog,publicProviderNames registry⟩,policy),?_⟩
    unfold runService
    rw [(mapError_success _ _ _).mpr configured,ok_bind,loaded,ok_bind,(mapError_success _ _ _).mpr lists,ok_bind,
      (mapError_success _ _ _).mpr prices,ok_bind,addressed,ok_bind,if_pos connected,
      (mapError_success _ _ _).mpr proxied]
    rfl

end Started

theorem launches_iff_sample : (∃ started, runService sampleApi (sampleSurroundings [some sampleFeed]) JsonText.codec
      firstIndex (fun _ => "now") () = .ok started) ∧
    Ready Decimal.exact (hydrateUpstreamCoverage Decimal.exact sampleReviewed [some sampleFeed]) := by
  obtain ⟨router,routing,_,_,started,_,_⟩ := observeLaunch_success [some sampleFeed] [] (fun _ _ => ()) ()
    (by decide +kernel)
  obtain ⟨_,_,⟨path,bytes,reviewed,_,_,parsed,ready⟩,_⟩ := (launches_iff sampleApi Decimal.exact_divides
    (sampleSurroundings [some sampleFeed]) JsonText.codec firstIndex (fun _ => "now") ()).mp ⟨_,started⟩
  cases Option.some.inj parsed
  exact ⟨⟨_,started⟩,ready⟩

section Guarded
variable {Url G : Type}

/-- The keys of the environment guard the service that was started in it: a request is served for a profile if and only
if it presents the key of this profile, without one it is refused and leaves nothing behind, and what is recorded for
a profile was asked for with its key. -/
theorem launched_guarded (api : LaunchApi Url) (surroundings : Surroundings) (codec : Codec)
    (reader : List UInt8 → Option Value) (lawful : codec.Lawful reader) (randomness : Randomness G)
    (timestampText : Nat → String) (rng : G) (router : Router G) (routing : RoutingPolicy G)
    (started : runService api surroundings codec randomness timestampText rng = .ok (router,routing))
    (earlier : List (Nat × GenerationWrite)) (actions : List (RouterAction G))
    (trace : List (RouterAction G × List (Nat × RequestEvent))) (final : RouterState G)
    (ran : router.run (router.start routing earlier) actions = .ok (trace,final)) (number : Nat) (draw : G) (now : Nat)
    (request : Request) (arrived : .arrive number draw now request ∈ actions) :
    (∀ profile, router.auth.authorize request.headers = some profile ↔ Presents surroundings.env request profile) ∧
    (∀ target, request.target = .guarded target → (∀ profile, ¬ Presents surroundings.env request profile) →
      transcript number trace = [.replied unauthorized] ∧ final.flights number = none) ∧
    ∀ recording ∈ recordings (transcript number trace), Presents surroundings.env request recording.profile := by
  obtain ⟨config,registry,launched⟩ :=
    runService_launched api surroundings codec randomness timestampText rng router routing started
  have read := (RouterConfig.fromEnv_success api.config surroundings.env config launched.configured).2
  have presents (profile : RoutingProfile) :
      router.auth.authorize request.headers = some profile ↔ Presents surroundings.env request profile := by
    rw [launched.guards,read.authorize request profile]
  rw [← Runs.run_actions router.step _ actions trace final ran] at arrived
  refine ⟨presents,fun target guarded without => ?_,fun recording recorded => ?_⟩
  · have serving := router.run_serves _ _ (router.refusals_kept _) rfl (fun _ => rfl) actions trace final ran
    obtain ⟨_,_,refused⟩ := serving.holds number draw now request arrived
    apply refused _ target guarded
    apply Option.eq_none_iff_forall_ne_some.mpr
    intro profile granted
    exact without profile ((presents profile).mp granted)
  · have conversing := router.run_converses reader (launched.encodes ▸ lawful) routing earlier actions trace final ran
    have conversation := conversing.converses router number draw now request arrived
    obtain ⟨costed,bills,_⟩ := conversation.told router reader (launched.encodes ▸ lawful) recording recorded
    exact (presents recording.profile).mp bills.asks.authorized

end Guarded

theorem launched_guarded_sample : ∃ router routing trace final request,
    runService sampleApi (sampleSurroundings [some sampleFeed]) JsonText.codec firstIndex (fun _ => "now") () =
      .ok (router,routing) ∧
    router.run (router.start routing []) sampleVisits = .ok (trace,final) ∧
    transcript 0 trace = [.replied unauthorized] ∧ .arrive 1 () 0 request ∈ sampleVisits ∧
    (recordings (transcript 1 trace)).length = 1 ∧
    ∀ recording ∈ recordings (transcript 1 trace), Presents sampleEnv request recording.profile := by
  obtain ⟨router,routing,trace,final,started,ran,recorded⟩ := observeLaunch_success [some sampleFeed] sampleVisits
    (fun trace _ => (recordings (transcript 1 trace)).length) 1 (by decide +kernel)
  have guarded := launched_guarded sampleApi (sampleSurroundings [some sampleFeed]) JsonText.codec
    JsonText.codec.fromSlice JsonText.codec_lawful firstIndex (fun _ => "now") () router routing started [] sampleVisits
    trace final ran
  obtain ⟨_,refused,_⟩ := guarded 0 () 0 _ List.mem_cons_self
  obtain ⟨_,_,asked⟩ := guarded 1 () 0 _ (List.mem_cons_of_mem _ List.mem_cons_self)
  refine ⟨router,routing,trace,final,_,started,ran,(refused .models rfl ?_).1,
    List.mem_cons_of_mem _ List.mem_cons_self,recorded,asked⟩
  rintro profile ⟨credential,held,_,header⟩
  have other : utf8 ("Bearer " ++ "x") = utf8 ("Bearer " ++ credential) := Option.some.inj header
  cases profile with
  | production =>
    cases held
    exact absurd (utf8_injective _ _ other) (by decide)
  | beta =>
    cases held
    exact absurd (utf8_injective _ _ other) (by decide)

end SerenRouter
