import SerenRouter.Policy.Routing
import SerenRouter.Kernel.Text

/-! The configuration that the service reads from its environment. What each variable must hold, and that a refused
environment is refused for the variable that the error names. -/
namespace SerenRouter
open Kernel

/-- `env::VarError`. -/
inductive VarError where
  | notPresent
  | notUnicode

abbrev Environment := String → Except VarError String

inductive Setting where
  | gatewayKey
  | betaGatewayKey
  | registryPath
  | sidecarReadinessUrl
  | sidecarUrl
  | priceCeiling
  | hysteresis
  | maxShare
  | shareWindow
  deriving DecidableEq

def defaultSidecarUrl : String := "http://127.0.0.1:4000"

def defaultSidecarReadinessUrl : String := "http://127.0.0.1:19001/healthz/ready"

def defaultRegistryPath : String := "registry/providers.yaml"

namespace Setting

def name : Setting → String
  | .gatewayKey => "SEREN_ROUTER_GATEWAY_KEY"
  | .betaGatewayKey => "SEREN_ROUTER_BETA_GATEWAY_KEY"
  | .registryPath => "SEREN_ROUTER_REGISTRY_PATH"
  | .sidecarReadinessUrl => "SEREN_ROUTER_SIDECAR_READINESS_URL"
  | .sidecarUrl => "SEREN_ROUTER_SIDECAR_URL"
  | .priceCeiling => "SEREN_ROUTER_COMBINED_PRICE_CEILING_PER_MTOK"
  | .hysteresis => "SEREN_ROUTER_HYSTERESIS_FRACTION"
  | .maxShare => "SEREN_ROUTER_MAX_SHARE"
  | .shareWindow => "SEREN_ROUTER_SHARE_WINDOW"

/-- What an absent variable stands for. -/
def default : Setting → Option String
  | .registryPath => some defaultRegistryPath
  | .sidecarReadinessUrl => some defaultSidecarReadinessUrl
  | .sidecarUrl => some defaultSidecarUrl
  | _ => none

/-- The variables that an error about one of them is about. -/
def scope : Setting → List Setting
  | .betaGatewayKey => [.betaGatewayKey,.gatewayKey]
  | setting => [setting]

end Setting

inductive ConfigError where
  | missing (setting : Setting)
  | empty (setting : Setting)
  | invalidUnicode (setting : Setting)
  | invalid (setting : Setting)

def ConfigError.setting : ConfigError → Setting
  | .missing setting | .empty setting | .invalidUnicode setting | .invalid setting => setting

/-- The parts of a URL that are looked at. -/
structure UrlApi (Url : Type) where
  parse : String → Option Url
  scheme : Url → String
  hostStr : Url → Option String
  username : Url → String
  password : Url → Option String
  query : Url → Option String
  fragment : Url → Option String

namespace UrlApi
variable {Url : Type} (api : UrlApi Url) (url : Url)

def isHttp : Bool := ["http","https"].contains (api.scheme url)

/-- Something stands beside the host and the path. -/
def isDecorated : Bool :=
  !(api.username url).isEmpty || (api.password url).isSome || (api.query url).isSome || (api.fragment url).isSome

/-- What an address to probe must be. -/
def isEndpoint : Bool := api.isHttp url && (api.hostStr url).isSome && !api.isDecorated url

end UrlApi

/-- The numbers are read by the standard library and the decimals' own; a number that is not finite has no value. -/
structure ConfigApi (Url : Type) where
  url : UrlApi Url
  arithmetic : Decimal.Arithmetic
  parseF64 : String → Option (Option ℚ)

structure RouterConfig (Url : Type) where
  sidecarUrl : String
  sidecarReadinessUrl : Url
  gatewayKey : String
  betaGatewayKey : Option String
  registryPath : String
  routing : RoutingConfig

/-- `usize::from_str`. -/
def parseUsize (text : String) : Option Nat :=
  let digits := if text.toList.head? = some '+' then text.toList.tail else text.toList
  let value := Nat.ofDigitChars 10 digits 0
  if digits.isEmpty || !digits.all Char.isDigit || 2^64 ≤ value then none else some value

inductive RoutingConfigError where
  | policy (error : PolicyConfigError)
  | shareWindow

/-- A fraction that is not finite is refused where a negative one is. -/
def RoutingConfig.new (combinedPriceCeilingPerMtok : Decimal) (hysteresisFraction : Option ℚ) (maxShare : Decimal)
    (shareWindow : Nat) : Except RoutingConfigError RoutingConfig :=
  match PolicyConfig.new combinedPriceCeilingPerMtok (hysteresisFraction.getD (-1)) maxShare.value with
  | .error error => .error (.policy error)
  | .ok policy => if positive : 0 < shareWindow then .ok ⟨policy,shareWindow,positive⟩ else .error .shareWindow

def RoutingConfigError.setting : RoutingConfigError → Setting
  | .policy .negativePriceCeiling => .priceCeiling
  | .policy .invalidHysteresis => .hysteresis
  | .policy .invalidMaxShare => .maxShare
  | .shareWindow => .shareWindow

section Read
variable {Url : Type} (api : ConfigApi Url) (env : Environment)

def requiredEnv (setting : Setting) : Except ConfigError String :=
  match env setting.name with
  | .ok value => .ok value
  | .error .notPresent => .error (.missing setting)
  | .error .notUnicode => .error (.invalidUnicode setting)

def optionalEnv (setting : Setting) (default : String) : Except ConfigError String :=
  match env setting.name with
  | .ok value => .ok value
  | .error .notPresent => .ok default
  | .error .notUnicode => .error (.invalidUnicode setting)

def optionalPresentEnv (setting : Setting) : Except ConfigError (Option String) :=
  match env setting.name with
  | .ok value => .ok (some value)
  | .error .notPresent => .ok none
  | .error .notUnicode => .error (.invalidUnicode setting)

def requiredParsedEnv {T : Type} (parse : String → Option T) (setting : Setting) : Except ConfigError T := do
  let value ← requiredEnv env setting
  match parse (Text.trim value) with
  | none => .error (.invalid setting)
  | some value => .ok value

def parseHttpUrl (setting : Setting) (value : String) : Except ConfigError Url :=
  if Text.isBlank value then .error (.empty setting)
  else match api.url.parse (Text.trim value) with
    | none => .error (.invalid setting)
    | some url =>
      if !api.url.isHttp url || (api.url.hostStr url).isNone || api.url.isDecorated url then .error (.invalid setting)
      else .ok url

def validateGatewayKeys (gatewayKey : String) (betaGatewayKey : Option String) : Except ConfigError Unit :=
  if Text.isBlank gatewayKey then .error (.empty .gatewayKey)
  else if betaGatewayKey.any Text.isBlank then .error (.empty .betaGatewayKey)
  else if betaGatewayKey.any (fun betaKey => betaKey == gatewayKey) then .error (.invalid .betaGatewayKey)
  else .ok ()

def registryPathFromEnv : Except ConfigError String := do
  let registryPath ← optionalEnv env .registryPath defaultRegistryPath
  if Text.isBlank registryPath then .error (.empty .registryPath) else .ok (Text.trim registryPath)

def RouterConfig.fromEnv : Except ConfigError (RouterConfig Url) := do
  let gatewayKey ← requiredEnv env .gatewayKey
  let betaGatewayKey ← optionalPresentEnv env .betaGatewayKey
  let sidecarUrl ← optionalEnv env .sidecarUrl defaultSidecarUrl
  let sidecarReadinessUrl ← parseHttpUrl api .sidecarReadinessUrl
    (← optionalEnv env .sidecarReadinessUrl defaultSidecarReadinessUrl)
  let registryPath ← registryPathFromEnv env
  let priceCeiling ← requiredParsedEnv env api.arithmetic.fromStr .priceCeiling
  let hysteresis ← requiredParsedEnv env api.parseF64 .hysteresis
  let maxShare ← requiredParsedEnv env api.arithmetic.fromStr .maxShare
  let shareWindow ← requiredParsedEnv env parseUsize .shareWindow
  let routing ← (RoutingConfig.new priceCeiling hysteresis maxShare shareWindow).mapError
    (fun error => .invalid error.setting)
  validateGatewayKeys gatewayKey betaGatewayKey
  if Text.isBlank sidecarUrl then .error (.empty .sidecarUrl)
  else .ok ⟨Text.trim sidecarUrl,sidecarReadinessUrl,gatewayKey,betaGatewayKey,registryPath,routing⟩

end Read

section Admits
variable {Url : Type} (api : ConfigApi Url) (env : Environment)

namespace Environment

/-- What is read for a variable. -/
def Gives (setting : Setting) (text : String) : Prop :=
  env setting.name = .ok text ∨ env setting.name = .error .notPresent ∧ setting.default = some text

def GivesParsed {T : Type} (parse : String → Option T) (setting : Setting) (value : T) : Prop :=
  ∃ text, env.Gives setting text ∧ parse (Text.trim text) = some value

/-- What a variable must hold. -/
def Admits : Setting → Prop
  | .gatewayKey => ∃ key, env.Gives .gatewayKey key ∧ Text.isBlank key = false
  | .betaGatewayKey => env Setting.betaGatewayKey.name = .error .notPresent ∨
      ∃ key, env.Gives .betaGatewayKey key ∧ Text.isBlank key = false ∧ ¬ env.Gives .gatewayKey key
  | .registryPath => ∃ path, env.Gives .registryPath path ∧ Text.isBlank path = false
  | .sidecarReadinessUrl => ∃ text, env.Gives .sidecarReadinessUrl text ∧ Text.isBlank text = false ∧
      ∃ url, api.url.parse (Text.trim text) = some url ∧ api.url.isEndpoint url = true
  | .sidecarUrl => ∃ url, env.Gives .sidecarUrl url ∧ Text.isBlank url = false
  | .priceCeiling => ∃ ceiling, env.GivesParsed api.arithmetic.fromStr .priceCeiling ceiling ∧ Decimal.zero ≤ ceiling
  | .hysteresis => ∃ fraction, env.GivesParsed api.parseF64 .hysteresis (some fraction) ∧ 0 ≤ fraction
  | .maxShare => ∃ share, env.GivesParsed api.arithmetic.fromStr .maxShare share ∧ 0 < share.value ∧ share.value ≤ 1
  | .shareWindow => ∃ window, env.GivesParsed parseUsize .shareWindow window ∧ 0 < window

end Environment

/-- A reader answers what the variable gives, and its errors are about it. -/
structure Checks {α : Type} (check : Except ConfigError α) (setting : Setting) (gives : α → Prop) : Prop where
  success : ∀ value, check = .ok value ↔ gives value
  setting : ∀ error, check = .error error → error.setting = setting

theorem Checks.refused {α : Type} {check : Except ConfigError α} {setting : Setting} {gives : α → Prop}
    (checks : Checks check setting gives) (error : ConfigError) (refused : check = .error error) (value : α) :
    ¬ gives value := by
  rw [← checks.success,refused]
  intro same
  cases same

theorem Checks.unique {α : Type} {check : Except ConfigError α} {setting : Setting} {gives : α → Prop}
    (checks : Checks check setting gives) (left right : α) (first : gives left) (second : gives right) :
    left = right := by
  rw [← checks.success] at first second
  exact Except.ok.inj (first.symm.trans second)

theorem requiredEnv_checks (setting : Setting) (required : setting.default = none) :
    Checks (requiredEnv env setting) setting (env.Gives setting) := by
  unfold requiredEnv Environment.Gives
  rw [required]
  split
  · rename_i value present
    exact ⟨fun other => by simp [present],fun error refused => by cases refused⟩
  · rename_i absent
    exact ⟨fun other => by simp [absent],fun error refused => by cases refused; rfl⟩
  · rename_i unreadable
    exact ⟨fun other => by simp [unreadable],fun error refused => by cases refused; rfl⟩

theorem optionalEnv_checks (setting : Setting) (default : String) (stands : setting.default = some default) :
    Checks (optionalEnv env setting default) setting (env.Gives setting) := by
  unfold optionalEnv Environment.Gives
  rw [stands]
  split
  · rename_i value present
    exact ⟨fun other => by simp [present],fun error refused => by cases refused⟩
  · rename_i absent
    exact ⟨fun other => by simp [absent],fun error refused => by cases refused⟩
  · rename_i unreadable
    exact ⟨fun other => by simp [unreadable],fun error refused => by cases refused; rfl⟩

/-- A variable is read, and then what was read. -/
theorem Checks.bind {α β : Type} {check : Except ConfigError α} {next : α → Except ConfigError β} {setting : Setting}
    {gives : α → Prop} {further : α → β → Prop} (first : Checks check setting gives)
    (second : ∀ value, gives value → Checks (next value) setting (further value)) :
    Checks (check >>= next) setting (fun result => ∃ value, gives value ∧ further value result) := by
  refine ⟨fun result => ?_,fun error refused => ?_⟩
  · rw [bind_success]
    refine exists_congr (fun value => ?_)
    rw [first.success]
    exact and_congr_right (fun given => (second value given).success result)
  · cases checked : check with
    | error other =>
      rw [checked] at refused
      cases refused
      exact first.setting error checked
    | ok value =>
      rw [checked] at refused
      exact (second value ((first.success value).mp checked)).setting error refused

theorem requiredParsedEnv_checks {T : Type} (parse : String → Option T) (setting : Setting)
    (required : setting.default = none) :
    Checks (requiredParsedEnv env parse setting) setting (env.GivesParsed parse setting) := by
  apply (requiredEnv_checks env setting required).bind
  intro text given
  cases parsed : parse (Text.trim text) with
  | none => exact ⟨fun value => by simp,fun error refused => by cases refused; rfl⟩
  | some result => exact ⟨fun value => by simp,fun error refused => by cases refused⟩

theorem parseHttpUrl_checks (setting : Setting) (text : String) :
    Checks (parseHttpUrl api setting text) setting (fun url => Text.isBlank text = false ∧
      api.url.parse (Text.trim text) = some url ∧ api.url.isEndpoint url = true) := by
  unfold parseHttpUrl
  split
  · rename_i blank
    exact ⟨fun url => by simp [blank],fun error refused => by cases refused; rfl⟩
  · rename_i filled
    split
    · rename_i unparsed
      exact ⟨fun url => by simp [unparsed],fun error refused => by cases refused; rfl⟩
    · rename_i url parsed
      have tests : (!api.url.isHttp url || (api.url.hostStr url).isNone || api.url.isDecorated url) =
          !api.url.isEndpoint url := by
        rw [UrlApi.isEndpoint,Bool.not_and,Bool.not_and,Bool.not_not,Option.not_isSome]
      rw [tests]
      cases endpoint : api.url.isEndpoint url with
      | false =>
        refine ⟨fun value => ⟨fun refused => (by cases refused),?_⟩,fun error refused => by cases refused; rfl⟩
        rintro ⟨_,same,plain⟩
        cases parsed.symm.trans same
        rw [endpoint] at plain
        cases plain
      | true =>
        refine ⟨fun value => ⟨fun accepted => ?_,?_⟩,fun error refused => by cases refused⟩
        · cases accepted
          exact ⟨by simpa using filled,parsed,endpoint⟩
        · rintro ⟨_,same,_⟩
          cases parsed.symm.trans same
          rfl

theorem registryPathFromEnv_checks : Checks (registryPathFromEnv env) .registryPath (fun path =>
    ∃ text, env.Gives .registryPath text ∧ Text.isBlank text = false ∧ path = Text.trim text) := by
  apply (optionalEnv_checks env .registryPath defaultRegistryPath rfl).bind
  intro text given
  cases blank : Text.isBlank text with
  | false => exact ⟨fun path => by simp [eq_comm],fun error refused => by cases refused⟩
  | true => exact ⟨fun path => by simp,fun error refused => by cases refused; rfl⟩

/-- The beta key is absent, or is the one that is given. -/
theorem optionalPresentEnv_checks (setting : Setting) (required : setting.default = none) :
    Checks (optionalPresentEnv env setting) setting (fun found =>
      found = none ∧ env setting.name = .error .notPresent ∨ ∃ text, found = some text ∧ env.Gives setting text) := by
  unfold optionalPresentEnv Environment.Gives
  rw [required]
  split
  · rename_i value present
    exact ⟨fun found => by simp [present,eq_comm],fun error refused => by cases refused⟩
  · rename_i absent
    exact ⟨fun found => by simp [absent,eq_comm],fun error refused => by cases refused⟩
  · rename_i unreadable
    exact ⟨fun found => by simp [unreadable],fun error refused => by cases refused; rfl⟩

/-- A variable that is admitted is read. -/
theorem Checks.blames {α : Type} {check : Except ConfigError α} {setting : Setting} {gives : α → Prop}
    (checks : Checks check setting gives) (reads : env.Admits api setting → ∃ value, gives value) :
    Blames (fun error => ¬ env.Admits api error.setting) check := by
  intro error refused admitted
  rw [checks.setting error refused] at admitted
  obtain ⟨value,given⟩ := reads admitted
  exact checks.refused error refused value given

/-- What the routing configuration asks of its numbers, each under the variable that it was read from. -/
def RoutingConfig.Within (ceiling : Decimal) (fraction : Option ℚ) (share : Decimal) (window : Nat) : Setting → Prop
  | .priceCeiling => Decimal.zero ≤ ceiling
  | .hysteresis => ∃ value, fraction = some value ∧ 0 ≤ value
  | .maxShare => 0 < share.value ∧ share.value ≤ 1
  | .shareWindow => 0 < window
  | _ => True

section Numbers
variable (ceiling : Decimal) (fraction : Option ℚ) (share : Decimal) (window : Nat)

theorem finite_nonnegative : (∃ value, fraction = some value ∧ 0 ≤ value) ↔ ¬ fraction.getD (-1) < 0 := by
  cases fraction with
  | none => simp
  | some value => simp

theorem RoutingConfig.new_blames :
    Blames (fun error => ¬ RoutingConfig.Within ceiling fraction share window error.setting)
      (RoutingConfig.new ceiling fraction share window) := by
  intro error refused
  unfold RoutingConfig.new PolicyConfig.new at refused
  split at refused
  · rename_i problem found
    cases refused
    split at found
    · rename_i negative
      cases found
      exact fun within => absurd negative ((Decimal.not_lt_iff _ _).mpr within)
    · split at found
      · rename_i negative
        cases found
        exact fun within => (finite_nonnegative fraction).mp within negative
      · split at found
        · rename_i outside
          cases found
          rintro ⟨positive,bounded⟩
          rcases outside with low | high
          · exact absurd positive (not_lt.mpr low)
          · exact absurd bounded (not_le.mpr high)
        · cases found
  · split at refused
    · cases refused
    · rename_i empty
      cases refused
      exact empty

theorem RoutingConfig.new_within (config : RoutingConfig)
    (built : RoutingConfig.new ceiling fraction share window = .ok config) (setting : Setting) :
    RoutingConfig.Within ceiling fraction share window setting := by
  unfold RoutingConfig.new PolicyConfig.new at built
  split at built
  · cases built
  · rename_i policy made
    split at made
    · cases made
    · rename_i ceilingFits
      split at made
      · cases made
      · rename_i fractionFits
        split at made
        · cases made
        · rename_i shareFits
          split at built
          · rename_i positive
            obtain ⟨low,high⟩ := not_or.mp shareFits
            cases setting with
            | priceCeiling => exact (Decimal.not_lt_iff _ _).mp ceilingFits
            | hysteresis => exact (finite_nonnegative fraction).mpr fractionFits
            | maxShare => exact ⟨not_le.mp low,not_lt.mp high⟩
            | shareWindow => exact positive
            | _ => trivial
          · cases built

end Numbers

section Keys
variable (gatewayKey : String) (betaGatewayKey : Option String)

/-- What is asked of the keys. -/
def KeysWithin : Setting → Prop
  | .gatewayKey => Text.isBlank gatewayKey = false
  | .betaGatewayKey => ∀ key, betaGatewayKey = some key → Text.isBlank key = false ∧ key ≠ gatewayKey
  | _ => True

theorem validateGatewayKeys_blames : Blames (fun error => ¬ KeysWithin gatewayKey betaGatewayKey error.setting)
    (validateGatewayKeys gatewayKey betaGatewayKey) := by
  intro error refused within
  unfold validateGatewayKeys at refused
  split at refused
  · rename_i blank
    cases refused
    rw [show Text.isBlank gatewayKey = false from within] at blank
    cases blank
  · split at refused
    · rename_i found
      cases refused
      cases betaGatewayKey with
      | none => cases found
      | some key =>
        rw [Option.any_some,(within key rfl).1] at found
        cases found
    · split at refused
      · rename_i found
        cases refused
        cases betaGatewayKey with
        | none => cases found
        | some key => exact (within key rfl).2 (eq_of_beq found)
      · cases refused

theorem validateGatewayKeys_within (valid : validateGatewayKeys gatewayKey betaGatewayKey = .ok ()) (setting : Setting) :
    KeysWithin gatewayKey betaGatewayKey setting := by
  unfold validateGatewayKeys at valid
  rw [guard_success,guard_success,guard_success] at valid
  obtain ⟨filled,betaFilled,apart,_⟩ := valid
  cases setting with
  | gatewayKey => exact Bool.eq_false_iff.mpr filled
  | betaGatewayKey =>
    rintro key rfl
    exact ⟨Bool.eq_false_iff.mpr betaFilled,fun same => apart (beq_iff_eq.mpr same)⟩
  | _ => trivial

end Keys

/-- What is read into the configuration. -/
structure RouterConfig.Read (config : RouterConfig Url) : Prop where
  gatewayKey : env.Gives .gatewayKey config.gatewayKey
  betaGatewayKey : config.betaGatewayKey = none ∧ env Setting.betaGatewayKey.name = .error .notPresent ∨
    ∃ key, config.betaGatewayKey = some key ∧ env.Gives .betaGatewayKey key
  keys : ∀ setting, KeysWithin config.gatewayKey config.betaGatewayKey setting
  registryPath : registryPathFromEnv env = .ok config.registryPath
  sidecarUrl : ∃ url, env.Gives .sidecarUrl url ∧ config.sidecarUrl = Text.trim url

theorem RouterConfig.fromEnv_success (config : RouterConfig Url) (read : RouterConfig.fromEnv api env = .ok config) :
    (∀ setting, env.Admits api setting) ∧ config.Read env := by
  unfold RouterConfig.fromEnv at read
  obtain ⟨gatewayKey,production,read⟩ := (bind_success _ _ _).mp read
  obtain ⟨betaGatewayKey,beta,read⟩ := (bind_success _ _ _).mp read
  obtain ⟨sidecarUrl,sidecar,read⟩ := (bind_success _ _ _).mp read
  obtain ⟨readiness,probed,read⟩ := (bind_success _ _ _).mp read
  obtain ⟨endpoint,parsed,read⟩ := (bind_success _ _ _).mp read
  obtain ⟨registryPath,registered,read⟩ := (bind_success _ _ _).mp read
  obtain ⟨ceiling,capped,read⟩ := (bind_success _ _ _).mp read
  obtain ⟨fraction,damped,read⟩ := (bind_success _ _ _).mp read
  obtain ⟨share,shared,read⟩ := (bind_success _ _ _).mp read
  obtain ⟨window,opened,read⟩ := (bind_success _ _ _).mp read
  obtain ⟨routing,routed,read⟩ := (bind_success _ _ _).mp read
  obtain ⟨_,valid,read⟩ := (bind_success _ _ _).mp read
  obtain ⟨filled,made⟩ := (guard_success _ _ _ _).mp read
  cases made
  have gatewayGiven := ((requiredEnv_checks env .gatewayKey rfl).success _).mp production
  have betaGiven := ((optionalPresentEnv_checks env .betaGatewayKey rfl).success _).mp beta
  have keys := validateGatewayKeys_within gatewayKey betaGatewayKey valid
  have numbers : RoutingConfig.new ceiling fraction share window = .ok routing := by
    cases built : RoutingConfig.new ceiling fraction share window with
    | error error =>
      rw [built] at routed
      cases routed
    | ok config =>
      rw [built] at routed
      cases routed
      rfl
  have within := RoutingConfig.new_within ceiling fraction share window routing numbers
  have sidecarGiven := ((optionalEnv_checks env .sidecarUrl _ rfl).success _).mp sidecar
  refine ⟨fun setting => ?_,⟨gatewayGiven,betaGiven,keys,registered,sidecarUrl,sidecarGiven,rfl⟩⟩
  cases setting with
  | gatewayKey => exact ⟨gatewayKey,gatewayGiven,keys .gatewayKey⟩
  | betaGatewayKey =>
    rcases betaGiven with ⟨_,absent⟩ | ⟨key,rfl,given⟩
    · exact .inl absent
    · obtain ⟨betaFilled,apart⟩ := keys .betaGatewayKey key rfl
      refine .inr ⟨key,given,betaFilled,fun same => apart ?_⟩
      exact (requiredEnv_checks env .gatewayKey rfl).unique key gatewayKey same gatewayGiven
  | registryPath =>
    obtain ⟨text,given,textFilled,_⟩ := ((registryPathFromEnv_checks env).success _).mp registered
    exact ⟨text,given,textFilled⟩
  | sidecarReadinessUrl =>
    obtain ⟨textFilled,url⟩ := ((parseHttpUrl_checks api _ _).success _).mp parsed
    exact ⟨readiness,((optionalEnv_checks env .sidecarReadinessUrl _ rfl).success _).mp probed,textFilled,endpoint,url⟩
  | sidecarUrl => exact ⟨sidecarUrl,sidecarGiven,Bool.eq_false_iff.mpr filled⟩
  | priceCeiling =>
    exact ⟨ceiling,((requiredParsedEnv_checks env _ .priceCeiling rfl).success _).mp capped,within .priceCeiling⟩
  | hysteresis =>
    obtain ⟨value,rfl,nonnegative⟩ := within .hysteresis
    exact ⟨value,((requiredParsedEnv_checks env _ .hysteresis rfl).success _).mp damped,nonnegative⟩
  | maxShare =>
    exact ⟨share,((requiredParsedEnv_checks env _ .maxShare rfl).success _).mp shared,within .maxShare⟩
  | shareWindow =>
    exact ⟨window,((requiredParsedEnv_checks env _ .shareWindow rfl).success _).mp opened,within .shareWindow⟩

/-- What a check of several variables refuses is refused for the variable that its error names. -/
theorem within_blames {α : Type} {check : Except ConfigError α} {within : Setting → Prop}
    (blames : Blames (fun error => ¬ within error.setting) check)
    (asks : ∀ setting, env.Admits api setting → within setting) :
    Blames (fun error => ¬ env.Admits api error.setting) check :=
  fun error refused admitted => blames error refused (asks error.setting admitted)

theorem RouterConfig.fromEnv_refuses :
    Blames (fun error => ¬ env.Admits api error.setting) (RouterConfig.fromEnv api env) := by
  unfold RouterConfig.fromEnv
  have keyed := requiredEnv_checks env .gatewayKey rfl
  have betaKeyed := optionalPresentEnv_checks env .betaGatewayKey rfl
  have sidecarRead := optionalEnv_checks env .sidecarUrl defaultSidecarUrl rfl
  have readinessRead := optionalEnv_checks env .sidecarReadinessUrl defaultSidecarReadinessUrl rfl
  have ceilingRead := requiredParsedEnv_checks env api.arithmetic.fromStr .priceCeiling rfl
  have fractionRead := requiredParsedEnv_checks env api.parseF64 .hysteresis rfl
  have shareRead := requiredParsedEnv_checks env api.arithmetic.fromStr .maxShare rfl
  have windowRead := requiredParsedEnv_checks env parseUsize .shareWindow rfl
  refine .bind _ _ _ (keyed.blames api env (fun ⟨key,given,_⟩ => ⟨key,given⟩)) (fun gatewayKey production => ?_)
  refine .bind _ _ _ (betaKeyed.blames api env ?_) (fun betaGatewayKey beta => ?_)
  · rintro (absent | ⟨key,given,_⟩)
    · exact ⟨none,.inl ⟨rfl,absent⟩⟩
    · exact ⟨some key,.inr ⟨key,rfl,given⟩⟩
  refine .bind _ _ _ (sidecarRead.blames api env (fun ⟨url,given,_⟩ => ⟨url,given⟩)) (fun sidecarUrl sidecar => ?_)
  refine .bind _ _ _ (readinessRead.blames api env (fun ⟨text,given,_⟩ => ⟨text,given⟩)) (fun readiness probed => ?_)
  refine .bind _ _ _ ((parseHttpUrl_checks api _ readiness).blames api env ?_) (fun endpoint _ => ?_)
  · rintro ⟨text,given,filled,url,parsed⟩
    cases readinessRead.unique text readiness given ((readinessRead.success _).mp probed)
    exact ⟨url,filled,parsed⟩
  refine .bind _ _ _ ((registryPathFromEnv_checks env).blames api env ?_) (fun registryPath _ => ?_)
  · rintro ⟨text,given,filled⟩
    exact ⟨Text.trim text,text,given,filled,rfl⟩
  refine .bind _ _ _ (ceilingRead.blames api env (fun ⟨value,given,_⟩ => ⟨value,given⟩)) (fun ceiling capped => ?_)
  refine .bind _ _ _ (fractionRead.blames api env (fun ⟨value,given,_⟩ => ⟨some value,given⟩)) (fun fraction damped => ?_)
  refine .bind _ _ _ (shareRead.blames api env (fun ⟨value,given,_⟩ => ⟨value,given⟩)) (fun share shared => ?_)
  refine .bind _ _ _ (windowRead.blames api env (fun ⟨value,given,_⟩ => ⟨value,given⟩)) (fun window opened => ?_)
  have numbers (setting : Setting) (admitted : env.Admits api setting) :
      RoutingConfig.Within ceiling fraction share window setting := by
    cases setting with
    | priceCeiling =>
      obtain ⟨value,given,fits⟩ := admitted
      exact ceilingRead.unique value ceiling given ((ceilingRead.success _).mp capped) ▸ fits
    | hysteresis =>
      obtain ⟨value,given,fits⟩ := admitted
      exact ⟨value,(fractionRead.unique (some value) fraction given ((fractionRead.success _).mp damped)).symm,fits⟩
    | maxShare =>
      obtain ⟨value,given,fits⟩ := admitted
      exact shareRead.unique value share given ((shareRead.success _).mp shared) ▸ fits
    | shareWindow =>
      obtain ⟨value,given,fits⟩ := admitted
      exact windowRead.unique value window given ((windowRead.success _).mp opened) ▸ fits
    | _ => trivial
  have keys (setting : Setting) (admitted : env.Admits api setting) : KeysWithin gatewayKey betaGatewayKey setting := by
    have given := (keyed.success _).mp production
    have betaGiven := (betaKeyed.success _).mp beta
    cases setting with
    | gatewayKey =>
      obtain ⟨key,keyGiven,filled⟩ := admitted
      exact keyed.unique key gatewayKey keyGiven given ▸ filled
    | betaGatewayKey =>
      rintro key rfl
      rcases admitted with absent | ⟨other,otherGiven,filled,apart⟩
      · cases betaKeyed.unique none (some key) (.inl ⟨rfl,absent⟩) betaGiven
      · cases betaKeyed.unique (some other) (some key) (.inr ⟨other,rfl,otherGiven⟩) betaGiven
        exact ⟨filled,fun same => apart (same ▸ given)⟩
    | _ => trivial
  refine .bind _ _ _ ?_ (fun routing _ => .bind _ _ _ ?_ (fun _ _ => ?_))
  · apply within_blames api env _ numbers
    intro error refused
    cases built : RoutingConfig.new ceiling fraction share window with
    | error problem =>
      rw [built] at refused
      cases refused
      exact RoutingConfig.new_blames ceiling fraction share window problem built
    | ok config =>
      rw [built] at refused
      cases refused
  · exact within_blames api env (validateGatewayKeys_blames gatewayKey betaGatewayKey) keys
  · intro error refused
    split at refused
    · rename_i blank
      cases refused
      rintro ⟨url,given,filled⟩
      rw [sidecarRead.unique url sidecarUrl given ((sidecarRead.success _).mp sidecar),blank] at filled
      cases filled
    · cases refused

/-- The environment is accepted exactly when every variable holds what it must. -/
theorem RouterConfig.fromEnv_accepts :
    (∃ config, RouterConfig.fromEnv api env = .ok config) ↔ ∀ setting, env.Admits api setting := by
  constructor
  · rintro ⟨config,read⟩
    exact (RouterConfig.fromEnv_success api env config read).1
  · intro admitted
    cases read : RouterConfig.fromEnv api env with
    | error error => exact absurd (admitted error.setting) (RouterConfig.fromEnv_refuses api env error read)
    | ok config => exact ⟨config,rfl⟩

/-- Whether a variable holds what it must is decided by the variables of its scope. -/
theorem Environment.admits_local (other : Environment) (setting : Setting)
    (agree : ∀ named ∈ setting.scope, other named.name = env named.name) :
    other.Admits api setting ↔ env.Admits api setting := by
  cases setting
  all_goals
    simp only [Setting.scope,List.forall_mem_cons,List.not_mem_nil,false_implies,implies_true,and_true] at agree
    simp only [Environment.Admits,Environment.GivesParsed,Environment.Gives,agree]

end Admits

/-- The environment is accepted exactly when every variable holds what it must. A refused one is refused for the
variable that the error names: it is refused whatever the other variables hold. -/
theorem environment_judged {Url : Type} (api : ConfigApi Url) (env : Environment) :
    ((∃ config, RouterConfig.fromEnv api env = .ok config) ↔ ∀ setting, env.Admits api setting) ∧
    ∀ error, RouterConfig.fromEnv api env = .error error → ¬ env.Admits api error.setting ∧
      ∀ other : Environment, (∀ setting ∈ error.setting.scope, other setting.name = env setting.name) →
        ∃ error, RouterConfig.fromEnv api other = .error error := by
  refine ⟨RouterConfig.fromEnv_accepts api env,fun error refused => ?_⟩
  have blamed := RouterConfig.fromEnv_refuses api env error refused
  refine ⟨blamed,fun other agree => ?_⟩
  cases read : RouterConfig.fromEnv api other with
  | error later => exact ⟨later,rfl⟩
  | ok config =>
    have admitted := (RouterConfig.fromEnv_success api other config read).1 error.setting
    exact absurd ((env.admits_local api other error.setting agree).mp admitted) blamed

end SerenRouter
