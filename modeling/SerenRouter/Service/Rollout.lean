import SerenRouter.Deployment
import SerenRouter.Service.Launch
import SerenRouter.Service.Sidecar

/-! The rollout of a registry: the sidecar's configuration is rendered by one process and the service is started by
another, each with its own answers of the upstream catalogs. What the service sends for a reviewed model, the sidecar
can route. -/
namespace SerenRouter
open Kernel Kernel.Json

section Rendered
variable {Url G Path : Type}

/-- What the rendering command prepares, before it writes. -/
def dispatchRender (api : LaunchApi Url) (surroundings : Surroundings) (paths : PathApi Path)
    (toYaml : AgentGatewayConfig → Except String (List UInt8)) (outputPath : Path) (uuid : String) :
    Except (StartupError ⊕ RenderSidecarConfigError Path) (Render Path) := do
  let registryPath ← (registryPathFromEnv surroundings.env).mapError (fun error => .inl (.configuration error))
  let registry ← (loadRegistry api surroundings registryPath).mapError .inl
  (prepareSidecarConfig paths toYaml registry outputPath uuid).mapError .inr

theorem dispatchRender_success (api : LaunchApi Url) (surroundings : Surroundings) (paths : PathApi Path)
    (toYaml : AgentGatewayConfig → Except String (List UInt8)) (outputPath : Path) (uuid : String) (render : Render Path)
    (rendered : dispatchRender api surroundings paths toYaml outputPath uuid = .ok render) :
    ∃ registryPath registry sidecar, registryPathFromEnv surroundings.env = .ok registryPath ∧
      loadRegistry api surroundings registryPath = .ok registry ∧ buildConfig registry .default = .ok sidecar ∧
      toYaml sidecar = .ok render.rendered := by
  unfold dispatchRender at rendered
  obtain ⟨registryPath,path,rendered⟩ := (bind_success _ _ _).mp rendered
  obtain ⟨registry,loaded,rendered⟩ := (bind_success _ _ _).mp rendered
  rw [mapError_success] at path loaded rendered
  obtain ⟨_,compiled⟩ := prepareSidecarConfig_success paths toYaml registry outputPath uuid render rendered
  unfold compile at compiled
  split at compiled
  · cases compiled
  · rename_i sidecar built
    split at compiled
    · cases compiled
    · rename_i bytes serialized
      cases compiled
      exact ⟨registryPath,registry,sidecar,path,loaded,built,serialized⟩

/-- The path of the registry depends on its variable alone. -/
theorem registryPathFromEnv_same (env other : Environment)
    (same : other Setting.registryPath.name = env Setting.registryPath.name) :
    registryPathFromEnv other = registryPathFromEnv env := by
  unfold registryPathFromEnv optionalEnv
  rw [same]

/-- What the service sends for a reviewed slug names a route of the configuration that another process has rendered
from the same file, whatever the upstream catalogs have answered to either of them. -/
theorem reviewed_attempts_rendered (api : LaunchApi Url) (surroundings : Surroundings) (codec : Codec)
    (reader : List UInt8 → Option Value) (lawful : codec.Lawful reader) (randomness : Randomness G)
    (timestampText : Nat → String) (rng : G) (router : Router G) (routing : RoutingPolicy G)
    (started : runService api surroundings codec randomness timestampText rng = .ok (router,routing))
    (earlier : List (Nat × GenerationWrite)) (actions : List (RouterAction G))
    (trace : List (RouterAction G × List (Nat × RequestEvent))) (final : RouterState G)
    (ran : router.run (router.start routing earlier) actions = .ok (trace,final)) (other : Surroundings)
    (files : other.files = surroundings.files)
    (located : other.env Setting.registryPath.name = surroundings.env Setting.registryPath.name)
    (paths : PathApi Path) (toYaml : AgentGatewayConfig → Except String (List UInt8)) (outputPath : Path)
    (uuid : String) (render : Render Path)
    (rendered : dispatchRender api other paths toYaml outputPath uuid = .ok render) :
    ∃ path bytes reviewed sidecar, registryPathFromEnv surroundings.env = .ok path ∧
      surroundings.files path = some bytes ∧ api.parseRegistry bytes = some reviewed ∧
      buildConfig (hydrateUpstreamCoverage api.config.arithmetic reviewed other.answers) .default = .ok sidecar ∧
      toYaml sidecar = .ok render.rendered ∧
      (NamesApart (hydrateUpstreamCoverage api.config.arithmetic reviewed other.answers) →
        ∀ number profile stream decision left startedAt,
        final.flights number = some (.awaiting profile stream decision left startedAt) →
        ∀ outcomes, ∃ selectedBody sent, codec.toVec left = some selectedBody ∧
          sendSelectedThenFallback codec outcomes left selectedBody decision = .ok sent ∧
          ∀ body ∈ sent.bodies, ∃ original ∈ reviewed.providers, ∃ mapping : ModelMapping,
            mapping.slug = decision.canonicalModel ∧ (∃ value, reader body = some value ∧
              value.get "model" = some (.string (routeName original.id mapping.slug)) ∧
              ∀ key, key ≠ "model" → value.get key = left.get key) ∧
            (mapping.slug ∈ original.slugs → mapping ∈ original.models ∧
              LeadsTo sidecar (routeName original.id mapping.slug) (ModelRoute.new original mapping))) := by
  obtain ⟨config,registry,launched⟩ :=
    runService_launched api surroundings codec randomness timestampText rng router routing started
  obtain ⟨registryPath,otherRegistry,sidecar,path,loaded,compiled,serialized⟩ :=
    dispatchRender_success api other paths toYaml outputPath uuid render rendered
  have read := (RouterConfig.fromEnv_success api.config surroundings.env config launched.configured).2
  have samePath : config.registryPath = registryPath := by
    have agreed := (registryPathFromEnv_same surroundings.env other.env located).symm.trans path
    exact Except.ok.inj (read.registryPath.symm.trans agreed)
  obtain ⟨bytes,reviewed,present,parsed,_,_,extension⟩ :=
    loadRegistry_success api surroundings config.registryPath registry launched.loaded
  obtain ⟨otherBytes,otherReviewed,otherPresent,otherParsed,same,_,otherExtension⟩ :=
    loadRegistry_success api other registryPath otherRegistry loaded
  rw [files,← samePath,present] at otherPresent
  cases otherPresent
  rw [parsed] at otherParsed
  cases otherParsed
  refine ⟨config.registryPath,bytes,reviewed,sidecar,read.registryPath,present,parsed,same ▸ compiled,serialized,?_⟩
  intro apart number profile stream decision left startedAt waiting outcomes
  obtain ⟨_,_,_,_,_,reading,selectedBody,sent,_,planned,written,sends,reads⟩ := router.attempts_read registry reader
    (launched.encodes ▸ lawful) config.routing rng routing launched.routes earlier actions trace final ran number profile
    stream decision left startedAt waiting outcomes
  rw [launched.encodes] at written sends
  refine ⟨selectedBody,sent,written,sends,fun body member => ?_⟩
  obtain ⟨provider,mapping,enabled,compatible,understood⟩ := reads body member
  obtain ⟨original,listed,named,sameRoute,keeps⟩ := extension.reviewed_mapping provider mapping enabled
  refine ⟨original,listed,mapping,compatible.slug.trans planned.canonical,named ▸ understood,fun known => ?_⟩
  obtain ⟨twin,twinNamed,twinEnabled,twinRoute⟩ := otherExtension.covered_mapping original mapping (keeps known)
  have leads := buildConfig_leads otherRegistry (same ▸ apart) .default sidecar compiled
    twin mapping twinEnabled
  rw [twinNamed,twinRoute] at leads
  exact ⟨((mem_enabledMappings reviewed original mapping).mp (keeps known)).2.2,leads⟩

end Rendered

/-- The model of a request that waits for the sidecar. -/
def awaitedModel : Option Flight → Option String
  | some (.awaiting _ _ decision _ _) => some decision.canonicalModel
  | _ => none

theorem sampleReviewed_apart : NamesApart (hydrateUpstreamCoverage Decimal.exact sampleReviewed [none]) := by
  have same : hydrateUpstreamCoverage Decimal.exact sampleReviewed [none] = sampleReviewed := rfl
  have unreserved : ∀ provider ∈ sampleReviewed.providers, ∀ profile ∈ RoutingProfile.all,
      provider.id ≠ aliasPrefix profile := by decide
  rw [same]
  exact namesApart_unslashed sampleReviewed (by decide) (by decide)
    (fun provider member profile => unreserved provider member profile (RoutingProfile.mem_all profile))

theorem reviewed_attempts_rendered_sample : ∃ router routing trace final sidecar, ∃ sent : Sent,
    runService sampleApi (sampleSurroundings [some sampleFeed]) JsonText.codec firstIndex (fun _ => "now") () =
      .ok (router,routing) ∧
    router.run (router.start routing []) [sampleArrival 0 "p" (.completions .chat samplePrompt)] = .ok (trace,final) ∧
    buildConfig (hydrateUpstreamCoverage Decimal.exact sampleReviewed [none]) .default = .ok sidecar ∧
    attemptCount (final.flights 0) = some sent.bodies.length ∧ sent.bodies.length = 1 ∧
    ∀ body ∈ sent.bodies, ∃ value original, ∃ mapping : ModelMapping, JsonText.codec.fromSlice body = some value ∧
      value.get "model" = some (.string (routeName original.id mapping.slug)) ∧
      LeadsTo sidecar (routeName original.id mapping.slug) (ModelRoute.new original mapping) := by
  obtain ⟨router,routing,trace,final,started,ran,awaited⟩ := observeLaunch_success [some sampleFeed]
    [sampleArrival 0 "p" (.completions .chat samplePrompt)]
    (fun _ final => (awaitedModel (final.flights 0),attemptCount (final.flights 0))) (some "vendor/model",some 1)
    (by decide +kernel)
  have renders : (dispatchRender sampleApi (sampleSurroundings [none]) samplePaths sampleYaml sampleOutput
      "a").toOption.isSome = true := by decide +kernel
  obtain ⟨render,rendered⟩ := Option.isSome_iff_exists.mp renders
  obtain ⟨_,_,reviewed,sidecar,_,_,parsed,compiled,_,leads⟩ := reviewed_attempts_rendered sampleApi
    (sampleSurroundings [some sampleFeed]) JsonText.codec JsonText.codec.fromSlice JsonText.codec_lawful firstIndex
    (fun _ => "now") () router routing started [] _ trace final ran (sampleSurroundings [none]) rfl rfl samplePaths
    sampleYaml sampleOutput "a" render ((toOption_some _ _).mp rendered)
  cases Option.some.inj parsed
  obtain ⟨named,counted⟩ := Prod.mk.inj awaited
  unfold awaitedModel at named
  split at named
  · rename_i profile stream decision left startedAt waiting
    rw [waiting] at counted
    obtain ⟨selectedBody,sent,written,sends,reads⟩ := leads sampleReviewed_apart 0 profile stream decision left startedAt
      waiting (fun _ => none)
    have count : attemptCount (some (.awaiting profile stream decision left startedAt)) = some sent.bodies.length := by
      rw [attemptCount,written,Option.getD_some,sends]
      rfl
    refine ⟨router,routing,trace,final,sidecar,sent,started,ran,compiled,waiting ▸ count,
      Option.some.inj (count.symm.trans counted),fun body member => ?_⟩
    obtain ⟨original,listed,mapping,slug,⟨value,read,model,_⟩,leads⟩ := reads body member
    cases List.mem_singleton.mp listed
    have known : mapping.slug ∈ ["vendor/model"] := by
      rw [slug,Option.some.inj named]
      exact List.mem_singleton_self _
    exact ⟨value,_,mapping,read,model,(leads known).2⟩
  · cases named

end SerenRouter
