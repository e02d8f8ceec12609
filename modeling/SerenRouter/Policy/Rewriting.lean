import SerenRouter.Policy.RouteGuarantees

/-! What routing does to the request: the model becomes the selected route, the sort is
consumed, and every other field stays as it was. -/
namespace SerenRouter
open Kernel Kernel.Json

/-- A model with its canonical model and the preference of its shortcut. -/
inductive Spells : String → String → Preference → Prop
  | nitro (canonical : String) : Spells (canonical ++ ":nitro") canonical .throughput
  | floor (canonical : String) : Spells (canonical ++ ":floor") canonical .price
  | plain (model : String) (fast : ∀ canonical, model ≠ canonical ++ ":nitro")
    (cheap : ∀ canonical, model ≠ canonical ++ ":floor") : Spells model model .default

/-- The preference of an explicit sort, or else that of the shortcut. -/
inductive Prefers : Option Value → Preference → Preference → Prop
  | absent (shortcut : Preference) : Prefers none shortcut shortcut
  | price (shortcut : Preference) : Prefers (some (.string "price")) shortcut .price
  | throughput (shortcut : Preference) : Prefers (some (.string "throughput")) shortcut .throughput
  | latency (shortcut : Preference) : Prefers (some (.string "latency")) shortcut .latency

/-- A provider without its sort. An object that is left empty is removed; anything that is not
an object stays. -/
inductive SortRemoved : Option Value → Option Value → Prop
  | other (provider : Option Value) (scalar : ∀ fields, provider ≠ some (.object fields)) :
    SortRemoved provider provider
  | emptied (fields : List (String × Value)) (only : ∀ name, name ≠ "sort" → SortedMap.get name fields = none) :
    SortRemoved (some (.object fields)) none
  | kept (fields rest : List (String × Value)) (name : String) (value : Value) (different : name ≠ "sort")
    (present : SortedMap.get name fields = some value)
    (removed : ∀ name, SortedMap.get name rest = if name = "sort" then none else SortedMap.get name fields) :
    SortRemoved (some (.object fields)) (some (.object rest))

/-- The request with another model and without its sort. -/
structure Rewritten (request left : Value) (model : String) : Prop where
  object : request.isObject = true ∧ left.isObject = true
  model : left.get "model" = some (.string model)
  provider : SortRemoved (request.get "provider") (left.get "provider")
  others : ∀ name, name ≠ "model" → name ≠ "provider" → left.get name = request.get name
  wellFormed : request.WellFormed → left.WellFormed

theorem splitShortcut_spells (model : String) : Spells model (splitShortcut model).1 (splitShortcut model).2 := by
  unfold splitShortcut
  split
  · rename_i canonical found
    rw [(Text.stripSuffix_success _ _ _).mp found]
    exact .nitro canonical
  · rename_i fast
    split
    · rename_i canonical found
      rw [(Text.stripSuffix_success _ _ _).mp found]
      exact .floor canonical
    · rename_i cheap
      exact .plain model ((Text.stripSuffix_none _ _).mp fast) ((Text.stripSuffix_none _ _).mp cheap)

theorem explicitPreference_prefers (request : Value) (explicit : Option Preference) (shortcut : Preference)
    (read : explicitPreference request = .ok explicit) :
    Prefers (sortOf request) shortcut (explicit.getD shortcut) := by
  unfold explicitPreference at read
  split at read
  · rename_i sort found
    rw [found]
    unfold parseSort at read
    cases sort with
    | string sort =>
      simp only [Value.asStr] at read
      split at read
      all_goals cases read
      · rename_i equal
        cases equal
        exact .price shortcut
      · rename_i equal
        cases equal
        exact .throughput shortcut
      · rename_i equal
        cases equal
        exact .latency shortcut
    | _ => cases read
  · rename_i absent
    cases read
    rw [absent]
    exact .absent shortcut

theorem consumeRoutingSort_object (fields : List (String × Value)) :
    ∃ rest, consumeRoutingSort (.object fields) = .object rest ∧
      SortRemoved (SortedMap.get "provider" fields) (SortedMap.get "provider" rest) ∧
      (∀ name, name ≠ "provider" → SortedMap.get name rest = SortedMap.get name fields) ∧
      ((Value.object fields).WellFormed → (Value.object rest).WellFormed) := by
  simp only [consumeRoutingSort]
  cases found : SortedMap.get "provider" fields with
  | none => exact ⟨fields,rfl,by rw [found]; exact .other none (by simp),fun _ _ => rfl,id⟩
  | some provider =>
    cases provider with
    | object members =>
      simp only [Option.bind_some,Value.asObject]
      have removed (name : String) : SortedMap.get name (SortedMap.remove "sort" members) =
          if name = "sort" then none else SortedMap.get name members := SortedMap.get_remove _ _ _
      cases left : SortedMap.remove "sort" members with
      | nil =>
        simp only [List.isEmpty_nil,if_true]
        refine ⟨_,rfl,?_,fun name different => ?_,fun wellFormed => Value.wellFormed_retain fields _ wellFormed⟩
        · rw [SortedMap.get_remove,if_pos rfl]
          refine .emptied members (fun name different => ?_)
          have nothing := removed name
          rw [left,if_neg different] at nothing
          exact nothing.symm
        · rw [SortedMap.get_remove,if_neg different]
      | cons first rest =>
        simp only [List.isEmpty_cons,Bool.false_eq_true,if_false]
        rw [← left]
        refine ⟨_,rfl,?_,fun name different => SortedMap.get_insert_ne _ _ _ _ different,fun wellFormed => ?_⟩
        · rw [SortedMap.get_insert_self]
          have kept := removed first.1
          rw [left,SortedMap.get_cons,if_pos rfl] at kept
          have different : first.1 ≠ "sort" := fun same => by simp [same] at kept
          rw [if_neg different] at kept
          exact .kept members _ first.1 first.2 different kept.symm removed
        · have inside := Value.wellFormed_get _ _ "provider" wellFormed found
          exact Value.wellFormed_insert fields "provider" _ wellFormed (Value.wellFormed_retain members _ inside)
    | _ => exact ⟨fields,rfl,by rw [found]; exact .other _ (by simp),fun _ _ => rfl,id⟩

/-- Parsing, consuming the sort and writing the model, in this order, rewrite the request. -/
theorem rewritten_steps (fields : List (String × Value)) (canonical routed : String) :
    Rewritten (.object fields) ((consumeRoutingSort ((Value.object fields).setIndex "model"
      (.string canonical))).setIndex "model" (.string routed)) routed := by
  obtain ⟨rest,consumed,provider,others,wellFormed⟩ :=
    consumeRoutingSort_object (SortedMap.insert "model" (.string canonical) fields)
  have named : (Value.object fields).setIndex "model" (.string canonical) =
    .object (SortedMap.insert "model" (.string canonical) fields) := rfl
  rw [named,consumed]
  refine ⟨⟨rfl,rfl⟩,?_,?_,fun name notModel notProvider => ?_,fun request => ?_⟩
  · rw [Value.get_setIndex,if_pos rfl]
  · rw [Value.get_setIndex,if_neg (by decide),Value.get_object]
    rwa [SortedMap.get_insert_ne _ _ _ _ (by decide)] at provider
  · rw [Value.get_setIndex,if_neg notModel,Value.get_object,Value.get_object,others name notProvider,
      SortedMap.get_insert_ne _ _ _ _ notModel]
  · exact Value.wellFormed_setIndex _ _ _ (wellFormed (Value.wellFormed_insert fields _ _ request trivial)) trivial

section Read
variable (arithmetic : Decimal.Arithmetic)

theorem readRequest_rewrites (request rest : Value) (reading : RequestReading)
    (read : readRequest arithmetic request = .ok (reading,rest)) :
    ∃ model shortcut, request.get "model" = some (.string model) ∧
      Spells model reading.parsed.canonicalModel shortcut ∧
      Prefers (sortOf request) shortcut reading.parsed.preference ∧
      ∀ routed, Rewritten request (rest.setIndex "model" (.string routed)) routed := by
  simp only [readRequest,bind_success] at read
  obtain ⟨_,_,topP,_,stream,_,read⟩ := read
  split at read
  · cases read
  rename_i parsed after parse
  cases read
  unfold parseRequest at parse
  split at parse
  · cases parse
  rename_i model found
  rw [bind_success] at parse
  obtain ⟨explicit,sorted,parse⟩ := parse
  cases parse
  obtain ⟨member,present,named⟩ := Option.bind_eq_some_iff.mp found
  obtain ⟨fields,rfl,_⟩ := Value.get_some_object request member "model" present
  refine ⟨model,(splitShortcut model).2,?_,splitShortcut_spells model,
    explicitPreference_prefers _ explicit _ sorted,rewritten_steps fields _⟩
  rw [present]
  cases member with
  | string text =>
    cases named
    rfl
  | _ => cases named

end Read

/-- A routed request is the original one with the selected route as its model and without its sort;
the plan was made for the canonical model and the preference that the original spells. -/
theorem routing_rewrites_model {G : Type} (arithmetic : Decimal.Arithmetic) (randomness : Randomness G)
    (policy after : RoutingPolicy G) (profile : RoutingProfile) (endpoint : CompletionEndpoint)
    (request left : Value) (decided : RouteDecision)
    (routed : policy.routeForEndpoint arithmetic randomness profile endpoint request =
      .ok ((.ok decided,left),after)) :
    Rewritten request left (decided.selectedProvider ++ "/" ++ decided.canonicalModel) ∧
    ∃ model shortcut preference, request.get "model" = some (.string model) ∧
      Spells model decided.canonicalModel shortcut ∧ Prefers (sortOf request) shortcut preference ∧
      ∃ reading rest descriptors listed share fallbacks next rng,
        RoutingPolicy.Reaches arithmetic policy profile endpoint request reading rest descriptors listed ∧
        reading.parsed = ⟨decided.canonicalModel,preference⟩ ∧
        policy.recentShare (profile,decided.canonicalModel) = .ok share ∧
        chooseRoutes randomness arithmetic preference policy.config.policy share listed policy.state.rng =
          .ok (some (decided.selectedProvider,fallbacks),next,rng) := by
  obtain ⟨reading,rest,descriptors,listed,share,next,selected,fallbacks,rng,reaches,window,chose,rfl,rfl⟩ :=
    RoutingPolicy.routeCase_decision arithmetic randomness policy after profile endpoint request left decided
      ((RoutingPolicy.routeForEndpoint_iff _ _ _ _ _ _ _ _).mp routed)
  obtain ⟨model,shortcut,named,spells,prefers,rewrites⟩ :=
    readRequest_rewrites arithmetic request rest reading reaches.read
  exact ⟨rewrites _,model,shortcut,reading.parsed.preference,named,spells,prefers,reading,rest,descriptors,listed,share,
    fallbacks,next,rng,reaches,rfl,window,chose⟩

section Sample

/-- The answer of a new router to a request. -/
def answerTo (registry : Registry) (request : Value) : Option (Except RouteRequestError RouteDecision) :=
  (RoutingPolicy.fromRegistryWithRng Decimal.exact registry sampleConfig .empty ()).toOption.bind
    (fun policy => (policy.routeForEndpoint Decimal.exact firstIndex .production .chat request).toOption.map
      (fun (answered,_) => answered.1))

theorem answerTo_success (registry : Registry) (request : Value) (answered : Except RouteRequestError RouteDecision)
    (answers : answerTo registry request = some answered) :
    ∃ policy left after,
      RoutingPolicy.fromRegistryWithRng Decimal.exact registry sampleConfig .empty () = .ok policy ∧
      policy.routeForEndpoint Decimal.exact firstIndex .production .chat request = .ok ((answered,left),after) := by
  unfold answerTo at answers
  obtain ⟨policy,built,answers⟩ := Option.bind_eq_some_iff.mp answers
  obtain ⟨⟨⟨_,left⟩,after⟩,routed,equal⟩ := Option.map_eq_some_iff.mp answers
  dsimp only at equal
  subst equal
  exact ⟨policy,left,after,(toOption_some _ _).mp built,(toOption_some _ _).mp routed⟩

def sortedRequest : Value :=
  .object [("model",.string "vendor/model:nitro"),
    ("provider",.object [("sort",.string "price"),("zone",.null)]),("stream",.bool false)]

end Sample

theorem routing_rewrites_model_sample :
    ∃ (policy : RoutingPolicy Unit) (left : Value) (after : RoutingPolicy Unit),
      policy.routeForEndpoint Decimal.exact firstIndex .production .chat sortedRequest =
        .ok ((.ok ⟨.production,"vendor/model","alpha",["zeta/vendor/model"],true⟩,left),after) ∧
      Rewritten sortedRequest left "alpha/vendor/model" := by
  obtain ⟨policy,left,after,_,routed⟩ := answerTo_success sampleRegistry sortedRequest
    (.ok ⟨.production,"vendor/model","alpha",["zeta/vendor/model"],true⟩) (by decide +kernel)
  exact ⟨policy,left,after,routed,(routing_rewrites_model Decimal.exact firstIndex policy after .production .chat
    sortedRequest left _ routed).1⟩

end SerenRouter
