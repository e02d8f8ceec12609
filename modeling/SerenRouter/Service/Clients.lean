import SerenRouter.Service.Conversation
import SerenRouter.SseClient

/-! What the clients of a running service are told, in whatever order their requests are served. -/
namespace SerenRouter
open Kernel Kernel.Json

namespace Router
variable {G : Type} (router : Router G) (reader : List UInt8 → Option Value)

/-- The conversations of a run: one with each request that has arrived. -/
def Conversing (start : RouterState G) : List (RouterAction G × List (Nat × RequestEvent)) → RouterState G → Prop :=
  router.Serving start (fun _ _ _ request events flight => router.Conversation reader request events flight)

theorem conversation_kept (lawful : router.codec.Lawful reader) (start : RouterState G) :
    router.Kept start (fun _ _ _ request events flight => router.Conversation reader request events flight) := by
  refine ⟨?_,?_,?_⟩
  · intro _ _ found draw now request turn routing _ arrives
    exact router.arrive_converses reader request found draw now turn routing arrives
  · intro _ _ _ request events action number flight turn talked turns
    exact router.inFlight_converses reader request lawful action number flight turn turns events talked
  · intro _ _ _ request events profile id looked talked
    cases talked
    exact .replied _ (lookupReply_unstreamed _ _ _)

theorem run_converses (lawful : router.codec.Lawful reader) (routing : RoutingPolicy G)
    (earlier : List (Nat × GenerationWrite)) (actions : List (RouterAction G))
    (trace : List (RouterAction G × List (Nat × RequestEvent))) (final : RouterState G)
    (ran : router.run (router.start routing earlier) actions = .ok (trace,final)) :
    router.Conversing reader (router.start routing earlier) trace final :=
  router.run_serves _ _ (router.conversation_kept reader lawful _) rfl (fun _ => rfl) actions trace final ran

variable {reader} in
theorem Conversing.converses {start : RouterState G} {trace : List (RouterAction G × List (Nat × RequestEvent))}
    {state : RouterState G} (conversing : router.Conversing reader start trace state) (number : Nat) (draw : G)
    (now : Nat) (request : Request) (arrived : .arrive number draw now request ∈ trace.map Prod.fst) :
    router.Conversation reader request (transcript number trace) (state.flights number) := by
  obtain ⟨_,_,talked⟩ := conversing.holds number draw now request arrived
  exact talked

/-- The client has been told a costed usage: by the body of its reply, or by the last terminal event of a stream that
ends without an error. -/
def Told (events : List RequestEvent) (costed : CostedUsage) : Prop :=
  (∃ reply body value, replies events = [reply] ∧ reply.body = .bytes body ∧ reader body = some value ∧
    Carries value costed) ∨
  ∃ values event, clientEvents reader (emissions events).flatten = values.map .json ++ [.done] ∧
    (∀ value ∈ values, value.get "error" = none) ∧ (terminalEvents values).getLast? = some event ∧ Carries event costed

theorem Conversation.once {request : Request} {events : List RequestEvent} {flight : Option Flight}
    (conversation : router.Conversation reader request events flight) :
    (replies events).length ≤ 1 ∧ (recordings events).length ≤ 1 := by
  cases conversation with
  | waiting | dropped | replied | delivered => simp [replies,recordings]
  | streaming => simp [replies,recordings,List.filterMap_map]
  | interrupted _ _ _ _ _ _ ending _ _ ends =>
    simp only [List.mem_cons,List.not_mem_nil,or_false] at ends
    rcases ends with rfl | rfl | rfl <;> simp [replies,recordings,List.filterMap_map]
  | finished _ _ _ _ _ _ _ _ _ _ _ settles =>
    cases settles <;> simp [replies,recordings,List.filterMap_map]

theorem Charged.stated {events : List Value} {costed : CostedUsage} (charged : Charged none events (some costed)) :
    ∃ event, (terminalEvents events).getLast? = some event ∧ Carries event costed := by
  unfold Charged at charged
  split at charged
  · rename_i event last
    obtain ⟨stored,equal,carries⟩ := charged
    cases equal
    exact ⟨event,last,carries⟩
  · cases charged

theorem Conversation.told {request : Request} {events : List RequestEvent} {flight : Option Flight}
    (lawful : router.codec.Lawful reader) (conversation : router.Conversation reader request events flight)
    (recording : Recording) (member : recording ∈ recordings events) :
    ∃ costed, router.Bills request costed recording ∧ Told reader events costed := by
  cases conversation with
  | waiting | dropped | replied => cases member
  | delivered reply made costed body value sends read carries bills =>
    obtain rfl : recording = made := List.mem_singleton.mp member
    exact ⟨costed,bills,.inl ⟨reply,body,value,rfl,sends,read,carries⟩⟩
  | streaming => simp [recordings,List.filterMap_map] at member
  | interrupted _ _ _ _ _ _ ending _ _ ends =>
    simp only [List.mem_cons,List.not_mem_nil,or_false] at ends
    rcases ends with rfl | rfl | rfl <;> simp [recordings,List.filterMap_map] at member
  | finished reply generation prices chunks sent last closed completed settled opens ran settles =>
    cases settles with
    | omitted reason => simp [recordings,List.filterMap_map] at member
    | recorded costed made bills =>
      obtain rfl : recording = made := by simpa [recordings,List.filterMap_map] using member
      refine ⟨costed,bills,.inr ?_⟩
      obtain ⟨values,emitted,ending⟩ := run_client router.codec reader router.arithmetic lawful prices _ _ chunks _ ran
      rcases ending with ⟨silent,_⟩ | ⟨⟨other,completes,charged⟩,read⟩
      · cases silent
      · obtain rfl : costed = other := by simpa using completes
        obtain ⟨event,stated,carries⟩ := Charged.stated charged
        refine ⟨values,event,?_,fun value inside => (emitted value inside).isPublic.noError,stated,carries⟩
        rw [← read]
        simp [emissions,List.filterMap_map]

theorem Conversing.told (lawful : router.codec.Lawful reader)
    (start : RouterState G) (trace : List (RouterAction G × List (Nat × RequestEvent))) (state : RouterState G)
    (conversing : router.Conversing reader start trace state) (number : Nat) (recording : Recording)
    (recorded : recording ∈ recordings (transcript number trace)) :
    ∃ draw now request costed, .arrive number draw now request ∈ trace.map Prod.fst ∧
      router.Bills request costed recording ∧ Told reader (transcript number trace) costed := by
  have present : number ∈ state.arrived := by
    by_contra absent
    rw [(conversing.silent number absent).1] at recorded
    cases recorded
  obtain ⟨draw,now,request,member⟩ := conversing.known number present
  obtain ⟨costed,bills,told⟩ :=
    (conversing.converses router number draw now request member).told router reader lawful recording recorded
  exact ⟨draw,now,request,costed,member,bills,told⟩

/-- What the client of a streamed reply reads: public events only, and behind a finished stream the end, with the
generic error in front of it when nothing was recorded. -/
structure Overheard (events : List RequestEvent) (canonicalModel : String) : Prop where
  isPublic : ∀ reading ∈ clientEvents reader (emissions events).flatten, PublicReading canonicalModel reading
  ends : .finished ∈ events → ∃ values : List Value, (∀ value ∈ values, value.get "error" = none) ∧
    clientEvents reader (emissions events).flatten = values.map .json ++
      if recordings events = [] then [.json (genericUpstreamError canonicalModel),.done] else [.done]

theorem Conversation.overheard {request : Request} {events : List RequestEvent} {flight : Option Flight}
    (lawful : router.codec.Lawful reader) (conversation : router.Conversation reader request events flight) (reply : Reply)
    (transformer : UsageCostTransformer) (generation : GenerationContext) (headed : .replied reply ∈ events)
    (body : reply.body = .events transformer generation) :
    router.Asks request generation.profile generation.canonicalSlug ∧
      Overheard reader events generation.canonicalSlug := by
  cases conversation with
  | waiting | dropped => cases headed
  | replied made unstreamed =>
    cases List.mem_singleton.mp headed
    exact absurd body (unstreamed transformer generation)
  | delivered made recording costed bytes value sends =>
    obtain rfl : reply = made := by simpa using headed
    rw [sends] at body
    cases body
  | streaming made opened prices chunks sent next firstOutputAt opens fed =>
    obtain rfl : reply = made := by simpa using headed
    rw [opens.body] at body
    cases body
    have sentAll : emissions (.replied reply :: sent.map .emitted) = sent := by simp [emissions,List.filterMap_map]
    refine ⟨opens.asks,?_,by simp⟩
    rw [sentAll]
    exact transformAll_client router.codec reader router.arithmetic lawful prices _ _ chunks next _ _ fed.ran
  | interrupted made opened prices chunks sent next ending opens fed ends =>
    have silent : emissions ending = [] ∧ .finished ∉ ending ∧ .replied reply ∉ ending := by
      simp only [List.mem_cons,List.not_mem_nil,or_false] at ends
      rcases ends with rfl | rfl | rfl <;> simp [emissions]
    obtain rfl : reply = made := by simpa [silent.2.2] using headed
    rw [opens.body] at body
    cases body
    have sentAll : emissions (.replied reply :: (sent.map .emitted ++ ending)) = sent := by
      have split : emissions (.replied reply :: (sent.map .emitted ++ ending)) =
          emissions (sent.map .emitted) ++ emissions ending := emissions_append _ _
      rw [split,silent.1,emissions_emitted,List.append_nil]
    refine ⟨opens.asks,?_,fun finished => absurd finished (by simp [silent.2.1])⟩
    rw [sentAll]
    exact transformAll_client router.codec reader router.arithmetic lawful prices _ _ chunks next _ _ fed.ran
  | finished made opened prices chunks sent last closed completed settled opens ran settles =>
    have quiet : .replied reply ≠ settled := by cases settles <;> simp
    obtain rfl : reply = made := by simpa [quiet] using headed
    rw [opens.body] at body
    cases body
    have sentAll : emissions (.replied reply :: (sent.map .emitted ++ settled :: (last.map .emitted ++ [.finished]))) =
        sent ++ last := by
      cases settles <;> simp [emissions,List.filterMap_map]
    have billed : recordings (.replied reply :: (sent.map .emitted ++ settled :: (last.map .emitted ++ [.finished]))) = [] ↔
        completed = none := by
      cases settles <;> simp [recordings,List.filterMap_map]
    obtain ⟨values,emitted,ending⟩ := run_client router.codec reader router.arithmetic lawful prices _ _ chunks _ ran
    have clean : ∀ value ∈ values, value.get "error" = none :=
      fun value inside => (emitted value inside).isPublic.noError
    have ends := endings_public generation.canonicalSlug
    refine ⟨opens.asks,?_,fun _ => ⟨values,clean,?_⟩⟩
    · rw [sentAll]
      rcases ending with ⟨_,read⟩ | ⟨_,read⟩
      · rw [read]
        exact readings_public router.codec _ values _ emitted ends.2.2
      · rw [read]
        exact readings_public router.codec _ values _ emitted ends.2.1
    · rw [sentAll]
      rcases ending with ⟨silent,read⟩ | ⟨⟨costed,completes,_⟩,read⟩
      · rw [read,if_pos (billed.mpr (by simpa using silent))]
      · rw [read,if_neg (fun unbilled => ?_)]
        rw [billed.mp unbilled] at completes
        cases completes

end Router

section Sample

/-- A streamed completion of the production profile. -/
def sampleOpening (number : Nat) : List (RouterAction Unit) :=
  [sampleArrival number "p" (.completions .chat (utf8 "\x7b\"model\":\"vendor/sole\",\"stream\":true\x7d")),
    .answer number (fun _ => some ⟨.ok,⟨[(servedProviderHeader,utf8 "alpha"),
      (contentTypeHeader,utf8 "text/event-stream; charset=utf-8")]⟩,none,0,0⟩) 1]

/-- Another request is served between two chunks of a stream. -/
def sampleInterleaving : List (RouterAction Unit) :=
  sampleOpening 0 ++ [.source 0 (some (.ok (sampleEvent "acme"))) 2 3] ++ sampleCompletion 1 ++
    [.source 0 (some (.ok sampleEnd)) 4 5]

def streamedProfile (reply : Reply) : Option RoutingProfile :=
  match reply.body with
  | .events _ generation => some generation.profile
  | _ => none

end Sample

/-- The client of a streamed reply reads public events for the model that it asked for, at every moment of a run, and
a stream that was not recorded finishes with the generic error. -/
theorem streams_overheard {G : Type} (router : Router G) (reader : List UInt8 → Option Value)
    (lawful : router.codec.Lawful reader) (routing : RoutingPolicy G) (earlier : List (Nat × GenerationWrite))
    (actions : List (RouterAction G)) (trace : List (RouterAction G × List (Nat × RequestEvent))) (final : RouterState G)
    (ran : router.run (router.start routing earlier) actions = .ok (trace,final)) (number : Nat) (draw : G) (now : Nat)
    (request : Request) (arrived : .arrive number draw now request ∈ actions) (reply : Reply)
    (transformer : UsageCostTransformer) (generation : GenerationContext)
    (headed : .replied reply ∈ transcript number trace) (body : reply.body = .events transformer generation) :
    router.Asks request generation.profile generation.canonicalSlug ∧
      Router.Overheard reader (transcript number trace) generation.canonicalSlug := by
  have conversing := router.run_converses reader lawful routing earlier actions trace final ran
  rw [← Runs.run_actions router.step _ actions trace final ran] at arrived
  exact (conversing.converses router number draw now request arrived).overheard router reader lawful reply transformer
    generation headed body

theorem streams_overheard_sample :
    ∃ policy table catalog trace final request model, SampleRun sampleInterleaving policy table catalog trace final ∧
      (sampleRouter table catalog).Asks request .production model ∧
      Router.Overheard JsonText.codec.fromSlice (transcript 0 trace) model := by
  obtain ⟨policy,table,catalog,trace,final,sampled,seen⟩ := observeSample_success sampleInterleaving
    (fun trace _ => (replies (transcript 0 trace)).map streamedProfile) [some .production] (by decide +kernel)
  obtain ⟨reply,headed,shown⟩ := List.mem_map.mp (seen ▸ List.mem_singleton_self (some RoutingProfile.production))
  unfold streamedProfile at shown
  split at shown
  · rename_i transformer generation body
    have member : RequestEvent.replied reply ∈ transcript 0 trace := by
      obtain ⟨event,inside,same⟩ := List.mem_filterMap.mp headed
      cases event <;> cases same
      exact inside
    obtain ⟨asks,overheard⟩ := streams_overheard (sampleRouter table catalog) JsonText.codec.fromSlice
      JsonText.codec_lawful policy [] sampleInterleaving trace final sampled.ran 0 () 0 _ List.mem_cons_self reply
      transformer generation member body
    rw [Option.some.inj shown] at asks
    exact ⟨policy,table,catalog,trace,final,_,_,sampled,asks,overheard⟩
  · cases shown

end SerenRouter
