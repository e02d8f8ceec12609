import SerenRouter.Service.Clients

/-! The accounts of a running service: what is recorded is inserted once or not at all, and what a lookup shows was
told to the client of the request that it was recorded for. -/
namespace SerenRouter
open Kernel Kernel.Json

namespace Router
variable {G : Type} (router : Router G)

/-- The statement that the database executes in a step. -/
def execution : RouterAction G → Option (Nat × GenerationWrite)
  | .insert write now .answered => some (now,write)
  | .late write now => some (now,write)
  | _ => none

def executed (trace : List (RouterAction G × List (Nat × RequestEvent))) : List (Nat × GenerationWrite) :=
  trace.filterMap (fun entry => execution entry.1)

/-- The rows of the recorded generations. -/
def booked (trace : List (RouterAction G × List (Nat × RequestEvent))) : List GenerationWrite :=
  (recordings ((trace.flatMap Prod.snd).map Prod.snd)).filterMap Recording.write

/-- A call of the ledger returns. -/
def isReturn : RouterAction G → Bool
  | .fetch .. | .insert .. => true
  | _ => false

/-- What a call of the ledger returned is reported to the database health. -/
def isReport : RouterAction G → Bool
  | .database (.report _) => true
  | _ => false

theorem executed_snoc (trace : List (RouterAction G × List (Nat × RequestEvent))) (action : RouterAction G)
    (output : List (Nat × RequestEvent)) :
    executed (trace ++ [(action,output)]) = executed trace ++ (execution action).toList := by
  rw [executed,List.filterMap_append]
  cases found : execution action <;> simp [executed,found]

theorem booked_snoc (trace : List (RouterAction G × List (Nat × RequestEvent))) (action : RouterAction G)
    (output : List (Nat × RequestEvent)) :
    booked (trace ++ [(action,output)]) =
      booked trace ++ (recordings (output.map Prod.snd)).filterMap Recording.write := by
  simp [booked,recordings_append]

theorem booked_member (trace : List (RouterAction G × List (Nat × RequestEvent))) (write : GenerationWrite)
    (member : write ∈ booked trace) :
    ∃ number, ∃ recording ∈ recordings (transcript number trace), recording.write = some write := by
  obtain ⟨recording,recorded,written⟩ := List.mem_filterMap.mp member
  obtain ⟨event,inside,same⟩ := List.mem_filterMap.mp recorded
  obtain ⟨tagged,present,rfl⟩ := List.mem_map.mp inside
  refine ⟨tagged.1,recording,List.mem_filterMap.mpr ⟨tagged.2,?_,same⟩,written⟩
  exact List.mem_filterMap.mpr ⟨tagged,present,if_pos rfl⟩

/-- The table holds what was executed, in that order. A recorded row waits for the database, was given up or was
executed, each time that it was recorded; and every return of a ledger call is reported or will be. -/
structure Accounted (earlier : List (Nat × GenerationWrite))
    (trace : List (RouterAction G × List (Nat × RequestEvent))) (state : RouterState G) : Prop where
  table : state.table = Ledger.insertAll HashMap.empty (earlier ++ executed trace)
  rows : (booked trace).Perm (state.inserts ++ state.stray ++ (executed trace).map Prod.snd)
  returns : trace.countP (fun entry => isReturn entry.1) =
    trace.countP (fun entry => isReport entry.1) + state.reports.length

section Steps
variable (earlier : List (Nat × GenerationWrite)) (trace : List (RouterAction G × List (Nat × RequestEvent)))
  (state : RouterState G) (accounted : Accounted earlier trace state)
include accounted

/-- A turn of a request only adds the rows that it records. -/
theorem Accounted.turn (action : RouterAction G) (number : Nat) (turn : Turn) (next : RouterState G)
    (quiet : execution action = none) (own : isReport action = false) (table : next.table = state.table)
    (inserts : next.inserts = state.inserts ++ (recordings turn.events).filterMap Recording.write)
    (stray : next.stray = state.stray)
    (reports : next.reports.length = state.reports.length + if isReturn action then 1 else 0) :
    Accounted earlier (trace ++ [(action,turn.events.map (Prod.mk number))]) next := by
  refine ⟨?_,?_,?_⟩
  · rw [table,executed_snoc,quiet,Option.toList_none,List.append_nil]
    exact accounted.table
  · rw [booked_snoc,events_tagged,executed_snoc,quiet,Option.toList_none,List.append_nil,inserts,stray]
    apply List.perm_iff_count.mpr
    intro write
    have before := accounted.rows.count_eq write
    simp only [List.count_append] at before ⊢
    omega
  · have before := accounted.returns
    rw [List.countP_append,List.countP_append,reports]
    cases returned : isReturn action <;> simp [returned,own] <;> omega

/-- The statement of a row is executed, and the row leaves the list that it is in. -/
theorem Accounted.execute (action : RouterAction G) (write : GenerationWrite) (now : Nat) (next : RouterState G)
    (quiet : execution action = some (now,write)) (own : isReport action = false)
    (table : next.table = (state.execute now write).table)
    (rows : (state.inserts ++ state.stray).Perm (write :: (next.inserts ++ next.stray)))
    (reports : next.reports.length = state.reports.length + if isReturn action then 1 else 0) :
    Accounted earlier (trace ++ [(action,[])]) next := by
  refine ⟨?_,?_,?_⟩
  · have stepped : Ledger.insertAll HashMap.empty ((earlier ++ executed trace) ++ [(now,write)]) =
        (Ledger.insert state.table now write).toOption.getD state.table := by
      rw [accounted.table,Ledger.insertAll,List.foldl_append]
      rfl
    rw [table,executed_snoc,quiet,Option.toList_some,← List.append_assoc,stepped]
    rfl
  · rw [booked_snoc,executed_snoc,quiet,Option.toList_some]
    apply List.perm_iff_count.mpr
    intro other
    have before := accounted.rows.count_eq other
    have moved := rows.count_eq other
    simp only [List.count_append,List.map_append,List.map_cons,List.map_nil,recordings,List.filterMap_nil,
      List.count_nil,List.count_cons] at before moved ⊢
    omega
  · have before := accounted.returns
    rw [List.countP_append,List.countP_append,reports]
    cases returned : isReturn action <;> simp [returned,own] <;> omega

/-- Nothing is recorded or executed. -/
theorem Accounted.rest (action : RouterAction G) (next : RouterState G) (quiet : execution action = none)
    (table : next.table = state.table) (rows : (state.inserts ++ state.stray).Perm (next.inserts ++ next.stray))
    (reports : state.reports.length + (if isReturn action then 1 else 0) =
      next.reports.length + if isReport action then 1 else 0) :
    Accounted earlier (trace ++ [(action,[])]) next := by
  refine ⟨?_,?_,?_⟩
  · rw [table,executed_snoc,quiet,Option.toList_none,List.append_nil]
    exact accounted.table
  · have silent : recordings (([] : List (Nat × RequestEvent)).map Prod.snd) = [] := rfl
    rw [booked_snoc,silent,List.filterMap_nil,executed_snoc,quiet,Option.toList_none,List.append_nil,List.append_nil]
    exact accounted.rows.trans (rows.append_right _)
  · have before := accounted.returns
    rw [List.countP_append,List.countP_append]
    cases returned : isReturn action <;> cases reported : isReport action <;> simp [returned,reported] at reports ⊢ <;> omega

end Steps

theorem step_accounts (earlier : List (Nat × GenerationWrite))
    (trace : List (RouterAction G × List (Nat × RequestEvent))) (state : RouterState G) (action : RouterAction G)
    (output : List (Nat × RequestEvent)) (next : RouterState G) (accounted : Accounted earlier trace state)
    (stepped : router.step state action = .ok (output,next)) :
    Accounted earlier (trace ++ [(action,output)]) next := by
  cases (router.step_success state action output next).mp stepped with
  | arrived number draw now request turn routing fresh arrives =>
    exact accounted.turn earlier trace state _ number turn _ rfl rfl (by simp [RouterState.welcome])
      (by simp [RouterState.welcome]) (by simp [RouterState.welcome]) (by simp [RouterState.welcome,isReturn])
  | turned _ number flight turn held turns =>
    have kind : execution action = none ∧ isReport action = false ∧ isReturn action = false := by
      cases turns <;> exact ⟨rfl,rfl,rfl⟩
    exact accounted.turn earlier trace state action number turn _ kind.1 kind.2.1 (by simp) (by simp) (by simp)
      (by simp [kind.2.2])
  | fetched number contact profile id held =>
    exact accounted.turn earlier trace state _ number ⟨[.replied _],none⟩ _ rfl rfl (by simp [RouterState.due])
      (by simp [RouterState.due]) (by simp [RouterState.due]) (by simp [RouterState.due,isReturn])
  | inserted write now pending =>
    refine accounted.execute earlier trace state _ write now _ rfl rfl rfl ?_ (by simp [RouterState.due,RouterState.execute,isReturn])
    exact (List.perm_cons_erase pending).append_right _
  | lost write now pending =>
    refine accounted.rest earlier trace state _ _ rfl rfl ?_ (by simp [RouterState.due,isReturn,isReport])
    exact ((List.perm_cons_erase pending).append_right _).trans List.perm_middle.symm
  | executed write now strayed =>
    refine accounted.execute earlier trace state _ write now _ rfl rfl rfl ?_ (by simp [RouterState.execute,isReturn])
    exact ((List.perm_cons_erase strayed).append_left _).trans List.perm_middle
  | reported reported supervision reportable _ =>
    refine accounted.rest earlier trace state _ _ rfl rfl (List.Perm.refl _) ?_
    have shorter := List.length_erase_of_mem reportable
    have some := List.length_pos_of_mem reportable
    simp only [isReturn,isReport]
    grind
  | supervised action supervision own _ =>
    have unreported : isReport (.database action : RouterAction G) = false := by
      cases action with
      | report result => exact absurd rfl (own result)
      | _ => rfl
    exact accounted.rest earlier trace state _ _ rfl rfl (List.Perm.refl _) (by simp [isReturn,unreported])

theorem run_accounts (routing : RoutingPolicy G) (earlier : List (Nat × GenerationWrite))
    (actions : List (RouterAction G)) (trace : List (RouterAction G × List (Nat × RequestEvent))) (final : RouterState G)
    (ran : router.run (router.start routing earlier) actions = .ok (trace,final)) : Accounted earlier trace final := by
  apply Runs.run_traces router.step (Accounted earlier) (router.step_accounts earlier) [] (router.start routing earlier)
    actions trace final _ ran
  exact ⟨by simp [start,executed],List.Perm.refl _,rfl⟩

variable (reader : List UInt8 → Option Value)

/-- A generation of a model that a request of the profile has asked for, and whose client has been told the id, the
tokens and the cost of it. -/
def Attested (trace : List (RouterAction G × List (Nat × RequestEvent))) (profile : RoutingProfile)
    (generation : Generation) : Prop :=
  ∃ number draw now request costed, .arrive number draw now request ∈ trace.map Prod.fst ∧
    router.Asks request profile generation.canonicalSlug ∧ Told reader (transcript number trace) costed ∧
    costed.responseId = some generation.id ∧
    generation.promptTokens = some (costed.usage.promptTokens.toNat : Int) ∧
    generation.completionTokens = some (costed.usage.completionTokens.toNat : Int) ∧
    generation.reportedCostUsd = some costed.costUsd

theorem booked_attested (lawful : router.codec.Lawful reader) (rereads : router.arithmetic.Rereads)
    (start : RouterState G) (trace : List (RouterAction G × List (Nat × RequestEvent))) (state : RouterState G)
    (conversing : router.Conversing reader start trace state) (write : Nat × GenerationWrite)
    (member : write.2 ∈ booked trace) :
    router.Attested reader trace write.2.routingProfile (Ledger.selected write) := by
  obtain ⟨number,recording,recorded,written⟩ := booked_member trace write.2 member
  obtain ⟨draw,now,request,costed,arrived,bills,told⟩ :=
    conversing.told router reader lawful start trace state number recording recorded
  have books := bills.books write.2 written
  obtain ⟨prices,_,billed⟩ := bills.charges
  have column := billed.column router.arithmetic rereads
  refine ⟨number,draw,now,request,costed,arrived,?_,told,books.id,congrArg some books.promptTokens,
    congrArg some books.completionTokens,?_⟩
  · have asks := bills.asks
    rw [← books.routingProfile,← books.canonicalSlug] at asks
    exact asks
  · change some (numericColumn write.2.costUsd) = some costed.costUsd
    rw [books.costUsd,column]

end Router

section Sample

/-- A completion is recorded and inserted, and its profile asks for it. -/
def sampleLookup : List (RouterAction Unit) :=
  sampleCompletion 0 ++ [.insert sampleRow 9 .answered,sampleArrival 1 "p" (.generation (some "g"))]

def repliedCode : RequestEvent → Nat
  | .replied reply => reply.status.code
  | _ => 0

end Sample

/-- A recorded row waits for its insert, was given up or was executed, as often as it was recorded. The table holds
the executed statements in their order, and each return of a ledger call is reported to the database health once. -/
theorem rows_accounted {G : Type} (router : Router G) (routing : RoutingPolicy G) (earlier : List (Nat × GenerationWrite))
    (actions : List (RouterAction G)) (trace : List (RouterAction G × List (Nat × RequestEvent))) (final : RouterState G)
    (ran : router.run (router.start routing earlier) actions = .ok (trace,final)) :
    (∀ write, (Router.booked trace).count write = final.inserts.count write + final.stray.count write +
      ((Router.executed trace).map Prod.snd).count write) ∧
    final.table = Ledger.insertAll HashMap.empty (earlier ++ Router.executed trace) ∧
    actions.countP Router.isReturn = actions.countP Router.isReport + final.reports.length := by
  have accounted := router.run_accounts routing earlier actions trace final ran
  have sequence := Runs.run_actions router.step _ actions trace final ran
  refine ⟨?_,accounted.table,?_⟩
  · intro write
    have counted := accounted.rows.count_eq write
    rw [List.count_append,List.count_append] at counted
    exact counted
  · rw [← sequence,List.countP_map,List.countP_map]
    exact accounted.returns

theorem rows_accounted_sample :
    ∃ policy table catalog trace final, SampleRun sampleLookup policy table catalog trace final ∧
      final.inserts.isEmpty = true ∧ (Router.booked trace).count sampleRow = final.inserts.count sampleRow +
        final.stray.count sampleRow + ((Router.executed trace).map Prod.snd).count sampleRow := by
  obtain ⟨policy,table,catalog,trace,final,sampled,seen⟩ := observeSample_success sampleLookup
    (fun _ final => final.inserts.isEmpty) true (by decide +kernel)
  obtain ⟨counted,_⟩ := rows_accounted (sampleRouter table catalog) policy [] sampleLookup trace final sampled.ran
  exact ⟨policy,table,catalog,trace,final,sampled,seen,counted sampleRow⟩

/-- The database answers a lookup with the first statement of the id that its columns admit, when that is one of the
profile whose key the lookup carries. Unless it is older than the service, the client of a request of that profile has
been told what the lookup shows. -/
theorem lookups_attested {G : Type} (router : Router G) (reader : List UInt8 → Option Value)
    (lawful : router.codec.Lawful reader) (rereads : router.arithmetic.Rereads) (routing : RoutingPolicy G)
    (earlier : List (Nat × GenerationWrite)) (actions : List (RouterAction G))
    (trace : List (RouterAction G × List (Nat × RequestEvent))) (state next : RouterState G)
    (ran : router.run (router.start routing earlier) actions = .ok (trace,state)) (number : Nat)
    (output : List (Nat × RequestEvent)) (stepped : router.step state (.fetch number .answered) = .ok (output,next)) :
    ∃ draw now request profile query id found, .arrive number draw now request ∈ actions ∧
      router.auth.authorize request.headers = some profile ∧ request.target = .guarded (.generation query) ∧
      requestedId query = some id ∧
      output = [(number,.replied (lookupReply router.timestampText router.publicProviderNames found))] ∧
      (isText id = true → found = .ok (((Ledger.firstStored (earlier ++ Router.executed trace) id).filter
        (fun write => decide (write.2.routingProfile = profile))).map Ledger.selected)) ∧
      ∀ generation, found = .ok (some generation) → generation.id = id ∧
        ((∃ write ∈ earlier, write.2.routingProfile = profile ∧ generation = Ledger.selected write) ∨
          router.Attested reader trace profile generation) := by
  have accounted := router.run_accounts routing earlier actions trace state ran
  have conversing := router.run_converses reader lawful routing earlier actions trace state ran
  have sequence := Runs.run_actions router.step _ actions trace state ran
  cases (router.step_success state _ output next).mp stepped with
  | turned _ _ flight turn held turns => cases turns
  | fetched _ _ profile id held =>
    have present : number ∈ state.arrived := by
      by_contra absent
      rw [(conversing.silent number absent).2] at held
      cases held
    obtain ⟨draw,now,request,arrived⟩ := conversing.known number present
    have talked := conversing.converses router number draw now request arrived
    rw [held] at talked
    obtain ⟨query,authorized,asked,requested⟩ : ∃ query, router.auth.authorize request.headers = some profile ∧
        request.target = .guarded (.generation query) ∧ requestedId query = some id := by
      generalize transcript number trace = events at talked
      cases talked with
      | waiting _ waits =>
        cases waits with
        | lookup _ _ query authorized asked requested => exact ⟨query,authorized,asked,requested⟩
    have looked : isText id = true → Router.fetched state.table profile id .answered =
        .ok (((Ledger.firstStored (earlier ++ Router.executed trace) id).filter
          (fun write => decide (write.2.routingProfile = profile))).map Ledger.selected) := by
      intro text
      rw [Router.fetched,accounted.table,Ledger.fetch_insertAll _ id profile text]
      rfl
    refine ⟨draw,now,request,profile,query,id,_,sequence ▸ arrived,authorized,asked,requested,rfl,looked,?_⟩
    intro generation shown
    by_cases text : isText id = true
    · rw [looked text] at shown
      obtain ⟨write,kept,rfl⟩ := Option.map_eq_some_iff.mp (Except.ok.inj shown)
      obtain ⟨first,own⟩ := Option.filter_eq_some_iff.mp kept
      have profiled : write.2.routingProfile = profile := of_decide_eq_true own
      obtain ⟨⟨_,named⟩,before,after,split,_⟩ := (Ledger.firstStored_some _ id write).mp first
      refine ⟨named,?_⟩
      have member : write ∈ earlier ++ Router.executed trace := by simp [split]
      rcases List.mem_append.mp member with old | inside
      · exact .inl ⟨write,old,profiled,rfl⟩
      · have booked : write.2 ∈ Router.booked trace :=
          accounted.rows.mem_iff.mpr (List.mem_append_right _ (List.mem_map_of_mem inside))
        rw [← profiled]
        exact .inr (router.booked_attested reader lawful rereads _ trace state conversing write booked)
    · rw [Router.fetched,Ledger.fetch,if_pos text] at shown
      cases shown

theorem lookups_attested_sample :
    ∃ policy table catalog trace state next output generation, SampleRun sampleLookup policy table catalog trace state ∧
      (sampleRouter table catalog).step state (.fetch 1 .answered) = .ok (output,next) ∧
      output = [(1,.replied (generationResponse (sampleRouter table catalog).timestampText
        (sampleRouter table catalog).publicProviderNames generation))] ∧
      generation.id = "g" ∧
      (sampleRouter table catalog).Attested JsonText.codec.fromSlice trace .production generation := by
  obtain ⟨policy,table,catalog,whole,next,sampled,seen⟩ := observeSample_success (sampleLookup ++ [.fetch 1 .answered])
    (fun trace _ => (transcript 1 trace).map repliedCode) [200] (by decide +kernel)
  obtain ⟨trace,state,_,first,second,rfl⟩ := (Runs.run_append _ _ _ _ _ _).mp sampled.ran
  obtain ⟨output,_,_,stepped,last,rfl⟩ := (Runs.run_cons _ _ _ _ _ _).mp second
  cases last
  obtain ⟨_,_,_,profile,query,id,found,arrived,authorized,asked,requested,shown,_,attested⟩ :=
    lookups_attested (sampleRouter table catalog) JsonText.codec.fromSlice JsonText.codec_lawful Decimal.exact_rereads
      policy [] sampleLookup trace state next first 1 output stepped
  simp only [sampleLookup,sampleCompletion,sampleArrival,List.cons_append,List.nil_append,List.mem_cons,
    RouterAction.arrive.injEq,reduceCtorEq,List.not_mem_nil,or_false,false_or,Nat.one_ne_zero,false_and,true_and] at arrived
  obtain ⟨_,_,rfl⟩ := arrived
  cases asked
  have production : profile = .production := by
    have granted : sampleAuth.authorize ⟨[(authorizationHeader,utf8 ("Bearer " ++ "p"))]⟩ = some .production := by
      decide +kernel
    exact Option.some.inj (authorized.symm.trans granted)
  subst production
  obtain rfl : "g" = id := by
    have granted : requestedId (some "g") = some "g" := by decide
    exact Option.some.inj (granted.symm.trans requested)
  rw [transcript_snoc,shown,List.map_append] at seen
  have both : _ ++ [(lookupReply (sampleRouter table catalog).timestampText
      (sampleRouter table catalog).publicProviderNames found).status.code] = [] ++ [200] := seen
  have status := List.singleton_inj.mp (List.append_inj' both rfl).2
  subst shown
  cases found with
  | error message =>
    have refused : 503 = 200 := status
    cases refused
  | ok looked =>
    cases looked with
    | none =>
      have missing : 404 = 200 := status
      cases missing
    | some generation =>
      obtain ⟨named,origin⟩ := attested generation rfl
      refine ⟨policy,table,catalog,trace,state,next,_,generation,⟨sampled.built,sampled.accepted,first⟩,stepped,rfl,named,?_⟩
      rcases origin with ⟨write,old,_⟩ | told
      · cases old
      · exact told

end SerenRouter
