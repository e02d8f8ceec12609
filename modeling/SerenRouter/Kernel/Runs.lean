import SerenRouter.Kernel.Outcome

/-! Runs of a machine whose step answers an output, and the two rules by which runs are
reasoned about here: an invariant that makes every step succeed makes every run succeed,
and a run from which the unobserved actions are deleted observes the same outputs. -/
namespace SerenRouter.Kernel.Runs

variable {State Action Output ε : Type} (step : State → Action → Except ε (Output × State))

/-- A run answers every action with its output. -/
def run : State → List Action → Except ε (List (Action × Output) × State)
  | state, [] => .ok ([],state)
  | state, action :: actions => do
    let (output,state) ← step state action
    let (trace,state) ← run state actions
    return ((action,output) :: trace,state)

theorem run_cons (state : State) (action : Action) (actions : List Action)
    (trace : List (Action × Output)) (final : State) :
    run step state (action :: actions) = .ok (trace,final) ↔
      ∃ output next rest, step state action = .ok (output,next) ∧ run step next actions = .ok (rest,final) ∧
        trace = (action,output) :: rest := by
  rw [run,bind_success]
  constructor
  · rintro ⟨⟨output,next⟩,stepped,ran⟩
    rw [bind_success] at ran
    obtain ⟨⟨rest,last⟩,ran,equal⟩ := ran
    cases equal
    exact ⟨output,next,rest,stepped,ran,rfl⟩
  · rintro ⟨output,next,rest,stepped,ran,rfl⟩
    exact ⟨(output,next),stepped,by dsimp only; rw [ran]; rfl⟩

theorem run_append (state final : State) (earlier later : List Action) (trace : List (Action × Output)) :
    run step state (earlier ++ later) = .ok (trace,final) ↔
      ∃ before middle after, run step state earlier = .ok (before,middle) ∧
        run step middle later = .ok (after,final) ∧ trace = before ++ after := by
  induction earlier generalizing state trace with
  | nil =>
    constructor
    · intro ran
      exact ⟨[],state,trace,rfl,ran,rfl⟩
    · rintro ⟨before,middle,after,nothing,ran,rfl⟩
      cases nothing
      exact ran
  | cons action earlier ih =>
    rw [List.cons_append,run_cons]
    constructor
    · rintro ⟨output,next,rest,stepped,ran,rfl⟩
      obtain ⟨before,middle,after,first,second,rfl⟩ := (ih next rest).mp ran
      exact ⟨_,middle,after,(run_cons step state action earlier _ middle).mpr ⟨output,next,before,stepped,first,rfl⟩,
        second,rfl⟩
    · rintro ⟨before,middle,after,ran,second,rfl⟩
      obtain ⟨output,next,rest,stepped,first,rfl⟩ := (run_cons step state action earlier before middle).mp ran
      exact ⟨output,next,rest ++ after,stepped,(ih next _).mpr ⟨rest,middle,after,first,second,rfl⟩,rfl⟩

theorem run_snoc (state middle final : State) (actions : List Action) (action : Action) (output : Output)
    (trace : List (Action × Output)) (ran : run step state actions = .ok (trace,middle))
    (stepped : step middle action = .ok (output,final)) :
    run step state (actions ++ [action]) = .ok (trace ++ [(action,output)],final) := by
  apply (run_append step state final actions [action] _).mpr
  refine ⟨trace,middle,_,ran,?_,rfl⟩
  exact (run_cons step middle action [] _ final).mpr ⟨output,final,[],stepped,rfl,rfl⟩

theorem run_actions (state : State) (actions : List Action) (trace : List (Action × Output)) (final : State)
    (ran : run step state actions = .ok (trace,final)) : trace.map Prod.fst = actions := by
  induction actions generalizing state trace with
  | nil =>
    cases ran
    rfl
  | cons action actions ih =>
    obtain ⟨output,next,rest,_,later,rfl⟩ := (run_cons step state action actions trace final).mp ran
    rw [List.map_cons,ih next rest later]

/-- A step lemma about some of the actions gives the lemma about the runs of these. -/
theorem run_keeps (invariant : State → Prop) (allowed : Action → Prop)
    (stepKeeps : ∀ state action output next, invariant state → allowed action →
      step state action = .ok (output,next) → invariant next)
    (state : State) (actions : List Action) (trace : List (Action × Output)) (final : State)
    (initial : invariant state) (inside : ∀ action ∈ actions, allowed action)
    (ran : run step state actions = .ok (trace,final)) : invariant final := by
  induction actions generalizing state trace with
  | nil =>
    cases ran
    exact initial
  | cons action actions ih =>
    obtain ⟨output,next,rest,stepped,ran,_⟩ := (run_cons step state action actions trace final).mp ran
    obtain ⟨first,others⟩ := List.forall_mem_cons.mp inside
    exact ih next rest (stepKeeps state action output next initial first stepped) others ran

/-- A step lemma gives its run lemma. -/
theorem run_preserves (invariant : State → Prop)
    (stepPreserves : ∀ state action output next, invariant state → step state action = .ok (output,next) →
      invariant next)
    (state : State) (actions : List Action) (trace : List (Action × Output)) (final : State)
    (initial : invariant state) (ran : run step state actions = .ok (trace,final)) : invariant final := by
  apply run_keeps step invariant (fun _ => True) _ state actions trace final initial (by simp) ran
  intro state action output next holds _ stepped
  exact stepPreserves state action output next holds stepped

/-- An invariant of the trace so far and the state that it leads to. -/
theorem run_traces (invariant : List (Action × Output) → State → Prop)
    (stepKeeps : ∀ before state action output next, invariant before state → step state action = .ok (output,next) →
      invariant (before ++ [(action,output)]) next)
    (before : List (Action × Output)) (state : State) (actions : List Action) (trace : List (Action × Output))
    (final : State) (initial : invariant before state) (ran : run step state actions = .ok (trace,final)) :
    invariant (before ++ trace) final := by
  induction actions generalizing before state trace with
  | nil =>
    cases ran
    rw [List.append_nil]
    exact initial
  | cons action actions ih =>
    obtain ⟨output,next,rest,stepped,later,rfl⟩ := (run_cons step state action actions trace final).mp ran
    have kept := ih (before ++ [(action,output)]) next rest (stepKeeps before state action output next initial stepped) later
    rwa [List.append_assoc] at kept

/-- A machine of which every step is a run of another one has runs of the other one for its own. -/
theorem run_refines {Other Operation Answer ε' : Type} (other : Other → Operation → Except ε' (Answer × Other))
    (component : State → Other) (image : Action → Output → List Operation)
    (stepRefines : ∀ state action output next, step state action = .ok (output,next) →
      ∃ answers, run other (component state) (image action output) = .ok (answers,component next))
    (state : State) (actions : List Action) (trace : List (Action × Output)) (final : State)
    (ran : run step state actions = .ok (trace,final)) :
    ∃ answers, run other (component state) (trace.flatMap (fun entry => image entry.1 entry.2)) =
      .ok (answers,component final) := by
  induction actions generalizing state trace with
  | nil =>
    cases ran
    exact ⟨[],rfl⟩
  | cons action actions ih =>
    obtain ⟨output,next,rest,stepped,later,rfl⟩ := (run_cons step state action actions trace final).mp ran
    obtain ⟨first,here⟩ := stepRefines state action output next stepped
    obtain ⟨others,there⟩ := ih next rest later
    exact ⟨first ++ others,(run_append other _ _ _ _ _).mpr ⟨first,component next,others,here,there,rfl⟩⟩

/-- States that answer every action the same, and stay so, have the same runs. -/
theorem run_simulates (Agree : State → State → Prop)
    (stepAgrees : ∀ state other action output next, Agree state other → step state action = .ok (output,next) →
      ∃ otherNext, step other action = .ok (output,otherNext) ∧ Agree next otherNext)
    (state other : State) (actions : List Action) (trace : List (Action × Output)) (final : State)
    (agree : Agree state other) (ran : run step state actions = .ok (trace,final)) :
    ∃ otherFinal, run step other actions = .ok (trace,otherFinal) ∧ Agree final otherFinal := by
  induction actions generalizing state other trace with
  | nil =>
    cases ran
    exact ⟨other,rfl,agree⟩
  | cons action actions ih =>
    obtain ⟨output,next,rest,stepped,later,rfl⟩ := (run_cons step state action actions trace final).mp ran
    obtain ⟨otherNext,otherStepped,still⟩ := stepAgrees state other action output next agree stepped
    obtain ⟨otherFinal,otherRan,last⟩ := ih next otherNext rest still later
    exact ⟨otherFinal,(run_cons step other action actions _ otherFinal).mpr
      ⟨output,otherNext,rest,otherStepped,otherRan,rfl⟩,last⟩

/-- Deleting the unobserved actions changes no observed output, when they leave the state
the same to an observer and the observed ones answer the same from states that are. -/
theorem run_projects (invariant : State → Prop) (allowed : Action → Prop)
    (stepKeeps : ∀ state action output next, invariant state → allowed action →
      step state action = .ok (output,next) → invariant next)
    (observed : Action → Bool) (Agree : State → State → Prop)
    (unobservedAgrees : ∀ state other action output next, invariant state → Agree state other → allowed action →
      observed action = false → step state action = .ok (output,next) → Agree next other)
    (observedAgrees : ∀ state other action output next, invariant state → invariant other →
      Agree state other → allowed action → observed action = true → step state action = .ok (output,next) →
      ∃ otherNext, step other action = .ok (output,otherNext) ∧ Agree next otherNext)
    (state other : State) (actions : List Action) (trace : List (Action × Output)) (final : State)
    (initial : invariant state) (otherInitial : invariant other) (agree : Agree state other)
    (inside : ∀ action ∈ actions, allowed action) (ran : run step state actions = .ok (trace,final)) :
    ∃ otherFinal, run step other (actions.filter observed) =
      .ok (trace.filter (fun entry => observed entry.1),otherFinal) ∧ Agree final otherFinal := by
  induction actions generalizing state other trace with
  | nil =>
    cases ran
    exact ⟨other,rfl,agree⟩
  | cons action actions ih =>
    obtain ⟨output,next,rest,stepped,later,rfl⟩ := (run_cons step state action actions trace final).mp ran
    obtain ⟨first,others⟩ := List.forall_mem_cons.mp inside
    have kept := stepKeeps state action output next initial first stepped
    cases visible : observed action with
    | false =>
      have still := unobservedAgrees state other action output next initial agree first visible stepped
      simpa [List.filter_cons,visible] using ih next other rest kept otherInitial still others later
    | true =>
      obtain ⟨otherNext,otherStepped,still⟩ :=
        observedAgrees state other action output next initial otherInitial agree first visible stepped
      have otherKept := stepKeeps other action output otherNext otherInitial first otherStepped
      obtain ⟨otherFinal,otherRan,last⟩ := ih next otherNext rest kept otherKept still others later
      refine ⟨otherFinal,?_,last⟩
      simp only [List.filter_cons,visible,if_true]
      exact (run_cons step other action _ _ otherFinal).mpr ⟨output,otherNext,_,otherStepped,otherRan,rfl⟩

section Total
variable (invariant : State → Prop)
  (stepTotal : ∀ state action, invariant state →
    ∃ output next, step state action = .ok (output,next) ∧ invariant next)
include stepTotal

theorem run_total (state : State) (actions : List Action) (initial : invariant state) :
    ∃ trace final, run step state actions = .ok (trace,final) ∧ invariant final := by
  induction actions generalizing state with
  | nil => exact ⟨[],state,rfl,initial⟩
  | cons action actions ih =>
    obtain ⟨output,next,stepped,kept⟩ := stepTotal state action initial
    obtain ⟨rest,final,ran,last⟩ := ih next kept
    exact ⟨_,final,(run_cons step state action actions _ final).mpr ⟨output,next,rest,stepped,ran,rfl⟩,last⟩

/-- The same for a machine that the invariant keeps from getting stuck. -/
theorem run_purge (observed : Action → Bool) (Agree : State → State → Prop)
    (unobservedAgrees : ∀ state other action output next, invariant state → Agree state other →
      observed action = false → step state action = .ok (output,next) → Agree next other)
    (observedAgrees : ∀ state other action output next, invariant state → invariant other →
      Agree state other → observed action = true → step state action = .ok (output,next) →
      ∃ otherNext, step other action = .ok (output,otherNext) ∧ Agree next otherNext)
    (state other : State) (actions : List Action) (trace : List (Action × Output)) (final : State)
    (initial : invariant state) (otherInitial : invariant other) (agree : Agree state other)
    (ran : run step state actions = .ok (trace,final)) :
    ∃ otherFinal, run step other (actions.filter observed) =
      .ok (trace.filter (fun entry => observed entry.1),otherFinal) ∧ Agree final otherFinal := by
  apply run_projects step invariant (fun _ => True) _ observed Agree _ _ state other actions trace final initial
    otherInitial agree (by simp) ran
  · intro state action output next holds _ stepped
    obtain ⟨_,_,same,kept⟩ := stepTotal state action holds
    rw [same] at stepped
    cases stepped
    exact kept
  · intro state other action output next holds agree _
    exact unobservedAgrees state other action output next holds agree
  · intro state other action output next holds otherHolds agree _
    exact observedAgrees state other action output next holds otherHolds agree

end Total

end SerenRouter.Kernel.Runs
