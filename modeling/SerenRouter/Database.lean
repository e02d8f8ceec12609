import SerenRouter.Kernel.Notify
import SerenRouter.Kernel.Runs
import Mathlib.Algebra.Order.Ring.Nat

/-! The database supervisor beside the ledger operations that report to it. Every access to the
shared status or to the notification is a step of its own, and the steps of all parties
interleave in any order. Durations are in nanoseconds. -/
namespace SerenRouter
open Kernel

inductive DatabaseStatus where
  | starting
  | ready
  | degraded
  deriving DecidableEq

/-- The supervisor is the only one who waits for a recovery request. -/
structure DatabaseHealth where
  status : DatabaseStatus
  recoveryRequested : Notify Unit
  deriving DecidableEq

namespace DatabaseHealth

def new (status : DatabaseStatus) : DatabaseHealth := ⟨status,Notify.new⟩

def reportReady (health : DatabaseHealth) : DatabaseHealth := { health with status := .ready }

/-- `report_failure` up to its notification. -/
def reportFailure (health : DatabaseHealth) : DatabaseHealth := { health with status := .degraded }

/-- The notification with which `report_failure` ends. -/
def requestRecovery (health : DatabaseHealth) : DatabaseHealth :=
  { health with recoveryRequested := health.recoveryRequested.notifyOne }

end DatabaseHealth

/-- The largest `Duration`. -/
def durationMax : Nat := (2^64 - 1) * 10^9 + 999999999

def saturatingMul (duration factor : Nat) : Nat := min (duration * factor) durationMax

/-- The two limits between which the supervisor backs off. -/
structure RecoveryBackoff where
  initialBackoff : Nat
  maxBackoff : Nat
  ordered : initialBackoff ≤ maxBackoff
  bounded : maxBackoff ≤ durationMax

/-- `INITIAL_RECOVERY_BACKOFF` and `MAX_RECOVERY_BACKOFF`. -/
def recoveryBackoff : RecoveryBackoff := ⟨250 * 10^6,30 * 10^9,by decide,by decide⟩

/-- Where `supervise_with` is. -/
inductive SupervisorPhase where
  | recovering
  -- The recovery answered, and its result is not reported yet.
  | recovered
  | failed
  -- In `wait_for_recovery_request`: at the head of its loop, and before and after the first poll of the notification.
  | checking
  | requesting
  | waiting
  -- In `report_failure`, between its status write and its notification.
  | notifying
  | sleeping
  deriving DecidableEq

/-- Inside `wait_for_recovery_request`, past its status check. -/
def SupervisorPhase.PastCheck (phase : SupervisorPhase) : Prop := phase = .requesting ∨ phase = .waiting

instance (phase : SupervisorPhase) : Decidable phase.PastCheck := inferInstanceAs (Decidable (_ ∨ _))

/-- `reporting` counts the calls of `report_failure` by ledger operations that are between their status write
and their notification. -/
structure Supervision where
  health : DatabaseHealth
  reporting : Nat
  phase : SupervisorPhase
  recoveryBackoff : Nat
  deriving DecidableEq

/-- The awaited recovery answers, the supervisor takes its next step, its sleep ends, a ledger operation
reports its result, or one of the failure reports notifies. -/
inductive SupervisionAction where
  | recover (result : Except String Unit)
  | supervise
  | wake
  | report (result : Except String Unit)
  | notify
  deriving DecidableEq

/-- The action cannot happen now. -/
inductive Blocked where
  | blocked
  deriving DecidableEq

namespace Supervision

def start (backoff : RecoveryBackoff) (status : DatabaseStatus) : Supervision :=
  ⟨.new status,0,.recovering,backoff.initialBackoff⟩

def withRequests (state : Supervision) (requests : Notify Unit) (phase : SupervisorPhase) : Supervision :=
  { state with health := { state.health with recoveryRequested := requests }, phase := phase }

/-- The next step of `supervise_with`, where it waits for nobody. -/
def advance (backoff : RecoveryBackoff) (state : Supervision) : Except Blocked Supervision :=
  match state.phase with
  | .recovering => .error .blocked
  | .recovered => .ok { state with
      health := state.health.reportReady, recoveryBackoff := backoff.initialBackoff, phase := .checking }
  | .checking => .ok { state with phase := if state.health.status = .ready then .requesting else .recovering }
  | .requesting =>
    let (notified,requests) := state.health.recoveryRequested.poll ()
    .ok (state.withRequests requests (if notified then .checking else .waiting))
  | .waiting =>
    match state.health.recoveryRequested.resume () with
    | none => .error .blocked
    | some requests => .ok (state.withRequests requests .checking)
  | .failed => .ok { state with health := state.health.reportFailure, phase := .notifying }
  | .notifying => .ok { state with health := state.health.requestRecovery, phase := .sleeping }
  | .sleeping => .error .blocked

def step (backoff : RecoveryBackoff) (state : Supervision) :
    SupervisionAction → Except Blocked (Unit × Supervision)
  | .recover result =>
    if state.phase = .recovering then
      .ok ((),{ state with phase := if result.isOk then .recovered else .failed })
    else .error .blocked
  | .supervise => do return ((),← state.advance backoff)
  | .wake =>
    if state.phase = .sleeping then
      .ok ((),{ state with
        recoveryBackoff := min (saturatingMul state.recoveryBackoff 2) backoff.maxBackoff, phase := .recovering })
    else .error .blocked
  | .report (.ok ()) => .ok ((),{ state with health := state.health.reportReady })
  | .report (.error _) => .ok ((),{ state with health := state.health.reportFailure, reporting := state.reporting + 1 })
  | .notify =>
    match state.reporting with
    | 0 => .error .blocked
    | reporting + 1 => .ok ((),{ state with health := state.health.requestRecovery, reporting := reporting })

/-- The steps of the supervisor and of the ledger operations. -/
inductive Transition (backoff : RecoveryBackoff) (state : Supervision) : SupervisionAction → Supervision → Prop
  | recovered (awaited : state.phase = .recovering) :
    Transition backoff state (.recover (.ok ())) { state with phase := .recovered }
  | failed (error : String) (awaited : state.phase = .recovering) :
    Transition backoff state (.recover (.error error)) { state with phase := .failed }
  | reportReady (recovered : state.phase = .recovered) :
    Transition backoff state .supervise { state with
      health := state.health.reportReady, recoveryBackoff := backoff.initialBackoff, phase := .checking }
  | passCheck (checking : state.phase = .checking) (ready : state.health.status = .ready) :
    Transition backoff state .supervise { state with phase := .requesting }
  | leaveCheck (checking : state.phase = .checking) (failing : state.health.status ≠ .ready) :
    Transition backoff state .supervise { state with phase := .recovering }
  | takePermit (requesting : state.phase = .requesting) (held : state.health.recoveryRequested.permit = true) :
    Transition backoff state .supervise
      (state.withRequests (state.health.recoveryRequested.poll ()).2 .checking)
  | beginWait (requesting : state.phase = .requesting) (missing : state.health.recoveryRequested.permit = false) :
    Transition backoff state .supervise
      (state.withRequests (state.health.recoveryRequested.poll ()).2 .waiting)
  | resume (requests : Notify Unit) (waiting : state.phase = .waiting)
    (woken : state.health.recoveryRequested.resume () = some requests) :
    Transition backoff state .supervise (state.withRequests requests .checking)
  | reportFailure (failed : state.phase = .failed) :
    Transition backoff state .supervise { state with health := state.health.reportFailure, phase := .notifying }
  | requestRecovery (notifying : state.phase = .notifying) :
    Transition backoff state .supervise { state with health := state.health.requestRecovery, phase := .sleeping }
  | wake (sleeping : state.phase = .sleeping) :
    Transition backoff state .wake { state with
      recoveryBackoff := min (saturatingMul state.recoveryBackoff 2) backoff.maxBackoff, phase := .recovering }
  | ledgerReady : Transition backoff state (.report (.ok ())) { state with health := state.health.reportReady }
  | ledgerFailure (error : String) :
    Transition backoff state (.report (.error error))
      { state with health := state.health.reportFailure, reporting := state.reporting + 1 }
  | ledgerNotify (reporting : Nat) (counted : state.reporting = reporting + 1) :
    Transition backoff state .notify { state with health := state.health.requestRecovery, reporting := reporting }

section Step
variable (backoff : RecoveryBackoff) (state next : Supervision)

theorem advance_success : state.advance backoff = .ok next ↔ Transition backoff state .supervise next := by
  constructor
  · intro advanced
    unfold advance at advanced
    split at advanced
    · cases advanced
    · cases advanced
      exact .reportReady ‹_›
    · cases advanced
      by_cases ready : state.health.status = .ready
      · rw [if_pos ready]
        exact .passCheck ‹_› ready
      · rw [if_neg ready]
        exact .leaveCheck ‹_› ready
    · cases held : state.health.recoveryRequested.permit with
      | true =>
        have took : Transition backoff state .supervise _ := .takePermit ‹_› held
        rw [Notify.poll_takes _ _ held] at advanced took
        cases advanced
        exact took
      | false =>
        have waits : Transition backoff state .supervise _ := .beginWait ‹_› held
        rw [Notify.poll_waits _ _ held] at advanced waits
        cases advanced
        exact waits
    · split at advanced
      · cases advanced
      · cases advanced
        exact .resume _ ‹_› ‹_›
    · cases advanced
      exact .reportFailure ‹_›
    · cases advanced
      exact .requestRecovery ‹_›
    · cases advanced
  · intro transition
    unfold advance
    cases transition with
    | reportReady recovered => simp only [recovered]
    | passCheck checking ready => simp only [checking,ready,if_true]
    | leaveCheck checking failing => simp only [checking,if_neg failing]
    | takePermit requesting held => simp only [requesting,Notify.poll_takes _ _ held,if_true]
    | beginWait requesting missing =>
      simp only [requesting,Notify.poll_waits _ _ missing,Bool.false_eq_true,if_false]
    | resume requests waiting woken => simp only [waiting,woken]
    | reportFailure failed => simp only [failed]
    | requestRecovery notifying => simp only [notifying]

theorem step_success (action : SupervisionAction) (output : Unit) :
    state.step backoff action = .ok (output,next) ↔ Transition backoff state action next := by
  cases action with
  | recover result =>
    constructor
    · intro stepped
      rw [step] at stepped
      split at stepped
      · cases stepped
        cases result with
        | ok answer => exact .recovered ‹_›
        | error error => exact .failed error ‹_›
      · cases stepped
    · intro transition
      cases transition with
      | recovered awaited => exact if_pos awaited
      | failed error awaited => exact if_pos awaited
  | supervise =>
    rw [← advance_success,step,bind_success]
    constructor
    · rintro ⟨_,advanced,equal⟩
      cases equal
      exact advanced
    · intro advanced
      exact ⟨next,advanced,rfl⟩
  | wake =>
    constructor
    · intro stepped
      rw [step] at stepped
      split at stepped
      · cases stepped
        exact .wake ‹_›
      · cases stepped
    · intro transition
      cases transition with
      | wake sleeping => exact if_pos sleeping
  | report result =>
    cases result with
    | ok answer =>
      constructor
      · intro stepped
        cases stepped
        exact .ledgerReady
      · intro transition
        cases transition
        rfl
    | error error =>
      constructor
      · intro stepped
        cases stepped
        exact .ledgerFailure error
      · intro transition
        cases transition
        rfl
  | notify =>
    constructor
    · intro stepped
      rw [step] at stepped
      split at stepped
      · cases stepped
      · cases stepped
        exact .ledgerNotify _ ‹_›
    · intro transition
      cases transition with
      | ledgerNotify reporting counted => simp only [step,counted]

end Step

/-- The supervisor as the watcher of the status. -/
def watch (state : Supervision) : Watch DatabaseStatus Unit where
  flag := state.health.status
  announcing := match state.phase with
    | .notifying => state.reporting + 1
    | _ => state.reporting
  notify := state.health.recoveryRequested
  place := match state.phase with
    | .requesting => .checked
    | .waiting => .queued
    | _ => .away

/-- Every transition is one step of the watched flag, or none. -/
theorem Transition.watched {backoff : RecoveryBackoff} {state next : Supervision} {action : SupervisionAction}
    (transition : Transition backoff state action next) :
    Watch.Step (fun status => status = .ready) () state.watch next.watch := by
  obtain ⟨health,reporting,phase,current⟩ := state
  cases transition with
  | recovered away | failed _ away | leaveCheck away | wake away =>
    cases away
    exact .idle _
  | reportReady recovered =>
    cases recovered
    exact .settle _ _ rfl
  | passCheck checking ready =>
    cases checking
    exact .check _ rfl ready
  | takePermit requesting held =>
    cases requesting
    exact .take _ rfl held
  | beginWait requesting missing =>
    cases requesting
    exact .wait _ rfl missing
  | resume requests waiting woken =>
    cases waiting
    exact .resume _ requests rfl woken
  | reportFailure failed =>
    cases failed
    exact .raise _ DatabaseStatus.degraded
  | requestRecovery notifying =>
    cases notifying
    exact .announce _ reporting rfl
  | ledgerReady => cases phase <;> exact .settle _ _ rfl
  | ledgerFailure error => cases phase <;> exact .raise _ DatabaseStatus.degraded
  | ledgerNotify fewer counted =>
    cases counted
    cases phase with
    | notifying => exact .announce _ (fewer + 1) rfl
    | _ => exact .announce _ fewer rfl

section Runs
variable {backoff : RecoveryBackoff} {status : DatabaseStatus} {state : Supervision}
  {actions : List SupervisionAction} {trace : List (SupervisionAction × Unit)}

theorem run_attended (ran : Runs.run (step backoff) (start backoff status) actions = .ok (trace,state)) :
    Watch.Attended (fun status => status = .ready) () state.watch := by
  apply Runs.run_preserves (step backoff) (fun state => Watch.Attended (fun status => status = .ready) () state.watch)
    _ (start backoff status) actions trace state _ ran
  · intro state action output next attended stepped
    exact ((step_success backoff state next action output).mp stepped).watched.attended attended
  · exact Watch.attended_new _ _ status

def Bounded (backoff : RecoveryBackoff) (state : Supervision) : Prop :=
  backoff.initialBackoff ≤ state.recoveryBackoff ∧ state.recoveryBackoff ≤ backoff.maxBackoff

theorem Transition.bounded {next : Supervision} {action : SupervisionAction}
    (transition : Transition backoff state action next) (bounded : state.Bounded backoff) : next.Bounded backoff := by
  cases transition with
  | reportReady => exact ⟨le_refl _,backoff.ordered⟩
  | wake =>
    have doubled : state.recoveryBackoff ≤ state.recoveryBackoff * 2 := by omega
    have inside : state.recoveryBackoff ≤ saturatingMul state.recoveryBackoff 2 :=
      le_min doubled (bounded.2.trans backoff.bounded)
    exact ⟨le_min (bounded.1.trans inside) backoff.ordered,min_le_right _ _⟩
  | _ => exact bounded

theorem run_bounded (ran : Runs.run (step backoff) (start backoff status) actions = .ok (trace,state)) :
    state.Bounded backoff := by
  apply Runs.run_preserves (step backoff) (Bounded backoff) _ (start backoff status) actions trace state _ ran
  · intro state action output next bounded stepped
    exact ((step_success backoff state next action output).mp stepped).bounded bounded
  · exact ⟨le_refl _,backoff.ordered⟩

/-- After a recovery only a retry moves the backoff. -/
theorem Transition.reset {next : Supervision} {action : SupervisionAction}
    (transition : Transition backoff state action next) (settled : action ≠ .wake)
    (reset : state.phase ≠ .recovered → state.recoveryBackoff = backoff.initialBackoff) :
    next.phase ≠ .recovered → next.recoveryBackoff = backoff.initialBackoff := by
  cases transition with
  | recovered => exact fun other => absurd rfl other
  | reportReady => exact fun _ => rfl
  | wake => exact absurd rfl settled
  | ledgerReady | ledgerFailure | ledgerNotify => exact reset
  | failed _ elsewhere | passCheck elsewhere | leaveCheck elsewhere | takePermit elsewhere | beginWait elsewhere
  | resume _ elsewhere | reportFailure elsewhere | requestRecovery elsewhere =>
    exact fun _ => reset (by rw [elsewhere]; simp)

theorem run_reset (earlier later : List SupervisionAction) (final : state.phase ≠ .recovered) (retried : .wake ∉ later)
    (ran : Runs.run (step backoff) (start backoff status) (earlier ++ .recover (.ok ()) :: later) = .ok (trace,state)) :
    state.recoveryBackoff = backoff.initialBackoff := by
  obtain ⟨_,middle,_,_,second,_⟩ := (Runs.run_append _ _ _ _ _ _).mp ran
  obtain ⟨_,recovered,_,stepped,last,_⟩ := (Runs.run_cons _ _ _ _ _ _).mp second
  apply Runs.run_keeps (step backoff)
    (fun state => state.phase ≠ .recovered → state.recoveryBackoff = backoff.initialBackoff)
    (fun action => action ≠ .wake) _ recovered later _ state _ _ last final
  · intro state action output next reset settled stepped
    exact ((step_success backoff state next action output).mp stepped).reset settled reset
  · cases (step_success backoff middle recovered _ _).mp stepped
    exact fun other => absurd rfl other
  · intro action later wake
    rw [wake] at later
    exact retried later

/-- Once every failure report has notified, a supervisor past its status check goes back to the recovery by itself. -/
theorem run_goes_on (ran : Runs.run (step backoff) (start backoff status) actions = .ok (trace,state))
    (past : state.phase.PastCheck) (failing : state.health.status ≠ .ready) (announced : state.reporting = 0) :
    ∃ middle next, state.advance backoff = .ok middle ∧ middle.advance backoff = .ok next ∧
      next.phase = .recovering := by
  have checked (requests : Notify Unit) :
      (state.withRequests requests .checking).advance backoff =
        .ok (state.withRequests requests .recovering) := by
    simp [advance,withRequests,failing]
  have attended := run_attended ran
  rcases past with requesting | waiting
  · have unannounced : state.watch.announcing = 0 := by simp [watch,requesting,announced]
    rcases attended.goes_on failing unannounced (by simp [watch,requesting]) with ⟨_,held⟩ | ⟨elsewhere,_⟩
    · exact ⟨_,_,(advance_success backoff state _).mpr (.takePermit requesting held),checked _,rfl⟩
    · simp [watch,requesting] at elsewhere
  · have unannounced : state.watch.announcing = 0 := by simp [watch,waiting,announced]
    rcases attended.goes_on failing unannounced (by simp [watch,waiting]) with ⟨elsewhere,_⟩ | ⟨_,requests,woken⟩
    · simp [watch,waiting] at elsewhere
    · exact ⟨_,_,(advance_success backoff state _).mpr (.resume requests waiting woken),checked _,rfl⟩

end Runs

end Supervision

/-- Whatever the ledger reports and however the steps interleave, a supervisor that is past its status check while
the database is not ready has a permit or a wake-up, or will be notified. Its backoff stays between the limits, and
is the initial one from the report of a recovery until the next retry. -/
theorem supervisor_never_sleeps_through_failure (backoff : RecoveryBackoff) (status : DatabaseStatus)
    (actions : List SupervisionAction) (trace : List (SupervisionAction × Unit)) (state : Supervision)
    (ran : Runs.run (Supervision.step backoff) (.start backoff status) actions = .ok (trace,state)) :
    (state.phase.PastCheck → state.health.status ≠ .ready →
      state.health.recoveryRequested.permit = true ∨ () ∈ state.health.recoveryRequested.delivered ∨
        0 < state.reporting) ∧
    (backoff.initialBackoff ≤ state.recoveryBackoff ∧ state.recoveryBackoff ≤ backoff.maxBackoff) ∧
    ∀ earlier later, actions = earlier ++ .recover (.ok ()) :: later → .wake ∉ later → state.phase ≠ .recovered →
      state.recoveryBackoff = backoff.initialBackoff := by
  refine ⟨?_,Supervision.run_bounded ran,?_⟩
  · intro past failing
    have attended := Supervision.run_attended ran
    rcases past with requesting | waiting
    · simpa [Supervision.watch,requesting] using attended.heard (by simp [Supervision.watch,requesting]) failing
    · simpa [Supervision.watch,waiting] using attended.heard (by simp [Supervision.watch,waiting]) failing
  · rintro earlier later rfl retried final
    exact Supervision.run_reset earlier later final retried ran

/-- The first recovery fails and its retry succeeds, the stored permit costs one more check of the status, and an
insert fails while the supervisor waits. -/
def sampleSupervision : List SupervisionAction :=
  [.recover (.error "unavailable"),.supervise,.supervise,.wake,.recover (.ok ()),.supervise,.supervise,.supervise,
    .supervise,.supervise,.report (.error "timed out"),.notify]

theorem supervisor_never_sleeps_through_failure_sample :
    ∃ trace state, Runs.run (Supervision.step recoveryBackoff) (.start recoveryBackoff .starting) sampleSupervision =
        .ok (trace,state) ∧ state.phase = .waiting ∧ state.health.status = .degraded ∧ state.reporting = 0 ∧
      () ∈ state.health.recoveryRequested.delivered ∧ state.recoveryBackoff = 250 * 10^6 := by
  have ran : Runs.run (Supervision.step recoveryBackoff) (.start recoveryBackoff .starting) sampleSupervision =
      .ok (sampleSupervision.map (·,()),
        ⟨⟨.degraded,⟨false,[],[()],by simp⟩⟩,0,.waiting,recoveryBackoff.initialBackoff⟩) := by
    decide +kernel
  obtain ⟨heard,_,reset⟩ := supervisor_never_sleeps_through_failure recoveryBackoff .starting sampleSupervision _ _ ran
  have recovered := reset (sampleSupervision.take 4) (sampleSupervision.drop 5) rfl (by decide) (by decide)
  refine ⟨_,_,ran,rfl,rfl,rfl,?_,recovered⟩
  rcases heard (.inr rfl) (by decide) with held | delivered | reporting
  · cases held
  · exact delivered
  · cases reporting

end SerenRouter
