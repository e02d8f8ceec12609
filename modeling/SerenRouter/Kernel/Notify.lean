import Mathlib.Data.List.Basic

/-! A notification that stores one permit, and the pattern that waits with it for a flag: the
watcher checks the flag, takes a permit or waits, and checks again; whoever raises the flag
announces it in a later step. No raised flag is missed, however the steps interleave. -/
namespace SerenRouter.Kernel

/-- A permit is stored only while nobody waits. A waiter that was woken stays delivered until it resumes. -/
structure Notify (ω : Type) where
  permit : Bool
  waiting : List ω
  delivered : List ω
  exclusive : permit = true → waiting = []
  deriving DecidableEq

namespace Notify
variable {ω : Type}

def new : Notify ω := ⟨false,[],[],by simp⟩

/-- Wake the first waiter, or store the permit. -/
def notifyOne (notify : Notify ω) : Notify ω :=
  match notify.waiting with
  | [] => ⟨true,[],notify.delivered,by simp⟩
  | first :: rest => ⟨false,rest,notify.delivered ++ [first],by simp⟩

/-- Take the permit, or begin to wait. -/
def poll (notify : Notify ω) (waiter : ω) : Bool × Notify ω :=
  if held : notify.permit = true then (true,⟨false,notify.waiting,notify.delivered,by simp⟩)
  else (false,⟨false,notify.waiting ++ [waiter],notify.delivered,by simp⟩)

/-- Go on after a wake-up, if there was one. -/
def resume [DecidableEq ω] (notify : Notify ω) (waiter : ω) : Option (Notify ω) :=
  if waiter ∈ notify.delivered then some { notify with delivered := notify.delivered.erase waiter } else none

theorem notifyOne_idle (notify : Notify ω) (nobody : notify.waiting = []) :
    notify.notifyOne = ⟨true,[],notify.delivered,by simp⟩ := by
  unfold notifyOne
  rw [nobody]

theorem notifyOne_wakes (notify : Notify ω) (first : ω) (rest : List ω) (queued : notify.waiting = first :: rest) :
    notify.notifyOne = ⟨false,rest,notify.delivered ++ [first],by simp⟩ := by
  unfold notifyOne
  rw [queued]

theorem poll_takes (notify : Notify ω) (waiter : ω) (held : notify.permit = true) :
    notify.poll waiter = (true,⟨false,notify.waiting,notify.delivered,by simp⟩) := dif_pos held

theorem poll_waits (notify : Notify ω) (waiter : ω) (missing : notify.permit = false) :
    notify.poll waiter = (false,⟨false,notify.waiting ++ [waiter],notify.delivered,by simp⟩) := by
  unfold poll
  rw [dif_neg (by simp [missing])]

end Notify

/-- Where the watcher is: away from the flag, past a check of it, or queued after that. -/
inductive WatchPlace where
  | away
  | checked
  | queued
  deriving DecidableEq

/-- A flag, the number of raises that are not announced yet, and the watcher's place. -/
structure Watch (σ ω : Type) where
  flag : σ
  announcing : Nat
  notify : Notify ω
  place : WatchPlace

namespace Watch
variable {σ ω : Type} (calm : σ → Prop) (watcher : ω)

/-- The steps of the watcher and of everybody who moves the flag. -/
inductive Step [DecidableEq ω] : Watch σ ω → Watch σ ω → Prop
  | idle (watch : Watch σ ω) : Step watch watch
  | settle (watch : Watch σ ω) (flag : σ) (settled : calm flag) : Step watch { watch with flag := flag }
  | raise (watch : Watch σ ω) (flag : σ) :
    Step watch { watch with flag := flag, announcing := watch.announcing + 1 }
  | announce (watch : Watch σ ω) (announcing : Nat) (raised : watch.announcing = announcing + 1) :
    Step watch { watch with announcing := announcing, notify := watch.notify.notifyOne }
  | check (watch : Watch σ ω) (away : watch.place = .away) (seen : calm watch.flag) :
    Step watch { watch with place := .checked }
  | take (watch : Watch σ ω) (checked : watch.place = .checked) (held : watch.notify.permit = true) :
    Step watch { watch with notify := (watch.notify.poll watcher).2, place := .away }
  | wait (watch : Watch σ ω) (checked : watch.place = .checked) (missing : watch.notify.permit = false) :
    Step watch { watch with notify := (watch.notify.poll watcher).2, place := .queued }
  | resume (watch : Watch σ ω) (notify : Notify ω) (queued : watch.place = .queued)
    (woken : watch.notify.resume watcher = some notify) : Step watch { watch with notify := notify, place := .away }

/-- The watcher is known to the notification exactly while it is queued, and a raised flag that the watcher has
not seen is announced to it or will be. -/
structure Attended (watch : Watch σ ω) : Prop where
  seated : watch.place = .queued → watch.notify.waiting = [watcher] ∧ watch.notify.delivered = [] ∨
    watch.notify.waiting = [] ∧ watch.notify.delivered = [watcher]
  unseated : watch.place ≠ .queued → watch.notify.waiting = [] ∧ watch.notify.delivered = []
  heard : watch.place ≠ .away → ¬ calm watch.flag →
    watch.notify.permit = true ∨ watcher ∈ watch.notify.delivered ∨ 0 < watch.announcing

theorem attended_new (flag : σ) : Attended calm watcher ⟨flag,0,Notify.new,.away⟩ :=
  ⟨by simp,fun _ => ⟨rfl,rfl⟩,by simp⟩

section Steps
variable {calm watcher}

theorem Attended.notified {watch : Watch σ ω} (attended : Attended calm watcher watch) (announcing : Nat) :
    Attended calm watcher { watch with announcing := announcing, notify := watch.notify.notifyOne } := by
  by_cases queued : watch.place = .queued
  · rcases attended.seated queued with ⟨waiting,delivered⟩ | ⟨waiting,delivered⟩
    · rw [watch.notify.notifyOne_wakes watcher [] waiting,delivered]
      exact ⟨fun _ => .inr ⟨rfl,rfl⟩,fun other => absurd queued other,fun _ _ => .inr (.inl (by simp))⟩
    · rw [watch.notify.notifyOne_idle waiting,delivered]
      exact ⟨fun _ => .inr ⟨rfl,rfl⟩,fun other => absurd queued other,fun _ _ => .inl rfl⟩
  · obtain ⟨waiting,delivered⟩ := attended.unseated queued
    rw [watch.notify.notifyOne_idle waiting,delivered]
    exact ⟨fun here => absurd here queued,fun _ => ⟨rfl,rfl⟩,fun _ _ => .inl rfl⟩

theorem Step.attended [DecidableEq ω] {watch next : Watch σ ω} (step : Step calm watcher watch next)
    (attended : Attended calm watcher watch) : Attended calm watcher next := by
  cases step with
  | idle => exact attended
  | settle flag settled => exact ⟨attended.seated,attended.unseated,fun _ moved => absurd settled moved⟩
  | raise flag => exact ⟨attended.seated,attended.unseated,fun _ _ => .inr (.inr (Nat.succ_pos _))⟩
  | announce announcing raised => exact attended.notified announcing
  | check away seen =>
    have apart := attended.unseated (by rw [away]; simp)
    exact ⟨nofun,fun _ => apart,fun _ moved => absurd seen moved⟩
  | take checked held =>
    have apart := attended.unseated (by rw [checked]; simp)
    rw [watch.notify.poll_takes watcher held]
    exact ⟨nofun,fun _ => apart,fun here => absurd rfl here⟩
  | wait checked missing =>
    obtain ⟨waiting,delivered⟩ := attended.unseated (by rw [checked]; simp)
    have heard := attended.heard (by rw [checked]; simp)
    rw [missing,delivered] at heard
    rw [watch.notify.poll_waits watcher missing,waiting,delivered]
    exact ⟨fun _ => .inl ⟨rfl,rfl⟩,fun other => absurd rfl other,fun _ raised => heard raised⟩
  | resume notify queued woken =>
    unfold Notify.resume at woken
    split at woken
    · rename_i delivered
      cases woken
      rcases attended.seated queued with ⟨_,nothing⟩ | ⟨waiting,only⟩
      · rw [nothing] at delivered
        cases delivered
      · exact ⟨nofun,fun _ => ⟨waiting,by simp [only]⟩,fun here => absurd rfl here⟩
    · cases woken

/-- When every raise is announced, a watcher past its check goes on by itself. -/
theorem Attended.goes_on [DecidableEq ω] {watch : Watch σ ω} (attended : Attended calm watcher watch)
    (raised : ¬ calm watch.flag) (announced : watch.announcing = 0) (present : watch.place ≠ .away) :
    watch.place = .checked ∧ watch.notify.permit = true ∨
      watch.place = .queued ∧ ∃ notify, watch.notify.resume watcher = some notify := by
  have heard := attended.heard present raised
  cases place : watch.place with
  | away => exact absurd place present
  | checked =>
    have nobody := (attended.unseated (by rw [place]; simp)).2
    rw [nobody,announced] at heard
    exact .inl ⟨rfl,by simpa using heard⟩
  | queued =>
    refine .inr ⟨rfl,_,if_pos ?_⟩
    rcases attended.seated place with ⟨waiting,delivered⟩ | ⟨_,delivered⟩
    · rw [delivered,announced] at heard
      have held : watch.notify.permit = true := by simpa using heard
      rw [watch.notify.exclusive held] at waiting
      cases waiting
    · simp [delivered]

end Steps

end Watch

end SerenRouter.Kernel
