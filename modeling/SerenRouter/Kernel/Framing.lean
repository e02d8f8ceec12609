import SerenRouter.Kernel.Outcome
import Mathlib.Data.List.Basic

/-! Incremental framing. A cutter finds the first complete frame of a buffer; a machine
reacts to one frame at a time and may close. Cutting the input into chunks does not
change what the machine does, because a found frame stays found when input arrives. -/
namespace SerenRouter.Kernel.Framing

variable {α β γ σ ε : Type}

/-- A cutter returns the length of a nonempty first frame, which more input keeps. -/
structure Stable (cut : List α → Option Nat) : Prop where
  bounded : ∀ buffer length, cut buffer = some length → 0 < length ∧ length ≤ buffer.length
  grows : ∀ buffer more length, cut buffer = some length → cut (buffer ++ more) = some length

def framesFuel (cut : List α → Option Nat) : Nat → List α → List (List α) × List α
  | 0, buffer => ([],buffer)
  | fuel + 1, buffer =>
    match cut buffer with
    | none => ([],buffer)
    | some length =>
      let rest := framesFuel cut fuel (buffer.drop length)
      (buffer.take length :: rest.1,rest.2)

/-- The complete frames of a buffer and the unfinished tail behind them. -/
def frames (cut : List α → Option Nat) (buffer : List α) : List (List α) × List α :=
  framesFuel cut buffer.length buffer

/-- The reaction to part of the input: the next state, the input kept for later, the
output, and the last completion, if any. -/
structure Progress (σ α β γ : Type) where
  state : σ
  pending : List α
  output : List β
  completed : Option γ

structure Machine (σ α β γ ε : Type) where
  step : σ → List α → Except ε (σ × List β × Option γ)
  closed : σ → Bool

namespace Machine
variable (machine : Machine σ α β γ ε) (cut : List α → Option Nat)

/-- The loop over the frames of a buffer. It stops at the first frame that closes the
machine and drops the input behind it. -/
def drainFuel : Nat → σ → List α → Except ε (Progress σ α β γ)
  | 0, state, buffer => .ok ⟨state,buffer,[],none⟩
  | fuel + 1, state, buffer =>
    match cut buffer with
    | none => .ok ⟨state,buffer,[],none⟩
    | some length => do
      let (next,emitted,completion) ← machine.step state (buffer.take length)
      if machine.closed next then .ok ⟨next,[],emitted,completion⟩
      else
        let rest ← drainFuel fuel next (buffer.drop length)
        .ok ⟨rest.state,rest.pending,emitted ++ rest.output,rest.completed.or completion⟩

/-- Every frame is nonempty, so the length of the buffer bounds the loop. -/
def drain (state : σ) (buffer : List α) : Except ε (Progress σ α β γ) :=
  machine.drainFuel cut buffer.length state buffer

/-- One more chunk of input; a closed machine ignores it. -/
def feed (state : σ) (pending chunk : List α) : Except ε (Progress σ α β γ) :=
  if machine.closed state then .ok ⟨state,pending,[],none⟩
  else machine.drain cut state (pending ++ chunk)

/-- The same loop over frames that are already cut. -/
def consume : σ → List (List α) → List α → Except ε (Progress σ α β γ)
  | state, [], tail => .ok ⟨state,tail,[],none⟩
  | state, frame :: rest, tail => do
    let (next,emitted,completion) ← machine.step state frame
    if machine.closed next then .ok ⟨next,[],emitted,completion⟩
    else
      let later ← consume next rest tail
      .ok ⟨later.state,later.pending,emitted ++ later.output,later.completed.or completion⟩

/-- Every reaction keeps the property of the state. -/
def Preserves (property : σ → Prop) : Prop :=
  ∀ state frame next emitted completion, property state →
    machine.step state frame = .ok (next,emitted,completion) → property next

/-- In the states with the property a completion closes the machine. -/
def CompletesOnce (property : σ → Prop) : Prop :=
  ∀ state frame next emitted completion, property state →
    machine.step state frame = .ok (next,emitted,some completion) → machine.closed next = true

end Machine

section Frames
variable (cut : List α → Option Nat)

theorem framesFuel_enough (stable : Stable cut) (fuel : Nat) (buffer : List α)
    (enough : buffer.length ≤ fuel) : framesFuel cut fuel buffer = frames cut buffer := by
  induction fuel using Nat.strongRecOn generalizing buffer with
  | ind fuel ih =>
    unfold frames
    cases buffer with
    | nil =>
      have none : cut ([] : List α) = none := by
        cases found : cut ([] : List α) with
        | none => rfl
        | some length => have := stable.bounded [] length found; simp at this; omega
      cases fuel <;> simp [framesFuel,none]
    | cons first rest =>
      obtain ⟨fuel,rfl⟩ : ∃ less, fuel = less + 1 := ⟨fuel - 1,by simp at enough; omega⟩
      simp only [List.length_cons,framesFuel] at enough ⊢
      cases found : cut (first :: rest) with
      | none => rfl
      | some length =>
        have positive := (stable.bounded _ length found).1
        have shorter : ((first :: rest).drop length).length ≤ rest.length := by simp; omega
        simp only
        rw [ih fuel (by omega) _ (by omega),ih rest.length (by omega) _ shorter]

theorem frames_none (stable : Stable cut) (buffer : List α) (unfinished : cut buffer = none) :
    frames cut buffer = ([],buffer) := by
  rw [← framesFuel_enough cut stable (buffer.length + 1) buffer (by omega)]
  simp [framesFuel,unfinished]

theorem frames_some (stable : Stable cut) (buffer : List α) (length : Nat)
    (found : cut buffer = some length) :
    frames cut buffer = (buffer.take length :: (frames cut (buffer.drop length)).1,
      (frames cut (buffer.drop length)).2) := by
  rw [← framesFuel_enough cut stable (buffer.length + 1) buffer (by omega)]
  simp only [framesFuel,found]
  rw [framesFuel_enough cut stable buffer.length _ (by simp)]

/-- Induction along the frames of a buffer. -/
theorem frames_induction (stable : Stable cut) (property : List α → Prop)
    (unfinished : ∀ buffer, cut buffer = none → property buffer)
    (framed : ∀ buffer length, cut buffer = some length → property (buffer.drop length) → property buffer)
    (buffer : List α) : property buffer := by
  induction size : buffer.length using Nat.strongRecOn generalizing buffer with
  | ind n ih =>
    cases found : cut buffer with
    | none => exact unfinished buffer found
    | some length =>
      have bound := stable.bounded buffer length found
      exact framed buffer length found (ih (buffer.drop length).length (by simp; omega) _ rfl)

theorem tail_unfinished (stable : Stable cut) (buffer : List α) :
    cut (frames cut buffer).2 = none := by
  induction buffer using frames_induction cut stable with
  | unfinished buffer none => rw [frames_none cut stable buffer none]; exact none
  | framed buffer length found ih => rw [frames_some cut stable buffer length found]; exact ih

theorem frames_all (stable : Stable cut) (property : List α → Prop)
    (cuts : ∀ buffer length, cut buffer = some length → property (buffer.take length))
    (buffer : List α) : ∀ frame ∈ (frames cut buffer).1, property frame := by
  induction buffer using frames_induction cut stable with
  | unfinished buffer none => simp [frames_none cut stable buffer none]
  | framed buffer length found ih =>
    rw [frames_some cut stable buffer length found]
    intro frame member
    rcases List.mem_cons.mp member with rfl | inside
    · exact cuts buffer length found
    · exact ih frame inside

theorem frames_join (stable : Stable cut) (buffer : List α) :
    (frames cut buffer).1.flatten ++ (frames cut buffer).2 = buffer := by
  induction buffer using frames_induction cut stable with
  | unfinished buffer none =>
    rw [frames_none cut stable buffer none]
    rfl
  | framed buffer length found ih =>
    rw [frames_some cut stable buffer length found,List.flatten_cons,List.append_assoc,ih,List.take_append_drop]

/-- The frames of a longer input are the frames of its first part, then the frames of
the rest with the unfinished tail in front. -/
theorem frames_append (stable : Stable cut) (buffer more : List α) :
    frames cut (buffer ++ more) =
      ((frames cut buffer).1 ++ (frames cut ((frames cut buffer).2 ++ more)).1,
        (frames cut ((frames cut buffer).2 ++ more)).2) := by
  induction buffer using frames_induction cut stable with
  | unfinished buffer none => rw [frames_none cut stable buffer none]; rfl
  | framed buffer length found ih =>
    have bound := (stable.bounded buffer length found).2
    rw [frames_some cut stable _ length (stable.grows buffer more length found),
      frames_some cut stable buffer length found,
      List.drop_append_of_le_length bound,List.take_append_of_le_length bound,ih]
    rfl

/-- A list that is cut exactly at its end is one frame of any input it starts. -/
theorem frames_cons (stable : Stable cut) (frame rest : List α) (whole : cut frame = some frame.length) :
    frames cut (frame ++ rest) = (frame :: (frames cut rest).1,(frames cut rest).2) := by
  rw [frames_some cut stable _ _ (stable.grows frame rest _ whole)]
  simp

theorem frames_flatten (stable : Stable cut) (parts : List (List α)) (rest : List α)
    (whole : ∀ frame ∈ parts, cut frame = some frame.length) :
    frames cut (parts.flatten ++ rest) = (parts ++ (frames cut rest).1,(frames cut rest).2) := by
  induction parts with
  | nil => rfl
  | cons frame parts ih =>
    rw [List.flatten_cons,List.append_assoc,frames_cons cut stable frame _ (whole frame (by simp)),
      ih (fun part member => whole part (by simp [member]))]
    rfl

end Frames

namespace Machine
variable (machine : Machine σ α β γ ε) (cut : List α → Option Nat)

theorem drainFuel_consume (fuel : Nat) (state : σ) (buffer : List α) :
    machine.drainFuel cut fuel state buffer =
      machine.consume state (framesFuel cut fuel buffer).1 (framesFuel cut fuel buffer).2 := by
  induction fuel generalizing state buffer with
  | zero => rfl
  | succ fuel ih =>
    rw [drainFuel,framesFuel]
    cases cut buffer with
    | none => rfl
    | some length =>
      simp only [consume,ih]

theorem drain_consume (state : σ) (buffer : List α) :
    machine.drain cut state buffer = machine.consume state (frames cut buffer).1 (frames cut buffer).2 :=
  machine.drainFuel_consume cut buffer.length state buffer

/-- What one reaction leaves behind: a closed machine keeps no input, an open one the tail. -/
theorem consume_pending (state : σ) (parts : List (List α)) (tail : List α)
    (result : Progress σ α β γ) (active : machine.closed state = false)
    (ran : machine.consume state parts tail = .ok result) :
    result.pending = if machine.closed result.state then [] else tail := by
  induction parts generalizing state result with
  | nil =>
    cases ran
    simp [active]
  | cons frame parts ih =>
    rw [consume,bind_success] at ran
    obtain ⟨⟨next,emitted,completion⟩,_,ran⟩ := ran
    dsimp only at ran
    cases shut : machine.closed next with
    | true =>
      rw [if_pos shut] at ran
      cases ran
      simp [shut]
    | false =>
      rw [shut,if_neg (by simp),bind_success] at ran
      obtain ⟨later,rest,ran⟩ := ran
      cases ran
      exact ih next later shut rest

theorem consume_preserves (property : σ → Prop) (preserves : machine.Preserves property) (state : σ)
    (parts : List (List α)) (tail : List α) (result : Progress σ α β γ) (holds : property state)
    (ran : machine.consume state parts tail = .ok result) : property result.state := by
  induction parts generalizing state result with
  | nil => cases ran; exact holds
  | cons frame parts ih =>
    rw [consume,bind_success] at ran
    obtain ⟨⟨next,emitted,completion⟩,step,ran⟩ := ran
    have kept := preserves state frame next emitted completion holds step
    dsimp only at ran
    split at ran
    · cases ran
      exact kept
    · rw [bind_success] at ran
      obtain ⟨later,rest,ran⟩ := ran
      cases ran
      exact ih next later kept rest

/-- A machine whose reactions are defined where the property holds consumes every input. -/
theorem consume_total (property : σ → Prop)
    (total : ∀ state frame, property state → ∃ next emitted completion,
      machine.step state frame = .ok (next,emitted,completion) ∧ property next)
    (state : σ) (parts : List (List α)) (tail : List α) (holds : property state) :
    ∃ result, machine.consume state parts tail = .ok result ∧ property result.state := by
  induction parts generalizing state with
  | nil => exact ⟨_,rfl,holds⟩
  | cons frame parts ih =>
    obtain ⟨next,emitted,completion,step,kept⟩ := total state frame holds
    rw [consume,step,ok_bind]
    dsimp only
    split
    · exact ⟨_,rfl,kept⟩
    · obtain ⟨later,ran,final⟩ := ih next kept
      exact ⟨⟨later.state,later.pending,emitted ++ later.output,later.completed.or completion⟩,
        by rw [ran]; rfl,final⟩

theorem consume_completed (property : σ → Prop) (preserves : machine.Preserves property)
    (once : machine.CompletesOnce property) (state : σ) (parts : List (List α)) (tail : List α)
    (result : Progress σ α β γ) (holds : property state)
    (ran : machine.consume state parts tail = .ok result)
    (completion : γ) (completes : result.completed = some completion) :
    machine.closed result.state = true := by
  induction parts generalizing state result with
  | nil => cases ran; cases completes
  | cons frame parts ih =>
    rw [consume,bind_success] at ran
    obtain ⟨⟨next,emitted,stepped⟩,step,ran⟩ := ran
    dsimp only at ran
    cases shut : machine.closed next with
    | true =>
      rw [if_pos shut] at ran
      cases ran
      exact shut
    | false =>
      rw [shut,if_neg (by simp),bind_success] at ran
      obtain ⟨later,rest,ran⟩ := ran
      cases ran
      have silent : stepped = none := by
        cases stepped with
        | none => rfl
        | some value => rw [once state frame next emitted value holds step] at shut; cases shut
      subst silent
      exact ih next later (preserves state frame next emitted none holds step) rest (by simpa using completes)

/-- What every reaction keeps of the state and knows of its completion holds of a whole input. -/
theorem consume_yields (property : σ → Prop) (good : γ → Prop)
    (steps : ∀ state frame next emitted completion, property state →
      machine.step state frame = .ok (next,emitted,completion) →
      property next ∧ ∀ value, completion = some value → good value)
    (state : σ) (parts : List (List α)) (tail : List α) (result : Progress σ α β γ) (holds : property state)
    (ran : machine.consume state parts tail = .ok result) :
    property result.state ∧ ∀ value, result.completed = some value → good value := by
  induction parts generalizing state result with
  | nil =>
    cases ran
    exact ⟨holds,fun value none => by cases none⟩
  | cons frame parts ih =>
    rw [consume,bind_success] at ran
    obtain ⟨⟨next,emitted,completion⟩,stepped,ran⟩ := ran
    have kept := steps state frame next emitted completion holds stepped
    dsimp only at ran
    split at ran
    · cases ran
      exact kept
    · rw [bind_success] at ran
      obtain ⟨later,rest,ran⟩ := ran
      cases ran
      obtain ⟨last,told⟩ := ih next later kept.1 rest
      refine ⟨last,fun value completes => ?_⟩
      rcases Option.or_eq_some_iff.mp completes with behind | ⟨_,here⟩
      · exact told value behind
      · exact kept.2 value here

/-- A machine that says something whenever it closes has said something once it is closed. -/
theorem consume_speaks (property : σ → Prop) (preserves : machine.Preserves property) (state : σ)
    (parts : List (List α)) (tail : List α) (result : Progress σ α β γ) (holds : property state)
    (speaks : ∀ state frame next emitted completion, property state → machine.closed state = false →
      frame ∈ parts → machine.step state frame = .ok (next,emitted,completion) → machine.closed next = true →
      emitted ≠ [])
    (ran : machine.consume state parts tail = .ok result) (active : machine.closed state = false)
    (shut : machine.closed result.state = true) : result.output ≠ [] := by
  induction parts generalizing state result with
  | nil =>
    cases ran
    rw [active] at shut
    cases shut
  | cons frame parts ih =>
    rw [consume,bind_success] at ran
    obtain ⟨⟨next,emitted,completion⟩,step,ran⟩ := ran
    dsimp only at ran
    cases closes : machine.closed next with
    | true =>
      rw [if_pos closes] at ran
      cases ran
      exact speaks state frame next emitted completion holds active (by simp) step closes
    | false =>
      rw [closes,if_neg (by simp),bind_success] at ran
      obtain ⟨later,rest,ran⟩ := ran
      cases ran
      have said := ih next later (preserves state frame next emitted completion holds step)
        (fun state frame next emitted completion holds active member =>
          speaks state frame next emitted completion holds active (List.mem_cons_of_mem _ member)) rest closes shut
      simp [said]

/-- The panics of a machine are those of its reactions. -/
theorem consume_blames (blame : ε → Prop) (property : σ → Prop) (preserves : machine.Preserves property) (state : σ)
    (parts : List (List α)) (tail : List α) (holds : property state)
    (blames : ∀ state frame, property state → Blames blame (machine.step state frame)) :
    Blames blame (machine.consume state parts tail) := by
  induction parts generalizing state with
  | nil => exact .ok blame _
  | cons frame parts ih =>
    refine .bind blame _ _ (blames state frame holds) ?_
    rintro ⟨next,emitted,completion⟩ step
    dsimp only
    split
    · exact .ok blame _
    · refine .bind blame _ _ (ih next (preserves state frame next emitted completion holds step)) ?_
      exact fun later _ => .ok blame _

/-- Frames that cause the same reaction in every state with the property are interchangeable. -/
theorem consume_congr (property : σ → Prop) (preserves : machine.Preserves property) (state : σ)
    (left right : List (List α)) (tail : List α) (holds : property state)
    (same : List.Forall₂ (fun one other => ∀ state, property state →
      machine.step state one = machine.step state other) left right) :
    machine.consume state left tail = machine.consume state right tail := by
  induction same generalizing state with
  | nil => rfl
  | cons frame parts ih =>
    rw [consume,consume,frame state holds]
    apply bind_congr_right
    rintro ⟨next,emitted,completion⟩ step
    dsimp only
    split
    · rfl
    · rw [ih next (preserves state _ next emitted completion holds step)]

/-- The tail is what an open machine keeps; nothing else depends on it. -/
theorem consume_tail (state : σ) (parts : List (List α)) (tail other : List α)
    (active : machine.closed state = false) :
    machine.consume state parts other = (do
      let progress ← machine.consume state parts tail
      .ok { progress with pending := if machine.closed progress.state then [] else other }) := by
  induction parts generalizing state with
  | nil => simp [consume,active]
  | cons frame parts ih =>
    simp only [consume,bind_assoc]
    apply bind_congr_right
    rintro ⟨next,emitted,completion⟩ _
    dsimp only
    cases shut : machine.closed next with
    | true => simp [shut]
    | false =>
      simp only [Bool.false_eq_true,if_false,ih next shut,bind_assoc]
      apply bind_congr_right
      intro later _
      rfl

/-- Consuming two runs of frames in turn; the second is skipped once the machine closed. -/
theorem consume_append (state : σ) (first second : List (List α)) (middle tail : List α)
    (active : machine.closed state = false) :
    machine.consume state (first ++ second) tail = (do
      let before ← machine.consume state first middle
      if machine.closed before.state then .ok before
      else
        let after ← machine.consume before.state second tail
        .ok ⟨after.state,after.pending,before.output ++ after.output,
          after.completed.or before.completed⟩) := by
  induction first generalizing state with
  | nil =>
    simp only [List.nil_append,consume,ok_bind,active,Bool.false_eq_true,if_false]
    cases machine.consume state second tail with
    | error error => rfl
    | ok after => simp
  | cons frame first ih =>
    simp only [List.cons_append,consume,bind_assoc]
    apply bind_congr_right
    rintro ⟨next,emitted,completion⟩ _
    dsimp only
    cases shut : machine.closed next with
    | true => simp [shut]
    | false =>
      simp only [Bool.false_eq_true,if_false,bind_assoc,ih next shut]
      apply bind_congr_right
      intro before _
      simp only [ok_bind]
      cases again : machine.closed before.state with
      | true => simp
      | false =>
        simp only [Bool.false_eq_true,if_false,bind_assoc,ok_bind]
        apply bind_congr_right
        intro after _
        simp [List.append_assoc,Option.or_assoc]

/-- What a machine did with several chunks: every completion is kept, in order. -/
structure Session (σ α β γ : Type) where
  state : σ
  pending : List α
  output : List β
  completed : List γ

def Session.ofProgress (progress : Progress σ α β γ) : Session σ α β γ :=
  ⟨progress.state,progress.pending,progress.output,progress.completed.toList⟩

/-- Chunk after chunk. -/
def feedAll : σ → List α → List (List α) → Except ε (Session σ α β γ)
  | state, pending, [] => .ok ⟨state,pending,[],[]⟩
  | state, pending, chunk :: chunks => do
    let progress ← machine.feed cut state pending chunk
    let rest ← feedAll progress.state progress.pending chunks
    .ok ⟨rest.state,rest.pending,progress.output ++ rest.output,
      progress.completed.toList ++ rest.completed⟩

theorem feedAll_closed (state : σ) (pending : List α) (chunks : List (List α))
    (shut : machine.closed state = true) :
    machine.feedAll cut state pending chunks = .ok ⟨state,pending,[],[]⟩ := by
  induction chunks with
  | nil => rfl
  | cons chunk chunks ih => simp [feedAll,feed,shut,ih]

/-- Chunk boundaries are invisible: feeding the chunks one by one does what feeding
their concatenation at once does. -/
theorem feedAll_flatten (stable : Stable cut) (property : σ → Prop) (preserves : machine.Preserves property)
    (once : machine.CompletesOnce property) (state : σ) (pending : List α) (chunks : List (List α))
    (holds : property state) (settled : cut pending = none) :
    machine.feedAll cut state pending chunks =
      (do let progress ← machine.feed cut state pending chunks.flatten
          .ok (Session.ofProgress progress)) := by
  cases shut : machine.closed state with
  | true => simp [feedAll_closed machine cut state pending chunks shut,feed,shut,Session.ofProgress]
  | false =>
    induction chunks generalizing state pending with
    | nil =>
      simp [feedAll,feed,shut,drain_consume,frames_none cut stable pending settled,consume,
        Session.ofProgress]
    | cons chunk chunks ih =>
      have whole : machine.feed cut state pending (chunk :: chunks).flatten =
          machine.consume state
            ((frames cut (pending ++ chunk)).1 ++
              (frames cut ((frames cut (pending ++ chunk)).2 ++ chunks.flatten)).1)
            (frames cut ((frames cut (pending ++ chunk)).2 ++ chunks.flatten)).2 := by
        rw [feed,shut,if_neg (by simp),drain_consume,List.flatten_cons,← List.append_assoc,
          frames_append cut stable]
      rw [whole,machine.consume_append state _ _ (frames cut (pending ++ chunk)).2 _ shut,
        feedAll,feed,shut,if_neg (by simp),drain_consume,bind_assoc]
      apply bind_congr_right
      intro before ran
      have kept := machine.consume_pending _ _ _ before shut ran
      cases again : machine.closed before.state with
      | true => simp [feedAll_closed machine cut _ _ _ again,Session.ofProgress]
      | false =>
        have silent : before.completed = none := by
          cases completes : before.completed with
          | none => rfl
          | some value =>
            rw [machine.consume_completed property preserves once _ _ _ before holds ran value completes]
              at again
            cases again
        rw [again,if_neg (by simp)] at kept
        have holds := machine.consume_preserves property preserves _ _ _ before holds ran
        rw [kept,ih before.state _ holds (tail_unfinished cut stable _) again,feed,again,
          if_neg (by simp),drain_consume]
        simp only [Bool.false_eq_true,if_false,bind_assoc]
        apply bind_congr_right
        intro after _
        simp [Session.ofProgress,silent]

end Machine

end SerenRouter.Kernel.Framing
