import SerenRouter.Policy.RouteGuarantees
import SerenRouter.SidecarConfig
import SerenRouter.Kernel.FileSystem
import SerenRouter.Kernel.Runs

/-! The sidecar's configuration file. It is written to a temporary file beside the output, which then takes the
output's place. Renders are interleaved call by call; each call may fail, and each render may stop at any point. -/
namespace SerenRouter
open Kernel

/-- Paths as the renderer takes them apart. -/
structure PathApi (Path : Type) where
  isEmpty : Path → Bool
  fileName : Path → Option String
  parent : Path → Option Path
  join : Path → String → Path
  current : Path

inductive RenderSidecarConfigError (Path : Type) where
  | invalidOutputPath
  | compile (error : SidecarConfigError)
  | createOutput (path : Path)
  | writeOutput (path : Path)
  | persistOutput (path : Path)

structure Render (Path : Type) where
  outputPath : Path
  temporaryPath : Path
  rendered : List UInt8

section Prepare
variable {Path : Type} (paths : PathApi Path)

def temporaryPath (outputPath : Path) (uuid : String) : Path :=
  paths.join (((paths.parent outputPath).filter (fun path => !paths.isEmpty path)).getD paths.current)
    (".seren-router-sidecar-" ++ uuid ++ ".tmp")

/-- What `write_sidecar_config` does before it creates a file. -/
def prepareSidecarConfig (toYaml : AgentGatewayConfig → Except String (List UInt8)) (registry : Registry)
    (outputPath : Path) (uuid : String) : Except (RenderSidecarConfigError Path) (Render Path) :=
  if paths.isEmpty outputPath || (paths.fileName outputPath).isNone then .error .invalidOutputPath
  else match compile toYaml registry .default with
    | .error error => .error (.compile error)
    | .ok rendered => .ok ⟨outputPath,temporaryPath paths outputPath uuid,rendered⟩

theorem prepareSidecarConfig_success (toYaml : AgentGatewayConfig → Except String (List UInt8)) (registry : Registry)
    (outputPath : Path) (uuid : String) (render : Render Path)
    (prepared : prepareSidecarConfig paths toYaml registry outputPath uuid = .ok render) :
    render.outputPath = outputPath ∧ compile toYaml registry .default = .ok render.rendered := by
  unfold prepareSidecarConfig at prepared
  split at prepared
  · cases prepared
  · split at prepared
    · cases prepared
    · rename_i rendered compiled
      cases prepared
      exact ⟨rfl,compiled⟩

end Prepare

/-- The next call of a render: to create the temporary file, to write what is left of it and then to sync it, to
rename it, and those of its drop. An ended render tells whether its temporary file is known to be gone. -/
inductive RenderPhase (Path : Type) where
  | creating
  | writing (inode : Nat) (rest : List UInt8)
  | persisting
  | dropping (result : Except (RenderSidecarConfigError Path) Unit)
  | removing (result : Except (RenderSidecarConfigError Path) Unit)
  | ended (result : Except (RenderSidecarConfigError Path) Unit) (cleared : Bool)
  | killed

namespace Render
variable {Path : Type} [DecidableEq Path] (render : Render Path) (files : FileSystem Path)

def create (outcome : Option Nat) : RenderPhase Path × FileSystem Path :=
  match outcome.bind (fun _ => files.createNew render.temporaryPath) with
  | none => (.ended (.error (.createOutput render.outputPath)) true,files)
  | some (inode,files) => (.writing inode render.rendered,files)

/-- The loop of `write_all`, and the sync behind it. A failure drops the open file. -/
def writeAll (inode : Nat) (rest : List UInt8) (outcome : Option Nat) : RenderPhase Path × FileSystem Path :=
  match outcome, rest with
  | none, _ => (.removing (.error (.writeOutput render.outputPath)),files)
  | some _, [] => (.persisting,files.sync inode)
  | some 0, _ => (.removing (.error (.writeOutput render.outputPath)),files)
  | some written, rest => (.writing inode (rest.drop written),files.append inode (rest.take written))

def persist (outcome : Option Nat) : RenderPhase Path × FileSystem Path :=
  match outcome.bind (fun _ => files.rename render.temporaryPath render.outputPath) with
  | none => (.dropping (.error (.persistOutput render.outputPath)),files)
  | some files => (.dropping (.ok ()),files)

/-- The file is closed, and the temporary path is removed if it exists. -/
def drop (result : Except (RenderSidecarConfigError Path) Unit) (outcome : Option Nat) : RenderPhase Path :=
  match outcome with
  | none => .ended result false
  | some _ => if (files.entries render.temporaryPath).isSome then .removing result else .ended result true

def removeFile (result : Except (RenderSidecarConfigError Path) Unit) (outcome : Option Nat) :
    RenderPhase Path × FileSystem Path :=
  match outcome, files.remove render.temporaryPath with
  | none, _ => (.ended result false,files)
  | some _, none => (.ended result true,files)
  | some _, some files => (.ended result true,files)

/-- The next call. It fails, or it works and tells how many bytes it has written, if it was a write. -/
def advance (outcome : Option Nat) : RenderPhase Path → Option (RenderPhase Path × FileSystem Path)
  | .creating => some (render.create files outcome)
  | .writing inode rest => some (render.writeAll files inode rest outcome)
  | .persisting => some (render.persist files outcome)
  | .dropping result => some (render.drop files result outcome,files)
  | .removing result => some (render.removeFile files result outcome)
  | .ended .. | .killed => none

end Render

namespace RenderPhase
variable {Path : Type}

/-- The output has been replaced. -/
def replaces : RenderPhase Path → Bool
  | .dropping (.ok _) => true
  | _ => false

/-- The file that a running render has open. -/
def handle : RenderPhase Path → Option Nat
  | .writing inode _ => some inode
  | _ => none

/-- What is left of a render that is stopped. -/
def kill : RenderPhase Path → RenderPhase Path
  | .creating => .creating
  | .ended result cleared => .ended result cleared
  | _ => .killed

/-- The same when the machine stops, which may bring a file back that was removed. -/
def lose : RenderPhase Path → RenderPhase Path
  | .creating => .creating
  | .ended result _ => .ended result false
  | _ => .killed

end RenderPhase

structure Deployment (Path Number : Type) where
  files : FileSystem Path
  phases : Number → RenderPhase Path

inductive DeploymentAction (Path Number : Type) where
  | advance (number : Number) (outcome : Option Nat)
  | kill (number : Number)
  -- The machine stops, and every render with it.
  | lose (survivors : Nat → List UInt8) (directory : Path → Nat)

def DeploymentAction.loses {Path Number : Type} : DeploymentAction Path Number → Bool
  | .lose .. => true
  | _ => false

namespace Deployment
variable {Path Number : Type} [DecidableEq Path] [DecidableEq Number] (renders : Number → Render Path)

/-- A step answers with the number of the render that replaces its output in it. -/
def step (state : Deployment Path Number) :
    DeploymentAction Path Number → Except Unit (Option Number × Deployment Path Number)
  | .advance number outcome =>
    match (renders number).advance state.files outcome (state.phases number) with
    | none => .error ()
    | some (phase,files) => .ok (if phase.replaces then some number else none,
        ⟨files,Function.update state.phases number phase⟩)
  | .kill number => .ok (none,{ state with
      phases := Function.update state.phases number (state.phases number).kill })
  | .lose survivors directory =>
    .ok (none,⟨state.files.lose survivors directory,fun number => (state.phases number).lose⟩)

def start (files : FileSystem Path) : Deployment Path Number := ⟨files,fun _ => .creating⟩

def run (files : FileSystem Path) (actions : List (DeploymentAction Path Number)) :=
  Runs.run (step renders) (start files) actions

/-- The renders that have replaced their outputs, in order. -/
def replaced (trace : List (DeploymentAction Path Number × Option Number)) : List Number := trace.filterMap Prod.snd

/-- What a path shows after these replacements. -/
def shown (initial : FileSystem Path) (numbers : List Number) (path : Path) : Option (List UInt8) :=
  match (numbers.filter (fun number => (renders number).outputPath = path)).getLast? with
  | none => initial.read path
  | some number => some (renders number).rendered

end Deployment

section Stages
variable {Path : Type} (initial files : FileSystem Path) (render : Render Path)

/-- How far a render has come, beside the files that there were at the start: whether it has replaced its output, and
what its temporary file holds. -/
inductive Stage : Bool → RenderPhase Path → Prop
  | creating (untouched : initial.Same files render.temporaryPath) : Stage false .creating
  | writing (inode : Nat) (rest : List UInt8) (owned : files.Private render.temporaryPath inode)
    (written : (files.inodes inode).bytes ++ rest = render.rendered)
    (absent : initial.entries render.temporaryPath = none) : Stage false (.writing inode rest)
  | persisting (inode : Nat) (owned : files.Private render.temporaryPath inode)
    (complete : files.inodes inode = ⟨render.rendered,true⟩) (absent : initial.entries render.temporaryPath = none) :
    Stage false .persisting
  | replaced (gone : files.entries render.temporaryPath = none)
    (absent : initial.entries render.temporaryPath = none) : Stage true (.dropping (.ok ()))
  | failed (error : RenderSidecarConfigError Path) (absent : initial.entries render.temporaryPath = none) :
    Stage false (.dropping (.error error))
  | removing (error : RenderSidecarConfigError Path) (absent : initial.entries render.temporaryPath = none) :
    Stage false (.removing (.error error))
  | ended (result : Except (RenderSidecarConfigError Path) Unit) (cleared : Bool)
    (clean : cleared = true → files.read render.temporaryPath = initial.read render.temporaryPath) :
    Stage result.isOk (.ended result cleared)
  | killed (done : Bool) : Stage done .killed

variable {initial files render}

theorem Stage.handle_private {done : Bool} {phase : RenderPhase Path} (stage : Stage initial files render done phase)
    (inode : Nat) (opened : phase.handle = some inode) : files.Private render.temporaryPath inode := by
  cases stage with
  | writing _ rest owned =>
    cases opened
    exact owned
  | _ => cases opened

/-- The stage of a render is not changed by what others do to their own files. -/
theorem Stage.keep {done : Bool} {phase : RenderPhase Path} (stage : Stage initial files render done phase)
    (inUse : files.InUse) {later : FileSystem Path} {paths : Path → Prop} {inode : Option Nat}
    (confined : files.Confined later paths inode) (outside : ¬ paths render.temporaryPath)
    (other : ∀ named, some named ∈ files.past render.temporaryPath → inode ≠ some named) :
    Stage initial later render done phase := by
  have same := confined.same inUse render.temporaryPath outside other
  cases stage with
  | creating untouched => exact .creating (untouched.trans same)
  | writing named rest owned written absent =>
    refine .writing named rest (confined.keeps inUse owned outside) ?_ absent
    rw [same.contents named (owned.entry ▸ files.entry_past _)]
    exact written
  | persisting named owned complete absent =>
    refine .persisting named (confined.keeps inUse owned outside) ?_ absent
    rw [same.contents named (owned.entry ▸ files.entry_past _)]
    exact complete
  | replaced gone absent => exact .replaced ((FileSystem.past_entry same.past).trans gone) absent
  | failed error absent => exact .failed error absent
  | removing error absent => exact .removing error absent
  | ended result cleared clean => exact .ended result cleared (fun clear => same.read.trans (clean clear))
  | killed => exact .killed done

theorem Stage.ended_result {done : Bool} {result : Except (RenderSidecarConfigError Path) Unit} {cleared : Bool}
    (stage : Stage initial files render done (.ended result cleared)) : (result = .ok () ↔ done = true) ∧
      (cleared = true → files.read render.temporaryPath = initial.read render.temporaryPath) := by
  generalize same : RenderPhase.ended result cleared = phase at stage
  cases stage with
  | ended other flag clean =>
    cases same
    refine ⟨?_,clean⟩
    cases result <;> simp [Except.isOk,Except.toBool]
  | _ => cases same

theorem Stage.kill {done : Bool} {phase : RenderPhase Path} (stage : Stage initial files render done phase) :
    Stage initial files render done phase.kill := by
  cases stage with
  | creating untouched => exact .creating untouched
  | ended result cleared clean => exact .ended result cleared clean
  | _ => exact .killed _

theorem Stage.lose {done : Bool} {phase : RenderPhase Path} (stage : Stage initial files render done phase)
    (durable : initial.Durable) (survivors : Nat → List UInt8) (directory : Path → Nat) :
    Stage initial (files.lose survivors directory) render done phase.lose := by
  cases stage with
  | creating untouched =>
    have settled : files.earlier render.temporaryPath = [] := by
      rw [(List.cons.inj untouched.past).2,durable.settled]
    refine .creating (untouched.trans (FileSystem.lose_same survivors directory _ settled (fun inode named => ?_)))
    have before : initial.entries render.temporaryPath = some inode :=
      (FileSystem.past_entry untouched.past).symm.trans named
    rw [untouched.contents inode (before ▸ initial.entry_past _)]
    exact durable.synced _ inode before
  | ended result cleared clean => exact .ended result false (fun clear => by cases clear)
  | _ => exact .killed _

end Stages

section Advances
variable {Path : Type} [DecidableEq Path] (render : Render Path) (initial files : FileSystem Path) (done : Bool)
  (phase next : RenderPhase Path) (later : FileSystem Path)

/-- What the next call of a render does: it changes the render's own files, and the output only by giving it the whole
of the synced text. -/
structure Advanced : Prop where
  confined : files.Confined later
    (fun path => path = render.temporaryPath ∨ next.replaces = true ∧ path = render.outputPath) phase.handle
  inUse : later.InUse
  stage : Stage initial later render (done || next.replaces) next
  output : next.replaces = true → ∃ inode, later.past render.outputPath = some inode :: files.past render.outputPath ∧
    later.inodes inode = ⟨render.rendered,true⟩

variable {render initial files done phase next later}

omit [DecidableEq Path] in
theorem Advanced.unchanged (inUse : files.InUse) (still : next.replaces = false)
    (stage : Stage initial files render done next) : Advanced render initial files done phase next files := by
  refine ⟨.refl _ _,inUse,?_,fun replaces => ?_⟩
  · rw [still,Bool.or_false]
    exact stage
  · rw [still] at replaces
    cases replaces

variable (inUse : files.InUse)
include inUse

theorem create_advances (outcome : Option Nat) (untouched : initial.Same files render.temporaryPath) :
    Advanced render initial files false .creating (render.create files outcome).1 (render.create files outcome).2 := by
  unfold Render.create
  split
  · exact .unchanged inUse rfl (.ended (.error _) true (fun _ => untouched.read))
  · rename_i inode later created
    obtain ⟨_,_,made⟩ := Option.bind_eq_some_iff.mp created
    obtain ⟨owned,empty⟩ := FileSystem.createNew_private made inUse
    have absent := (FileSystem.createNew_success _ _ _ made).1
    refine ⟨(FileSystem.createNew_confined made).weaken (fun _ => .inl),FileSystem.createNew_inUse made inUse,?_,?_⟩
    · apply Stage.writing inode render.rendered owned
      · rw [empty,List.nil_append]
      · exact (FileSystem.past_entry untouched.past).symm.trans absent
    · intro replaces
      cases replaces

omit [DecidableEq Path] in
theorem writeAll_advances (inode : Nat) (rest : List UInt8) (outcome : Option Nat)
    (owned : files.Private render.temporaryPath inode) (written : (files.inodes inode).bytes ++ rest = render.rendered)
    (absent : initial.entries render.temporaryPath = none) :
    Advanced render initial files false (.writing inode rest) (render.writeAll files inode rest outcome).1
      (render.writeAll files inode rest outcome).2 := by
  unfold Render.writeAll
  split
  · exact .unchanged inUse rfl (.removing _ absent)
  · refine ⟨(FileSystem.sync_confined inode).weaken (fun _ => False.elim),inUse,?_,fun replaces => by cases replaces⟩
    have kept : (files.sync inode).Private render.temporaryPath inode := ⟨owned.entry,owned.only⟩
    refine .persisting inode kept ?_ absent
    rw [List.append_nil] at written
    show Function.update files.inodes inode _ inode = _
    rw [Function.update_self,written]
  · exact .unchanged inUse rfl (.removing _ absent)
  · rename_i count _ _
    refine ⟨(FileSystem.append_confined inode _).weaken (fun _ => False.elim),inUse,?_,fun replaces => by cases replaces⟩
    have kept : (files.append inode (rest.take count)).Private render.temporaryPath inode := ⟨owned.entry,owned.only⟩
    refine .writing inode (rest.drop count) kept ?_ absent
    show (Function.update files.inodes inode _ inode).bytes ++ _ = _
    rw [Function.update_self,List.append_assoc,List.take_append_drop,written]

theorem persist_advances (outcome : Option Nat) (inode : Nat) (owned : files.Private render.temporaryPath inode)
    (complete : files.inodes inode = ⟨render.rendered,true⟩) (absent : initial.entries render.temporaryPath = none)
    (apart : render.temporaryPath ≠ render.outputPath) :
    Advanced render initial files false .persisting (render.persist files outcome).1
      (render.persist files outcome).2 := by
  unfold Render.persist
  split
  · exact .unchanged inUse rfl (.failed _ absent)
  · rename_i later found
    obtain ⟨_,_,renamed⟩ := Option.bind_eq_some_iff.mp found
    refine ⟨(FileSystem.rename_confined renamed).weaken (fun path => Or.imp_right (fun same => ⟨rfl,same⟩)),
      FileSystem.rename_inUse renamed inUse,?_,fun _ => ⟨inode,?_⟩⟩
    all_goals
      obtain ⟨named,held,rfl⟩ := FileSystem.rename_success renamed
      cases owned.entry.symm.trans held
    · apply Stage.replaced _ absent
      rw [FileSystem.assign_entry_other _ _ _ apart,FileSystem.assign_entry]
    · rw [FileSystem.assign_past,FileSystem.assign_past_other _ _ _ apart.symm]
      exact ⟨rfl,complete⟩

omit [DecidableEq Path] in
theorem drop_advances (result : Except (RenderSidecarConfigError Path) Unit) (outcome : Option Nat)
    (absent : initial.entries render.temporaryPath = none)
    (gone : result = .ok () → files.entries render.temporaryPath = none) :
    Advanced render initial files result.isOk (.dropping result) (render.drop files result outcome) files := by
  unfold Render.drop
  split
  · exact .unchanged inUse rfl (.ended result false (fun clear => by cases clear))
  · split
    · rename_i found
      cases result with
      | ok =>
        rw [gone rfl] at found
        cases found
      | error error => exact .unchanged inUse rfl (.removing error absent)
    · rename_i missing
      have cleared : files.entries render.temporaryPath = none := by simpa using missing
      apply Advanced.unchanged inUse rfl (.ended result true (fun _ => ?_))
      rw [FileSystem.read_none _ cleared,FileSystem.read_none _ absent]

theorem removeFile_advances (error : RenderSidecarConfigError Path) (outcome : Option Nat)
    (absent : initial.entries render.temporaryPath = none) :
    Advanced render initial files false (.removing (.error error)) (render.removeFile files (.error error) outcome).1
      (render.removeFile files (.error error) outcome).2 := by
  unfold Render.removeFile
  split
  · exact .unchanged inUse rfl (.ended (.error error) false (fun clear => by cases clear))
  · rename_i refused
    apply Advanced.unchanged inUse rfl (.ended (.error error) true (fun _ => ?_))
    have gone : files.entries render.temporaryPath = none := by
      unfold FileSystem.remove at refused
      split at refused
      · cases refused
      · rename_i missing
        simpa using missing
    rw [FileSystem.read_none _ gone,FileSystem.read_none _ absent]
  · rename_i later removed
    refine ⟨(FileSystem.remove_confined removed).weaken (fun _ => .inl),FileSystem.remove_inUse removed inUse,?_,
      fun replaces => by cases replaces⟩
    apply Stage.ended (.error error) true
    intro _
    obtain rfl := FileSystem.remove_success removed
    rw [FileSystem.read_none _ (FileSystem.assign_entry _ _),FileSystem.read_none _ absent]

theorem advance_advances (outcome : Option Nat) (stage : Stage initial files render done phase)
    (apart : render.temporaryPath ≠ render.outputPath)
    (advanced : render.advance files outcome phase = some (next,later)) :
    Advanced render initial files done phase next later := by
  cases stage with
  | creating untouched =>
    have made := create_advances inUse outcome untouched
    rwa [Option.some.inj advanced] at made
  | writing inode rest owned written absent =>
    have made := writeAll_advances inUse inode rest outcome owned written absent
    rwa [Option.some.inj advanced] at made
  | persisting inode owned complete absent =>
    have made := persist_advances inUse outcome inode owned complete absent apart
    rwa [Option.some.inj advanced] at made
  | replaced gone absent =>
    cases advanced
    exact drop_advances inUse (.ok ()) outcome absent (fun _ => gone)
  | failed error absent =>
    cases advanced
    exact drop_advances inUse (.error error) outcome absent (fun succeeded => by cases succeeded)
  | removing error absent =>
    have made := removeFile_advances inUse error outcome absent
    rwa [Option.some.inj advanced] at made
  | ended result cleared clean => cases advanced
  | killed => cases advanced

end Advances

section Runs
variable {Path Number : Type} [DecidableEq Path] [DecidableEq Number] (renders : Number → Render Path)
  (initial : FileSystem Path)

/-- An entry that an output may have: that of the start, or that of the whole text of a render that has replaced it. -/
def Entered (numbers : List Number) (files : FileSystem Path) (path : Path) (entry : Option Nat) : Prop :=
  entry = initial.entries path ∧ (∀ inode, entry = some inode → files.inodes inode = initial.inodes inode) ∨
    ∃ number ∈ numbers, (renders number).outputPath = path ∧
      ∃ inode, entry = some inode ∧ files.inodes inode = ⟨(renders number).rendered,true⟩

open Deployment in
/-- What is true after every step: how far each render has come, what an output holds or may hold again, and, while
the machine has not stopped, that an output shows the last text that has replaced it. -/
structure Sound (trace : List (DeploymentAction Path Number × Option Number)) (state : Deployment Path Number) :
    Prop where
  inUse : state.files.InUse
  stages : ∀ number, Stage initial state.files (renders number) (decide (number ∈ replaced trace)) (state.phases number)
  held : ∀ path, (∀ number, path ≠ (renders number).temporaryPath) → ∀ entry ∈ state.files.past path,
    Entered renders initial (replaced trace) state.files path entry
  latest : (∀ action ∈ trace.map Prod.fst, action.loses = false) →
    ∀ path, (∀ number, path ≠ (renders number).temporaryPath) →
      state.files.read path = shown renders initial (replaced trace) path

variable {renders initial}

omit [DecidableEq Path] [DecidableEq Number] in
theorem Entered.carry {numbers more : List Number} {files later : FileSystem Path} {path : Path} {entry : Option Nat}
    (entered : Entered renders initial numbers files path entry) (included : ∀ number ∈ numbers, number ∈ more)
    (kept : ∀ inode, entry = some inode → later.inodes inode = files.inodes inode) :
    Entered renders initial more later path entry := by
  rcases entered with ⟨original,contents⟩ | ⟨number,replaced,output,inode,named,complete⟩
  · exact .inl ⟨original,fun inode named => (kept inode named).trans (contents inode named)⟩
  · exact .inr ⟨number,included number replaced,output,inode,named,(kept inode named).trans complete⟩

omit [DecidableEq Path] [DecidableEq Number] in
/-- What an output shows is its text of the start or the whole of a render. -/
theorem Entered.read {numbers : List Number} {files : FileSystem Path} {path : Path}
    (entered : Entered renders initial numbers files path (files.entries path)) : files.read path = initial.read path ∨
      ∃ number ∈ numbers, (renders number).outputPath = path ∧ files.read path = some (renders number).rendered := by
  rcases entered with ⟨original,contents⟩ | ⟨number,replaced,output,inode,named,complete⟩
  · apply Or.inl
    cases entry : files.entries path with
    | none => rw [FileSystem.read_none _ entry,FileSystem.read_none _ (original.symm.trans entry)]
    | some inode =>
      rw [FileSystem.read_some _ inode entry,FileSystem.read_some _ inode (original.symm.trans entry),
        contents inode entry]
  · refine .inr ⟨number,replaced,output,?_⟩
    rw [FileSystem.read_some _ inode named,complete]

namespace Deployment

omit [DecidableEq Path] [DecidableEq Number] in
theorem replaced_snoc (trace : List (DeploymentAction Path Number × Option Number))
    (action : DeploymentAction Path Number) (output : Option Number) :
    replaced (trace ++ [(action,output)]) = replaced trace ++ output.toList := by
  cases output <;> simp [replaced,List.filterMap_append]

section Shown
omit [DecidableEq Number]
variable (numbers : List Number) (number : Number)

theorem shown_other (path : Path) (other : (renders number).outputPath ≠ path) :
    shown renders initial (numbers ++ [number]) path = shown renders initial numbers path := by
  unfold shown
  simp [List.filter_append,other]

theorem shown_last :
    shown renders initial (numbers ++ [number]) (renders number).outputPath = some (renders number).rendered := by
  unfold shown
  simp [List.filter_append]

end Shown

theorem start_sound (inUse : initial.InUse) (durable : initial.Durable) : Sound renders initial [] (start initial) := by
  refine ⟨inUse,fun number => .creating (.refl _),fun path _ entry held => .inl ?_,fun _ _ _ => rfl⟩
  have only : initial.past path = [initial.entries path] := by rw [FileSystem.past,durable.settled]
  rw [start,only,List.mem_singleton] at held
  exact ⟨held,fun _ _ => rfl⟩

variable {trace : List (DeploymentAction Path Number × Option Number)} {state : Deployment Path Number}
  (sound : Sound renders initial trace state)
include sound

theorem kill_sound (number : Number) : Sound renders initial (trace ++ [(.kill number,none)])
    { state with phases := Function.update state.phases number (state.phases number).kill } := by
  have same : replaced (trace ++ [(.kill number,none)]) = replaced trace := by
    rw [replaced_snoc,Option.toList_none,List.append_nil]
  refine ⟨sound.inUse,fun other => ?_,by rw [same]; exact sound.held,fun still => ?_⟩
  · rw [same]
    by_cases here : other = number
    · subst here
      dsimp only
      rw [Function.update_self]
      exact (sound.stages other).kill
    · dsimp only
      rw [Function.update_of_ne here]
      exact sound.stages other
  · rw [List.map_append,List.forall_mem_append] at still
    rw [same]
    exact sound.latest still.1

theorem lose_sound (durable : initial.Durable) (survivors : Nat → List UInt8) (directory : Path → Nat) :
    Sound renders initial (trace ++ [(.lose survivors directory,none)])
      ⟨state.files.lose survivors directory,fun number => (state.phases number).lose⟩ := by
  have same : replaced (trace ++ [(.lose survivors directory,none)]) = replaced trace := by
    rw [replaced_snoc,Option.toList_none,List.append_nil]
  refine ⟨FileSystem.lose_inUse survivors directory sound.inUse,fun number => ?_,?_,fun still => ?_⟩
  · rw [same]
    exact (sound.stages number).lose durable survivors directory
  · intro path output entry left
    have entered := sound.held path output entry (FileSystem.lose_past survivors directory path entry left)
    rw [same]
    apply entered.carry (fun _ => id)
    rintro inode rfl
    apply FileSystem.lose_synced
    rcases entered with ⟨original,contents⟩ | ⟨_,_,_,named,found,complete⟩
    · rw [contents inode rfl]
      exact durable.synced path inode original.symm
    · cases found
      rw [complete]
  · have stopped := still (.lose survivors directory) (by simp)
    cases stopped

section Advance
variable (unique : ∀ number other, number ≠ other → (renders number).temporaryPath ≠ (renders other).temporaryPath)
  (apart : ∀ number other, (renders number).temporaryPath ≠ (renders other).outputPath)
  (number : Number) (outcome : Option Nat) (phase : RenderPhase Path) (files : FileSystem Path)
  (advanced : (renders number).advance state.files outcome (state.phases number) = some (phase,files))

/-- A path that is not the temporary one of a render does not name the file that it has open. -/
theorem handle_other (path : Path) (other : path ≠ (renders number).temporaryPath) (inode : Nat)
    (named : some inode ∈ state.files.past path) : (state.phases number).handle ≠ some inode :=
  fun opened => other (((sound.stages number).handle_private inode opened).only path named)

include unique apart advanced

theorem advance_sound : Sound renders initial
    (trace ++ [(.advance number outcome,if phase.replaces then some number else none)])
    ⟨files,Function.update state.phases number phase⟩ := by
  have made := advance_advances sound.inUse outcome (sound.stages number) (apart number number) advanced
  have more : replaced (trace ++ [(.advance number outcome,if phase.replaces then some number else none)]) =
      replaced trace ++ if phase.replaces then [number] else [] := by
    rw [replaced_snoc]
    split <;> rfl
  have kept (path : Path) (output : ∀ other, path ≠ (renders other).temporaryPath) (inode : Nat)
      (named : some inode ∈ state.files.past path) : files.inodes inode = state.files.inodes inode :=
    made.confined.inodes inode (sound.inUse path inode named) (handle_other sound number path (output number) inode named)
  have others (other : Number) (different : other ≠ number) :
      Stage initial files (renders other) (decide (other ∈ replaced trace)) (state.phases other) := by
    apply (sound.stages other).keep sound.inUse made.confined
    · rintro (same | ⟨_,same⟩)
      · exact unique other number different same
      · exact apart other number same
    · exact handle_other sound number _ (unique other number different)
  have elsewhere (path : Path) (output : ∀ other, path ≠ (renders other).temporaryPath)
      (outside : ¬ (phase.replaces = true ∧ path = (renders number).outputPath)) : state.files.Same files path := by
    refine made.confined.same sound.inUse path ?_ (handle_other sound number path (output number))
    rintro (same | same)
    · exact output number same
    · exact outside same
  refine ⟨made.inUse,fun other => ?_,fun path output entry held => ?_,fun still path output => ?_⟩
  · rw [more]
    by_cases here : other = number
    · subst here
      dsimp only
      rw [Function.update_self]
      convert made.stage using 1
      cases phase.replaces <;> simp
    · dsimp only
      rw [Function.update_of_ne here]
      convert others other here using 2
      cases phase.replaces <;> simp [here]
  · rw [more]
    by_cases atOutput : phase.replaces = true ∧ path = (renders number).outputPath
    · obtain ⟨replaces,rfl⟩ := atOutput
      obtain ⟨inode,past,complete⟩ := made.output replaces
      rw [past] at held
      rcases List.mem_cons.mp held with rfl | before
      · exact .inr ⟨number,by simp [replaces],rfl,inode,rfl,complete⟩
      · apply (sound.held _ output entry before).carry (fun _ => List.mem_append_left _)
        rintro named rfl
        exact kept _ output named before
    · have same := elsewhere path output atOutput
      rw [same.past] at held
      apply (sound.held path output entry held).carry (fun _ => List.mem_append_left _)
      rintro named rfl
      exact kept path output named held
  · rw [List.map_append,List.forall_mem_append] at still
    have before := sound.latest still.1 path output
    rw [more]
    by_cases atOutput : phase.replaces = true ∧ path = (renders number).outputPath
    · obtain ⟨replaces,rfl⟩ := atOutput
      obtain ⟨inode,past,complete⟩ := made.output replaces
      rw [if_pos replaces,shown_last,FileSystem.read_some _ inode (List.cons.inj past).1,complete]
    · rw [(elsewhere path output atOutput).read,before]
      cases replaces : phase.replaces with
      | false => simp
      | true =>
        rw [if_pos rfl,shown_other]
        exact fun same => atOutput ⟨replaces,same.symm⟩

end Advance

theorem step_sound
    (unique : ∀ number other, number ≠ other → (renders number).temporaryPath ≠ (renders other).temporaryPath)
    (apart : ∀ number other, (renders number).temporaryPath ≠ (renders other).outputPath) (durable : initial.Durable)
    (action : DeploymentAction Path Number) (output : Option Number) (next : Deployment Path Number)
    (stepped : step renders state action = .ok (output,next)) :
    Sound renders initial (trace ++ [(action,output)]) next := by
  cases action with
  | advance number outcome =>
    dsimp only [step] at stepped
    split at stepped
    · cases stepped
    · rename_i phase files advanced
      cases stepped
      exact advance_sound sound unique apart number outcome phase files advanced
  | kill number =>
    cases stepped
    exact kill_sound sound number
  | lose survivors directory =>
    cases stepped
    exact lose_sound sound durable survivors directory

omit sound in
theorem run_sound
    (unique : ∀ number other, number ≠ other → (renders number).temporaryPath ≠ (renders other).temporaryPath)
    (apart : ∀ number other, (renders number).temporaryPath ≠ (renders other).outputPath) (inUse : initial.InUse)
    (durable : initial.Durable) (actions : List (DeploymentAction Path Number))
    (trace : List (DeploymentAction Path Number × Option Number)) (final : Deployment Path Number)
    (ran : run renders initial actions = .ok (trace,final)) : Sound renders initial trace final := by
  apply Runs.run_traces (step renders) (Sound renders initial) _ [] (start initial) actions trace final
    (start_sound inUse durable) ran
  intro before state action output next sound stepped
  exact step_sound sound unique apart durable action output next stepped

omit sound in
/-- Renders may be interleaved in any way, fail at any call and stop at any point, the machine with them. A path that is
no temporary one shows at every moment what it showed at the start or the whole text of a render that has replaced it;
as long as the machine has not stopped, of the last one. An ended render has succeeded if and only if it has replaced
its output, and when its temporary file was removed it has left nothing behind. -/
theorem renders_atomic (paths : PathApi Path) (toYaml : AgentGatewayConfig → Except String (List UInt8))
    (registries : Number → Registry) (outputs : Number → Path) (uuids : Number → String)
    (renders : Number → Render Path)
    (prepared : ∀ number, prepareSidecarConfig paths toYaml (registries number) (outputs number) (uuids number) =
      .ok (renders number))
    (unique : ∀ number other, number ≠ other → (renders number).temporaryPath ≠ (renders other).temporaryPath)
    (apart : ∀ number other, (renders number).temporaryPath ≠ outputs other)
    (files : FileSystem Path) (inUse : files.InUse) (durable : files.Durable)
    (actions : List (DeploymentAction Path Number)) (trace : List (DeploymentAction Path Number × Option Number))
    (final : Deployment Path Number) (ran : run renders files actions = .ok (trace,final)) :
    (∀ path, (∀ number, path ≠ (renders number).temporaryPath) →
      (final.files.read path = files.read path ∨ ∃ number ∈ replaced trace, outputs number = path ∧
        ∃ rendered, compile toYaml (registries number) .default = .ok rendered ∧
          final.files.read path = some rendered) ∧
      ((∀ action ∈ actions, action.loses = false) → final.files.read path = shown renders files (replaced trace) path)) ∧
    ∀ number result cleared, final.phases number = .ended result cleared →
      (result = .ok () ↔ number ∈ replaced trace) ∧
      (cleared = true → final.files.read (renders number).temporaryPath = files.read (renders number).temporaryPath) := by
  have aims (number : Number) : (renders number).outputPath = outputs number ∧
      compile toYaml (registries number) .default = .ok (renders number).rendered :=
    prepareSidecarConfig_success paths toYaml (registries number) (outputs number) (uuids number) _ (prepared number)
  have sound := run_sound unique (fun number other => (aims other).1 ▸ apart number other) inUse durable actions trace
    final ran
  refine ⟨fun path output => ⟨?_,fun still => ?_⟩,fun number result cleared ended => ?_⟩
  · rcases (sound.held path output _ (final.files.entry_past path)).read with same | ⟨number,done,names,shows⟩
    · exact .inl same
    · exact .inr ⟨number,done,(aims number).1 ▸ names,_,(aims number).2,shows⟩
  · apply sound.latest _ path output
    rw [Runs.run_actions (step renders) _ actions trace final ran]
    exact still
  · have reached := (ended ▸ sound.stages number).ended_result
    rwa [decide_eq_true_iff] at reached

end Deployment

end Runs

section Sample

def samplePaths : PathApi (List String) :=
  ⟨List.isEmpty,List.getLast?,fun path => if path.isEmpty then none else some path.dropLast,
    fun path name => path ++ [name],["."]⟩

def sampleOutput : List String := ["agentgateway.yaml"]

/-- The first render knows one of the providers only. -/
def sampleRegistries : Bool → Registry
  | false => ⟨[sampleProvider "alpha" 0 ["vendor/model"]]⟩
  | true => sampleRegistry

def sampleUuid : Bool → String
  | false => "a"
  | true => "b"

/-- One byte for each route. -/
def sampleYaml (config : AgentGatewayConfig) : Except String (List UInt8) :=
  .ok (List.replicate config.llm.models.length 7)

def sampleRender (number : Bool) : Render (List String) :=
  ⟨sampleOutput,[".",".seren-router-sidecar-" ++ sampleUuid number ++ ".tmp"],
    List.replicate (if number then 3 else 1) 7⟩

/-- An older configuration of a byte. -/
def sampleFiles : FileSystem (List String) :=
  ⟨fun path => if path = sampleOutput then some 0 else none,fun _ => [],fun _ => ⟨[1],true⟩,1⟩

/-- Two renders at once; the second is killed in the middle of its text. -/
def sampleActions : List (DeploymentAction (List String) Bool) :=
  [.advance false (some 0),.advance true (some 0),.advance true (some 2),.advance false (some 1),
    .advance false (some 0),.advance false (some 0),.advance false (some 0),.kill true]

theorem sampleRender_prepared (number : Bool) : prepareSidecarConfig samplePaths sampleYaml (sampleRegistries number)
    sampleOutput (sampleUuid number) = .ok (sampleRender number) := by
  cases number <;> rfl

theorem sampleFiles_inUse : sampleFiles.InUse := by
  intro path inode held
  rw [FileSystem.past,sampleFiles,List.mem_singleton] at held
  dsimp only at held
  split at held
  · cases held
    exact Nat.zero_lt_one
  · cases held

end Sample

namespace Deployment

theorem renders_atomic_sample : ∃ trace final, run sampleRender sampleFiles sampleActions = .ok (trace,final) ∧
    replaced trace = [false] ∧ final.files.read sampleOutput = some [7] := by
  have temporary (number other : Bool) : (sampleRender number).temporaryPath ≠ (sampleRender other).outputPath := by
    cases number <;> cases other <;> decide
  obtain ⟨trace,final,ran,replaced⟩ : ∃ trace final, run sampleRender sampleFiles sampleActions = .ok (trace,final) ∧
      replaced trace = [false] := ⟨_,_,rfl,rfl⟩
  have atomic := renders_atomic samplePaths sampleYaml sampleRegistries (fun _ => sampleOutput) sampleUuid sampleRender
    sampleRender_prepared (by decide) temporary sampleFiles sampleFiles_inUse ⟨fun _ => rfl,fun _ _ _ => rfl⟩
    sampleActions trace final ran
  have shows := (atomic.1 sampleOutput (fun number => (temporary number number).symm)).2 (by decide)
  rw [replaced] at shows
  exact ⟨trace,final,ran,replaced,shows⟩

end Deployment

end SerenRouter
