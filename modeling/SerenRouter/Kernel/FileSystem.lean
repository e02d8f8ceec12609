import Mathlib.Logic.Function.Basic

/-! A directory and its files. A path names a file by its inode, and who has opened a file keeps the inode, whatever
is renamed meanwhile. When the machine stops, the contents of a file that was not synced are lost, and an entry may be
one that it was before. -/
namespace SerenRouter.Kernel

structure Inode where
  bytes : List UInt8
  synced : Bool

/-- The inodes from `next` on have never been used. -/
structure FileSystem (Path : Type) where
  entries : Path → Option Nat
  earlier : Path → List (Option Nat)
  inodes : Nat → Inode
  next : Nat

namespace FileSystem
variable {Path : Type} (files : FileSystem Path)

def read (path : Path) : Option (List UInt8) := (files.entries path).map (fun inode => (files.inodes inode).bytes)

/-- What the entry is or may be again. -/
def past (path : Path) : List (Option Nat) := files.entries path :: files.earlier path

def append (inode : Nat) (bytes : List UInt8) : FileSystem Path :=
  { files with inodes := Function.update files.inodes inode ⟨(files.inodes inode).bytes ++ bytes,false⟩ }

def sync (inode : Nat) : FileSystem Path :=
  { files with inodes := Function.update files.inodes inode ⟨(files.inodes inode).bytes,true⟩ }

/-- The machine stops: of each entry there is left one of its past, and of a file that was not synced anything. -/
def lose (survivors : Nat → List UInt8) (directory : Path → Nat) : FileSystem Path :=
  { files with
    entries := fun path => (files.past path).getD (directory path) (files.entries path)
    earlier := fun _ => []
    inodes := fun inode => if (files.inodes inode).synced then files.inodes inode else ⟨survivors inode,false⟩ }

/-- Every entry is that of a used inode. -/
def InUse : Prop := ∀ path inode, some inode ∈ files.past path → inode < files.next

/-- All that there is outlives a stop of the machine. -/
structure Durable : Prop where
  settled : ∀ path, files.earlier path = []
  synced : ∀ path inode, files.entries path = some inode → (files.inodes inode).synced = true

/-- The inode has this path only. -/
structure Private (path : Path) (inode : Nat) : Prop where
  entry : files.entries path = some inode
  only : ∀ other, some inode ∈ files.past other → other = path

/-- No entry but those of the paths has changed, nor the contents of any used inode but one; every entry is as it was,
is one that one of the paths had, or is that of a new inode. -/
structure Confined (later : FileSystem Path) (paths : Path → Prop) (inode : Option Nat) : Prop where
  entries : ∀ path, ¬ paths path → later.past path = files.past path
  moved : ∀ path named, some named ∈ later.past path → some named ∈ files.past path ∨
    (∃ earlier, paths earlier ∧ some named ∈ files.past earlier) ∨ files.next ≤ named
  inodes : ∀ other, other < files.next → inode ≠ some other → later.inodes other = files.inodes other

/-- The path names the same file with the same contents, and named no other meanwhile. -/
structure Same (later : FileSystem Path) (path : Path) : Prop where
  past : later.past path = files.past path
  contents : ∀ inode, some inode ∈ files.past path → later.inodes inode = files.inodes inode

variable {files}

variable (files) in
theorem entry_past (path : Path) : files.entries path ∈ files.past path := List.mem_cons_self

theorem past_entry {later : FileSystem Path} {path : Path} (same : later.past path = files.past path) :
    later.entries path = files.entries path := (List.cons.inj same).1

theorem Private.used {path : Path} {inode : Nat} (owned : files.Private path inode) (inUse : files.InUse) :
    inode < files.next := inUse path inode (owned.entry ▸ files.entry_past path)

theorem Same.refl (path : Path) : files.Same files path := ⟨rfl,fun _ _ => rfl⟩

theorem Same.trans {middle later : FileSystem Path} {path : Path} (first : files.Same middle path)
    (second : middle.Same later path) : files.Same later path := by
  refine ⟨second.past.trans first.past,fun inode named => ?_⟩
  rw [second.contents inode (first.past ▸ named),first.contents inode named]

theorem Same.read {later : FileSystem Path} {path : Path} (same : files.Same later path) :
    later.read path = files.read path := by
  unfold FileSystem.read
  rw [past_entry same.past]
  cases named : files.entries path with
  | none => rfl
  | some inode =>
    have kept := same.contents inode (named ▸ files.entry_past path)
    rw [Option.map_some,Option.map_some,kept]

theorem read_none (path : Path) (absent : files.entries path = none) : files.read path = none := by
  rw [read,absent,Option.map_none]

theorem read_some (path : Path) (inode : Nat) (entry : files.entries path = some inode) :
    files.read path = some (files.inodes inode).bytes := by
  rw [read,entry,Option.map_some]

theorem Confined.same {later : FileSystem Path} {paths : Path → Prop} {inode : Option Nat}
    (confined : files.Confined later paths inode) (inUse : files.InUse) (path : Path) (outside : ¬ paths path)
    (other : ∀ named, some named ∈ files.past path → inode ≠ some named) : files.Same later path :=
  ⟨confined.entries path outside,fun named entry =>
    confined.inodes named (inUse path named entry) (other named entry)⟩

/-- A private file stays private when others change theirs. -/
theorem Confined.keeps {later : FileSystem Path} {paths : Path → Prop} {inode : Option Nat}
    (confined : files.Confined later paths inode) (inUse : files.InUse) {path : Path} {named : Nat}
    (owned : files.Private path named) (outside : ¬ paths path) : later.Private path named := by
  refine ⟨(past_entry (confined.entries path outside)).trans owned.entry,fun other entry => ?_⟩
  rcases confined.moved other named entry with before | ⟨earlier,inside,before⟩ | fresh
  · exact owned.only other before
  · exact absurd (owned.only earlier before ▸ inside) outside
  · exact absurd (owned.used inUse) (Nat.not_lt.mpr fresh)

theorem Confined.inUse {later : FileSystem Path} {paths : Path → Prop} {inode : Option Nat}
    (confined : files.Confined later paths inode) (inUse : files.InUse) (next : files.next ≤ later.next)
    (fresh : ∀ path named, some named ∈ later.past path → files.next ≤ named → named < later.next) : later.InUse := by
  intro path named entry
  rcases confined.moved path named entry with before | ⟨earlier,_,before⟩ | new
  · exact Nat.lt_of_lt_of_le (inUse path named before) next
  · exact Nat.lt_of_lt_of_le (inUse earlier named before) next
  · exact fresh path named entry new

theorem Confined.weaken {later : FileSystem Path} {paths more : Path → Prop} {inode : Option Nat}
    (confined : files.Confined later paths inode) (wider : ∀ path, paths path → more path) :
    files.Confined later more inode := by
  refine ⟨fun path outside => confined.entries path (fun inside => outside (wider path inside)),?_,confined.inodes⟩
  intro path named entry
  rcases confined.moved path named entry with before | ⟨earlier,inside,before⟩ | fresh
  · exact .inl before
  · exact .inr (.inl ⟨earlier,wider earlier inside,before⟩)
  · exact .inr (.inr fresh)

theorem Confined.refl (paths : Path → Prop) (inode : Option Nat) : files.Confined files paths inode :=
  ⟨fun _ _ => rfl,fun _ _ entry => .inl entry,fun _ _ _ => rfl⟩

theorem append_confined (inode : Nat) (bytes : List UInt8) :
    files.Confined (files.append inode bytes) (fun _ => False) (some inode) := by
  refine ⟨fun _ _ => rfl,fun _ _ entry => .inl entry,fun other _ different => ?_⟩
  exact Function.update_of_ne (fun same => different (congrArg some same.symm)) _ _

theorem sync_confined (inode : Nat) : files.Confined (files.sync inode) (fun _ => False) (some inode) := by
  refine ⟨fun _ _ => rfl,fun _ _ entry => .inl entry,fun other _ different => ?_⟩
  exact Function.update_of_ne (fun same => different (congrArg some same.symm)) _ _

section Lose
variable (survivors : Nat → List UInt8) (directory : Path → Nat)

theorem lose_synced (inode : Nat) (synced : (files.inodes inode).synced = true) :
    (files.lose survivors directory).inodes inode = files.inodes inode := if_pos synced

theorem lose_past (path : Path) (entry : Option Nat) (left : entry ∈ (files.lose survivors directory).past path) :
    entry ∈ files.past path := by
  obtain rfl := List.mem_singleton.mp left
  show (files.past path).getD (directory path) (files.entries path) ∈ files.past path
  rw [List.getD_eq_getElem?_getD]
  cases found : (files.past path)[directory path]? with
  | none => exact files.entry_past path
  | some entry => exact List.mem_of_getElem? found

theorem lose_inUse (inUse : files.InUse) : (files.lose survivors directory).InUse :=
  fun path inode left => inUse path inode (lose_past survivors directory path _ left)

/-- A path that has named one synced file only still does. -/
theorem lose_same (path : Path) (settled : files.earlier path = [])
    (synced : ∀ inode, files.entries path = some inode → (files.inodes inode).synced = true) :
    files.Same (files.lose survivors directory) path := by
  have only : files.past path = [files.entries path] := by rw [past,settled]
  refine ⟨?_,fun inode named => lose_synced survivors directory inode (synced inode ?_)⟩
  · show [(files.lose survivors directory).entries path] = files.past path
    have kept := lose_past survivors directory path _ ((files.lose survivors directory).entry_past path)
    rw [only,List.mem_singleton] at kept
    rw [only,kept]
  · rw [only,List.mem_singleton] at named
    exact named.symm

end Lose

section Names
variable [DecidableEq Path] (files)

def assign (path : Path) (entry : Option Nat) : FileSystem Path :=
  { files with
    entries := Function.update files.entries path entry
    earlier := Function.update files.earlier path (files.past path) }

def createNew (path : Path) : Option (Nat × FileSystem Path) :=
  if (files.entries path).isSome then none
  else some (files.next,{ files.assign path (some files.next) with
    inodes := Function.update files.inodes files.next ⟨[],false⟩
    next := files.next + 1 })

def rename (source target : Path) : Option (FileSystem Path) :=
  (files.entries source).map (fun inode => (files.assign source none).assign target (some inode))

def remove (path : Path) : Option (FileSystem Path) :=
  if (files.entries path).isSome then some (files.assign path none) else none

variable {files}

@[simp] theorem assign_entry (path : Path) (entry : Option Nat) : (files.assign path entry).entries path = entry :=
  Function.update_self _ _ _

@[simp] theorem assign_past (path : Path) (entry : Option Nat) :
    (files.assign path entry).past path = entry :: files.past path := by
  simp only [past,assign,Function.update_self]

theorem assign_entry_other (path other : Path) (entry : Option Nat) (different : other ≠ path) :
    (files.assign path entry).entries other = files.entries other := Function.update_of_ne different _ _

theorem assign_past_other (path other : Path) (entry : Option Nat) (different : other ≠ path) :
    (files.assign path entry).past other = files.past other := by
  simp only [past,assign,Function.update_of_ne different]

theorem assign_named (path other : Path) (entry : Option Nat) (named : Nat)
    (found : some named ∈ (files.assign path entry).past other) :
    some named ∈ files.past other ∨ other = path ∧ entry = some named := by
  by_cases same : other = path
  · subst same
    rw [assign_past] at found
    rcases List.mem_cons.mp found with here | before
    · exact .inr ⟨rfl,here.symm⟩
    · exact .inl before
  · rw [assign_past_other path other entry same] at found
    exact .inl found

theorem createNew_success (path : Path) (inode : Nat) (later : FileSystem Path)
    (created : files.createNew path = some (inode,later)) : files.entries path = none ∧ inode = files.next ∧
      later = { files.assign path (some files.next) with
        inodes := Function.update files.inodes files.next ⟨[],false⟩
        next := files.next + 1 } := by
  unfold createNew at created
  split at created
  · cases created
  · rename_i absent
    cases created
    exact ⟨by simpa using absent,rfl,rfl⟩

section Created
variable {path : Path} {inode : Nat} {later : FileSystem Path}
  (created : files.createNew path = some (inode,later))
include created

theorem createNew_confined : files.Confined later (· = path) none := by
  obtain ⟨_,_,rfl⟩ := createNew_success path inode later created
  refine ⟨fun other outside => ?_,fun other named entry => ?_,fun other used _ => ?_⟩
  · exact assign_past_other path other _ outside
  · rcases assign_named path other _ named entry with before | ⟨_,new⟩
    · exact .inl before
    · exact .inr (.inr (Nat.le_of_eq (Option.some.inj new)))
  · exact Function.update_of_ne (Nat.ne_of_lt used) _ _

theorem createNew_inUse (inUse : files.InUse) : later.InUse := by
  have confined := createNew_confined created
  obtain ⟨_,_,rfl⟩ := createNew_success path inode later created
  apply confined.inUse inUse (Nat.le_succ _)
  intro other named entry fresh
  rcases assign_named path other _ named entry with before | ⟨_,new⟩
  · exact absurd (inUse other named before) (Nat.not_lt.mpr fresh)
  · exact Option.some.inj new ▸ Nat.lt_succ_self _

theorem createNew_private (inUse : files.InUse) : later.Private path inode ∧ (later.inodes inode).bytes = [] := by
  obtain ⟨_,rfl,rfl⟩ := createNew_success path inode later created
  refine ⟨⟨assign_entry _ _,fun other entry => ?_⟩,by dsimp only; rw [Function.update_self]⟩
  rcases assign_named path other _ _ entry with before | ⟨here,_⟩
  · exact absurd (inUse other _ before) (Nat.lt_irrefl _)
  · exact here

end Created

section Renamed
variable {source target : Path} {later : FileSystem Path} (renamed : files.rename source target = some later)
include renamed

theorem rename_success : ∃ inode, files.entries source = some inode ∧
    later = (files.assign source none).assign target (some inode) := by
  obtain ⟨inode,entry,rfl⟩ := Option.map_eq_some_iff.mp renamed
  exact ⟨inode,entry,rfl⟩

theorem rename_confined : files.Confined later (fun path => path = source ∨ path = target) none := by
  obtain ⟨inode,held,rfl⟩ := rename_success renamed
  refine ⟨fun path outside => ?_,fun path named entry => ?_,fun _ _ _ => rfl⟩
  · obtain ⟨notSource,notTarget⟩ := not_or.mp outside
    rw [assign_past_other _ _ _ notTarget,assign_past_other _ _ _ notSource]
  · rcases assign_named target path _ named entry with before | ⟨_,same⟩
    · rcases assign_named source path none named before with before | ⟨_,same⟩
      · exact .inl before
      · cases same
    · rw [← same,← held]
      exact .inr (.inl ⟨source,.inl rfl,files.entry_past source⟩)

theorem rename_inUse (inUse : files.InUse) : later.InUse := by
  have confined := rename_confined renamed
  obtain ⟨inode,held,rfl⟩ := rename_success renamed
  apply confined.inUse inUse (Nat.le_refl _)
  intro path named entry _
  rcases assign_named target path _ named entry with before | ⟨_,same⟩
  · rcases assign_named source path none named before with before | ⟨_,same⟩
    · exact inUse path named before
    · cases same
  · apply inUse source named
    rw [← same,← held]
    exact files.entry_past source

end Renamed

section Removed
variable {path : Path} {later : FileSystem Path} (removed : files.remove path = some later)
include removed

theorem remove_success : later = files.assign path none := by
  unfold remove at removed
  split at removed
  · exact (Option.some.inj removed).symm
  · cases removed

theorem remove_confined : files.Confined later (· = path) none := by
  obtain rfl := remove_success removed
  refine ⟨fun other outside => ?_,fun other named entry => ?_,fun _ _ _ => rfl⟩
  · exact assign_past_other path other _ outside
  · rcases assign_named path other none named entry with before | ⟨_,same⟩
    · exact .inl before
    · cases same

theorem remove_inUse (inUse : files.InUse) : later.InUse := by
  have confined := remove_confined removed
  obtain rfl := remove_success removed
  apply confined.inUse inUse (Nat.le_refl _)
  intro other named entry _
  rcases assign_named path other none named entry with before | ⟨_,same⟩
  · exact inUse other named before
  · cases same

end Removed

end Names

end FileSystem

end SerenRouter.Kernel
