import SerenRouter.Proxy
import SerenRouter.ServedCost

/-! The ledger: inserts and lookups of generations in the table that the migrations define.
Its primary key is the provider's response id, while lookups go by id and profile; what that
leaves of the separation of profiles is stated exactly. -/
namespace SerenRouter
open Kernel Kernel.HashMap

/-- The errors with which the database answers; a failed statement changes nothing. -/
inductive DatabaseError where
  | uniqueViolation
  | numericValueOutOfRange
  | checkViolation
  | characterNotInRepertoire
  deriving DecidableEq

/-- A row of `generations`. -/
structure GenerationRow where
  id : String
  createdAt : Nat
  routingProfile : String
  canonicalSlug : String
  providerId : String
  promptTokens : Option Int
  completionTokens : Option Int
  costUsd : Option Decimal
  providerCostUsd : Option Decimal
  sellPriceUsd : Option Decimal
  latencyMs : Int
  status : Nat

structure Generation where
  id : String
  createdAt : Nat
  canonicalSlug : String
  providerId : String
  promptTokens : Option Int
  completionTokens : Option Int
  reportedCostUsd : Option Decimal
  providerCostUsd : Option Decimal
  latencyMs : Int
  deriving DecidableEq

/-- The table, by its primary key. -/
abbrev Generations := HashMap String GenerationRow

/-- `TEXT` holds every string without the zero character. -/
def isText (text : String) : Bool := !text.toList.contains (Char.ofNat 0)

/-- A value as `NUMERIC(18, 10)` keeps it: ten places are written, and zero has no sign. -/
def numericColumn (decimal : Decimal) : Decimal :=
  let rounded := (decimal.roundDp costScale).rescale costScale
  Decimal.fromParts rounded.negative rounded.mantissa rounded.scale rounded.fits rounded.bounded

/-- The row of an insert; the sell price stays empty. -/
def GenerationWrite.row (generation : GenerationWrite) (now : Nat) : GenerationRow where
  id := generation.id
  createdAt := now
  routingProfile := generation.routingProfile.asStr
  canonicalSlug := generation.canonicalSlug
  providerId := generation.providerId
  promptTokens := some generation.promptTokens
  completionTokens := some generation.completionTokens
  costUsd := some (numericColumn generation.costUsd)
  providerCostUsd := some (numericColumn generation.costUsd)
  sellPriceUsd := none
  latencyMs := generation.latencyMs
  status := generation.status

namespace Ledger

def insert (table : Generations) (now : Nat) (generation : GenerationWrite) : Except DatabaseError Generations :=
  if ¬ (isText generation.id && isText generation.canonicalSlug && isText generation.providerId) then
    .error .characterNotInRepertoire
  -- Eighteen digits, ten of them after the point.
  else if (10^8 : ℚ) ≤ |(numericColumn generation.costUsd).value| then .error .numericValueOutOfRange
  else if numericColumn generation.costUsd < Decimal.zero then .error .checkViolation
  else if (table generation.id).isSome then .error .uniqueViolation
  else .ok (table.insert generation.id (generation.row now))

def fetch (table : Generations) (id : String) (routingProfile : RoutingProfile) :
    Except DatabaseError (Option Generation) :=
  if ¬ isText id then .error .characterNotInRepertoire
  else .ok ((table id).bind fun row =>
    if row.routingProfile = routingProfile.asStr then
      some {
        id := row.id
        createdAt := row.createdAt
        canonicalSlug := row.canonicalSlug
        providerId := row.providerId
        promptTokens := row.promptTokens
        completionTokens := row.completionTokens
        reportedCostUsd := if row.sellPriceUsd.isSome then row.sellPriceUsd else row.providerCostUsd.or row.costUsd
        providerCostUsd := row.providerCostUsd
        latencyMs := row.latencyMs }
    else none)

/-- Inserts one after the other, each at its time; one that fails leaves the table as it was. -/
def insertAll (table : Generations) (writes : List (Nat × GenerationWrite)) : Generations :=
  writes.foldl (fun table write => (insert table write.1 write.2).toOption.getD table) table

end Ledger

/-- What the columns of a row admit. -/
structure GenerationWrite.Storable (generation : GenerationWrite) : Prop where
  texts : ∀ text ∈ [generation.id,generation.canonicalSlug,generation.providerId], isText text = true
  nonnegative : 0 ≤ roundAway costScale generation.costUsd.value
  below : roundAway costScale generation.costUsd.value < 10^8

theorem GenerationWrite.storable_iff (generation : GenerationWrite) : generation.Storable ↔
    (∀ text ∈ [generation.id,generation.canonicalSlug,generation.providerId], isText text = true) ∧
      0 ≤ roundAway costScale generation.costUsd.value ∧ roundAway costScale generation.costUsd.value < 10^8 :=
  ⟨fun storable => ⟨storable.texts,storable.nonnegative,storable.below⟩,
    fun ⟨texts,nonnegative,below⟩ => ⟨texts,nonnegative,below⟩⟩

instance (generation : GenerationWrite) : Decidable generation.Storable :=
  decidable_of_iff _ generation.storable_iff.symm

theorem numericColumn_value (decimal : Decimal) :
    (numericColumn decimal).value = roundAway costScale decimal.value := by
  rw [← decimal.rounded_value costScale,numericColumn,Decimal.value_fromParts,Decimal.value_sign]

theorem RoutingProfile.asStr_inj (left right : RoutingProfile) : left.asStr = right.asStr ↔ left = right := by
  cases left <;> cases right <;> decide

namespace Ledger

theorem insert_step (table : Generations) (now : Nat) (generation : GenerationWrite) :
    (insert table now generation).toOption.getD table =
      if generation.Storable then table.offer GenerationRow.id (generation.row now) else table := by
  have cost := numericColumn_value generation.costUsd
  by_cases storable : generation.Storable
  · rw [if_pos storable,insert,if_neg,if_neg,if_neg,offer]
    · change Option.getD (Except.toOption (if (table generation.id).isSome then _ else _)) table =
        if (table generation.id).isSome then table else _
      cases (table generation.id).isSome <;> rfl
    · rw [Decimal.lt_def,Decimal.value_zero,cost,not_lt]
      exact storable.nonnegative
    · rw [cost,abs_of_nonneg storable.nonnegative,not_le]
      exact storable.below
    · simpa [and_assoc] using storable.texts
  · rw [if_neg storable,insert]
    split
    · rfl
    · rename_i texts
      split
      · rfl
      · rename_i range
        split
        · rfl
        · rename_i sign
          rw [Decimal.lt_def,Decimal.value_zero,cost,not_lt] at sign
          rw [cost,abs_of_nonneg sign,not_le] at range
          exact absurd ⟨by simpa [and_assoc] using texts,sign,range⟩ storable

/-- The rows of the inserts that the columns admit. -/
def rows (writes : List (Nat × GenerationWrite)) : List GenerationRow :=
  (writes.filter (fun write => write.2.Storable)).map (fun write => write.2.row write.1)

theorem insertAll_rows (table : Generations) (writes : List (Nat × GenerationWrite)) :
    insertAll table writes = (rows writes).foldl (offer GenerationRow.id) table := by
  induction writes generalizing table with
  | nil => rfl
  | cons write writes ih =>
    have step : insertAll table (write :: writes) =
        insertAll ((insert table write.1 write.2).toOption.getD table) writes := rfl
    rw [step,ih,insert_step]
    by_cases storable : write.2.Storable
    · simp [rows,storable]
    · simp [rows,storable]

/-- The first insert of an id that the columns admit. -/
def firstStored (writes : List (Nat × GenerationWrite)) (id : String) : Option (Nat × GenerationWrite) :=
  writes.find? (fun write => write.2.Storable ∧ write.2.id = id)

theorem insertAll_apply (writes : List (Nat × GenerationWrite)) (id : String) :
    insertAll empty writes id = (firstStored writes id).map (fun write => write.2.row write.1) := by
  rw [insertAll_rows,foldl_offer,empty_apply,Option.none_or,rows,List.find?_map,List.find?_filter,firstStored]
  congr 1
  apply congrArg (fun accepts => writes.find? accepts)
  funext write
  simp [GenerationWrite.row]

theorem firstStored_none (writes : List (Nat × GenerationWrite)) (id : String) :
    firstStored writes id = none ↔ ∀ write ∈ writes, write.2.id = id → ¬ write.2.Storable := by
  rw [firstStored,List.find?_eq_none]
  simp only [decide_eq_true_eq,not_and]
  exact ⟨fun refused write member named storable => refused write member storable named,
    fun refused write member storable named => refused write member named storable⟩

theorem firstStored_some (writes : List (Nat × GenerationWrite)) (id : String) (write : Nat × GenerationWrite) :
    firstStored writes id = some write ↔ (write.2.Storable ∧ write.2.id = id) ∧
      ∃ before after, writes = before ++ write :: after ∧ firstStored before id = none := by
  rw [firstStored,List.find?_eq_some_iff_append]
  simp only [firstStored,List.find?_eq_none,decide_eq_true_eq,Bool.not_eq_true',decide_eq_false_iff_not]

end Ledger

/-- The inserts of a profile. -/
def ownWrites (profile : RoutingProfile) (writes : List (Nat × GenerationWrite)) : List (Nat × GenerationWrite) :=
  writes.filter (fun write => decide (write.2.routingProfile = profile))

/-- The id belongs to the profile: it made the first insert of it that the columns admit, or
none of its own inserts of it is one. -/
def Owns (writes : List (Nat × GenerationWrite)) (profile : RoutingProfile) (id : String) : Prop :=
  (∃ write, Ledger.firstStored writes id = some write ∧ write.2.routingProfile = profile) ∨
    ∀ write ∈ ownWrites profile writes, write.2.id = id → ¬ write.2.Storable

/-- The generation that was written, at its cost. -/
structure Describes (generation : Generation) (write : GenerationWrite) : Prop where
  id : generation.id = write.id
  canonicalSlug : generation.canonicalSlug = write.canonicalSlug
  providerId : generation.providerId = write.providerId
  promptTokens : generation.promptTokens = some write.promptTokens
  completionTokens : generation.completionTokens = some write.completionTokens
  latencyMs : generation.latencyMs = write.latencyMs
  reported : ∃ cost, generation.reportedCostUsd = some cost ∧ cost.value = write.costUsd.value

namespace Ledger

/-- The columns of a row that a lookup selects. -/
def selected (write : Nat × GenerationWrite) : Generation where
  id := write.2.id
  createdAt := write.1
  canonicalSlug := write.2.canonicalSlug
  providerId := write.2.providerId
  promptTokens := some write.2.promptTokens
  completionTokens := some write.2.completionTokens
  reportedCostUsd := some (numericColumn write.2.costUsd)
  providerCostUsd := some (numericColumn write.2.costUsd)
  latencyMs := write.2.latencyMs

/-- A lookup finds the first stored insert of the id, if the profile made it. -/
theorem fetch_insertAll (writes : List (Nat × GenerationWrite)) (id : String) (profile : RoutingProfile)
    (text : isText id = true) : fetch (insertAll empty writes) id profile =
      .ok (((firstStored writes id).filter (fun write => decide (write.2.routingProfile = profile))).map selected) := by
  rw [fetch,if_neg (by simp [text]),insertAll_apply]
  cases firstStored writes id with
  | none => rfl
  | some write =>
    simp only [Option.map_some,Option.bind_some,GenerationWrite.row,RoutingProfile.asStr_inj,Option.filter_some,
      decide_eq_true_eq]
    split
    · rfl
    · rfl

theorem fetch_isolated_iff (writes : List (Nat × GenerationWrite)) (id : String) (profile : RoutingProfile) :
    fetch (insertAll empty writes) id profile = fetch (insertAll empty (ownWrites profile writes)) id profile ↔
      Owns writes profile id := by
  by_cases text : isText id = true
  · have own (write : Nat × GenerationWrite) (found : firstStored (ownWrites profile writes) id = some write) :
        write.2.routingProfile = profile := by
      have member := List.mem_of_find?_eq_some found
      exact of_decide_eq_true (List.mem_filter.mp member).2
    rw [fetch_insertAll writes id profile text,fetch_insertAll _ id profile text,Owns,← firstStored_none]
    cases first : firstStored writes id with
    | none =>
      have none : firstStored (ownWrites profile writes) id = none :=
        (firstStored_none _ id).mpr fun write member =>
          (firstStored_none writes id).mp first write (List.mem_filter.mp member).1
      simp [none]
    | some write =>
      obtain ⟨stored,before,after,rfl,earlier⟩ := (firstStored_some writes id write).mp first
      by_cases same : write.2.routingProfile = profile
      · have still : firstStored (ownWrites profile (before ++ write :: after)) id = some write := by
          apply (firstStored_some _ id write).mpr
          refine ⟨stored,ownWrites profile before,ownWrites profile after,by simp [ownWrites,same],?_⟩
          exact (firstStored_none _ id).mpr fun other member =>
            (firstStored_none before id).mp earlier other (List.mem_filter.mp member).1
        simp [still,same]
      · cases found : firstStored (ownWrites profile (before ++ write :: after)) id with
        | none => simp [same]
        | some other => simp [Option.filter_some,same,own other found]
  · apply iff_of_true
    · rw [fetch,fetch,if_pos text,if_pos text]
    · refine .inr fun write _ named storable => text ?_
      exact named ▸ storable.texts _ (by simp)

theorem firstStored_append (before after : List (Nat × GenerationWrite)) (id : String) :
    firstStored (before ++ after) id = (firstStored before id).or (firstStored after id) :=
  List.find?_append

/-- What a stored insert shows is itself storable, and its cost is one that the column keeps. -/
theorem describes_storable (write : Nat × GenerationWrite) (stored : write.2.Storable) (generation : GenerationWrite)
    (describes : Describes (selected write) generation) :
    generation.Storable ∧ Decimal.AtPlaces costScale generation.costUsd.value := by
  obtain ⟨cost,reported,value⟩ := describes.reported
  cases reported
  rw [numericColumn_value] at value
  have places := Decimal.atPlaces_roundAway costScale write.2.costUsd.value stored.nonnegative
  rw [value] at places
  have id : write.2.id = generation.id := describes.id
  have slug : write.2.canonicalSlug = generation.canonicalSlug := describes.canonicalSlug
  have provider : write.2.providerId = generation.providerId := describes.providerId
  refine ⟨⟨?_,?_,?_⟩,places⟩
  · rw [← id,← slug,← provider]
    exact stored.texts
  · rw [places.rounded,← value]
    exact stored.nonnegative
  · rw [places.rounded,← value]
    exact stored.below

/-- A first insert of an id for its profile is what lookups find from then on, exactly when the
columns admit it and keep its cost, and no other profile has stored the id before. -/
theorem fetch_first_iff (before after : List (Nat × GenerationWrite)) (now : Nat) (generation : GenerationWrite)
    (first : ∀ write ∈ ownWrites generation.routingProfile before, write.2.id ≠ generation.id) :
    (∃ found, fetch (insertAll empty (before ++ (now,generation) :: after)) generation.id
        generation.routingProfile = .ok (some found) ∧ Describes found generation) ↔
      generation.Storable ∧ Decimal.AtPlaces costScale generation.costUsd.value ∧
        ∀ write ∈ before, write.2.id = generation.id → ¬ write.2.Storable := by
  rw [← firstStored_none]
  constructor
  · rintro ⟨found,fetched,describes⟩
    by_cases text : isText generation.id = true
    · rw [fetch_insertAll _ _ _ text] at fetched
      obtain ⟨write,kept,rfl⟩ := Option.map_eq_some_iff.mp (Except.ok.inj fetched)
      obtain ⟨earliest,same⟩ := Option.filter_eq_some_iff.mp kept
      obtain ⟨⟨stored,named⟩,_⟩ := (firstStored_some _ _ write).mp earliest
      obtain ⟨storable,places⟩ := describes_storable write stored generation describes
      refine ⟨storable,places,?_⟩
      rw [firstStored_append] at earliest
      cases claimed : firstStored before generation.id with
      | none => rfl
      | some other =>
        -- The earlier insert is the one that is found, so it is the profile's.
        rw [claimed] at earliest
        cases earliest
        exact absurd named (first write (List.mem_filter.mpr ⟨List.mem_of_find?_eq_some claimed,same⟩))
    · rw [fetch,if_pos text] at fetched
      cases fetched
  · rintro ⟨storable,places,unclaimed⟩
    have earliest : firstStored (before ++ (now,generation) :: after) generation.id = some (now,generation) :=
      (firstStored_some _ _ _).mpr ⟨⟨storable,rfl⟩,before,after,rfl,unclaimed⟩
    rw [fetch_insertAll _ _ _ (storable.texts _ (by simp)),earliest]
    refine ⟨selected (now,generation),by simp [Option.filter_some],rfl,rfl,rfl,rfl,rfl,rfl,_,rfl,?_⟩
    rw [numericColumn_value,places.rounded]

end Ledger

/-- What a profile looks up depends on its own inserts only, and its first insert of an id is
found at its cost. -/
structure ProfileScoped (writes : List (Nat × GenerationWrite)) (profile : RoutingProfile) : Prop where
  isolated : ∀ id, Ledger.fetch (Ledger.insertAll empty writes) id profile =
    Ledger.fetch (Ledger.insertAll empty (ownWrites profile writes)) id profile
  returned : ∀ before now generation after, writes = before ++ (now,generation) :: after →
    generation.routingProfile = profile → (∀ write ∈ ownWrites profile before, write.2.id ≠ generation.id) →
    ∃ found, Ledger.fetch (Ledger.insertAll empty writes) generation.id profile = .ok (some found) ∧
      Describes found generation

/-- Lookups of a profile are its own exactly where every id it writes is written first by
itself, with values that the columns keep. -/
theorem profile_scoped_iff (writes : List (Nat × GenerationWrite)) (profile : RoutingProfile) :
    (∀ id, Ledger.fetch (Ledger.insertAll empty writes) id profile =
        Ledger.fetch (Ledger.insertAll empty (ownWrites profile writes)) id profile ↔ Owns writes profile id) ∧
    (ProfileScoped writes profile ↔
      ∀ before now generation after, writes = before ++ (now,generation) :: after →
        generation.routingProfile = profile → (∀ write ∈ ownWrites profile before, write.2.id ≠ generation.id) →
        generation.Storable ∧ Decimal.AtPlaces costScale generation.costUsd.value ∧
          ∀ write ∈ before, write.2.id = generation.id → ¬ write.2.Storable) := by
  refine ⟨fun id => Ledger.fetch_isolated_iff writes id profile,?_⟩
  constructor
  · rintro separate before now generation after rfl rfl first
    exact (Ledger.fetch_first_iff before after now generation first).mp
      (separate.returned before now generation after rfl rfl first)
  · intro kept
    refine ⟨fun id => (Ledger.fetch_isolated_iff writes id profile).mpr ?_,?_⟩
    · cases claimed : writes.find? (fun write => decide (write.2.routingProfile = profile ∧ write.2.id = id)) with
      | none =>
        refine .inr fun write member named => ?_
        obtain ⟨present,own⟩ := List.mem_filter.mp member
        exact absurd (decide_eq_true ⟨of_decide_eq_true own,named⟩) (List.find?_eq_none.mp claimed write present)
      | some write =>
        obtain ⟨accepted,before,after,rfl,earlier⟩ := List.find?_eq_some_iff_append.mp claimed
        obtain ⟨own,rfl⟩ := of_decide_eq_true accepted
        obtain ⟨storable,_,unclaimed⟩ := kept before write.1 write.2 after rfl own (fun other member named => by
          obtain ⟨present,same⟩ := List.mem_filter.mp member
          simpa [of_decide_eq_true same,named] using earlier other present)
        refine .inl ⟨write,(Ledger.firstStored_some _ _ write).mpr ⟨⟨storable,rfl⟩,before,after,rfl,?_⟩,own⟩
        exact (Ledger.firstStored_none before _).mpr unclaimed
    · rintro before now generation after rfl rfl first
      exact (Ledger.fetch_first_iff before after now generation first).mpr
        (kept before now generation after rfl rfl first)

section Sample

def sampleWrite (profile : RoutingProfile) (id : String) : GenerationWrite :=
  ⟨id,profile,"vendor/model","alpha",12,5,⟨false,150000,10,by decide,by decide⟩,321,200⟩

/-- Providers of both profiles answer with the same response id. -/
def sharedId : List (Nat × GenerationWrite) :=
  [(1,sampleWrite .beta "chatcmpl-1"),(2,sampleWrite .production "chatcmpl-1")]

def ownIds : List (Nat × GenerationWrite) :=
  [(1,sampleWrite .beta "chatcmpl-1"),(2,sampleWrite .production "chatcmpl-2")]

end Sample

theorem profile_scoped_sample : Owns ownIds .production "chatcmpl-2" ∧
    Ledger.fetch (Ledger.insertAll empty ownIds) "chatcmpl-2" .production =
      Ledger.fetch (Ledger.insertAll empty (ownWrites .production ownIds)) "chatcmpl-2" .production := by
  have owned : Owns ownIds .production "chatcmpl-2" :=
    .inl ⟨(2,sampleWrite .production "chatcmpl-2"),(Ledger.firstStored_some _ _ _).mpr ⟨by decide +kernel,
      [(1,sampleWrite .beta "chatcmpl-1")],[],rfl,(Ledger.firstStored_none _ _).mpr (by decide +kernel)⟩,rfl⟩
  exact ⟨owned,((profile_scoped_iff ownIds .production).1 "chatcmpl-2").mpr owned⟩

theorem shared_id_hidden :
    Ledger.fetch (Ledger.insertAll empty sharedId) "chatcmpl-1" .production = .ok none ∧
    (∃ found, Ledger.fetch (Ledger.insertAll empty (ownWrites .production sharedId)) "chatcmpl-1" .production =
      .ok (some found)) ∧
    ¬ ProfileScoped sharedId .production := by
  have hidden : Ledger.fetch (Ledger.insertAll empty sharedId) "chatcmpl-1" .production = .ok none :=
    (toOption_some _ _).mp (by decide +kernel)
  have shown : Ledger.fetch (Ledger.insertAll empty (ownWrites .production sharedId)) "chatcmpl-1" .production =
      .ok (some (Ledger.selected (2,sampleWrite .production "chatcmpl-1"))) :=
    (toOption_some _ _).mp (by decide +kernel)
  refine ⟨hidden,⟨_,shown⟩,fun separate => ?_⟩
  have same := separate.isolated "chatcmpl-1"
  rw [hidden,shown] at same
  cases same

end SerenRouter
