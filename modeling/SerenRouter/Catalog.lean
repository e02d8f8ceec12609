import SerenRouter.Registry
import SerenRouter.Kernel.Gather
import SerenRouter.Kernel.DecimalArithmetic
import Mathlib.Data.List.Sort

/-! The model and endpoint catalogs that a profile's snapshot holds. One loop over the
mappings keeps the cheapest mapping of every slug and gathers all of them. -/
namespace SerenRouter
open Kernel
open Kernel.SortedMap (get insert push)

namespace Provider

def supports (provider : Provider) (profile : RoutingProfile) : Bool := decide (profile ∈ provider.profiles)

def catalogDisplayName (provider : Provider) : String :=
  match provider.publicDisplayName, provider.publicTag with
  | some displayName, some _ => displayName
  | _, _ => provider.displayName

def catalogTag (provider : Provider) : String :=
  match provider.publicDisplayName, provider.publicTag with
  | some _, some tag => tag
  | _, _ => provider.id

end Provider

structure CatalogPricing where
  prompt : String
  completion : String

structure CatalogModel where
  id : String
  name : String
  contextLength : Nat
  pricing : CatalogPricing

structure ModelsLinks where
  next : Option String

structure ModelsResponse where
  data : List CatalogModel
  links : ModelsLinks
  totalCount : Nat

structure CatalogEndpoint where
  name : String
  modelId : String
  modelName : String
  contextLength : Nat
  pricing : CatalogPricing
  providerName : String
  tag : String

structure ModelEndpoints where
  id : String
  name : String
  endpoints : List CatalogEndpoint

structure ModelEndpointsResponse where
  data : ModelEndpoints

structure ErrorDetail where
  code : Nat
  message : String

structure CatalogCandidate where
  providerId : String
  mapping : ModelMapping

structure EndpointCandidate where
  provider : Provider
  mapping : ModelMapping

section Build
variable (arithmetic : Decimal.Arithmetic)

def perTokenPrice (pricePerMtok : Decimal) : Except Panic String := do
  return (← orOverflow (arithmetic.div pricePerMtok Decimal.million) "/").normalize.toText

def catalogPricing (mapping : ModelMapping) : Except Panic CatalogPricing := do
  let prompt ← perTokenPrice arithmetic mapping.inputPricePerMtok
  let completion ← perTokenPrice arithmetic mapping.outputPricePerMtok
  return ⟨prompt,completion⟩

namespace CatalogCandidate

def priceKey (candidate : CatalogCandidate) : Except Panic (Decimal × Decimal × Decimal × String) := do
  let sum ← orOverflow
    (arithmetic.add candidate.mapping.inputPricePerMtok candidate.mapping.outputPricePerMtok) "+"
  return (sum,candidate.mapping.inputPricePerMtok,candidate.mapping.outputPricePerMtok,candidate.providerId)

/-- The order of price keys: the components in turn. -/
def compareKeys (left right : Decimal × Decimal × Decimal × String) : Ordering :=
  (left.1.cmp right.1).then ((left.2.1.cmp right.2.1).then
    ((left.2.2.1.cmp right.2.2.1).then (compare left.2.2.2 right.2.2.2)))

def isCheaperThan (candidate current : CatalogCandidate) : Except Panic Bool := do
  let key ← candidate.priceKey arithmetic
  let currentKey ← current.priceKey arithmetic
  return (compareKeys key currentKey).isLT

def intoModel (candidate : CatalogCandidate) : Except Panic CatalogModel := do
  return ⟨candidate.mapping.slug,candidate.mapping.name,candidate.mapping.contextLength,
    ← catalogPricing arithmetic candidate.mapping⟩

end CatalogCandidate

namespace EndpointCandidate

/-- By priority, then by provider id, then by the provider's own model id. -/
def precedes (left right : EndpointCandidate) : Bool :=
  ((compare left.provider.priority right.provider.priority).then ((compare left.provider.id right.provider.id).then
    (compare left.mapping.providerModelId right.mapping.providerModelId))).isLE

def intoEndpoint (candidate : EndpointCandidate) : Except Panic CatalogEndpoint := do
  return {
    name := candidate.provider.catalogDisplayName ++ ": " ++ candidate.mapping.name
    modelId := candidate.mapping.slug
    modelName := candidate.mapping.name
    contextLength := candidate.mapping.contextLength
    pricing := ← catalogPricing arithmetic candidate.mapping
    providerName := candidate.provider.catalogDisplayName
    tag := candidate.provider.catalogTag }

end EndpointCandidate

/-- What the loop over the mappings builds up. -/
structure CatalogIndexes where
  cheapestBySlug : List (String × CatalogCandidate)
  endpointsBySlug : List (String × List EndpointCandidate)

def addCheapest (cheapestBySlug : List (String × CatalogCandidate)) (candidate : CatalogCandidate) :
    Except Panic (List (String × CatalogCandidate)) :=
  match get candidate.mapping.slug cheapestBySlug with
  | none => .ok (insert candidate.mapping.slug candidate cheapestBySlug)
  | some current => do
    if ← candidate.isCheaperThan arithmetic current then
      return insert candidate.mapping.slug candidate cheapestBySlug
    else return cheapestBySlug

def addCandidate (indexes : CatalogIndexes) (candidate : EndpointCandidate) : Except Panic CatalogIndexes := do
  let cheapestBySlug ← addCheapest arithmetic indexes.cheapestBySlug ⟨candidate.provider.id,candidate.mapping⟩
  return ⟨cheapestBySlug,push candidate.mapping.slug candidate indexes.endpointsBySlug⟩

/-- The mappings of the enabled providers of a profile, in registry order. -/
def endpointCandidates (registry : Registry) (profile : RoutingProfile) : List EndpointCandidate :=
  (registry.providers.filter (fun provider => provider.enabled && provider.supports profile)).flatMap
    (fun provider => provider.models.map (fun mapping => ⟨provider,mapping⟩))

theorem mem_endpointCandidates (registry : Registry) (profile : RoutingProfile) (candidate : EndpointCandidate) :
    candidate ∈ endpointCandidates registry profile ↔ candidate.provider ∈ registry.providers ∧
      (candidate.provider.enabled && candidate.provider.supports profile) = true ∧
      candidate.mapping ∈ candidate.provider.models := by
  obtain ⟨provider,mapping⟩ := candidate
  simp only [endpointCandidates,List.mem_flatMap,List.mem_filter,List.mem_map,EndpointCandidate.mk.injEq]
  constructor
  · rintro ⟨_,⟨known,accepted⟩,_,maps,rfl,rfl⟩
    exact ⟨known,accepted,maps⟩
  · rintro ⟨known,accepted,maps⟩
    exact ⟨provider,⟨known,accepted⟩,mapping,maps,rfl,rfl⟩

def slugEndpoints (cheapestBySlug : List (String × CatalogCandidate)) (entry : String × List EndpointCandidate) :
    Except Panic (String × ModelEndpointsResponse) := do
  let candidates := entry.2.insertionSort (fun left right => left.precedes right)
  let selected ← expect (get entry.1 cheapestBySlug) "every endpoint slug has a catalog candidate"
  let endpoints ← candidates.mapM (EndpointCandidate.intoEndpoint arithmetic)
  return (entry.1,⟨⟨entry.1,selected.mapping.name,endpoints⟩⟩)

structure CatalogSnapshot where
  response : ModelsResponse
  endpointsBySlug : List (String × ModelEndpointsResponse)

namespace CatalogSnapshot

def fromRegistry (registry : Registry) (profile : RoutingProfile) : Except Panic CatalogSnapshot := do
  let indexes ← (endpointCandidates registry profile).foldlM (addCandidate arithmetic) ⟨[],[]⟩
  let data ← indexes.cheapestBySlug.mapM (fun entry => entry.2.intoModel arithmetic)
  let endpointsBySlug ← indexes.endpointsBySlug.mapM (slugEndpoints arithmetic indexes.cheapestBySlug)
  return ⟨⟨data,⟨none⟩,data.length⟩,endpointsBySlug⟩

/-- The endpoints of a slug, or the body of a response with status 404. -/
def endpointResponse (snapshot : CatalogSnapshot) (slug : String) : Except ErrorDetail ModelEndpointsResponse :=
  match get slug snapshot.endpointsBySlug with
  | some response => .ok response
  | none => .error ⟨404,"Not Found"⟩

end CatalogSnapshot

structure Catalog where
  snapshots : List (RoutingProfile × CatalogSnapshot)

namespace Catalog

def fromRegistry (registry : Registry) : Except Panic Catalog := do
  let snapshots ← RoutingProfile.all.mapM (fun profile => do
    return (profile,← CatalogSnapshot.fromRegistry arithmetic registry profile))
  return ⟨SortedMap.ofList snapshots⟩

def snapshot (catalog : Catalog) (profile : RoutingProfile) : Except Panic CatalogSnapshot :=
  expect (get profile catalog.snapshots) "every routing profile has a catalog snapshot"

def endpointResponse (catalog : Catalog) (profile : RoutingProfile) (slug : String) :
    Except Panic (Except ErrorDetail ModelEndpointsResponse) := do
  return (← catalog.snapshot profile).endpointResponse slug

end Catalog

/-- What the loop knows of the cheapest mappings after some candidates. -/
structure CheapestOf (listed : List EndpointCandidate) (cheapestBySlug : List (String × CatalogCandidate)) : Prop where
  sorted : SortedMap.Sorted cheapestBySlug
  found : ∀ slug cheapest, get slug cheapestBySlug = some cheapest →
    ∃ candidate ∈ listed, candidate.mapping.slug = slug ∧ cheapest = ⟨candidate.provider.id,candidate.mapping⟩
  kept : ∀ candidate ∈ listed, ∃ cheapest, get candidate.mapping.slug cheapestBySlug = some cheapest

def Summed (mapping : ModelMapping) : Prop :=
  ∃ sum, arithmetic.add mapping.inputPricePerMtok mapping.outputPricePerMtok = some sum

theorem priceKey_total (candidate : CatalogCandidate) (summed : Summed arithmetic candidate.mapping) :
    ∃ key, candidate.priceKey arithmetic = .ok key := by
  obtain ⟨sum,added⟩ := summed
  exact ⟨_,by rw [CatalogCandidate.priceKey,added,orOverflow_some,ok_bind]; rfl⟩

theorem addCheapest_success (cheapestBySlug next : List (String × CatalogCandidate)) (candidate : CatalogCandidate)
    (added : addCheapest arithmetic cheapestBySlug candidate = .ok next) :
    next = insert candidate.mapping.slug candidate cheapestBySlug ∨
      next = cheapestBySlug ∧ (get candidate.mapping.slug cheapestBySlug).isSome = true := by
  unfold addCheapest at added
  split at added
  · cases added
    exact .inl rfl
  · rename_i current found
    rw [bind_success] at added
    obtain ⟨cheaper,_,added⟩ := added
    split at added
    · cases added
      exact .inl rfl
    · cases added
      exact .inr ⟨rfl,by rw [found]; rfl⟩

theorem CheapestOf.add (listed : List EndpointCandidate) (cheapestBySlug next : List (String × CatalogCandidate))
    (candidate : EndpointCandidate) (holds : CheapestOf listed cheapestBySlug)
    (added : addCheapest arithmetic cheapestBySlug ⟨candidate.provider.id,candidate.mapping⟩ = .ok next) :
    CheapestOf (listed ++ [candidate]) next := by
  rcases addCheapest_success arithmetic _ _ _ added with rfl | ⟨rfl,known⟩
  · refine ⟨SortedMap.insert_sorted _ _ _ holds.sorted,?_,?_⟩
    · intro slug cheapest found
      rw [SortedMap.get_insert] at found
      split at found
      · rename_i same
        cases found
        exact ⟨candidate,by simp,same.symm,rfl⟩
      · obtain ⟨other,member,slugged,equal⟩ := holds.found slug cheapest found
        exact ⟨other,by simp [member],slugged,equal⟩
    · intro other member
      rw [SortedMap.get_insert]
      split
      · exact ⟨_,rfl⟩
      · rename_i different
        rcases List.mem_append.mp member with old | new
        · exact holds.kept other old
        · exact absurd (by rw [List.mem_singleton.mp new]) different
  · refine ⟨holds.sorted,?_,?_⟩
    · intro slug cheapest found
      obtain ⟨other,member,slugged,equal⟩ := holds.found slug cheapest found
      exact ⟨other,by simp [member],slugged,equal⟩
    · intro other member
      rcases List.mem_append.mp member with old | new
      · exact holds.kept other old
      · rw [List.mem_singleton.mp new]
        exact Option.isSome_iff_exists.mp known

theorem addCheapest_total (listed : List EndpointCandidate) (cheapestBySlug : List (String × CatalogCandidate))
    (candidate : CatalogCandidate) (holds : CheapestOf listed cheapestBySlug)
    (summed : ∀ other ∈ listed, Summed arithmetic other.mapping) (own : Summed arithmetic candidate.mapping) :
    ∃ next, addCheapest arithmetic cheapestBySlug candidate = .ok next := by
  unfold addCheapest
  split
  · exact ⟨_,rfl⟩
  · rename_i current found
    obtain ⟨other,member,_,equal⟩ := holds.found _ current found
    obtain ⟨key,computed⟩ := priceKey_total arithmetic candidate own
    obtain ⟨currentKey,currentComputed⟩ := priceKey_total arithmetic current (by rw [equal]; exact summed other member)
    have compared : candidate.isCheaperThan arithmetic current =
        .ok (CatalogCandidate.compareKeys key currentKey).isLT := by
      rw [CatalogCandidate.isCheaperThan,computed,ok_bind,currentComputed,ok_bind]
      rfl
    rw [compared,ok_bind]
    split <;> exact ⟨_,rfl⟩

/-- The loop keeps a cheapest mapping of every slug and gathers all candidates by slug. -/
theorem addCandidates_success (candidates listed : List EndpointCandidate) (before after : CatalogIndexes)
    (holds : CheapestOf listed before.cheapestBySlug)
    (ran : candidates.foldlM (addCandidate arithmetic) before = .ok after) :
    CheapestOf (listed ++ candidates) after.cheapestBySlug ∧ after.endpointsBySlug =
      (candidates.map (fun candidate => (candidate.mapping.slug,candidate))).foldl
        (fun entries pair => push pair.1 pair.2 entries) before.endpointsBySlug := by
  induction candidates generalizing listed before with
  | nil =>
    cases ran
    simpa using holds
  | cons candidate candidates ih =>
    rw [List.foldlM_cons,bind_success] at ran
    obtain ⟨middle,first,ran⟩ := ran
    rw [addCandidate,bind_success] at first
    obtain ⟨next,added,equal⟩ := first
    cases equal
    obtain ⟨cheapest,gathered⟩ := ih (listed ++ [candidate]) ⟨next,_⟩
      (holds.add arithmetic listed before.cheapestBySlug next candidate added) ran
    rw [List.append_assoc,List.singleton_append] at cheapest
    exact ⟨cheapest,gathered⟩

theorem addCandidates_total (candidates listed : List EndpointCandidate) (before : CatalogIndexes)
    (holds : CheapestOf listed before.cheapestBySlug)
    (summed : ∀ candidate ∈ listed ++ candidates, Summed arithmetic candidate.mapping) :
    ∃ after, candidates.foldlM (addCandidate arithmetic) before = .ok after := by
  induction candidates generalizing listed before with
  | nil => exact ⟨before,rfl⟩
  | cons candidate candidates ih =>
    obtain ⟨next,added⟩ := addCheapest_total arithmetic listed before.cheapestBySlug ⟨candidate.provider.id,candidate.mapping⟩
      holds (fun other member => summed other (by simp [member])) (summed candidate (by simp))
    obtain ⟨after,ran⟩ := ih (listed ++ [candidate]) ⟨next,push candidate.mapping.slug candidate before.endpointsBySlug⟩
      (holds.add arithmetic listed before.cheapestBySlug next candidate added)
      (by simpa using summed)
    refine ⟨after,?_⟩
    rw [List.foldlM_cons,addCandidate,added,ok_bind,pure_bind]
    exact ran

theorem cheapestOf_nil : CheapestOf [] [] := ⟨SortedMap.sorted_nil,by simp,by simp⟩

theorem catalogPricing_total (divides : arithmetic.Divides) (mapping : ModelMapping) :
    ∃ pricing, catalogPricing arithmetic mapping = .ok pricing := by
  have large : Decimal.one ≤ Decimal.million := by decide +kernel
  have priced (price : Decimal) : ∃ text, perTokenPrice arithmetic price = .ok text := by
    obtain ⟨quotient,divided⟩ := divides price Decimal.million large
    exact ⟨_,by rw [perTokenPrice,divided,orOverflow_some,ok_bind]; rfl⟩
  obtain ⟨prompt,first⟩ := priced mapping.inputPricePerMtok
  obtain ⟨completion,second⟩ := priced mapping.outputPricePerMtok
  exact ⟨⟨prompt,completion⟩,by rw [catalogPricing,first,ok_bind,second,ok_bind]; rfl⟩

def slugCandidates (registry : Registry) (profile : RoutingProfile) (slug : String) : List EndpointCandidate :=
  (endpointCandidates registry profile).filter (fun candidate => candidate.mapping.slug = slug)

theorem valuesOf_candidates (slug : String) (candidates : List EndpointCandidate) :
    SortedMap.valuesOf slug (candidates.map (fun candidate => (candidate.mapping.slug,candidate))) =
      candidates.filter (fun candidate => candidate.mapping.slug = slug) := by
  rw [SortedMap.valuesOf,List.filter_map,List.map_map]
  exact List.map_id _

theorem slugEndpoints_key (cheapestBySlug : List (String × CatalogCandidate)) (entry : String × List EndpointCandidate)
    (result : String × ModelEndpointsResponse)
    (computed : slugEndpoints arithmetic cheapestBySlug entry = .ok result) : result.1 = entry.1 := by
  simp only [slugEndpoints,bind_success,pure_success] at computed
  obtain ⟨_,_,_,_,rfl⟩ := computed
  rfl

theorem endpoints_read (cheapestBySlug : List (String × CatalogCandidate))
    (endpointsBySlug : List (String × List EndpointCandidate)) (results : List (String × ModelEndpointsResponse))
    (candidates : List EndpointCandidate) (slug : String)
    (mapped : endpointsBySlug.mapM (slugEndpoints arithmetic cheapestBySlug) = .ok results)
    (gathered : get slug endpointsBySlug = SortedMap.present candidates) (response : ModelEndpointsResponse) :
    get slug results = some response ↔ candidates ≠ [] ∧
      slugEndpoints arithmetic cheapestBySlug (slug,candidates) = .ok (slug,response) := by
  rw [SortedMap.get_mapM _ (slugEndpoints_key arithmetic _) _ _ mapped,gathered]
  simp only [SortedMap.present_some]
  constructor
  · rintro ⟨_,⟨nonempty,rfl⟩,computed⟩
    exact ⟨nonempty,computed⟩
  · rintro ⟨nonempty,computed⟩
    exact ⟨candidates,⟨nonempty,rfl⟩,computed⟩

section Snapshot
variable (registry : Registry) (profile : RoutingProfile)

theorem indexes_success (indexes : CatalogIndexes)
    (ran : (endpointCandidates registry profile).foldlM (addCandidate arithmetic) ⟨[],[]⟩ = .ok indexes) :
    CheapestOf (endpointCandidates registry profile) indexes.cheapestBySlug ∧
      SortedMap.Sorted indexes.endpointsBySlug ∧
      ∀ slug, get slug indexes.endpointsBySlug = SortedMap.present (slugCandidates registry profile slug) := by
  obtain ⟨cheapest,gathered⟩ := addCandidates_success arithmetic _ [] ⟨[],[]⟩ indexes cheapestOf_nil ran
  have equal : indexes.endpointsBySlug = SortedMap.gather ((endpointCandidates registry profile).map (fun candidate =>
      (candidate.mapping.slug,candidate))) := gathered
  refine ⟨cheapest,?_,fun slug => ?_⟩
  · rw [equal]
    exact SortedMap.gather_sorted _
  · rw [equal,SortedMap.get_gather,valuesOf_candidates]
    rfl

theorem snapshot_total (divides : arithmetic.Divides)
    (summed : ∀ candidate ∈ endpointCandidates registry profile, Summed arithmetic candidate.mapping) :
    ∃ snapshot, CatalogSnapshot.fromRegistry arithmetic registry profile = .ok snapshot := by
  obtain ⟨indexes,ran⟩ := addCandidates_total arithmetic (endpointCandidates registry profile) [] ⟨[],[]⟩ cheapestOf_nil
    (by simpa using summed)
  obtain ⟨cheapest,sorted,gathered⟩ := indexes_success arithmetic registry profile indexes ran
  obtain ⟨data,listed⟩ := mapM_total (fun entry : String × CatalogCandidate => entry.2.intoModel arithmetic)
    indexes.cheapestBySlug (fun entry _ => by
      obtain ⟨pricing,priced⟩ := catalogPricing_total arithmetic divides entry.2.mapping
      exact ⟨_,by rw [CatalogCandidate.intoModel,priced,ok_bind]; rfl⟩)
  obtain ⟨endpoints,mapped⟩ := mapM_total (slugEndpoints arithmetic indexes.cheapestBySlug) indexes.endpointsBySlug
    (fun entry member => by
      obtain ⟨slug,candidates⟩ := entry
      have found := SortedMap.mem_get slug candidates _ sorted member
      rw [gathered,SortedMap.present_some] at found
      obtain ⟨nonempty,equal⟩ := found
      obtain ⟨first,rest,split⟩ := List.exists_cons_of_ne_nil nonempty
      have inside : first ∈ slugCandidates registry profile slug := by simp [split]
      obtain ⟨present,same⟩ := List.mem_filter.mp inside
      obtain ⟨selected,chosen⟩ := cheapest.kept first present
      rw [of_decide_eq_true same] at chosen
      obtain ⟨results,converted⟩ := mapM_total (EndpointCandidate.intoEndpoint arithmetic)
        (candidates.insertionSort (fun left right => left.precedes right)) (fun candidate _ => by
          obtain ⟨pricing,priced⟩ := catalogPricing_total arithmetic divides candidate.mapping
          exact ⟨_,by rw [EndpointCandidate.intoEndpoint,priced,ok_bind]; rfl⟩)
      exact ⟨_,by rw [slugEndpoints]; simp only [chosen,expect_some,ok_bind,converted]; rfl⟩)
  exact ⟨_,by rw [CatalogSnapshot.fromRegistry,ran,ok_bind,listed,ok_bind,mapped,ok_bind]; rfl⟩

theorem slugEndpoints_success (cheapestBySlug : List (String × CatalogCandidate)) (slug : String)
    (candidates : List EndpointCandidate) (result : String × ModelEndpointsResponse) :
    slugEndpoints arithmetic cheapestBySlug (slug,candidates) = .ok result ↔
      ∃ selected, get slug cheapestBySlug = some selected ∧ ∃ endpoints,
        (candidates.insertionSort (fun left right => left.precedes right)).mapM
          (EndpointCandidate.intoEndpoint arithmetic) = .ok endpoints ∧
        (slug,⟨⟨slug,selected.mapping.name,endpoints⟩⟩) = result := by
  simp only [slugEndpoints,bind_success,expect_success,pure_success]

variable (snapshot : CatalogSnapshot) (built : CatalogSnapshot.fromRegistry arithmetic registry profile = .ok snapshot)
include built

theorem snapshot_success : ∃ indexes data, (endpointCandidates registry profile).foldlM (addCandidate arithmetic)
      ⟨[],[]⟩ = .ok indexes ∧
    indexes.cheapestBySlug.mapM (fun entry => entry.2.intoModel arithmetic) = .ok data ∧
    indexes.endpointsBySlug.mapM (slugEndpoints arithmetic indexes.cheapestBySlug) = .ok snapshot.endpointsBySlug ∧
    snapshot.response = ⟨data,⟨none⟩,data.length⟩ := by
  rw [CatalogSnapshot.fromRegistry,bind_success] at built
  obtain ⟨indexes,ran,built⟩ := built
  rw [bind_success] at built
  obtain ⟨data,listed,built⟩ := built
  rw [bind_success] at built
  obtain ⟨endpoints,mapped,equal⟩ := built
  cases equal
  exact ⟨indexes,data,ran,listed,mapped,rfl⟩

theorem snapshot_endpoints (slug : String) (response : ModelEndpointsResponse)
    (found : get slug snapshot.endpointsBySlug = some response) : response.data.id = slug ∧
      ((slugCandidates registry profile slug).insertionSort (fun left right => left.precedes right)).mapM
        (EndpointCandidate.intoEndpoint arithmetic) = .ok response.data.endpoints := by
  obtain ⟨indexes,_,ran,_,mapped,_⟩ := snapshot_success arithmetic registry profile snapshot built
  obtain ⟨_,_,gathered⟩ := indexes_success arithmetic registry profile indexes ran
  obtain ⟨_,computed⟩ := (endpoints_read arithmetic _ _ _ _ slug mapped (gathered slug) response).mp found
  obtain ⟨selected,_,endpoints,converted,equal⟩ := (slugEndpoints_success arithmetic _ slug _ _).mp computed
  cases equal
  exact ⟨rfl,converted⟩

theorem snapshot_known (slug : String) :
    (get slug snapshot.endpointsBySlug).isSome = true ↔ slugCandidates registry profile slug ≠ [] := by
  obtain ⟨indexes,_,ran,_,mapped,_⟩ := snapshot_success arithmetic registry profile snapshot built
  obtain ⟨_,_,gathered⟩ := indexes_success arithmetic registry profile indexes ran
  have known := endpoints_read arithmetic _ _ _ _ slug mapped (gathered slug)
  rw [Option.isSome_iff_exists]
  constructor
  · rintro ⟨response,found⟩
    exact ((known response).mp found).1
  · intro nonempty
    have listed : get slug indexes.endpointsBySlug = some (slugCandidates registry profile slug) := by
      rw [gathered,SortedMap.present_some]
      exact ⟨nonempty,rfl⟩
    obtain ⟨result,computed⟩ := mapM_each _ _ _ mapped _ (SortedMap.get_mem slug _ _ listed)
    have key := slugEndpoints_key arithmetic _ _ _ computed
    obtain ⟨name,response⟩ := result
    cases key
    exact ⟨response,(known response).mpr ⟨nonempty,computed⟩⟩

theorem snapshot_models (slug : String) :
    (∃ model ∈ snapshot.response.data, model.id = slug) ↔ slugCandidates registry profile slug ≠ [] := by
  obtain ⟨indexes,data,ran,listed,_,response⟩ := snapshot_success arithmetic registry profile snapshot built
  obtain ⟨cheapest,_,_⟩ := indexes_success arithmetic registry profile indexes ran
  rw [response]
  constructor
  · rintro ⟨model,member,rfl⟩
    obtain ⟨⟨key,candidate⟩,present,computed⟩ := (mapM_mem _ _ _ listed model).mp member
    obtain ⟨other,inside,slugged,equal⟩ :=
      cheapest.found key candidate (SortedMap.mem_get key candidate _ cheapest.sorted present)
    rw [CatalogCandidate.intoModel,bind_success] at computed
    obtain ⟨_,_,row⟩ := computed
    cases row
    have chosen : other ∈ slugCandidates registry profile candidate.mapping.slug :=
      List.mem_filter.mpr ⟨inside,by simp [equal]⟩
    exact List.ne_nil_of_mem chosen
  · intro nonempty
    obtain ⟨first,rest,split⟩ := List.exists_cons_of_ne_nil nonempty
    have inside : first ∈ slugCandidates registry profile slug := by simp [split]
    obtain ⟨present,same⟩ := List.mem_filter.mp inside
    obtain ⟨selected,chosen⟩ := cheapest.kept first present
    rw [of_decide_eq_true same] at chosen
    have entry := SortedMap.get_mem slug selected _ chosen
    obtain ⟨row,computed⟩ := mapM_each _ _ _ listed _ entry
    refine ⟨row,(mapM_mem _ _ _ listed row).mpr ⟨_,entry,computed⟩,?_⟩
    rw [CatalogCandidate.intoModel,bind_success] at computed
    obtain ⟨_,_,equal⟩ := computed
    cases equal
    obtain ⟨other,_,slugged,candidate⟩ := cheapest.found slug selected chosen
    rw [candidate]
    exact slugged

end Snapshot

namespace Catalog

theorem fromRegistry_total (registry : Registry) (divides : arithmetic.Divides)
    (summed : ∀ provider ∈ registry.providers, provider.enabled = true →
      ∀ mapping ∈ provider.models, Summed arithmetic mapping) :
    ∃ catalog, fromRegistry arithmetic registry = .ok catalog := by
  obtain ⟨snapshots,ran⟩ := mapM_total (fun profile => do
      return (profile,← CatalogSnapshot.fromRegistry arithmetic registry profile)) RoutingProfile.all (fun profile _ => by
    obtain ⟨snapshot,built⟩ := snapshot_total arithmetic registry profile divides (by
      intro candidate member
      obtain ⟨listed,accepted,maps⟩ := (mem_endpointCandidates registry profile candidate).mp member
      exact summed candidate.provider listed (Bool.and_eq_true_iff.mp accepted).1 candidate.mapping maps)
    exact ⟨(profile,snapshot),by rw [built]; rfl⟩)
  exact ⟨⟨SortedMap.ofList snapshots⟩,by rw [fromRegistry,ran]; rfl⟩

theorem snapshot_built (registry : Registry) (catalog : Catalog) (built : fromRegistry arithmetic registry = .ok catalog)
    (profile : RoutingProfile) : ∃ snapshot, catalog.snapshot profile = .ok snapshot ∧
      CatalogSnapshot.fromRegistry arithmetic registry profile = .ok snapshot := by
  simp only [fromRegistry,RoutingProfile.all,List.mapM_cons,List.mapM_nil,bind_success,pure_success] at built
  obtain ⟨_,⟨_,⟨production,first,rfl⟩,_,⟨_,⟨beta,second,rfl⟩,_,rfl,rfl⟩,rfl⟩,rfl⟩ := built
  cases profile with
  | production => exact ⟨production,rfl,first⟩
  | beta => exact ⟨beta,rfl,second⟩

end Catalog

end Build

end SerenRouter
