import SerenRouter.Catalog
import Mathlib.Data.Prod.Lex

/-! The catalog as a function of the set of mappings: the loop keeps the least mapping of every
slug in a strict order of prices, so the order of the registry does not show. -/
namespace SerenRouter
open Kernel
open Kernel.SortedMap (get insert push)

/-- The same providers in another order, each with its models in another order. -/
def Registry.Reordered (registry other : Registry) : Prop :=
  ∃ providers, registry.providers.Perm providers ∧ List.Forall₂ (fun provider moved =>
    ∃ models, provider.models.Perm models ∧ moved = { provider with models := models }) providers other.providers

/-- Provider ids are unique, and so are the slugs of each provider. -/
structure Registry.Distinct (registry : Registry) : Prop where
  ids : (registry.providers.map Provider.id).Nodup
  slugs : ∀ provider ∈ registry.providers, (provider.models.map ModelMapping.slug).Nodup

section Rank
variable (arithmetic : Decimal.Arithmetic)

/-- Input plus output, input, output and provider id, in the order of their values. -/
def CatalogCandidate.rank (candidate : CatalogCandidate) : ℚ ×ₗ ℚ ×ₗ ℚ ×ₗ String :=
  let sum := (arithmetic.add candidate.mapping.inputPricePerMtok candidate.mapping.outputPricePerMtok).getD Decimal.zero
  toLex (sum.value,toLex (candidate.mapping.inputPricePerMtok.value,
    toLex (candidate.mapping.outputPricePerMtok.value,candidate.providerId)))

theorem cmp_then_isLT {α : Type} [LinearOrder α] (left right : Decimal) (first second : α) (rest : Ordering)
    (ordered : rest.isLT = true ↔ first < second) :
    ((left.cmp right).then rest).isLT = true ↔ toLex (left.value,first) < toLex (right.value,second) := by
  rw [Prod.Lex.toLex_lt_toLex,← ordered,Decimal.cmp]
  rcases lt_trichotomy left.value right.value with less | same | more
  · simp [compare_lt_iff_lt.mpr less,less]
  · simp [same]
  · simp [compare_gt_iff_gt.mpr more,not_lt.mpr more.le,more.ne']

theorem isCheaperThan_rank (candidate current : CatalogCandidate) (summed : Summed arithmetic candidate.mapping)
    (other : Summed arithmetic current.mapping) :
    candidate.isCheaperThan arithmetic current =
      .ok (decide (candidate.rank arithmetic < current.rank arithmetic)) := by
  obtain ⟨sum,added⟩ := summed
  obtain ⟨currentSum,currentAdded⟩ := other
  have compared (left right : Decimal × Decimal × Decimal × String) :
      (CatalogCandidate.compareKeys left right).isLT = true ↔
        toLex (left.1.value,toLex (left.2.1.value,toLex (left.2.2.1.value,left.2.2.2))) <
          toLex (right.1.value,toLex (right.2.1.value,toLex (right.2.2.1.value,right.2.2.2))) := by
    apply cmp_then_isLT
    apply cmp_then_isLT
    apply cmp_then_isLT
    rw [Ordering.isLT_iff_eq_lt,compare_lt_iff_lt]
  rw [CatalogCandidate.isCheaperThan,CatalogCandidate.priceKey,CatalogCandidate.priceKey,added,currentAdded]
  simp only [orOverflow_some,ok_bind]
  apply congrArg Except.ok
  rw [Bool.eq_iff_iff,decide_eq_true_iff,CatalogCandidate.rank,CatalogCandidate.rank,added,currentAdded]
  exact compared _ _

/-- No mapping of a slug ranks below the one that is kept. -/
def Least (listed : List EndpointCandidate) (cheapestBySlug : List (String × CatalogCandidate)) : Prop :=
  ∀ slug cheapest, get slug cheapestBySlug = some cheapest → ∀ candidate ∈ listed, candidate.mapping.slug = slug →
    cheapest.rank arithmetic ≤ CatalogCandidate.rank arithmetic ⟨candidate.provider.id,candidate.mapping⟩

theorem Least.add (listed : List EndpointCandidate) (cheapestBySlug next : List (String × CatalogCandidate))
    (candidate : EndpointCandidate) (cheapest : CheapestOf listed cheapestBySlug)
    (least : Least arithmetic listed cheapestBySlug)
    (summed : ∀ other ∈ listed ++ [candidate], Summed arithmetic other.mapping)
    (added : addCheapest arithmetic cheapestBySlug ⟨candidate.provider.id,candidate.mapping⟩ = .ok next) :
    Least arithmetic (listed ++ [candidate]) next := by
  intro slug kept found other member same
  have before (kept : CatalogCandidate) (found : get slug cheapestBySlug = some kept) (other : EndpointCandidate)
      (member : other ∈ listed ++ [candidate]) (same : other.mapping.slug = slug)
      (latest : candidate.mapping.slug = slug → kept.rank arithmetic ≤
        CatalogCandidate.rank arithmetic ⟨candidate.provider.id,candidate.mapping⟩) :
      kept.rank arithmetic ≤ CatalogCandidate.rank arithmetic ⟨other.provider.id,other.mapping⟩ := by
    rcases List.mem_append.mp member with old | new
    · exact least slug kept found other old same
    · rw [List.mem_singleton.mp new] at same ⊢
      exact latest same
  by_cases own : candidate.mapping.slug = slug
  · subst own
    unfold addCheapest at added
    split at added
    · rename_i absent
      cases added
      rw [SortedMap.get_insert_self] at found
      cases found
      rcases List.mem_append.mp member with old | new
      · obtain ⟨present,known⟩ := cheapest.kept other old
        rw [same,absent] at known
        cases known
      · rw [List.mem_singleton.mp new]
    · rename_i current known
      obtain ⟨source,inside,_,equal⟩ := cheapest.found _ current known
      have computed := isCheaperThan_rank arithmetic ⟨candidate.provider.id,candidate.mapping⟩ current
        (summed candidate (by simp)) (by rw [equal]; exact summed source (by simp [inside]))
      rw [computed,ok_bind] at added
      split at added
      · rename_i cheaper
        cases added
        rw [SortedMap.get_insert_self] at found
        cases found
        have below := (of_decide_eq_true cheaper).le
        rcases List.mem_append.mp member with old | new
        · exact below.trans (least _ current known other old same)
        · rw [List.mem_singleton.mp new]
      · rename_i dearer
        cases added
        exact before kept found other member same (fun _ => by
          rw [known] at found
          cases found
          exact not_lt.mp (fun less => dearer (decide_eq_true less)))
  · have unchanged : get slug next = get slug cheapestBySlug := by
      rcases addCheapest_success arithmetic _ _ _ added with rfl | ⟨rfl,_⟩
      · exact SortedMap.get_insert_ne _ _ _ _ (Ne.symm own)
      · rfl
    exact before kept (unchanged ▸ found) other member same (fun equal => absurd equal own)

theorem addCandidates_least (candidates listed : List EndpointCandidate) (before after : CatalogIndexes)
    (cheapest : CheapestOf listed before.cheapestBySlug) (least : Least arithmetic listed before.cheapestBySlug)
    (summed : ∀ candidate ∈ listed ++ candidates, Summed arithmetic candidate.mapping)
    (ran : candidates.foldlM (addCandidate arithmetic) before = .ok after) :
    Least arithmetic (listed ++ candidates) after.cheapestBySlug := by
  induction candidates generalizing listed before with
  | nil =>
    cases ran
    simpa using least
  | cons candidate candidates ih =>
    rw [List.foldlM_cons,bind_success] at ran
    obtain ⟨middle,first,ran⟩ := ran
    rw [addCandidate,bind_success] at first
    obtain ⟨next,added,equal⟩ := first
    cases equal
    have kept := ih (listed ++ [candidate]) ⟨next,_⟩
      (cheapest.add arithmetic listed before.cheapestBySlug next candidate added)
      (least.add arithmetic listed before.cheapestBySlug next candidate cheapest
        (fun other member => summed other (by
          rcases List.mem_append.mp member with old | new
          · simp [old]
          · simp [List.mem_singleton.mp new])) added)
      (by simpa using summed) ran
    rwa [List.append_assoc,List.singleton_append] at kept

end Rank

/-- By priority, then by provider id. -/
def EndpointCandidate.Before (left right : EndpointCandidate) : Prop :=
  left.provider.priority < right.provider.priority ∨
    left.provider.priority = right.provider.priority ∧ left.provider.id < right.provider.id

def EndpointCandidate.sortKey (candidate : EndpointCandidate) : ℕ ×ₗ String ×ₗ String :=
  toLex (candidate.provider.priority,toLex (candidate.provider.id,candidate.mapping.providerModelId))

theorem compare_then_isLE {α β : Type} [LinearOrder α] [LinearOrder β] (left right : α) (first second : β)
    (rest : Ordering) (ordered : rest.isLE = true ↔ first ≤ second) :
    ((compare left right).then rest).isLE = true ↔ toLex (left,first) ≤ toLex (right,second) := by
  rw [Prod.Lex.toLex_le_toLex,← ordered]
  rcases lt_trichotomy left right with less | same | more
  · simp [compare_lt_iff_lt.mpr less,less]
  · simp [same]
  · simp [compare_gt_iff_gt.mpr more,not_lt.mpr more.le,more.ne']

theorem precedes_iff (left right : EndpointCandidate) :
    left.precedes right = true ↔ left.sortKey ≤ right.sortKey := by
  unfold EndpointCandidate.precedes EndpointCandidate.sortKey
  apply compare_then_isLE
  apply compare_then_isLE
  exact Ordering.isLE_iff_ne_gt.trans compare_le_iff_le

/-- The provider and the slug of a candidate. -/
def EndpointCandidate.place (candidate : EndpointCandidate) : String × String :=
  (candidate.provider.id,candidate.mapping.slug)

def Placed (listed : List EndpointCandidate) : Prop := (listed.map EndpointCandidate.place).Nodup

theorem Registry.Distinct.placed {registry : Registry} (distinct : registry.Distinct) (profile : RoutingProfile) :
    Placed (endpointCandidates registry profile) := by
  rw [Placed,endpointCandidates,List.map_flatMap,List.nodup_flatMap]
  constructor
  · intro provider member
    have slugs := distinct.slugs provider (List.mem_filter.mp member).1
    have places : (provider.models.map (fun mapping => EndpointCandidate.mk provider mapping)).map
        EndpointCandidate.place = (provider.models.map ModelMapping.slug).map (Prod.mk provider.id) := by
      simp [List.map_map,Function.comp_def,EndpointCandidate.place]
    rw [places]
    exact slugs.map (Prod.mk_right_injective provider.id)
  · have ids : registry.providers.Pairwise (fun left right => left.id ≠ right.id) := List.pairwise_map.mp distinct.ids
    refine (ids.filter _).imp fun different => ?_
    intro place first second
    simp only [List.map_map,List.mem_map,Function.comp_apply,EndpointCandidate.place] at first second
    obtain ⟨_,_,rfl⟩ := first
    obtain ⟨_,_,same⟩ := second
    exact different (Prod.mk.inj same).1.symm

theorem Placed.unique {listed : List EndpointCandidate} (placed : Placed listed) (left right : EndpointCandidate)
    (first : left ∈ listed) (second : right ∈ listed) (slug : left.mapping.slug = right.mapping.slug)
    (id : left.provider.id = right.provider.id) : left = right :=
  List.inj_on_of_nodup_map placed first second (Prod.ext id slug)

theorem sorted_before (slug : String) (listed : List EndpointCandidate) (placed : Placed listed)
    (same : ∀ candidate ∈ listed, candidate.mapping.slug = slug) :
    (listed.insertionSort (fun left right => left.precedes right)).Pairwise EndpointCandidate.Before := by
  have total : Std.Total (fun left right : EndpointCandidate => left.precedes right = true) := ⟨fun left right => by
    rw [precedes_iff,precedes_iff]
    exact le_total _ _⟩
  have trans : IsTrans EndpointCandidate (fun left right => left.precedes right = true) := ⟨fun left middle right => by
    rw [precedes_iff,precedes_iff,precedes_iff]
    exact le_trans⟩
  have ordered := List.pairwise_insertionSort (fun left right : EndpointCandidate => left.precedes right = true) listed
  have permuted := List.perm_insertionSort (fun left right : EndpointCandidate => left.precedes right = true) listed
  have apart : (listed.insertionSort (fun left right => left.precedes right)).Pairwise
      (fun left right => left.place ≠ right.place) :=
    List.pairwise_map.mp ((permuted.map EndpointCandidate.place).nodup_iff.mpr placed)
  refine (ordered.and apart).imp_of_mem fun {left right} first second both => ?_
  have slugs : left.mapping.slug = right.mapping.slug :=
    (same left (permuted.mem_iff.mp first)).trans (same right (permuted.mem_iff.mp second)).symm
  have ids : left.provider.id ≠ right.provider.id := fun equal => both.2 (Prod.ext equal slugs)
  have below := (precedes_iff left right).mp both.1
  rw [EndpointCandidate.sortKey,EndpointCandidate.sortKey,Prod.Lex.toLex_le_toLex,Prod.Lex.toLex_le_toLex] at below
  rcases below with priority | ⟨priority,id | ⟨id,_⟩⟩
  · exact .inl priority
  · exact .inr ⟨priority,id⟩
  · exact absurd id ids

section Listing
variable (arithmetic : Decimal.Arithmetic) (registry : Registry) (profile : RoutingProfile)

theorem rank_provider (left right : CatalogCandidate) (same : left.rank arithmetic = right.rank arithmetic) :
    left.providerId = right.providerId :=
  congrArg (fun key : ℚ ×ₗ ℚ ×ₗ ℚ ×ₗ String => (ofLex (ofLex (ofLex key).2).2).2) same

/-- The candidate of a slug that the catalog shows. -/
structure Shown (slug : String) (candidate : EndpointCandidate) : Prop where
  listed : candidate ∈ slugCandidates registry profile slug
  least : ∀ other ∈ slugCandidates registry profile slug,
    CatalogCandidate.rank arithmetic ⟨candidate.provider.id,candidate.mapping⟩ ≤
      CatalogCandidate.rank arithmetic ⟨other.provider.id,other.mapping⟩

/-- What is kept under a slug is its least candidate; there is one only. -/
theorem cheapest_iff (placed : Placed (endpointCandidates registry profile))
    (summed : ∀ candidate ∈ endpointCandidates registry profile, Summed arithmetic candidate.mapping)
    (indexes : CatalogIndexes)
    (ran : (endpointCandidates registry profile).foldlM (addCandidate arithmetic) ⟨[],[]⟩ = .ok indexes)
    (slug : String) (cheapest : CatalogCandidate) :
    get slug indexes.cheapestBySlug = some cheapest ↔ ∃ candidate, Shown arithmetic registry profile slug candidate ∧
      cheapest = ⟨candidate.provider.id,candidate.mapping⟩ := by
  obtain ⟨kept,_,_⟩ := indexes_success arithmetic registry profile indexes ran
  have least := addCandidates_least arithmetic (endpointCandidates registry profile) [] ⟨[],[]⟩ indexes cheapestOf_nil
    (fun _ _ found => by cases found) (by simpa using summed) ran
  have shown (cheapest : CatalogCandidate) (found : get slug indexes.cheapestBySlug = some cheapest) :
      ∃ candidate, Shown arithmetic registry profile slug candidate ∧
        cheapest = ⟨candidate.provider.id,candidate.mapping⟩ := by
    obtain ⟨candidate,member,same,rfl⟩ := kept.found slug cheapest found
    refine ⟨candidate,⟨List.mem_filter.mpr ⟨member,decide_eq_true same⟩,?_⟩,rfl⟩
    intro other inside
    obtain ⟨listed,named⟩ := List.mem_filter.mp inside
    exact least slug _ found other listed (of_decide_eq_true named)
  refine ⟨shown cheapest,?_⟩
  rintro ⟨candidate,choice,rfl⟩
  obtain ⟨member,same⟩ := List.mem_filter.mp choice.listed
  obtain ⟨held,found⟩ := kept.kept candidate member
  rw [of_decide_eq_true same] at found
  obtain ⟨other,otherChoice,rfl⟩ := shown held found
  obtain ⟨otherMember,otherSame⟩ := List.mem_filter.mp otherChoice.listed
  have equal := le_antisymm (choice.least other otherChoice.listed) (otherChoice.least candidate choice.listed)
  have id : candidate.provider.id = other.provider.id := rank_provider arithmetic _ _ equal
  obtain rfl := placed.unique candidate other member otherMember
    ((of_decide_eq_true same).trans (of_decide_eq_true otherSame).symm) id
  exact found

/-- An enabled provider of the profile serves the slug. -/
def Offers (slug : String) : Prop :=
  ∃ provider ∈ registry.providers, provider.enabled = true ∧ profile ∈ provider.profiles ∧
    ∃ mapping ∈ provider.models, mapping.slug = slug

theorem offers_iff (slug : String) : Offers registry profile slug ↔ slugCandidates registry profile slug ≠ [] := by
  constructor
  · rintro ⟨provider,known,enabled,supported,mapping,maps,named⟩
    apply List.ne_nil_of_mem (a := ⟨provider,mapping⟩)
    refine List.mem_filter.mpr ⟨?_,decide_eq_true named⟩
    exact (mem_endpointCandidates registry profile _).mpr
      ⟨known,Bool.and_eq_true_iff.mpr ⟨enabled,decide_eq_true supported⟩,maps⟩
  · intro nonempty
    obtain ⟨candidate,member⟩ := List.exists_mem_of_ne_nil _ nonempty
    obtain ⟨listed,named⟩ := List.mem_filter.mp member
    obtain ⟨known,accepted,maps⟩ := (mem_endpointCandidates registry profile candidate).mp listed
    obtain ⟨enabled,supported⟩ := Bool.and_eq_true_iff.mp accepted
    exact ⟨candidate.provider,known,enabled,of_decide_eq_true supported,candidate.mapping,maps,of_decide_eq_true named⟩

/-- One row for each slug on offer, in the order of the slugs; each is the row of the least
mapping, and has its endpoint in the complete list of the slug's endpoints in their order. -/
structure CatalogSnapshot.Lists (snapshot : CatalogSnapshot) : Prop where
  ascending : (snapshot.response.data.map CatalogModel.id).Pairwise (· < ·)
  rows : ∀ slug, (∃ row ∈ snapshot.response.data, row.id = slug) ↔ Offers registry profile slug
  count : snapshot.response.totalCount = snapshot.response.data.length
  cheapest : ∀ row ∈ snapshot.response.data, ∃ candidate, Shown arithmetic registry profile row.id candidate ∧
    CatalogCandidate.intoModel arithmetic ⟨candidate.provider.id,candidate.mapping⟩ = .ok row
  priced : ∀ row ∈ snapshot.response.data, ∃ response, get row.id snapshot.endpointsBySlug = some response ∧
    ∃ endpoint ∈ response.data.endpoints, endpoint.pricing = row.pricing
  known : ∀ slug, (get slug snapshot.endpointsBySlug).isSome = true ↔ Offers registry profile slug
  endpoints : ∀ slug response, get slug snapshot.endpointsBySlug = some response →
    ∃ candidates : List EndpointCandidate, candidates.Perm (slugCandidates registry profile slug) ∧
      candidates.Pairwise EndpointCandidate.Before ∧
      candidates.mapM (EndpointCandidate.intoEndpoint arithmetic) = .ok response.data.endpoints

theorem intoModel_success (candidate : CatalogCandidate) (row : CatalogModel) :
    candidate.intoModel arithmetic = .ok row ↔ ∃ pricing, catalogPricing arithmetic candidate.mapping = .ok pricing ∧
      ⟨candidate.mapping.slug,candidate.mapping.name,candidate.mapping.contextLength,pricing⟩ = row := by
  simp only [CatalogCandidate.intoModel,bind_success,pure_success]

theorem intoEndpoint_pricing (candidate : EndpointCandidate) (endpoint : CatalogEndpoint)
    (converted : candidate.intoEndpoint arithmetic = .ok endpoint) :
    catalogPricing arithmetic candidate.mapping = .ok endpoint.pricing := by
  rw [EndpointCandidate.intoEndpoint,bind_success] at converted
  obtain ⟨pricing,priced,equal⟩ := converted
  cases equal
  exact priced

theorem snapshot_lists (placed : Placed (endpointCandidates registry profile))
    (summed : ∀ candidate ∈ endpointCandidates registry profile, Summed arithmetic candidate.mapping)
    (snapshot : CatalogSnapshot) (built : CatalogSnapshot.fromRegistry arithmetic registry profile = .ok snapshot) :
    snapshot.Lists arithmetic registry profile := by
  obtain ⟨indexes,data,ran,listed,_,response⟩ := snapshot_success arithmetic registry profile snapshot built
  obtain ⟨kept,_,_⟩ := indexes_success arithmetic registry profile indexes ran
  have row_of (row : CatalogModel) (member : row ∈ data) : ∃ candidate,
      Shown arithmetic registry profile row.id candidate ∧
        CatalogCandidate.intoModel arithmetic ⟨candidate.provider.id,candidate.mapping⟩ = .ok row := by
    obtain ⟨⟨slug,cheapest⟩,present,computed⟩ := (mapM_mem _ _ _ listed row).mp member
    have found := SortedMap.mem_get slug cheapest _ kept.sorted present
    obtain ⟨candidate,choice,rfl⟩ :=
      (cheapest_iff arithmetic registry profile placed summed indexes ran slug cheapest).mp found
    obtain ⟨_,_,rfl⟩ := (intoModel_success arithmetic _ row).mp computed
    have named : candidate.mapping.slug = slug := of_decide_eq_true (List.mem_filter.mp choice.listed).2
    exact ⟨candidate,named.symm ▸ choice,computed⟩
  have endpoints (slug : String) (response : ModelEndpointsResponse)
      (found : get slug snapshot.endpointsBySlug = some response) :=
    (snapshot_endpoints arithmetic registry profile snapshot built slug response found).2
  have known (slug : String) : (get slug snapshot.endpointsBySlug).isSome = true ↔ Offers registry profile slug :=
    (snapshot_known arithmetic registry profile snapshot built slug).trans (offers_iff registry profile slug).symm
  constructor
  case ascending =>
    have ids : data.map CatalogModel.id = indexes.cheapestBySlug.map Prod.fst := by
      refine mapM_map _ _ _ _ _ ?_ listed
      rintro ⟨slug,cheapest⟩ present row computed
      obtain ⟨_,_,named,rfl⟩ := kept.found slug cheapest (SortedMap.mem_get slug cheapest _ kept.sorted present)
      obtain ⟨_,_,rfl⟩ := (intoModel_success arithmetic _ row).mp computed
      exact named
    rw [response]
    exact ids ▸ kept.sorted
  case rows =>
    exact fun slug => (snapshot_models arithmetic registry profile snapshot built slug).trans
      (offers_iff registry profile slug).symm
  case count => rw [response]
  case cheapest =>
    rw [response]
    exact row_of
  case priced =>
    rw [response]
    intro row member
    obtain ⟨candidate,choice,computed⟩ := row_of row member
    obtain ⟨pricing,priced,rfl⟩ := (intoModel_success arithmetic _ row).mp computed
    have offered := (offers_iff registry profile _).mpr (List.ne_nil_of_mem choice.listed)
    obtain ⟨response,found⟩ := Option.isSome_iff_exists.mp ((known _).mpr offered)
    have converted := endpoints _ response found
    have inside := (List.mem_insertionSort (fun left right : EndpointCandidate => left.precedes right = true)).mpr
      choice.listed
    obtain ⟨endpoint,here⟩ := mapM_each _ _ _ converted candidate inside
    refine ⟨response,found,endpoint,(mapM_mem _ _ _ converted endpoint).mpr ⟨candidate,inside,here⟩,?_⟩
    have same := intoEndpoint_pricing arithmetic candidate endpoint here
    exact Except.ok.inj (same.symm.trans priced)
  case known => exact known
  case endpoints =>
    intro slug response found
    have permuted := List.perm_insertionSort (fun left right : EndpointCandidate => left.precedes right = true)
      (slugCandidates registry profile slug)
    refine ⟨_,permuted,sorted_before slug _ ?_ ?_,endpoints slug response found⟩
    · exact placed.sublist (List.filter_sublist.map EndpointCandidate.place)
    · exact fun candidate member => of_decide_eq_true (List.mem_filter.mp member).2

end Listing

section Reorder

/-- What the catalog reads of a candidate. -/
def EndpointCandidate.bare (candidate : EndpointCandidate) : EndpointCandidate :=
  { candidate with provider := { candidate.provider with models := [] } }

theorem bare_inj (left right : EndpointCandidate) (same : left.bare = right.bare) :
    left.provider.id = right.provider.id ∧ left.mapping = right.mapping :=
  ⟨congrArg (fun candidate => candidate.provider.id) same,congrArg (fun candidate => candidate.mapping) same⟩

private theorem filter_cons_flatMap {α β : Type} (keep : α → Bool) (items : α → List β) (first : α) (rest : List α) :
    ((first :: rest).filter keep).flatMap items =
      (if keep first = true then items first else []) ++ (rest.filter keep).flatMap items := by
  rw [List.filter_cons]
  split <;> simp

theorem bare_perm (registry other : Registry) (reordered : registry.Reordered other) (profile : RoutingProfile) :
    ((endpointCandidates registry profile).map EndpointCandidate.bare).Perm
      ((endpointCandidates other profile).map EndpointCandidate.bare) := by
  obtain ⟨providers,permuted,moved⟩ := reordered
  rw [endpointCandidates,endpointCandidates,List.map_flatMap,List.map_flatMap]
  apply ((permuted.filter _).flatMap_right _).trans
  clear permuted
  generalize other.providers = others at moved
  induction moved with
  | nil => exact List.Perm.refl _
  | @cons provider _ rest _ shuffled _ ih =>
    obtain ⟨models,same,rfl⟩ := shuffled
    have bared : ((provider.models.map (fun mapping => EndpointCandidate.mk provider mapping)).map
        EndpointCandidate.bare).Perm ((models.map (fun mapping => EndpointCandidate.mk
          { provider with models := models } mapping)).map EndpointCandidate.bare) := by
      rw [List.map_map,List.map_map]
      exact same.map _
    rw [filter_cons_flatMap,filter_cons_flatMap]
    refine List.Perm.append ?_ ih
    -- Both providers are listed, or neither is.
    change List.Perm (if (provider.enabled && provider.supports profile) = true then _ else _)
      (if (provider.enabled && provider.supports profile) = true then _ else _)
    split
    · exact bared
    · exact List.Perm.refl _

theorem slug_bare_perm (registry other : Registry) (reordered : registry.Reordered other) (profile : RoutingProfile)
    (slug : String) : ((slugCandidates registry profile slug).map EndpointCandidate.bare).Perm
      ((slugCandidates other profile slug).map EndpointCandidate.bare) := by
  have listed (registry : Registry) : (slugCandidates registry profile slug).map EndpointCandidate.bare =
      ((endpointCandidates registry profile).map EndpointCandidate.bare).filter
        (fun candidate => candidate.mapping.slug = slug) := by
    rw [List.filter_map]
    rfl
  rw [listed,listed]
  exact (bare_perm registry other reordered profile).filter _

theorem Placed.reordered {registry other : Registry} (reordered : registry.Reordered other) (profile : RoutingProfile)
    (placed : Placed (endpointCandidates registry profile)) : Placed (endpointCandidates other profile) := by
  have places := (bare_perm registry other reordered profile).map EndpointCandidate.place
  rw [List.map_map,List.map_map] at places
  exact places.nodup_iff.mp placed

theorem bare_mem (left right : List EndpointCandidate)
    (permuted : (left.map EndpointCandidate.bare).Perm (right.map EndpointCandidate.bare)) (candidate : EndpointCandidate)
    (member : candidate ∈ left) : ∃ moved ∈ right, moved.bare = candidate.bare := by
  have inside := permuted.mem_iff.mp (List.mem_map_of_mem member)
  obtain ⟨moved,present,same⟩ := List.mem_map.mp inside
  exact ⟨moved,present,same⟩

/-- Candidates of different providers are sorted into one order, wherever they came from. -/
theorem sorted_bare (slug : String) (left right : List EndpointCandidate) (placed : Placed left)
    (named : ∀ candidate ∈ left, candidate.mapping.slug = slug)
    (permuted : (left.map EndpointCandidate.bare).Perm (right.map EndpointCandidate.bare)) :
    (left.insertionSort (fun left right => left.precedes right)).map EndpointCandidate.bare =
      (right.insertionSort (fun left right => left.precedes right)).map EndpointCandidate.bare := by
  have bared (listed : List EndpointCandidate) :
      (listed.insertionSort (fun left right => left.precedes right)).map EndpointCandidate.bare =
        (listed.map EndpointCandidate.bare).insertionSort (fun left right => left.precedes right) :=
    List.map_insertionSort _ _ _ _ (fun _ _ _ _ => Iff.rfl)
  have barePlaced : Placed (left.map EndpointCandidate.bare) := by
    rw [Placed,List.map_map]
    exact placed
  have bareNamed (candidate : EndpointCandidate) (member : candidate ∈ left.map EndpointCandidate.bare) :
      candidate.mapping.slug = slug := by
    obtain ⟨original,present,rfl⟩ := List.mem_map.mp member
    exact named original present
  have otherPlaced : Placed (right.map EndpointCandidate.bare) :=
    (permuted.map EndpointCandidate.place).nodup_iff.mp barePlaced
  have otherNamed (candidate : EndpointCandidate) (member : candidate ∈ right.map EndpointCandidate.bare) :
      candidate.mapping.slug = slug := bareNamed candidate (permuted.mem_iff.mpr member)
  rw [bared,bared]
  have first := sorted_before slug _ barePlaced bareNamed
  have second := sorted_before slug _ otherPlaced otherNamed
  refine List.Perm.eq_of_pairwise ?_ first second ?_
  · rintro candidate other _ _ (less | ⟨priority,less⟩) (more | ⟨equal,more⟩)
    · exact absurd less (not_lt.mpr more.le)
    · exact absurd less (by omega)
    · exact absurd more (by omega)
    · exact absurd less (not_lt.mpr more.le)
  · exact (List.perm_insertionSort _ _).trans (permuted.trans (List.perm_insertionSort _ _).symm)

variable (arithmetic : Decimal.Arithmetic)

theorem slugEndpoints_bare (cheapestBySlug : List (String × CatalogCandidate)) (slug : String)
    (left right : List EndpointCandidate) (placed : Placed left)
    (named : ∀ candidate ∈ left, candidate.mapping.slug = slug)
    (permuted : (left.map EndpointCandidate.bare).Perm (right.map EndpointCandidate.bare)) :
    slugEndpoints arithmetic cheapestBySlug (slug,left) = slugEndpoints arithmetic cheapestBySlug (slug,right) := by
  have converted (listed : List EndpointCandidate) : listed.mapM (EndpointCandidate.intoEndpoint arithmetic) =
      (listed.map EndpointCandidate.bare).mapM (EndpointCandidate.intoEndpoint arithmetic) := by
    rw [List.mapM_map]
    rfl
  unfold slugEndpoints
  dsimp only
  rw [converted,sorted_bare slug left right placed named permuted,← converted]

variable (registry other : Registry) (profile : RoutingProfile)

theorem shown_reordered (slug : String) (permuted : ((slugCandidates registry profile slug).map
    EndpointCandidate.bare).Perm ((slugCandidates other profile slug).map EndpointCandidate.bare))
    (candidate : EndpointCandidate) (choice : Shown arithmetic registry profile slug candidate) :
    ∃ moved, Shown arithmetic other profile slug moved ∧ moved.provider.id = candidate.provider.id ∧
      moved.mapping = candidate.mapping := by
  obtain ⟨moved,present,same⟩ := bare_mem _ _ permuted candidate choice.listed
  obtain ⟨id,mapping⟩ := bare_inj _ _ same
  refine ⟨moved,⟨present,?_⟩,id,mapping⟩
  intro rival member
  obtain ⟨original,listed,equal⟩ := bare_mem _ _ permuted.symm rival member
  obtain ⟨rivalId,rivalMapping⟩ := bare_inj _ _ equal
  rw [id,mapping,← rivalId,← rivalMapping]
  exact choice.least original listed

variable (reordered : registry.Reordered other)
include reordered

theorem summed_reordered (summed : ∀ candidate ∈ endpointCandidates registry profile, Summed arithmetic candidate.mapping) :
    ∀ candidate ∈ endpointCandidates other profile, Summed arithmetic candidate.mapping := by
  intro candidate member
  obtain ⟨original,present,same⟩ :=
    bare_mem _ _ (bare_perm registry other reordered profile).symm candidate member
  rw [← (bare_inj _ _ same).2]
  exact summed original present

variable (placed : Placed (endpointCandidates registry profile))
  (summed : ∀ candidate ∈ endpointCandidates registry profile, Summed arithmetic candidate.mapping)
include placed summed

theorem cheapest_reordered (indexes otherIndexes : CatalogIndexes)
    (ran : (endpointCandidates registry profile).foldlM (addCandidate arithmetic) ⟨[],[]⟩ = .ok indexes)
    (otherRan : (endpointCandidates other profile).foldlM (addCandidate arithmetic) ⟨[],[]⟩ = .ok otherIndexes) :
    otherIndexes.cheapestBySlug = indexes.cheapestBySlug := by
  obtain ⟨kept,_,_⟩ := indexes_success arithmetic registry profile indexes ran
  obtain ⟨otherKept,_,_⟩ := indexes_success arithmetic other profile otherIndexes otherRan
  apply SortedMap.sorted_ext _ _ otherKept.sorted kept.sorted
  intro slug
  have permuted := slug_bare_perm registry other reordered profile slug
  apply Option.ext
  intro cheapest
  rw [cheapest_iff arithmetic registry profile placed summed indexes ran slug cheapest,
    cheapest_iff arithmetic other profile (placed.reordered reordered profile)
      (summed_reordered arithmetic registry other profile reordered summed) otherIndexes otherRan slug cheapest]
  constructor
  · rintro ⟨candidate,choice,rfl⟩
    obtain ⟨moved,shown,id,mapping⟩ :=
      shown_reordered arithmetic other registry profile slug permuted.symm candidate choice
    exact ⟨moved,shown,by rw [id,mapping]⟩
  · rintro ⟨candidate,choice,rfl⟩
    obtain ⟨moved,shown,id,mapping⟩ := shown_reordered arithmetic registry other profile slug permuted candidate choice
    exact ⟨moved,shown,by rw [id,mapping]⟩

theorem snapshot_reordered (snapshot moved : CatalogSnapshot)
    (built : CatalogSnapshot.fromRegistry arithmetic registry profile = .ok snapshot)
    (otherBuilt : CatalogSnapshot.fromRegistry arithmetic other profile = .ok moved) : moved = snapshot := by
  obtain ⟨indexes,data,ran,listed,mapped,response⟩ := snapshot_success arithmetic registry profile snapshot built
  obtain ⟨otherIndexes,otherData,otherRan,otherListed,otherMapped,otherResponse⟩ :=
    snapshot_success arithmetic other profile moved otherBuilt
  have cheapest := cheapest_reordered arithmetic registry other profile reordered placed summed indexes otherIndexes ran
    otherRan
  rw [cheapest] at otherListed otherMapped
  have rows : otherData = data := Except.ok.inj (otherListed.symm.trans listed)
  obtain ⟨_,sorted,gathered⟩ := indexes_success arithmetic registry profile indexes ran
  obtain ⟨_,otherSorted,otherGathered⟩ := indexes_success arithmetic other profile otherIndexes otherRan
  have endpoints : moved.endpointsBySlug = snapshot.endpointsBySlug := by
    apply SortedMap.sorted_ext
    · exact SortedMap.mapM_sorted _ (slugEndpoints_key arithmetic _) _ _ otherMapped otherSorted
    · exact SortedMap.mapM_sorted _ (slugEndpoints_key arithmetic _) _ _ mapped sorted
    · intro slug
      have permuted := slug_bare_perm registry other reordered profile slug
      have same := slugEndpoints_bare arithmetic indexes.cheapestBySlug slug (slugCandidates registry profile slug)
        (slugCandidates other profile slug) (placed.sublist (List.filter_sublist.map EndpointCandidate.place))
        (fun candidate member => of_decide_eq_true (List.mem_filter.mp member).2) permuted
      have empty : slugCandidates registry profile slug = [] ↔ slugCandidates other profile slug = [] := by
        rw [← List.length_eq_zero_iff,← List.length_eq_zero_iff,← List.length_map,permuted.length_eq,List.length_map]
      apply Option.ext
      intro response
      rw [endpoints_read arithmetic _ _ _ _ slug otherMapped (otherGathered slug),
        endpoints_read arithmetic _ _ _ _ slug mapped (gathered slug),same,ne_eq,ne_eq,empty]
  obtain ⟨_,_⟩ := snapshot
  obtain ⟨_,_⟩ := moved
  rw [CatalogSnapshot.mk.injEq]
  exact ⟨otherResponse.trans (rows ▸ response.symm),endpoints⟩

end Reorder

section Sample

def catalogProvider (id : String) (price : Decimal) : Provider :=
  ⟨id,"Provider",none,none,"https://provider.example","PROVIDER_KEY",true,0,none,{.production},
    [⟨"vendor/model","Model",1000,"model",price,none,price,RequestConstraints.default⟩]⟩

/-- One slug, offered at one price by two providers and more cheaply by a third. -/
def offeredThrice : Registry :=
  ⟨[catalogProvider "beta" (Decimal.ofNat 2),catalogProvider "alpha" (Decimal.ofNat 2),catalogProvider "zeta" Decimal.one]⟩

def offeredAgain : Registry :=
  ⟨[catalogProvider "zeta" Decimal.one,catalogProvider "beta" (Decimal.ofNat 2),catalogProvider "alpha" (Decimal.ofNat 2)]⟩

end Sample

end SerenRouter
