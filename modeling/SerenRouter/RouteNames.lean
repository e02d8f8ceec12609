import SerenRouter.IndexAgreement
import SerenRouter.RoutedPricing
import SerenRouter.Kernel.JsonText
import Mathlib.Data.List.Nodup

/-! The names that the compiled configuration gives to its routes and virtual models, and the
header by which a route names its provider. Both are joined or copied from unconstrained ids. -/
namespace SerenRouter
open Kernel Kernel.Json Kernel.Json.JsonText

/-- The characters of a header value that can be read as text. -/
def isVisible (char : Char) : Bool := (32 ≤ char.toNat && char.toNat < 127) || char.toNat == 9

private theorem visible_encoded (char : Char) (visible : isVisible char = true) :
    String.utf8EncodeChar char = [UInt8.ofNat char.toNat] ∧ (UInt8.ofNat char.toNat).toNat = char.toNat := by
  have small : char.toNat < 128 := by
    simp only [isVisible,Bool.or_eq_true,Bool.and_eq_true,decide_eq_true_iff,beq_iff_eq] at visible
    omega
  constructor
  · unfold String.utf8EncodeChar
    exact if_pos (by change char.toNat ≤ 127; omega)
  · rw [UInt8.toNat_ofNat']
    omega

private theorem visible_byte (char : Char) (byte : UInt8) (same : char.toNat = byte.toNat) :
    ((32 ≤ byte && byte < 127) || byte == 9) = isVisible char := by
  have tab : (byte == 9) = (byte.toNat == 9) := by
    rw [Bool.eq_iff_iff,beq_iff_eq,beq_iff_eq,← UInt8.toNat_inj]
    rfl
  rw [isVisible,same,tab]
  simp [UInt8.le_iff_toNat_le,UInt8.lt_iff_toNat_lt]

/-- A text can be read back from a header exactly when all its characters are visible. -/
theorem toStr_utf8 (text : String) :
    HeaderMap.toStr (utf8 text) = if text.toList.all isVisible then some text else none := by
  obtain ⟨chars,rfl⟩ : ∃ chars, text = String.ofList chars := ⟨text.toList,String.ofList_toList.symm⟩
  rw [String.toList_ofList,HeaderMap.toStr,utf8_ofList]
  by_cases visible : chars.all isVisible = true
  · have known := List.all_eq_true.mp visible
    have bytes : chars.flatMap String.utf8EncodeChar = chars.map (fun char => UInt8.ofNat char.toNat) := by
      rw [← List.flatMap_pure_eq_map]
      exact List.flatMap_congr (fun char member => (visible_encoded char (known char member)).1)
    rw [bytes,if_pos visible,if_pos]
    · have letters : (chars.map (fun char => UInt8.ofNat char.toNat)).map (fun byte => Char.ofNat byte.toNat) = chars := by
        rw [List.map_map]
        refine (List.map_congr_left (fun char member => ?_)).trans (List.map_id chars)
        simp [(visible_encoded char (known char member)).2]
      rw [letters]
    · rw [List.all_eq_true]
      intro byte member
      obtain ⟨char,present,rfl⟩ := List.mem_map.mp member
      rw [visible_byte char _ (visible_encoded char (known char present)).2.symm]
      exact known char present
  · rw [if_neg visible,if_neg]
    intro readable
    apply visible
    rw [List.all_eq_true] at readable ⊢
    intro char member
    obtain ⟨byte,rest,encoded⟩ := List.exists_cons_of_ne_nil (@String.utf8EncodeChar_ne_nil char)
    have inside : byte ∈ String.utf8EncodeChar char := by simp [encoded]
    have checked := readable byte (List.mem_flatMap.mpr ⟨char,member,inside⟩)
    have ascii : byte.toNat < 128 := by
      simp [UInt8.le_iff_toNat_le,UInt8.lt_iff_toNat_lt,← UInt8.toNat_inj] at checked
      omega
    rwa [visible_byte char byte (utf8EncodeChar_ascii char byte inside ascii)] at checked

/-- An id that a response header can carry to the router and back. -/
structure Readable (id : String) : Prop where
  visible : id.toList.all isVisible = true
  nonempty : id ≠ ""
  trimmed : Text.trim id = id

/-- The headers that a route sets on its responses, as bytes. -/
def HeaderModifier.headers (modifier : HeaderModifier) : HeaderMap :=
  ⟨modifier.set.map (fun (name,value) => (name,utf8 value))⟩

/-- A route's response names the provider exactly when the provider's id is readable. -/
theorem route_attributed (provider : Provider) (mapping : ModelMapping) :
    (∃ served, ServedProvider.fromHeaders (ModelRoute.new provider mapping).responseHeaders.headers = some served ∧
      served.asStr = provider.id) ↔ Readable provider.id := by
  have value : (ModelRoute.new provider mapping).responseHeaders.headers.get servedProviderHeader =
      some (utf8 provider.id) := rfl
  unfold ServedProvider.fromHeaders
  simp only [value,Option.bind_some,toStr_utf8]
  constructor
  · rintro ⟨served,read,named⟩
    by_cases visible : provider.id.toList.all isVisible = true
    · simp only [if_pos visible,Option.bind_eq_bind,Option.bind_some] at read
      split at read
      · rename_i nonempty
        split at read
        · rename_i trimmed
          exact ⟨visible,nonempty,trimmed⟩
        · cases read
      · cases read
    · simp only [if_neg visible,Option.bind_eq_bind,Option.bind_none] at read
      cases read
  · rintro ⟨visible,nonempty,trimmed⟩
    refine ⟨⟨provider.id,nonempty,trimmed⟩,?_,rfl⟩
    simp only [if_pos visible,Option.bind_eq_bind,Option.bind_some,dif_pos nonempty,dif_pos trimmed]

/-- The part of a sidecar alias before its slash. -/
def aliasPrefix (profile : RoutingProfile) : String := "seren-profile-" ++ profile.asStr

theorem sidecarAlias_eq (profile : RoutingProfile) (slug : String) :
    profile.sidecarAlias slug = aliasPrefix profile ++ "/" ++ slug := rfl

/-- Whether the ids and slugs of the enabled providers keep all joined names apart. -/
structure NamesApart (registry : Registry) : Prop where
  slugs : ∀ provider ∈ registry.providers, provider.enabled = true →
    (provider.models.map ModelMapping.slug).Nodup
  overlaps : ∀ left right leftMapping rightMapping middle, (left,leftMapping) ∈ enabledMappings registry →
    (right,rightMapping) ∈ enabledMappings registry → right.id = left.id ++ "/" ++ middle →
    leftMapping.slug ≠ middle ++ "/" ++ rightMapping.slug
  aliases : ∀ provider other mapping otherMapping profile, (provider,mapping) ∈ enabledMappings registry →
    (other,otherMapping) ∈ enabledMappings registry → profile ∈ other.profiles →
    (provider.id = aliasPrefix profile → mapping.slug ≠ otherMapping.slug) ∧
    ∀ middle, provider.id = aliasPrefix profile ++ "/" ++ middle →
      otherMapping.slug ≠ middle ++ "/" ++ mapping.slug

section Names
variable (registry : Registry)

theorem mem_enabledMappings (provider : Provider) (mapping : ModelMapping) :
    (provider,mapping) ∈ enabledMappings registry ↔
      provider ∈ registry.providers ∧ provider.enabled = true ∧ mapping ∈ provider.models := by
  simp [enabledMappings,and_assoc]

def routeNames : List String :=
  (enabledMappings registry).map (fun entry => routeName entry.1.id entry.2.slug)

def aliasNames : List String :=
  (SortedMap.gather ((enabledMappings registry).flatMap profileTargets)).map (fun entry =>
    (ofLex entry.1).1.sidecarAlias (ofLex entry.1).2)

theorem aliasNames_nodup : (aliasNames registry).Nodup := by
  have keys : ((SortedMap.gather ((enabledMappings registry).flatMap profileTargets)).map Prod.fst).Nodup :=
    List.Pairwise.imp (fun less => ne_of_lt less) (SortedMap.gather_sorted _)
  have named : aliasNames registry = ((SortedMap.gather ((enabledMappings registry).flatMap profileTargets)).map
      Prod.fst).map (fun key => (ofLex key).1.sidecarAlias (ofLex key).2) := by
    rw [List.map_map]
    rfl
  rw [named]
  refine List.Nodup.map (fun left right same => ?_) keys
  obtain ⟨first,second⟩ := (RoutingProfile.sidecarAlias_inj _ _ _ _).mp same
  exact ofLex_inj.mp (Prod.ext first second)

theorem mem_aliasNames (name : String) : name ∈ aliasNames registry ↔
    ∃ provider mapping profile, (provider,mapping) ∈ enabledMappings registry ∧ profile ∈ provider.profiles ∧
      name = profile.sidecarAlias mapping.slug := by
  constructor
  · intro member
    obtain ⟨⟨key,targets⟩,listed,rfl⟩ := List.mem_map.mp member
    obtain ⟨nonempty,equal⟩ := (SortedMap.mem_gather _ key targets).mp listed
    have spelled : key = toLex (ofLex key) := rfl
    rw [spelled,targets_eq] at equal
    obtain ⟨target,rest,split⟩ := List.exists_cons_of_ne_nil nonempty
    have inside : target ∈ targets := by simp [split]
    rw [← equal] at inside
    obtain ⟨⟨provider,mapping⟩,serving,_⟩ := List.mem_map.mp inside
    obtain ⟨present,serves⟩ := List.mem_filter.mp serving
    obtain ⟨allowed,slugged⟩ := of_decide_eq_true serves
    exact ⟨provider,mapping,_,present,allowed,by rw [slugged]⟩
  · rintro ⟨provider,mapping,profile,present,allowed,rfl⟩
    have serving : (provider,mapping) ∈ servingMappings registry profile mapping.slug :=
      List.mem_filter.mpr ⟨present,by simp [allowed]⟩
    refine List.mem_map.mpr ⟨(toLex (profile,mapping.slug),_),(SortedMap.mem_gather _ _ _).mpr
      ⟨?_,targets_eq registry profile mapping.slug⟩,rfl⟩
    exact List.ne_nil_of_mem (List.mem_map.mpr ⟨_,serving,rfl⟩)

theorem routeName_inj (providerId slug otherSlug : String) :
    routeName providerId slug = routeName providerId otherSlug ↔ slug = otherSlug := by
  rw [routeName,routeName,← String.toList_inj,Text.slash_toList,Text.slash_toList,← String.toList_inj]
  simp

theorem id_not_longer (id middle : String) : id ≠ id ++ "/" ++ middle := by
  intro same
  have lengths := congrArg (fun text => text.toList.length) same
  simp only [Text.slash_toList,List.length_append,List.length_cons] at lengths
  omega

/-- A route has the name of an alias exactly when its provider's id is, or goes on from, the
reserved part of the alias. -/
theorem routeName_alias (providerId slug : String) (profile : RoutingProfile) (model : String) :
    routeName providerId slug = profile.sidecarAlias model ↔
      (providerId = aliasPrefix profile ∧ slug = model) ∨
      ∃ middle, providerId = aliasPrefix profile ++ "/" ++ middle ∧ model = middle ++ "/" ++ slug := by
  have unslashed : ∀ middle, aliasPrefix profile ≠ providerId ++ "/" ++ middle := by
    intro middle same
    have member : '/' ∈ (aliasPrefix profile).toList := by
      rw [same,Text.slash_toList]
      simp
    cases profile <;> revert member <;> decide
  rw [sidecarAlias_eq,routeName,Text.slash_eq]
  simp [unslashed]

variable (ids : (registry.providers.map Provider.id).Nodup)
include ids

/-- Routes of different providers share a name exactly when one id goes on into the other's slug. -/
theorem routeName_overlap (left right : Provider) (leftMapping rightMapping : ModelMapping)
    (first : (left,leftMapping) ∈ enabledMappings registry) (second : (right,rightMapping) ∈ enabledMappings registry)
    (apart : left ≠ right) : routeName left.id leftMapping.slug = routeName right.id rightMapping.slug ↔
      (∃ middle, right.id = left.id ++ "/" ++ middle ∧ leftMapping.slug = middle ++ "/" ++ rightMapping.slug) ∨
      ∃ middle, left.id = right.id ++ "/" ++ middle ∧ rightMapping.slug = middle ++ "/" ++ leftMapping.slug := by
  have different : left.id ≠ right.id := fun same => apart (List.inj_on_of_nodup_map ids
    ((mem_enabledMappings registry left leftMapping).mp first).1
    ((mem_enabledMappings registry right rightMapping).mp second).1 same)
  rw [routeName,routeName,Text.slash_eq]
  simp [different]

theorem routeNames_nodup : (routeNames registry).Nodup ↔
    (∀ provider ∈ registry.providers, provider.enabled = true → (provider.models.map ModelMapping.slug).Nodup) ∧
    ∀ left right leftMapping rightMapping middle, (left,leftMapping) ∈ enabledMappings registry →
      (right,rightMapping) ∈ enabledMappings registry → right.id = left.id ++ "/" ++ middle →
      leftMapping.slug ≠ middle ++ "/" ++ rightMapping.slug := by
  have enabled_nodup : (registry.providers.filter Provider.enabled).Nodup :=
    List.Nodup.filter _ (List.Nodup.of_map _ ids)
  have flat : routeNames registry = (registry.providers.filter Provider.enabled).flatMap (fun provider =>
      provider.models.map (fun mapping => routeName provider.id mapping.slug)) := by
    simp [routeNames,enabledMappings,List.map_flatMap,Function.comp_def]
  have own (provider : Provider) : (provider.models.map (fun mapping => routeName provider.id mapping.slug)).Nodup ↔
      (provider.models.map ModelMapping.slug).Nodup := by
    have composed : provider.models.map (fun mapping => routeName provider.id mapping.slug) =
        (provider.models.map ModelMapping.slug).map (routeName provider.id) := by
      rw [List.map_map]
      rfl
    rw [composed,List.nodup_map_iff (fun first second => (routeName_inj provider.id first second).mp)]
  rw [flat,List.nodup_flatMap]
  refine and_congr ?_ ?_
  · simp only [own,List.mem_filter,and_imp]
  · constructor
    · intro disjoint left right leftMapping rightMapping middle first second longer equal
      have apart : left ≠ right := fun same => id_not_longer left.id middle (same ▸ longer)
      have symmetric : Std.Symm (Function.onFun List.Disjoint (fun provider : Provider =>
          provider.models.map (fun mapping => routeName provider.id mapping.slug))) :=
        ⟨fun _ _ disjoint => disjoint.symm⟩
      have leftMember := (mem_enabledMappings registry left leftMapping).mp first
      have rightMember := (mem_enabledMappings registry right rightMapping).mp second
      have overlap := (routeName_overlap registry ids left right leftMapping rightMapping first second apart).mpr
        (.inl ⟨middle,longer,equal⟩)
      refine disjoint.forall (List.mem_filter.mpr ⟨leftMember.1,leftMember.2.1⟩)
        (List.mem_filter.mpr ⟨rightMember.1,rightMember.2.1⟩) apart
        (List.mem_map.mpr ⟨leftMapping,leftMember.2.2,rfl⟩) (List.mem_map.mpr ⟨rightMapping,rightMember.2.2,overlap.symm⟩)
    · intro overlaps
      refine enabled_nodup.pairwise_of_forall_ne (fun left leftMember right rightMember apart name first second => ?_)
      obtain ⟨leftMapping,leftMaps,rfl⟩ := List.mem_map.mp first
      obtain ⟨rightMapping,rightMaps,same⟩ := List.mem_map.mp second
      obtain ⟨leftListed,leftEnabled⟩ := List.mem_filter.mp leftMember
      obtain ⟨rightListed,rightEnabled⟩ := List.mem_filter.mp rightMember
      have leftEntry := (mem_enabledMappings registry left leftMapping).mpr ⟨leftListed,leftEnabled,leftMaps⟩
      have rightEntry := (mem_enabledMappings registry right rightMapping).mpr ⟨rightListed,rightEnabled,rightMaps⟩
      rcases (routeName_overlap registry ids left right leftMapping rightMapping leftEntry rightEntry apart).mp same.symm
        with ⟨middle,longer,equal⟩ | ⟨middle,longer,equal⟩
      · exact overlaps left right leftMapping rightMapping middle leftEntry rightEntry longer equal
      · exact overlaps right left rightMapping leftMapping middle rightEntry leftEntry longer equal

theorem allNames_nodup : (routeNames registry ++ aliasNames registry).Nodup ↔ NamesApart registry := by
  have disjoint : (∀ name ∈ routeNames registry, ∀ other ∈ aliasNames registry, name ≠ other) ↔
      ∀ provider other mapping otherMapping profile, (provider,mapping) ∈ enabledMappings registry →
        (other,otherMapping) ∈ enabledMappings registry → profile ∈ other.profiles →
        (provider.id = aliasPrefix profile → mapping.slug ≠ otherMapping.slug) ∧
        ∀ middle, provider.id = aliasPrefix profile ++ "/" ++ middle →
          otherMapping.slug ≠ middle ++ "/" ++ mapping.slug := by
    constructor
    · intro apart provider other mapping otherMapping profile first second allowed
      have named : routeName provider.id mapping.slug ≠ profile.sidecarAlias otherMapping.slug :=
        apart _ (List.mem_map.mpr ⟨_,first,rfl⟩) _
          ((mem_aliasNames registry _).mpr ⟨other,otherMapping,profile,second,allowed,rfl⟩)
      rw [Ne,routeName_alias,not_or] at named
      exact ⟨fun reserved same => named.1 ⟨reserved,same⟩,fun middle longer same => named.2 ⟨middle,longer,same⟩⟩
    · intro apart name routed aliasName aliased same
      obtain ⟨⟨provider,mapping⟩,first,rfl⟩ := List.mem_map.mp routed
      obtain ⟨other,otherMapping,profile,second,allowed,rfl⟩ := (mem_aliasNames registry aliasName).mp aliased
      obtain ⟨reserved,longer⟩ := apart provider other mapping otherMapping profile first second allowed
      rcases (routeName_alias _ _ _ _).mp same with ⟨equal,slugged⟩ | ⟨middle,equal,slugged⟩
      · exact reserved equal slugged
      · exact longer middle equal slugged
  rw [List.nodup_append,routeNames_nodup registry ids,disjoint]
  constructor
  · rintro ⟨⟨slugs,overlaps⟩,_,aliases⟩
    exact ⟨slugs,overlaps,aliases⟩
  · rintro ⟨slugs,overlaps,aliases⟩
    exact ⟨⟨slugs,overlaps⟩,aliasNames_nodup registry,aliases⟩

end Names

/-- Every name of the configuration is given once, a route's name leads to that route only, and
every route's response names its provider. -/
structure Unambiguous (registry : Registry) (config : AgentGatewayConfig) : Prop where
  names : (config.llm.models.map ModelRoute.name ++ config.llm.virtualModels.map VirtualModel.name).Nodup
  resolves : ∀ provider mapping, (provider,mapping) ∈ enabledMappings registry →
    config.llm.models.filter (fun route => route.name = routeName provider.id mapping.slug) =
      [ModelRoute.new provider mapping] ∧
    ∀ model ∈ config.llm.virtualModels, model.name ≠ routeName provider.id mapping.slug
  attributed : List.Forall₂ (fun entry route => ∃ served,
    ServedProvider.fromHeaders route.responseHeaders.headers = some served ∧ served.asStr = entry.1.id)
    (enabledMappings registry) config.llm.models

private theorem filter_unique {α : Type} (name : α → String) (items : List α) (item : α)
    (distinct : (items.map name).Nodup) (member : item ∈ items) :
    items.filter (fun other => name other = name item) = [item] := by
  induction items with
  | nil => cases member
  | cons first items ih =>
    obtain ⟨fresh,distinct⟩ := List.nodup_cons.mp distinct
    rcases List.mem_cons.mp member with rfl | inside
    · have others : items.filter (fun other => name other = name item) = [] := by
        rw [List.filter_eq_nil_iff]
        intro other present same
        exact fresh (List.mem_map.mpr ⟨other,present,of_decide_eq_true same⟩)
      rw [List.filter_cons_of_pos (by simp),others]
    · have apart : name first ≠ name item := fun same => fresh (List.mem_map.mpr ⟨item,inside,same.symm⟩)
      rw [List.filter_cons_of_neg (by simpa using apart),ih distinct inside]

/-- The configuration that is compiled is unambiguous exactly when the ids and slugs keep its
names apart and every id of a mapping provider can be read back from a header. -/
theorem names_unambiguous_iff (toYaml : AgentGatewayConfig → Except String (List UInt8)) (registry : Registry)
    (options : SidecarConfigOptions) (bytes : List UInt8) (accepted : compile toYaml registry options = .ok bytes) :
    ∃ config, buildConfig registry options = .ok config ∧ toYaml config = .ok bytes ∧
      (Unambiguous registry config ↔ NamesApart registry ∧
        ∀ provider mapping, (provider,mapping) ∈ enabledMappings registry → Readable provider.id) := by
  unfold compile at accepted
  split at accepted
  · cases accepted
  rename_i config built
  split at accepted
  · cases accepted
  rename_i written serialized
  cases accepted
  refine ⟨config,built,serialized,?_⟩
  obtain ⟨valid,rfl⟩ := (buildConfig_success registry options config).mp built
  have distinct := allNames_nodup registry (registry.validate_distinct valid)
  have routes : ((enabledMappings registry).map (fun entry => ModelRoute.new entry.1 entry.2)).map ModelRoute.name =
      routeNames registry := by
    rw [List.map_map]
    rfl
  have aliases : ((SortedMap.gather ((enabledMappings registry).flatMap profileTargets)).map virtualModel).map
      VirtualModel.name = aliasNames registry := by
    rw [List.map_map]
    rfl
  constructor
  · intro unambiguous
    have names := unambiguous.names
    rw [routes,aliases] at names
    refine ⟨distinct.mp names,fun provider mapping member => ?_⟩
    have attributed := unambiguous.attributed
    rw [List.forall₂_map_right_iff,List.forall₂_same] at attributed
    have named := attributed (provider,mapping) member
    exact (route_attributed provider mapping).mp named
  · rintro ⟨apart,readable⟩
    have names := distinct.mpr apart
    refine ⟨by rw [routes,aliases]; exact names,fun provider mapping member => ⟨?_,?_⟩,?_⟩
    · rw [← routes] at names
      exact filter_unique ModelRoute.name _ (ModelRoute.new provider mapping) (List.nodup_append.mp names).1
        (List.mem_map.mpr ⟨_,member,rfl⟩)
    · intro model listed same
      refine (List.nodup_append.mp names).2.2 _ (List.mem_map.mpr ⟨_,member,rfl⟩) model.name ?_ same.symm
      rw [← aliases]
      exact List.mem_map.mpr ⟨model,listed,rfl⟩
    · rw [List.forall₂_map_right_iff,List.forall₂_same]
      exact fun entry member => (route_attributed entry.1 entry.2).mpr (readable entry.1 entry.2 member)

/-- Ids without a slash that are no alias prefix keep distinct slugs apart. -/
theorem namesApart_unslashed (registry : Registry)
    (slugs : ∀ provider ∈ registry.providers, provider.enabled = true →
      (provider.models.map ModelMapping.slug).Nodup)
    (unslashed : ∀ provider ∈ registry.providers, provider.enabled = true → '/' ∉ provider.id.toList)
    (unreserved : ∀ provider ∈ registry.providers, ∀ profile, provider.id ≠ aliasPrefix profile) :
    NamesApart registry := by
  have short (provider : Provider) (mapping : ModelMapping) (member : (provider,mapping) ∈ enabledMappings registry)
      (front middle : String) : provider.id ≠ front ++ "/" ++ middle := by
    intro same
    obtain ⟨listed,enabled,_⟩ := (mem_enabledMappings registry provider mapping).mp member
    refine unslashed provider listed enabled ?_
    rw [same,Text.slash_toList]
    simp
  refine ⟨slugs,?_,?_⟩
  · intro left right leftMapping rightMapping middle _ second longer
    exact absurd longer (short right rightMapping second left.id middle)
  · intro provider other mapping otherMapping profile first _ _
    refine ⟨fun reserved => ?_,fun middle longer => absurd longer (short provider mapping first _ middle)⟩
    exact absurd reserved (unreserved provider ((mem_enabledMappings registry provider mapping).mp first).1 profile)

section Sample

theorem sampleRegistry_valid : sampleRegistry.validate = .ok () := by
  obtain ⟨table,accepted⟩ := sampleRegistry_priced
  exact PriceTable.fromRegistry_validates sampleRegistry table accepted

theorem names_unambiguous_sample :
    ∃ config, buildConfig sampleRegistry .default = .ok config ∧ Unambiguous sampleRegistry config := by
  have written : compile (fun _ => .ok []) sampleRegistry .default = .ok [] := by
    rw [compile,(buildConfig_success sampleRegistry .default _).mpr ⟨sampleRegistry_valid,rfl⟩]
  obtain ⟨config,built,_,unambiguous⟩ := names_unambiguous_iff (fun _ => .ok []) sampleRegistry .default [] written
  have unreserved : ∀ provider ∈ sampleRegistry.providers, ∀ profile ∈ RoutingProfile.all,
      provider.id ≠ aliasPrefix profile := by decide
  refine ⟨config,built,unambiguous.mpr ⟨namesApart_unslashed sampleRegistry (by decide) (by decide)
    (fun provider member profile => unreserved provider member profile (RoutingProfile.mem_all profile)),?_⟩⟩
  intro provider mapping member
  have listed := ((mem_enabledMappings sampleRegistry provider mapping).mp member).1
  have readable : ∀ provider ∈ sampleRegistry.providers, provider.id.toList.all isVisible = true ∧ provider.id ≠ "" ∧
      Text.trim provider.id = provider.id := by decide
  obtain ⟨visible,nonempty,trimmed⟩ := readable provider listed
  exact ⟨visible,nonempty,trimmed⟩

def duplicateRegistry : Registry := ⟨[sampleProvider "alpha" 0 ["vendor/sole","vendor/sole"]]⟩

/-- The duplicate is compiled into two routes of one name, though the price table refuses it. -/
theorem duplicate_route_compiled :
    ∃ config, compile (fun _ => .ok []) duplicateRegistry .default = .ok [] ∧
      buildConfig duplicateRegistry .default = .ok config ∧
      config.llm.models.map ModelRoute.name = ["alpha/vendor/sole","alpha/vendor/sole"] ∧
      (PriceTable.fromRegistry duplicateRegistry).toOption.isNone = true ∧
      ¬ Unambiguous duplicateRegistry config := by
  have valid : duplicateRegistry.validate = .ok () := by
    have accepted : duplicateRegistry.validate.toOption = some () := by decide +kernel
    exact (toOption_some _ _).mp accepted
  have built := (buildConfig_success duplicateRegistry .default _).mpr ⟨valid,rfl⟩
  refine ⟨_,by rw [compile,built],built,by decide +kernel,by decide +kernel,fun unambiguous => ?_⟩
  have names := (List.nodup_append.mp unambiguous.names).1
  revert names
  decide +kernel

end Sample

end SerenRouter
