import OpmuxGateway.Construction.Core.CatalogLoad
import OpmuxGateway.Library.KeyedMap
import OpmuxGateway.Proof.Core.Limits

/-
This file proves which catalogs load and what a loaded catalog holds.
-/

namespace Opmux

open Except (bind_eq_ok)
open KeyedMap (insertAll)

/-- An identifier is not empty and has no surrounding whitespace. -/
def Identifier (value : String) : Prop := value ≠ "" ∧ trim value = value

/-- A price is a finite number of USD from zero to one million. -/
def Price (value : F64) : Prop := ∃ price, value = .finite price ∧ 0 ≤ price ∧ price ≤ 1000000

/-- A target of the text is configured as it stands, and its vendor may be omitted. -/
structure TargetOf (raw : RawTarget) (target : Target) : Prop where
  vendor : raw.vendor = none ∨ raw.vendor = some "openai"
  model : Identifier raw.model
  tokens : 1 ≤ raw.maxOutputTokens.toNat ∧ raw.maxOutputTokens.toNat ≤ 1000000
  inputPrice : Price raw.pricing.inputPerMillion
  outputPrice : Price raw.pricing.outputPerMillion
  same : target = ⟨.openai, raw.model, raw.maxOutputTokens,
    ⟨raw.pricing.inputPerMillion, raw.pricing.outputPerMillion⟩⟩

/-- The fallbacks of a route are omitted or an array of strings. -/
def RouteOf (text : RouteText) (route : Route) : Prop :=
  route.primary = text.primary ∧
    (text.fallbacks = none ∧ route.fallbacks = [] ∨
      text.fallbacks = some (.array (route.fallbacks.map .string)))

/-- A text can be loaded under a fallback limit when it names each thing once and refers only to
what it names. -/
structure Loadable (text : CatalogText) (maxFallbackTargets : Nat)
    (targets : List (String × RawTarget)) (routes : List (String × RouteText)) : Prop where
  version : text.version = 1
  deliversTargets : text.targets = targets.map .ok
  deliversRoutes : text.routes = routes.map .ok
  targetsOnce : (targets.map Prod.fst).Nodup
  routesOnce : (routes.map Prod.fst).Nodup
  targetEntries : ∀ entry ∈ targets, Identifier entry.1 ∧ ∃ target, TargetOf entry.2 target
  routeEntries : ∀ entry ∈ routes, Identifier entry.1 ∧ ∃ route, RouteOf entry.2 route ∧
    (route.primary :: route.fallbacks).Nodup ∧
    (∀ id ∈ route.primary :: route.fallbacks, id ∈ targets.map Prod.fst) ∧
    route.fallbacks.length ≤ maxFallbackTargets
  defaultRoute : text.defaultRoute ∈ routes.map Prod.fst

/-- A loaded catalog holds exactly the targets and the routes of its text. -/
structure Holds (catalog : Catalog) (text : CatalogText) (targets : List (String × RawTarget))
    (routes : List (String × RouteText)) : Prop where
  version : catalog.version = text.version
  defaultRoute : catalog.defaultRoute = text.defaultRoute
  targets : ∀ id target, catalog.targets.lookup id = some target ↔
    ∃ raw, (id, raw) ∈ targets ∧ TargetOf raw target
  routes : ∀ id route, catalog.routes.lookup id = some route ↔
    ∃ raw, (id, raw) ∈ routes ∧ RouteOf raw route

section Entries

theorem requireIdentifier_eq_ok {kind value id : String} :
    requireIdentifier kind value = .ok id ↔ Identifier value ∧ id = value := by
  unfold requireIdentifier Identifier
  split
  · rename_i refused
    simp only [String.isEmpty_iff, Bool.or_eq_true, decide_eq_true_eq] at refused
    simp only [reduceCtorEq, false_iff, not_and]
    rintro ⟨nonempty, trimmed⟩
    exact absurd refused (by simp [nonempty, trimmed])
  · rename_i accepted
    simp only [String.isEmpty_iff, Bool.or_eq_true, decide_eq_true_eq, not_or, not_not] at accepted
    simp only [Except.ok.injEq, accepted, ne_eq, not_false_eq_true, and_self, true_and]
    exact eq_comm

theorem parseVendor_eq_ok {vendor : Option String} {kind : VendorKind} :
    parseVendor vendor = .ok kind ↔ vendor = none ∨ vendor = some "openai" := by
  unfold parseVendor
  split
  · simp
  · simp
  · rename_i value other
    have unsupported : value ≠ "openai" := other
    split <;> simp [unsupported]

theorem validatePrice_eq_ok {value price : F64} :
    validatePrice value = .ok price ↔ Price value ∧ price = value := by
  unfold validatePrice Price
  cases value with
  | finite amount =>
      have bound : ((maxPricePerMillion : Nat) : ℚ) = 1000000 := by norm_num [maxPricePerMillion]
      simp only [bound]
      split
      · rename_i inside
        simp [inside, eq_comm]
      · rename_i outside
        simp only [reduceCtorEq, F64.finite.injEq, false_iff, not_and]
        rintro ⟨_, rfl, inside⟩
        exact absurd inside outside
  | nan => simp
  | infinite negative => simp

theorem checkOutputTokens_eq_ok {value checked : UInt32} :
    checkOutputTokens value = .ok checked ↔
      (1 ≤ value.toNat ∧ value.toNat ≤ 1000000) ∧ checked = value := by
  unfold checkOutputTokens checkBound
  have least : LimitBound.maxOutputTokens.min = 1 := rfl
  have most : LimitBound.maxOutputTokens.max = 1000000 := rfl
  rw [least, most]
  have fits : value.toNat ≤ u32Max := Nat.le_of_lt_succ value.toNat_lt
  split
  · rename_i error refused
    split at refused
    · simp only [reduceCtorEq, false_iff]
      omega
    · cases refused
  · rename_i found accepted
    split at accepted
    · cases accepted
    · cases accepted
      rw [if_pos fits, UInt32.ofNat_toNat, Except.ok.injEq]
      constructor
      · intro same
        exact ⟨by omega, same.symm⟩
      · intro same
        exact same.2.symm

theorem parseTarget_eq_ok {raw : RawTarget} {target : Target} :
    parseTarget raw = .ok target ↔ TargetOf raw target := by
  unfold parseTarget validatePricing
  simp only [bind_eq_ok, parseVendor_eq_ok, requireIdentifier_eq_ok, checkOutputTokens_eq_ok,
    validatePrice_eq_ok]
  constructor
  · rintro ⟨⟨⟩, vendor, _, ⟨model, rfl⟩, _, ⟨tokens, rfl⟩, _,
      ⟨_, ⟨input, rfl⟩, _, ⟨output, rfl⟩, ⟨⟩⟩, ⟨⟩⟩
    exact ⟨vendor, model, tokens, input, output, rfl⟩
  · rintro ⟨vendor, model, tokens, input, output, rfl⟩
    exact ⟨.openai, vendor, _, ⟨model, rfl⟩, _, ⟨tokens, rfl⟩, _,
      ⟨_, ⟨input, rfl⟩, _, ⟨output, rfl⟩, rfl⟩, rfl⟩

theorem fallbackFromValue_eq_ok {value : Json} {id : String} :
    fallbackFromValue value = .ok id ↔ value = .string id := by
  cases value <;> simp [fallbackFromValue]

/-- Fallbacks are read from an array of strings, whatever its length. -/
theorem fallbacks_eq_ok {items : List Json} {ids : List String} :
    items.mapM fallbackFromValue = .ok ids ↔ items = ids.map .string := by
  induction items generalizing ids with
  | nil =>
      cases ids with
      | nil => simp [pure, Except.pure]
      | cons id rest => simp [pure, Except.pure]
  | cons item rest ih =>
      simp only [List.mapM_cons, bind_eq_ok, fallbackFromValue_eq_ok, ih]
      constructor
      · rintro ⟨id, rfl, ids, rfl, ⟨⟩⟩
        rfl
      · intro same
        cases ids with
        | nil => cases same
        | cons id ids =>
            cases same
            exact ⟨id, rfl, ids, rfl, rfl⟩

theorem rawRoute_eq_ok {text : RouteText} {raw : RawRoute} :
    rawRoute text = .ok raw ↔ RouteOf text ⟨raw.primary, raw.fallbacks⟩ := by
  obtain ⟨primary, fallbacks⟩ := text
  obtain ⟨given, ids⟩ := raw
  unfold rawRoute RouteOf
  cases fallbacks with
  | none => simp [eq_comm]
  | some value =>
      cases value with
      | array items =>
          simp only [deserializeFallbacks, bind_eq_ok, fallbacks_eq_ok]
          constructor
          · rintro ⟨_, rfl, ⟨⟩⟩
            exact ⟨rfl, .inr rfl⟩
          · rintro ⟨rfl, ⟨⟨⟩, _⟩ | ⟨⟨⟩⟩⟩
            exact ⟨ids, rfl, rfl⟩
      | _ => simp [deserializeFallbacks]

/-- A chain of fallbacks is validated when it repeats no target and refers to configured ones. -/
theorem validateFallbacks_eq_ok {targets : HashMap Target} (named : ∀ id ∈ targets, Identifier id)
    {seen fallbacks found : List String} :
    validateFallbacks targets seen fallbacks = .ok found ↔
      found = fallbacks ∧ fallbacks.Nodup ∧ (∀ id ∈ fallbacks, id ∈ targets ∧ id ∉ seen) := by
  induction fallbacks generalizing seen found with
  | nil => simp [validateFallbacks, eq_comm]
  | cons fallback rest ih =>
      rw [validateFallbacks, bind_eq_ok]
      simp only [requireIdentifier_eq_ok]
      constructor
      · rintro ⟨_, ⟨_, rfl⟩, accepted⟩
        split at accepted
        · cases accepted
        · rename_i known
          split at accepted
          · cases accepted
          · rename_i fresh
            obtain ⟨tail, validated, ⟨⟩⟩ := bind_eq_ok.mp accepted
            obtain ⟨rfl, once, others⟩ := ih.mp validated
            refine ⟨rfl, List.nodup_cons.mpr ⟨fun again => ?_, once⟩, ?_⟩
            · exact (others _ again).2 (by simp)
            · intro id member
              rcases List.mem_cons.mp member with rfl | later
              · exact ⟨not_not.mp known, fresh⟩
              · exact ⟨(others id later).1, fun before => (others id later).2 (by simp [before])⟩
      · rintro ⟨rfl, once, others⟩
        obtain ⟨apart, once⟩ := List.nodup_cons.mp once
        obtain ⟨known, fresh⟩ := others fallback (by simp)
        refine ⟨fallback, ⟨named fallback known, rfl⟩, ?_⟩
        rw [if_neg (not_not.mpr known), if_neg fresh]
        refine bind_eq_ok.mpr ⟨rest, ih.mpr ⟨rfl, once, fun id member => ?_⟩, rfl⟩
        obtain ⟨known, fresh⟩ := others id (by simp [member])
        refine ⟨known, fun seen => ?_⟩
        rcases List.mem_append.mp seen with before | last
        · exact fresh before
        · rw [List.mem_singleton] at last
          exact apart (last ▸ member)

/-- A route is validated when its chain repeats no target and refers to configured ones. -/
theorem validateRoute_eq_ok {targets : HashMap Target} (named : ∀ id ∈ targets, Identifier id)
    {raw : RawRoute} {route : Route} :
    validateRoute targets raw = .ok route ↔ route = ⟨raw.primary, raw.fallbacks⟩ ∧
      (raw.primary :: raw.fallbacks).Nodup ∧ ∀ id ∈ raw.primary :: raw.fallbacks, id ∈ targets := by
  unfold validateRoute
  simp only [bind_eq_ok, requireIdentifier_eq_ok]
  constructor
  · rintro ⟨_, ⟨_, rfl⟩, accepted⟩
    split at accepted
    · cases accepted
    · rename_i known
      obtain ⟨fallbacks, validated, ⟨⟩⟩ := bind_eq_ok.mp accepted
      obtain ⟨rfl, once, others⟩ := (validateFallbacks_eq_ok named).mp validated
      refine ⟨rfl, List.nodup_cons.mpr ⟨fun again => ?_, once⟩, ?_⟩
      · exact (others _ again).2 (by simp)
      · intro id member
        rcases List.mem_cons.mp member with rfl | later
        · exact not_not.mp known
        · exact (others id later).1
  · rintro ⟨rfl, once, known⟩
    obtain ⟨apart, once⟩ := List.nodup_cons.mp once
    refine ⟨raw.primary, ⟨named _ (known _ (by simp)), rfl⟩, ?_⟩
    rw [if_neg (not_not.mpr (known _ (by simp)))]
    refine bind_eq_ok.mpr ⟨raw.fallbacks, (validateFallbacks_eq_ok named).mpr
      ⟨rfl, once, fun id member => ⟨known id (by simp [member]), fun same => ?_⟩⟩, rfl⟩
    rw [List.mem_singleton] at same
    exact apart (same ▸ member)

end Entries

section Maps

variable {Raw Value : Type} {message kind : String} {parse : Raw → Except ConfigError Value}

/-- The visitor accepts the deliveries exactly when all of them succeed and no key repeats. -/
theorem visitMap_eq_ok {map found : HashMap Value} {access : MapAccess Value} :
    visitMap message map access = .ok found ↔ ∃ entries : List (String × Value),
      access = entries.map .ok ∧ (entries.map Prod.fst).Nodup ∧
        (∀ key ∈ entries.map Prod.fst, key ∉ map) ∧ found = insertAll map entries := by
  induction access generalizing map with
  | nil =>
      constructor
      · rintro ⟨⟩
        exact ⟨[], rfl, List.nodup_nil, by simp, rfl⟩
      · rintro ⟨entries, empty, _, _, rfl⟩
        rw [List.map_eq_nil_iff.mp empty.symm]
        rfl
  | cons delivery rest ih =>
      rw [visitMap, bind_eq_ok]
      constructor
      · rintro ⟨⟨key, value⟩, rfl, accepted⟩
        dsimp only at accepted
        split at accepted
        · cases accepted
        · rename_i absent
          obtain ⟨entries, rfl, once, fresh, rfl⟩ := ih.mp accepted
          refine ⟨(key, value) :: entries, rfl, List.nodup_cons.mpr ⟨fun again => ?_, once⟩, ?_,
            rfl⟩
          · exact fresh key again (by simp)
          · intro other member
            rcases List.mem_cons.mp member with rfl | later
            · exact absent
            · exact fun before => fresh other later (by simp [before])
      · rintro ⟨entries, same, once, fresh, rfl⟩
        cases entries with
        | nil => cases same
        | cons entry entries =>
            cases same
            obtain ⟨apart, once⟩ := List.nodup_cons.mp once
            refine ⟨entry, rfl, ?_⟩
            dsimp only
            rw [if_neg (fresh entry.1 (by simp))]
            refine ih.mpr ⟨entries, rfl, once, fun key member => ?_, rfl⟩
            rw [AList.mem_insert, not_or]
            exact ⟨fun same => apart (same ▸ member), fresh key (by simp [member])⟩

/-- The checked entries of a map are its parsed entries. -/
theorem collect_fold {map found : HashMap Value} {entries : List (Sigma fun _ : String => Raw)} :
    entries.foldlM (collect kind parse) map = .ok found ↔
      (∀ entry ∈ entries, Identifier entry.1) ∧ ∃ parsed,
        KeyedMap.Parses parse (entries.map fun entry => (entry.1, entry.2)) parsed ∧
          found = insertAll map parsed := by
  induction entries generalizing map with
  | nil =>
      constructor
      · rintro ⟨⟩
        exact ⟨by simp, [], .nil, rfl⟩
      · rintro ⟨_, parsed, ⟨⟩, rfl⟩
        rfl
  | cons entry rest ih =>
      rw [List.foldlM_cons, bind_eq_ok]
      simp only [collect, bind_eq_ok, requireIdentifier_eq_ok, ih]
      constructor
      · rintro ⟨_, ⟨_, ⟨named, rfl⟩, value, found, ⟨⟩⟩, others, parsed, parses, rfl⟩
        exact ⟨by simpa using ⟨named, others⟩, (entry.1, value) :: parsed,
          .cons ⟨rfl, found⟩ parses, rfl⟩
      · rintro ⟨named, parsed, parses, rfl⟩
        cases parses with
        | @cons _ last _ parsed matched parses =>
            obtain ⟨key, value⟩ := last
            obtain ⟨rfl, found⟩ := matched
            exact ⟨_, ⟨entry.1, ⟨named entry (by simp), rfl⟩, value, found, rfl⟩,
              fun other member => named other (by simp [member]), parsed, parses, rfl⟩

variable {delivered : List (String × Raw)}

/-- The entries of a delivered map are the deliveries. -/
theorem mem_delivered (once : (delivered.map Prod.fst).Nodup) {entry : String × Raw} :
    entry ∈ (insertAll ∅ delivered).entries.map (fun entry => (entry.1, entry.2)) ↔
      entry ∈ delivered := by
  rw [List.mem_map]
  constructor
  · rintro ⟨found, member, rfl⟩
    exact (KeyedMap.mem_entries_insertAll once).mp member
  · intro member
    exact ⟨⟨entry.1, entry.2⟩, (KeyedMap.mem_entries_insertAll once).mpr member, rfl⟩

/-- A collected map is the parsed map of the deliveries. -/
theorem collect_eq_ok (once : (delivered.map Prod.fst).Nodup) {found : HashMap Value}
    (collected : (insertAll ∅ delivered).entries.foldlM (collect kind parse) ∅ = .ok found) :
    (∀ entry ∈ delivered, Identifier entry.1 ∧ ∃ value, parse entry.2 = .ok value) ∧
      ∀ id value, found.lookup id = some value ↔
        ∃ raw, (id, raw) ∈ delivered ∧ parse raw = .ok value := by
  obtain ⟨named, parsed, parses, rfl⟩ := collect_fold.mp collected
  have keys : (parsed.map Prod.fst).Nodup := by
    rw [parses.keys, List.map_map]
    exact (insertAll ∅ delivered).keys_nodup
  have listed : ∀ id value, (insertAll ∅ parsed).lookup id = some value ↔
      ∃ raw, (id, raw) ∈ delivered ∧ parse raw = .ok value := by
    intro id value
    simp only [KeyedMap.lookup_insertAll_empty keys, parses.mem, mem_delivered once]
  refine ⟨fun entry member => ?_, listed⟩
  have entered := (mem_delivered once).mpr member
  have key : entry.1 ∈ parsed.map Prod.fst := by
    rw [parses.keys]
    exact List.mem_map_of_mem entered
  obtain ⟨⟨id, value⟩, found, rfl⟩ := List.mem_map.mp key
  obtain ⟨raw, other, read⟩ := parses.mem.mp found
  have same : raw = entry.2 := by
    have unique := List.inj_on_of_nodup_map once ((mem_delivered once).mp other) member rfl
    exact congrArg Prod.snd unique
  exact ⟨named ⟨entry.1, entry.2⟩ ((KeyedMap.mem_entries_insertAll once).mpr member), value,
    same ▸ read⟩

/-- Deliveries that can be read one by one are collected. -/
theorem collect_succeeds (kind : String) (once : (delivered.map Prod.fst).Nodup)
    (readable : ∀ entry ∈ delivered, Identifier entry.1 ∧ ∃ value, parse entry.2 = .ok value) :
    ∃ found, (insertAll ∅ delivered).entries.foldlM (collect kind parse) ∅ = .ok found := by
  obtain ⟨parsed, parses⟩ : ∃ parsed, KeyedMap.Parses parse
      ((insertAll ∅ delivered).entries.map fun entry => (entry.1, entry.2)) parsed :=
    KeyedMap.exists_parses fun entry member => (readable entry ((mem_delivered once).mp member)).2
  refine ⟨_, collect_fold.mpr ⟨fun entry member => ?_, parsed, parses, rfl⟩⟩
  exact (readable (entry.1, entry.2) ((KeyedMap.mem_entries_insertAll once).mp member)).1

end Maps

section Load

variable {text : CatalogText} {raw : RawCatalog} {catalog : Catalog} {limits : PolicyLimits}

/-- Raw routes are delivered when their texts are and when each text can be read. -/
theorem rawRoutes_delivered {access : MapAccess RouteText} {raws : List (String × RawRoute)} :
    access.map rawRouteEntry = raws.map .ok ↔
      ∃ routes, access = routes.map .ok ∧ KeyedMap.Parses rawRoute routes raws := by
  induction access generalizing raws with
  | nil =>
      constructor
      · intro same
        rw [List.map_eq_nil_iff.mp same.symm]
        exact ⟨[], rfl, .nil⟩
      · rintro ⟨routes, empty, parses⟩
        rw [List.map_eq_nil_iff.mp empty.symm] at parses
        cases parses
        rfl
  | cons delivery rest ih =>
      constructor
      · intro same
        cases raws with
        | nil => cases same
        | cons entry raws =>
            obtain ⟨first, others⟩ := List.cons_eq_cons.mp same
            obtain ⟨⟨key, route⟩, rfl, entered⟩ := bind_eq_ok.mp first
            obtain ⟨value, read, ⟨⟩⟩ := bind_eq_ok.mp entered
            obtain ⟨routes, rfl, parses⟩ := ih.mp others
            exact ⟨(key, route) :: routes, rfl, .cons ⟨rfl, read⟩ parses⟩
      · rintro ⟨routes, same, parses⟩
        cases parses with
        | nil => cases same
        | @cons route entry routes raws matched parses =>
            obtain ⟨key, value⟩ := entry
            obtain ⟨rfl, read⟩ := matched
            cases same
            rw [List.map_cons, List.map_cons, ih.mpr ⟨routes, rfl, parses⟩]
            congr 1
            exact bind_eq_ok.mpr ⟨route, rfl, bind_eq_ok.mpr ⟨value, read, rfl⟩⟩

theorem deserialize_eq_ok :
    RawCatalog.deserialize text = .ok raw ↔ ∃ targets routes raws,
      text.targets = targets.map .ok ∧ (targets.map Prod.fst).Nodup ∧
        text.routes = routes.map .ok ∧ KeyedMap.Parses rawRoute routes raws ∧
        (routes.map Prod.fst).Nodup ∧ raw = ⟨text.version, text.defaultRoute, insertAll ∅ targets,
          insertAll ∅ raws, text.limits⟩ := by
  unfold RawCatalog.deserialize deserializeUniqueTargets deserializeUniqueRoutes
  simp only [bind_eq_ok, visitMap_eq_ok, rawRoutes_delivered]
  constructor
  · rintro ⟨_, ⟨targets, delivered, once, _, rfl⟩, _, ⟨raws, ⟨routes, listed, parses⟩, distinct, _,
      rfl⟩, ⟨⟩⟩
    rw [parses.keys] at distinct
    exact ⟨targets, routes, raws, delivered, once, listed, parses, distinct, rfl⟩
  · rintro ⟨targets, routes, raws, delivered, once, listed, parses, distinct, rfl⟩
    rw [← parses.keys] at distinct
    exact ⟨_, ⟨targets, delivered, once, by simp, rfl⟩, _,
      ⟨raws, ⟨routes, listed, parses⟩, distinct, by simp, rfl⟩, rfl⟩

theorem applyLimitToRoutes_eq_ok {catalog found : Catalog} {maxFallbackTargets : UInt32} :
    applyLimitToRoutes catalog maxFallbackTargets = .ok found ↔ found = catalog ∧
      ∀ id route, catalog.routes.lookup id = some route →
        route.fallbacks.length ≤ maxFallbackTargets.toNat := by
  have listed : (∀ id route, catalog.routes.lookup id = some route →
      route.fallbacks.length ≤ maxFallbackTargets.toNat) ↔
      ∀ entry ∈ catalog.routes.entries, entry.2.fallbacks.length ≤ maxFallbackTargets.toNat := by
    simp only [← Option.mem_def, AList.mem_lookup_iff, Sigma.forall]
  rw [listed]
  unfold applyLimitToRoutes
  split
  · rename_i entry exceeded
    obtain ⟨long, member⟩ := List.find?_eq_some_iff_append.mp exceeded
    simp only [decide_eq_true_eq] at long
    simp only [reduceCtorEq, false_iff, not_and]
    intro _ bounded
    refine absurd (bounded entry (List.mem_of_find?_eq_some exceeded)) ?_
    omega
  · rename_i bounded
    simp only [List.find?_eq_none, decide_eq_true_eq, not_lt] at bounded
    rw [Except.ok.injEq, eq_comm]
    exact ⟨fun same => ⟨same, bounded⟩, And.left⟩

/-- A map without a key has no entry, so a map with one has keys. -/
theorem keys_isEmpty_of_mem {Value : Type} {map : HashMap Value} {id : String} (member : id ∈ map) :
    map.keys.isEmpty = false := by
  rw [List.isEmpty_eq_false_iff]
  exact List.ne_nil_of_mem (AList.mem_keys.mp member)

/-- A catalog is validated when its maps are collected and its default route is one of them. -/
theorem validateCatalog_eq_ok {parsed : ParsedCatalog} :
    validateCatalog raw = .ok parsed ↔ raw.version = 1 ∧ ∃ targets routes,
      raw.targets.entries.foldlM (collect "target" parseTarget) ∅ = .ok targets ∧
      raw.routes.entries.foldlM (collect "route" (validateRoute targets)) ∅ = .ok routes ∧
      targets.keys.isEmpty = false ∧ Identifier raw.defaultRoute ∧ raw.defaultRoute ∈ routes ∧
      parsed = ⟨⟨raw.version, raw.defaultRoute, targets, routes⟩, raw.limits⟩ := by
  unfold validateCatalog
  constructor
  · intro accepted
    split at accepted
    · cases accepted
    · rename_i version
      obtain ⟨targets, collected, accepted⟩ := bind_eq_ok.mp accepted
      split at accepted
      · cases accepted
      · rename_i some
        obtain ⟨routes, routed, accepted⟩ := bind_eq_ok.mp accepted
        split at accepted
        · cases accepted
        · obtain ⟨defaultRoute, required, accepted⟩ := bind_eq_ok.mp accepted
          obtain ⟨named, rfl⟩ := requireIdentifier_eq_ok.mp required
          split at accepted
          · cases accepted
          · rename_i known
            cases accepted
            exact ⟨not_not.mp version, targets, routes, collected, routed, by simpa using some,
              named, not_not.mp known, rfl⟩
  · rintro ⟨version, targets, routes, collected, routed, nonempty, named, known, rfl⟩
    rw [if_neg (not_not.mpr version)]
    refine bind_eq_ok.mpr ⟨targets, collected, ?_⟩
    rw [if_neg (by simp [nonempty])]
    refine bind_eq_ok.mpr ⟨routes, routed, ?_⟩
    rw [if_neg (by simp [keys_isEmpty_of_mem known])]
    refine bind_eq_ok.mpr ⟨raw.defaultRoute, requireIdentifier_eq_ok.mpr ⟨named, rfl⟩, ?_⟩
    rw [if_neg (not_not.mpr known)]
    rfl

/-- A route of the text is validated exactly when its chain refers to configured targets. -/
theorem route_parsed {targets : HashMap Target} (named : ∀ id ∈ targets, Identifier id)
    {text : RouteText} {route : Route} :
    (∃ raw, rawRoute text = .ok raw ∧ validateRoute targets raw = .ok route) ↔
      RouteOf text route ∧ (route.primary :: route.fallbacks).Nodup ∧
        ∀ id ∈ route.primary :: route.fallbacks, id ∈ targets := by
  simp only [rawRoute_eq_ok, validateRoute_eq_ok named]
  constructor
  · rintro ⟨raw, read, rfl, once, known⟩
    exact ⟨read, once, known⟩
  · rintro ⟨read, once, known⟩
    exact ⟨⟨route.primary, route.fallbacks⟩, read, rfl, once, known⟩

/-- The catalog loads with its limits when each of its steps succeeds. -/
theorem loadCatalog_eq_ok {fromStr : String → Except SerdeError CatalogText} {json : String}
    {env : EnvSource} : loadCatalog fromStr (some json) env = .ok (catalog, limits) ↔
      ∃ text raw parsed, fromStr json = .ok text ∧ RawCatalog.deserialize text = .ok raw ∧
        validateCatalog raw = .ok parsed ∧ PolicyLimits.load parsed.rawLimits env = .ok limits ∧
        catalog = parsed.catalog ∧ ∀ id route, parsed.catalog.routes.lookup id = some route →
          route.fallbacks.length ≤ limits.maxFallbackTargets.toNat := by
  simp only [loadCatalog, bind_eq_ok, parseCatalog]
  constructor
  · rintro ⟨parsed, accepted, _, limited, _, applied, ⟨⟩⟩
    split at accepted
    · cases accepted
    · rename_i raw read
      obtain ⟨text, given, read⟩ := bind_eq_ok.mp read
      obtain ⟨rfl, bounded⟩ := applyLimitToRoutes_eq_ok.mp applied
      exact ⟨text, raw, parsed, given, read, accepted, limited, rfl, bounded⟩
  · rintro ⟨text, raw, parsed, given, read, accepted, limited, rfl, bounded⟩
    refine ⟨parsed, ?_, limits, limited, _, applyLimitToRoutes_eq_ok.mpr ⟨rfl, bounded⟩, rfl⟩
    rw [show fromStr json >>= RawCatalog.deserialize = .ok raw from
      bind_eq_ok.mpr ⟨text, given, read⟩]
    exact accepted

end Load

section Contents

variable {text : CatalogText} {targets : List (String × RawTarget)}
  {routes : List (String × RouteText)} {raws : List (String × RawRoute)}
  {configured : HashMap Target}

/-- A route text is read in one way. -/
theorem RouteOf.unique {text : RouteText} {first second : Route} (left : RouteOf text first)
    (right : RouteOf text second) : first = second := by
  obtain ⟨primary, fallbacks⟩ := first
  obtain ⟨other, others⟩ := second
  obtain ⟨rfl, left⟩ := left
  obtain ⟨rfl, right⟩ := right
  congr 1
  rcases left with ⟨omitted, rfl⟩ | left
  · rcases right with ⟨_, rfl⟩ | right
    · rfl
    · rw [omitted] at right
      cases right
  · rcases right with ⟨omitted, rfl⟩ | right
    · rw [omitted] at left
      cases left
    · rw [left, Option.some.injEq, Json.array.injEq] at right
      exact List.map_injective_iff.mpr (fun _ _ => Json.string.inj) right

/-- The configured targets are the identifiers of the text. -/
theorem configured_targets
    (readable : ∀ entry ∈ targets, Identifier entry.1 ∧ ∃ target, parseTarget entry.2 = .ok target)
    (listed : ∀ id target, configured.lookup id = some target ↔
      ∃ raw, (id, raw) ∈ targets ∧ parseTarget raw = .ok target) (id : String) :
    (id ∈ configured ↔ id ∈ targets.map Prod.fst) ∧ (id ∈ configured → Identifier id) := by
  have known : id ∈ configured ↔ id ∈ targets.map Prod.fst := by
    rw [← AList.lookup_isSome, Option.isSome_iff_exists]
    simp only [listed]
    constructor
    · rintro ⟨target, raw, member, _⟩
      exact List.mem_map.mpr ⟨(id, raw), member, rfl⟩
    · intro member
      obtain ⟨⟨_, raw⟩, listed, rfl⟩ := List.mem_map.mp member
      obtain ⟨_, target, parsed⟩ := readable _ listed
      exact ⟨target, raw, listed, parsed⟩
  refine ⟨known, fun member => ?_⟩
  obtain ⟨entry, listed, rfl⟩ := List.mem_map.mp (known.mp member)
  exact (readable entry listed).1

/-- The routes of the text are collected exactly when their chains are configured. -/
theorem collected_routes (named : ∀ id ∈ configured, Identifier id)
    (parses : KeyedMap.Parses rawRoute routes raws) {id : String} {route : Route} :
    (∃ raw, (id, raw) ∈ raws ∧ validateRoute configured raw = .ok route) ↔
      ∃ raw, (id, raw) ∈ routes ∧ RouteOf raw route ∧ (route.primary :: route.fallbacks).Nodup ∧
        ∀ id ∈ route.primary :: route.fallbacks, id ∈ configured := by
  simp only [← route_parsed named, parses.mem]
  constructor
  · rintro ⟨raw, ⟨text, member, read⟩, validated⟩
    exact ⟨text, member, raw, read, validated⟩
  · rintro ⟨text, member, raw, read, validated⟩
    exact ⟨raw, ⟨text, member, read⟩, validated⟩

end Contents

/-- The loaded catalog holds its text, and the text could be loaded. -/
theorem load_holds {fromStr : String → Except SerdeError CatalogText} {json : String}
    {env : EnvSource} {catalog : Catalog} {limits : PolicyLimits}
    (loaded : loadCatalog fromStr (some json) env = .ok (catalog, limits)) :
    ∃ text targets routes, fromStr json = .ok text ∧
      PolicyLimits.load text.limits env = .ok limits ∧
      Loadable text limits.maxFallbackTargets.toNat targets routes ∧
      Holds catalog text targets routes := by
  obtain ⟨text, raw, parsed, given, read, accepted, limited, rfl, bounded⟩ :=
    loadCatalog_eq_ok.mp loaded
  obtain ⟨targets, routes, raws, delivered, once, listed, parses, distinct, rfl⟩ :=
    deserialize_eq_ok.mp read
  obtain ⟨version, configured, routed, collecting, routing, nonempty, named, known, rfl⟩ :=
    validateCatalog_eq_ok.mp accepted
  have distinctRaws : (raws.map Prod.fst).Nodup := parses.keys ▸ distinct
  obtain ⟨readable, targetMap⟩ := collect_eq_ok once collecting
  obtain ⟨routable, routeMap⟩ := collect_eq_ok distinctRaws routing
  have configuredTargets := configured_targets readable targetMap
  have identifiers : ∀ id ∈ configured, Identifier id := fun id => (configuredTargets id).2
  have chains : ∀ entry ∈ routes, Identifier entry.1 ∧ ∃ route, RouteOf entry.2 route ∧
      (route.primary :: route.fallbacks).Nodup ∧
      (∀ id ∈ route.primary :: route.fallbacks, id ∈ targets.map Prod.fst) ∧
      route.fallbacks.length ≤ limits.maxFallbackTargets.toNat := by
    intro entry member
    obtain ⟨raw, read⟩ := parses.readable entry member
    have entered : (entry.1, raw) ∈ raws := parses.mem.mpr ⟨entry.2, member, read⟩
    obtain ⟨named, route, validated⟩ := routable _ entered
    obtain ⟨reads, repeated, references⟩ := (route_parsed identifiers).mp ⟨raw, read, validated⟩
    refine ⟨named, route, reads, repeated, fun id member => ?_, ?_⟩
    · exact (configuredTargets id).1.mp (references id member)
    · exact bounded entry.1 route ((routeMap _ _).mpr ⟨raw, entered, validated⟩)
  refine ⟨text, targets, routes, given, limited, ⟨version, delivered, listed, once, distinct, ?_,
    chains, ?_⟩, ?_⟩
  · intro entry member
    obtain ⟨named, target, parsed⟩ := readable entry member
    exact ⟨named, target, parseTarget_eq_ok.mp parsed⟩
  · rw [← parses.keys]
    obtain ⟨route, found⟩ := Option.isSome_iff_exists.mp (AList.lookup_isSome.mpr known)
    obtain ⟨raw, member, _⟩ := (routeMap _ _).mp found
    exact List.mem_map.mpr ⟨_, member, rfl⟩
  · refine ⟨rfl, rfl, fun id target => ?_, fun id route => ?_⟩
    · simp only [targetMap, parseTarget_eq_ok]
    · rw [routeMap, collected_routes identifiers parses]
      constructor
      · rintro ⟨raw, member, reads, _⟩
        exact ⟨raw, member, reads⟩
      · rintro ⟨raw, member, reads⟩
        obtain ⟨_, other, again, repeated, references, _⟩ := chains _ member
        obtain rfl := reads.unique again
        exact ⟨raw, member, reads, repeated, fun id member =>
          (configuredTargets id).1.mpr (references id member)⟩

/-- A text that can be loaded is loaded with its limits. -/
theorem load_succeeds {fromStr : String → Except SerdeError CatalogText} {json : String}
    {env : EnvSource} {text : CatalogText} {limits : PolicyLimits}
    {targets : List (String × RawTarget)} {routes : List (String × RouteText)}
    (given : fromStr json = .ok text) (limited : PolicyLimits.load text.limits env = .ok limits)
    (loadable : Loadable text limits.maxFallbackTargets.toNat targets routes) :
    ∃ catalog, loadCatalog fromStr (some json) env = .ok (catalog, limits) := by
  obtain ⟨raws, parses⟩ : ∃ raws, KeyedMap.Parses rawRoute routes raws := by
    refine KeyedMap.exists_parses fun entry member => ?_
    obtain ⟨_, route, reads, _⟩ := loadable.routeEntries entry member
    exact ⟨⟨route.primary, route.fallbacks⟩, rawRoute_eq_ok.mpr reads⟩
  have distinctRaws : (raws.map Prod.fst).Nodup := parses.keys.symm ▸ loadable.routesOnce
  have readable : ∀ entry ∈ targets, Identifier entry.1 ∧
      ∃ target, parseTarget entry.2 = .ok target := by
    intro entry member
    obtain ⟨named, target, parsed⟩ := loadable.targetEntries entry member
    exact ⟨named, target, parseTarget_eq_ok.mpr parsed⟩
  obtain ⟨configured, collecting⟩ := collect_succeeds "target" loadable.targetsOnce readable
  obtain ⟨_, targetMap⟩ := collect_eq_ok loadable.targetsOnce collecting
  have configuredTargets := configured_targets readable targetMap
  have identifiers : ∀ id ∈ configured, Identifier id := fun id => (configuredTargets id).2
  have routable : ∀ entry ∈ raws, Identifier entry.1 ∧
      ∃ route, validateRoute configured entry.2 = .ok route := by
    intro entry member
    obtain ⟨text, member, read⟩ := parses.mem.mp member
    obtain ⟨named, route, reads, repeated, references, _⟩ := loadable.routeEntries _ member
    obtain ⟨raw, again, validated⟩ := (route_parsed identifiers).mpr
      ⟨reads, repeated, fun id member => (configuredTargets id).1.mpr (references id member)⟩
    rw [read, Except.ok.injEq] at again
    exact ⟨named, route, again ▸ validated⟩
  obtain ⟨routed, routing⟩ := collect_succeeds "route" distinctRaws routable
  obtain ⟨_, routeMap⟩ := collect_eq_ok distinctRaws routing
  have defaultRoute : text.defaultRoute ∈ raws.map Prod.fst :=
    parses.keys.symm ▸ loadable.defaultRoute
  obtain ⟨⟨id, raw⟩, member, same⟩ := List.mem_map.mp defaultRoute
  obtain rfl : id = text.defaultRoute := same
  obtain ⟨named, route, validated⟩ := routable _ member
  have known : text.defaultRoute ∈ routed :=
    AList.lookup_isSome.mp (Option.isSome_iff_exists.mpr ⟨route, (routeMap _ _).mpr
      ⟨raw, member, validated⟩⟩)
  have primary := ((validateRoute_eq_ok identifiers).mp validated).2.2 raw.primary (by simp)
  refine ⟨⟨text.version, text.defaultRoute, configured, routed⟩,
    loadCatalog_eq_ok.mpr ⟨text, _, _, given, deserialize_eq_ok.mpr ⟨targets, routes, raws,
      loadable.deliversTargets, loadable.targetsOnce, loadable.deliversRoutes, parses,
      loadable.routesOnce, rfl⟩, validateCatalog_eq_ok.mpr ⟨loadable.version, configured, routed,
      collecting, routing, keys_isEmpty_of_mem primary, named, known, rfl⟩, limited, rfl, ?_⟩⟩
  intro id route found
  obtain ⟨raw, member, reads, _⟩ :=
    (collected_routes identifiers parses).mp ((routeMap id route).mp found)
  obtain ⟨_, other, again, _, _, bounded⟩ := loadable.routeEntries _ member
  obtain rfl := reads.unique again
  exact bounded

end Opmux
