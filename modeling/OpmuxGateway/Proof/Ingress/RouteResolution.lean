import OpmuxGateway.Construction.Ingress.Routing
import OpmuxGateway.Proof.Core.SettingsLoad
import OpmuxGateway.Proof.Executor.Registry

/-
This file proves that each route of a loaded catalog resolves to a plan that the executor can run.
-/

namespace Opmux.Ingress

open Except (bind_eq_ok)
open Executor

/-- The hops of a plan are its own target and its fallbacks. -/
def hops (plan : RoutePlan) : List RoutePlan := plan :: plan.fallbackPlans

/-- A hop of a plan names a configured target and carries its values. -/
def Configured (catalog : Catalog) (hop : RoutePlan) : Prop :=
  ∃ target, catalog.targets.lookup hop.targetId = some target ∧
    hop.vendorId = target.vendor.asStr ∧ hop.modelId = target.model ∧
    hop.maxOutputTokens = target.maxOutputTokens

/-- A resolved route follows a configured chain in its order. -/
structure Resolves (catalog : Catalog) (resolved : ResolvedRoute) : Prop where
  route : ∃ route, catalog.routes.lookup resolved.routeId = some route ∧
    resolved.targetId = route.primary ∧
    (hops resolved.plan).map RoutePlan.targetId <+: route.primary :: route.fallbacks
  target : resolved.plan.targetId = resolved.targetId
  cap : resolved.maxOutputTokens = resolved.plan.maxOutputTokens
  configured : ∀ hop ∈ hops resolved.plan, Configured catalog hop
  flat : ∀ hop ∈ resolved.plan.fallbackPlans, hop.fallbackPlans = []

section Resolution

variable {catalog : Catalog}

theorem target_eq_ok {id : String} {found : Target} :
    target catalog id = .ok found ↔ catalog.targets.lookup id = some found := by
  unfold target
  split
  · rename_i given same
    simp [same]
  · rename_i missing
    simp [missing]

theorem configured_planForTarget {id : String} {found : Target} {fallbackPlans : List RoutePlan}
    (known : catalog.targets.lookup id = some found) :
    Configured catalog (planForTarget id found fallbackPlans) :=
  ⟨found, known, rfl, rfl, rfl⟩

/-- The fallback plans are flat plans of their targets, in the order of the route. -/
theorem fallbackPlans_eq_ok {ids : List String} {plans : List RoutePlan}
    (planned : ids.mapM (fallbackPlan catalog) = .ok plans) :
    plans.map RoutePlan.targetId = ids ∧
      ∀ plan ∈ plans, Configured catalog plan ∧ plan.fallbackPlans = [] := by
  induction ids generalizing plans with
  | nil =>
      cases planned
      exact ⟨rfl, by simp⟩
  | cons id rest ih =>
      rw [List.mapM_cons, bind_eq_ok] at planned
      obtain ⟨plan, first, planned⟩ := planned
      obtain ⟨others, later, ⟨⟩⟩ := bind_eq_ok.mp planned
      obtain ⟨found, known, ⟨⟩⟩ := bind_eq_ok.mp first
      obtain ⟨rfl, configured⟩ := ih later
      refine ⟨rfl, fun plan member => ?_⟩
      rcases List.mem_cons.mp member with rfl | member
      · exact ⟨configured_planForTarget (target_eq_ok.mp known), rfl⟩
      · exact configured plan member

/-- Configured fallbacks are all planned. -/
theorem fallbackPlans_succeed {ids : List String} (known : ∀ id ∈ ids, id ∈ catalog.targets) :
    ∃ plans, ids.mapM (fallbackPlan catalog) = .ok plans := by
  induction ids with
  | nil => exact ⟨[], rfl⟩
  | cons id rest ih =>
      obtain ⟨found, given⟩ :=
        Option.isSome_iff_exists.mp (AList.lookup_isSome.mpr (known id (by simp)))
      obtain ⟨plans, planned⟩ := ih fun other member => known other (by simp [member])
      refine ⟨planForTarget id found [] :: plans, ?_⟩
      rw [List.mapM_cons]
      exact bind_eq_ok.mpr ⟨_, bind_eq_ok.mpr ⟨found, target_eq_ok.mpr given, rfl⟩,
        bind_eq_ok.mpr ⟨plans, planned, rfl⟩⟩

theorem resolveRoute_eq_ok {requestedRoute : Option String} {allowFallback : Option Bool}
    {resolved : ResolvedRoute}
    (resolves : resolveRoute catalog requestedRoute allowFallback = .ok resolved) :
    Resolves catalog resolved := by
  unfold resolveRoute at resolves
  obtain ⟨routeId, _, resolves⟩ := bind_eq_ok.mp resolves
  split at resolves
  · cases resolves
  · rename_i route routed
    obtain ⟨primary, known, resolves⟩ := bind_eq_ok.mp resolves
    have first (plans : List RoutePlan) :
        Configured catalog (planForTarget route.primary primary plans) :=
      configured_planForTarget (target_eq_ok.mp known)
    dsimp only at resolves
    split at resolves
    · obtain ⟨fallbackPlans, planned, ⟨⟩⟩ := bind_eq_ok.mp resolves
      obtain ⟨listed, configured⟩ := fallbackPlans_eq_ok planned
      refine ⟨⟨route, routed, rfl, ?_⟩, rfl, rfl, ?_, fun plan member => (configured plan member).2⟩
      · simp [hops, planForTarget, listed]
      · intro hop member
        rcases List.mem_cons.mp member with rfl | member
        · exact first _
        · exact (configured hop member).1
    · cases resolves
      refine ⟨⟨route, routed, rfl, ?_⟩, rfl, rfl, ?_, by simp [planForTarget]⟩
      · simp [hops, planForTarget]
      · intro hop member
        rw [List.mem_singleton.mp member]
        exact first _

/-- A catalog is sound when each chain refers to configured targets. -/
theorem resolveRoute_total (defaultRoute : catalog.defaultRoute ∈ catalog.routes)
    (chains : ∀ id route, catalog.routes.lookup id = some route →
      ∀ target ∈ route.primary :: route.fallbacks, target ∈ catalog.targets)
    (requestedRoute : Option String) (allowFallback : Option Bool) :
    resolveRoute catalog requestedRoute allowFallback =
        .error (.invalidRequest "Unknown route") ∨
      ∃ resolved, resolveRoute catalog requestedRoute allowFallback = .ok resolved := by
  have selected : selectedRoute catalog requestedRoute = .error (.invalidRequest "Unknown route") ∨
      ∃ routeId ∈ catalog.routes, selectedRoute catalog requestedRoute = .ok routeId := by
    cases requestedRoute with
    | none => exact .inr ⟨_, defaultRoute, rfl⟩
    | some name =>
        simp only [selectedRoute]
        split
        · rename_i configured
          simp only [isConfiguredRoute, Bool.and_eq_true, decide_eq_true_eq] at configured
          exact .inr ⟨name, configured.2, rfl⟩
        · exact .inl rfl
  rcases selected with refused | ⟨routeId, routed, selected⟩
  · left
    rw [resolveRoute, refused]
    rfl
  · right
    obtain ⟨route, found⟩ := Option.isSome_iff_exists.mp (AList.lookup_isSome.mpr routed)
    have known := chains routeId route found
    obtain ⟨primary, given⟩ :=
      Option.isSome_iff_exists.mp (AList.lookup_isSome.mpr (known route.primary (by simp)))
    obtain ⟨plans, planned⟩ : ∃ plans, route.fallbacks.mapM (fallbackPlan catalog) = .ok plans :=
      fallbackPlans_succeed fun id member => known id (by simp [member])
    have resolved (fallbackPlans : List RoutePlan) (chosen : (if allowFallback ≠ some false then
        route.fallbacks.mapM (fallbackPlan catalog) else .ok []) = .ok fallbackPlans) :
        resolveRoute catalog requestedRoute allowFallback = .ok ⟨routeId, route.primary,
          primary.maxOutputTokens, planForTarget route.primary primary fallbackPlans⟩ := by
      unfold resolveRoute
      refine bind_eq_ok.mpr ⟨routeId, selected, ?_⟩
      rw [found]
      refine bind_eq_ok.mpr ⟨primary, target_eq_ok.mpr given, ?_⟩
      dsimp only
      split at chosen
      · rename_i allowed
        rw [if_pos allowed, chosen]
        rfl
      · rename_i refused
        rw [if_neg refused, chosen]
        rfl
    by_cases allowed : allowFallback ≠ some false
    · exact ⟨_, resolved plans (by rw [if_pos allowed, planned])⟩
    · exact ⟨_, resolved [] (if_neg allowed)⟩

end Resolution

/-- The executor can run a hop when its vendor is registered, serves its model, and has exactly
the prices of its target. -/
structure Runnable (repository : ExecutorRepository) (catalog : Catalog) (hop : RoutePlan) :
    Prop where
  serves : ∃ config, repository.getVendor hop.vendorId = .ok config ∧
    OpenAIVendor.supportsModel config hop.modelId = true ∧
    ∃ target, catalog.targets.lookup hop.targetId = some target ∧
      config.pricing.lookup hop.targetId = some (pricesOf target) ∧
      ∀ arithmetic fromSlice body, Executor.parseSuccessfulChatCompletion arithmetic fromSlice body
        (config.pricing.lookup hop.targetId) ≠ .error .missingPricing
  calls : ∀ params, params.stream = false → ∃ request,
    repository.callLlm hop params = .ok request ∧ request.model = hop.modelId

theorem isFiniteNonnegative_of_price {value : F64} (price : Price value) :
    Executor.F64.isFiniteNonnegative value = true := by
  obtain ⟨amount, rfl, nonnegative, _⟩ := price
  simpa [Executor.F64.isFiniteNonnegative] using nonnegative

section Registry

variable {settings : Settings} {repository : ExecutorRepository} {hop : RoutePlan}

theorem supportsModel_of_configured (configured : Configured settings.catalog hop) :
    OpenAIVendor.supportsModel (OpenAIConfig.fromSettings settings) hop.modelId = true := by
  obtain ⟨target, known, _, model, _⟩ := configured
  rw [OpenAIVendor.supportsModel, decide_eq_true_eq]
  exact OpenAIConfig.supportedModels_fromSettings.mpr ⟨hop.targetId, target, known, model.symm⟩

theorem getVendor_of_configured
    (registered : repository.getVendor "openai" = .ok (OpenAIConfig.fromSettings settings))
    (configured : Configured settings.catalog hop) :
    repository.getVendor hop.vendorId = .ok (OpenAIConfig.fromSettings settings) := by
  obtain ⟨target, _, vendor, _⟩ := configured
  rw [vendor]
  exact registered

/-- A configured hop is called with its own model and the given parameters. -/
theorem callLlm_of_configured
    (registered : repository.getVendor "openai" = .ok (OpenAIConfig.fromSettings settings))
    (configured : Configured settings.catalog hop) (params : ExecutionParams)
    (unstreamed : params.stream = false) :
    repository.callLlm hop params = .ok
      ⟨hop.modelId, params.messages, params.temperature, params.maxTokens, params.topP⟩ := by
  refine bind_eq_ok.mpr ⟨_, getVendor_of_configured registered configured, ?_⟩
  simp [OpenAIVendor.completionRequest, supportsModel_of_configured configured, unstreamed]

/-- The registry that the settings configure can run each configured hop. -/
theorem runnable_of_configured
    (registered : repository.getVendor "openai" = .ok (OpenAIConfig.fromSettings settings))
    (priced : ∀ id target, settings.catalog.targets.lookup id = some target →
      Price target.pricing.inputPerMillion ∧ Price target.pricing.outputPerMillion)
    (configured : Configured settings.catalog hop) :
    Runnable repository settings.catalog hop := by
  constructor
  · obtain ⟨target, known, _⟩ := id configured
    have prices : (OpenAIConfig.fromSettings settings).pricing.lookup hop.targetId =
        some (pricesOf target) := OpenAIConfig.pricing_fromSettings.mpr ⟨target, known, rfl⟩
    obtain ⟨input, output⟩ := priced hop.targetId target known
    refine ⟨_, getVendor_of_configured registered configured,
      supportsModel_of_configured configured, target, known, prices,
      fun arithmetic fromSlice body => ?_⟩
    rw [prices]
    exact Executor.parseSuccessfulChatCompletion_priced (isFiniteNonnegative_of_price input)
      (isFiniteNonnegative_of_price output)
  · intro params unstreamed
    exact ⟨_, callLlm_of_configured registered configured params unstreamed, rfl⟩

end Registry

/-- A request on a loaded catalog names no configured route, or it resolves to a bounded chain of
distinct targets that the registry can run. -/
theorem loaded_catalog_resolves (fromStr : String → Except SerdeError CatalogText) (json : String)
    (env : EnvSource) (settings : Settings)
    (loaded : loadCatalog fromStr (some json) env = .ok (settings.catalog, settings.limits)) :
    ∃ repository,
      ExecutorRepository.fromConfig (some (OpenAIConfig.fromSettings settings)) = .ok repository ∧
      ∀ requestedRoute allowFallback,
        resolveRoute settings.catalog requestedRoute allowFallback =
            .error (.invalidRequest "Unknown route") ∨
          ∃ resolved, resolveRoute settings.catalog requestedRoute allowFallback = .ok resolved ∧
            Resolves settings.catalog resolved ∧
            ((hops resolved.plan).map RoutePlan.targetId).Nodup ∧
            (hops resolved.plan).length ≤ 1 + settings.limits.maxFallbackTargets.toNat ∧
            ∀ hop ∈ hops resolved.plan, Runnable repository settings.catalog hop := by
  obtain ⟨text, targets, routes, _, _, loadable, holds⟩ := load_holds loaded
  obtain ⟨repository, built, registered⟩ :=
    Executor.fromConfig_openai (OpenAIConfig.fromSettings settings)
  -- Each configured chain is one of the text.
  have chains : ∀ id route, settings.catalog.routes.lookup id = some route →
      (route.primary :: route.fallbacks).Nodup ∧
      (∀ target ∈ route.primary :: route.fallbacks, target ∈ settings.catalog.targets) ∧
      route.fallbacks.length ≤ settings.limits.maxFallbackTargets.toNat := by
    intro id route found
    obtain ⟨raw, member, reads⟩ := (holds.routes id route).mp found
    obtain ⟨_, other, again, once, references, bounded⟩ := loadable.routeEntries _ member
    obtain rfl := reads.unique again
    refine ⟨once, fun target member => ?_, bounded⟩
    obtain ⟨⟨_, given⟩, entered, rfl⟩ := List.mem_map.mp (references target member)
    obtain ⟨_, parsed, targetOf⟩ := loadable.targetEntries _ entered
    exact AList.lookup_isSome.mp (Option.isSome_iff_exists.mpr
      ⟨parsed, (holds.targets _ _).mpr ⟨given, entered, targetOf⟩⟩)
  have defaultRoute : settings.catalog.defaultRoute ∈ settings.catalog.routes := by
    rw [holds.defaultRoute]
    obtain ⟨⟨id, raw⟩, entered, same⟩ := List.mem_map.mp loadable.defaultRoute
    obtain ⟨_, route, reads, _⟩ := loadable.routeEntries _ entered
    rw [← same]
    exact AList.lookup_isSome.mp (Option.isSome_iff_exists.mpr
      ⟨route, (holds.routes _ _).mpr ⟨raw, entered, reads⟩⟩)
  have priced : ∀ id target, settings.catalog.targets.lookup id = some target →
      Price target.pricing.inputPerMillion ∧ Price target.pricing.outputPerMillion := by
    intro id target found
    obtain ⟨raw, _, targetOf⟩ := (holds.targets id target).mp found
    rw [targetOf.same]
    exact ⟨targetOf.inputPrice, targetOf.outputPrice⟩
  refine ⟨repository, built, fun requestedRoute allowFallback => ?_⟩
  rcases resolveRoute_total defaultRoute (fun id route found => (chains id route found).2.1)
    requestedRoute allowFallback with refused | ⟨resolved, resolved_ok⟩
  · exact .inl refused
  · have resolves := resolveRoute_eq_ok resolved_ok
    obtain ⟨route, found, _, followed⟩ := resolves.route
    obtain ⟨once, _, bounded⟩ := chains _ route found
    refine .inr ⟨resolved, resolved_ok, resolves, once.sublist followed.sublist, ?_,
      fun hop member => runnable_of_configured registered priced (resolves.configured hop member)⟩
    have length := followed.length_le
    rw [List.length_map, List.length_cons] at length
    omega

theorem loaded_catalog_resolves_example :
    ∃ repository, ExecutorRepository.fromConfig
        (some (OpenAIConfig.fromSettings sampleSettings)) = .ok repository ∧
      ∃ resolved, resolveRoute sampleSettings.catalog none none = .ok resolved ∧
        ∀ hop ∈ hops resolved.plan, Runnable repository sampleSettings.catalog hop := by
  obtain ⟨repository, built, resolves⟩ := loaded_catalog_resolves sampleFromStr sampleJson
    sampleEnv sampleSettings (fromCatalogPath_eq_ok.mp sampleJson_loads).1
  refine ⟨repository, built, ?_⟩
  rcases resolves none none with refused | ⟨resolved, routed, _, _, _, runnable⟩
  · cases refused
  · exact ⟨resolved, routed, runnable⟩

end Opmux.Ingress
