import OpmuxGateway.Construction.Ingress.Validate

/-
This file gives the selection of a configured route and its plan.
-/

namespace Opmux.Ingress

structure ResolvedRoute where
  routeId : String
  targetId : String
  maxOutputTokens : UInt32
  plan : RoutePlan

def isConfiguredRoute (catalog : Catalog) (name : String) : Bool :=
  decide (name ≠ "") && decide (trim name = name) && decide (name ∈ catalog.routes)

def target (catalog : Catalog) (id : String) : Except IngressError Target :=
  match catalog.targets.lookup id with
  | some target => .ok target
  | none => .error .requestOrchestrationFailed

def planForTarget (id : String) (target : Target) (fallbackPlans : List RoutePlan) : RoutePlan where
  vendorId := target.vendor.asStr
  targetId := id
  modelId := target.model
  maxOutputTokens := target.maxOutputTokens
  fallbackPlans := fallbackPlans

def fallbackPlan (catalog : Catalog) (id : String) : Except IngressError RoutePlan := do
  let fallback ← target catalog id
  return planForTarget id fallback []

/-- An omitted route is the default one, and a named route must be configured. -/
def selectedRoute (catalog : Catalog) (requestedRoute : Option String) :
    Except IngressError String :=
  match requestedRoute with
  | none => .ok catalog.defaultRoute
  | some name =>
      if isConfiguredRoute catalog name then .ok name
      else .error (.invalidRequest "Unknown route")

/-- The plan has the fallbacks of its route unless the request opts out of them. -/
def resolveRoute (catalog : Catalog) (requestedRoute : Option String)
    (allowFallback : Option Bool) : Except IngressError ResolvedRoute := do
  let routeId ← selectedRoute catalog requestedRoute
  match catalog.routes.lookup routeId with
  | none => .error .requestOrchestrationFailed
  | some route => do
      let primary ← target catalog route.primary
      let fallbackPlans ←
        if allowFallback ≠ some false then route.fallbacks.mapM (fallbackPlan catalog)
        else .ok []
      return {
        routeId
        targetId := route.primary
        maxOutputTokens := primary.maxOutputTokens
        plan := planForTarget route.primary primary fallbackPlans }

end Opmux.Ingress
