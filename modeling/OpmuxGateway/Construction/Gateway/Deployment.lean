import OpmuxGateway.Construction.Auth.Replica
import OpmuxGateway.Construction.Gateway.Protected

/-
This file gives a deployment of the gateway that serves the requests of one client in their order.
-/

namespace Opmux.Gateway

/-- A deployment is a replica with its database and the world around it. -/
structure Deployment (World : Type) where
  replica : Auth.Replica
  world : World

variable {World : Type}

/-- The replica answers the authentication service, and the world answers everything else. -/
def Deployment.answer (outside : World → (request : GatewayRequest) → request.Reply × World)
    (deployment : Deployment World) :
    (request : GatewayRequest) → request.Reply × Deployment World
  | .auth request =>
      ((deployment.replica.answer request).1,
        { deployment with replica := (deployment.replica.answer request).2 })
  | request =>
      ((outside deployment.world request).1,
        { deployment with world := (outside deployment.world request).2 })

/-- The requests follow each other, and a dropped request ends alone. -/
def session (state : AppState) (requests : List ProtectedRequest) :
    GatewayEffect (List (Option ProtectedResponse)) :=
  requests.mapM fun request => (deadlineMiddleware state request).attempt

/-- The answers and the deployment that a session leaves behind. -/
def serveSession (outside : World → (request : GatewayRequest) → request.Reply × World)
    (state : AppState) (requests : List ProtectedRequest) (deployment : Deployment World) :
    Option (List (Option ProtectedResponse)) × Deployment World :=
  (session state requests).serve (Deployment.answer outside) deployment

end Opmux.Gateway
