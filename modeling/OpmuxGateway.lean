import OpmuxGateway.Library.EventSystem
import OpmuxGateway.Library.Breaker
import OpmuxGateway.Library.Interaction
import OpmuxGateway.Library.Observer
import OpmuxGateway.Construction.Core.Time
import OpmuxGateway.Construction.Core.Text
import OpmuxGateway.Construction.Core.Json
import OpmuxGateway.Construction.Core.Contracts
import OpmuxGateway.Construction.Executor.Circuit
import OpmuxGateway.Construction.Executor.CircuitWorld
import OpmuxGateway.Construction.Executor.Models
import OpmuxGateway.Construction.Executor.Effect
import OpmuxGateway.Construction.Executor.Budget
import OpmuxGateway.Construction.Executor.Service
import OpmuxGateway.Proof.Executor.CircuitStep
import OpmuxGateway.Proof.Executor.AttemptDerivation
import OpmuxGateway.Proof.Executor.ExecutionDerivation
import OpmuxGateway.Proof.Executor.ProbeOwnership
import OpmuxGateway.Proof.Executor.Cooldown
import OpmuxGateway.Proof.Executor.BreakerRefinement
import OpmuxGateway.Proof.Executor.CallBounds
import OpmuxGateway.Proof.Executor.Decision
import OpmuxGateway.Proof.Executor.DeadlineSafety
import OpmuxGateway.Construction.Executor.OpenAi
import OpmuxGateway.Proof.Executor.RetryAfter
import OpmuxGateway.Proof.Executor.FallbackChain
import OpmuxGateway.Proof.Executor.HopSettlement
import OpmuxGateway.Proof.Executor.CircuitOpenReport
import OpmuxGateway.Proof.Executor.ThrottleDeadline
import OpmuxGateway.Construction.Auth.Models
import OpmuxGateway.Construction.Auth.Schema
import OpmuxGateway.Construction.Auth.Store
import OpmuxGateway.Construction.Auth.Provision
import OpmuxGateway.Construction.Auth.Service
import OpmuxGateway.Proof.Auth.StoreOperations
import OpmuxGateway.Construction.Auth.Replica
import OpmuxGateway.Proof.Auth.ClockOrder
import OpmuxGateway.Library.Paging
import OpmuxGateway.Proof.Auth.StoreGrowth
import OpmuxGateway.Proof.Auth.InventoryPaging
import OpmuxGateway.Construction.Core.Catalog
import OpmuxGateway.Construction.Core.Lifecycle
import OpmuxGateway.Construction.Executor.Repository
import OpmuxGateway.Construction.Gateway.Effect
import OpmuxGateway.Construction.Ingress.Routing
import OpmuxGateway.Construction.Ingress.Service
import OpmuxGateway.Proof.Ingress.RequestParsing
import OpmuxGateway.Construction.Core.Limits
import OpmuxGateway.Construction.Executor.BoundedBody
import OpmuxGateway.Construction.Executor.OpenAiResponse
import OpmuxGateway.Construction.Executor.ResponseArrival
import OpmuxGateway.Construction.Health.Readiness
import OpmuxGateway.Proof.Core.CanonicalJson
import OpmuxGateway.Proof.Core.JsonNumber
import OpmuxGateway.Proof.Core.Limits
import OpmuxGateway.Proof.Core.Text
import OpmuxGateway.Proof.Executor.BoundedBody
import OpmuxGateway.Proof.Executor.CircuitMetrics
import OpmuxGateway.Proof.Executor.LimitConversions
import OpmuxGateway.Proof.Executor.OpenAiResponse
import OpmuxGateway.Proof.Executor.ThrottleRefinement
import OpmuxGateway.Proof.Health.ReadinessFreshness
import OpmuxGateway.Proof.Ingress.RequestContract
import OpmuxGateway.Construction.Auth.Credentials
import OpmuxGateway.Construction.Auth.FailingStore
import OpmuxGateway.Construction.Auth.Handler
import OpmuxGateway.Proof.Auth.CreationContent
import OpmuxGateway.Proof.Auth.ProvisioningAtomicity
import OpmuxGateway.Construction.Gateway.Process
import OpmuxGateway.Construction.Gateway.Protected
import OpmuxGateway.Library.Outcomes
import OpmuxGateway.Library.PermitPool
import OpmuxGateway.Proof.Auth.HandlerErrors
import OpmuxGateway.Proof.Gateway.DeadlineCounter
import OpmuxGateway.Proof.Gateway.DrainSafety
import OpmuxGateway.Construction.Core.CatalogLoad
import OpmuxGateway.Library.KeyedMap
import OpmuxGateway.Proof.Core.CatalogLoad
import OpmuxGateway.Proof.Executor.CallParameters
import OpmuxGateway.Proof.Executor.Registry
import OpmuxGateway.Proof.Ingress.ProviderCalls
import OpmuxGateway.Construction.Gateway.Deployment
import OpmuxGateway.Library.Monitor
import OpmuxGateway.Proof.Auth.TenantView
import OpmuxGateway.Proof.Gateway.AdmissionProtocol
import OpmuxGateway.Proof.Gateway.RequestAuthority
import OpmuxGateway.Proof.Gateway.TenantIsolation
import OpmuxGateway.Construction.Auth.SharedStore
import OpmuxGateway.Proof.Auth.InterleavedStore
import OpmuxGateway.Proof.Auth.RevocationSafety
import OpmuxGateway.Proof.Auth.DurableAnswers
import OpmuxGateway.Proof.Auth.ProvisionedClients
import OpmuxGateway.Construction.Core.ConfigError
import OpmuxGateway.Construction.Core.SocketAddr
import OpmuxGateway.Construction.Core.SettingsLoad
import OpmuxGateway.Proof.Core.SettingsLoad
import OpmuxGateway.Construction.Executor.VendorCall
import OpmuxGateway.Proof.Executor.VendorErrors
