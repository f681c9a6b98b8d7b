import WayfinderRouter.Access.AdmissionStores
import WayfinderRouter.Access.Tokens
import WayfinderRouter.Audit.Pipeline
import WayfinderRouter.Codex.Jsonl
import WayfinderRouter.Codex.Notifications
import WayfinderRouter.Config.BooleanSite
import WayfinderRouter.Config.GatewayRoundTrip
import WayfinderRouter.ControlPlane.Lifecycle
import WayfinderRouter.ControlPlane.Resolution
import WayfinderRouter.Evidence.Report
import WayfinderRouter.Evidence.Store
import WayfinderRouter.Gateway.Admission
import WayfinderRouter.Gateway.CacheKey
import WayfinderRouter.Gateway.Confinement
import WayfinderRouter.Gateway.Establishment
import WayfinderRouter.Gateway.HighWater
import WayfinderRouter.Gateway.Intake
import WayfinderRouter.Gateway.Interference
import WayfinderRouter.Gateway.Observations
import WayfinderRouter.Gateway.Outcomes
import WayfinderRouter.Gateway.Reception
import WayfinderRouter.Gateway.Recent
import WayfinderRouter.Gateway.ResponseCache
import WayfinderRouter.Gateway.Rollout
import WayfinderRouter.Gateway.Signals
import WayfinderRouter.Gateway.Steering
import WayfinderRouter.Gateway.Tuning
import WayfinderRouter.Ledger.Accounting
import WayfinderRouter.Ledger.Calendar
import WayfinderRouter.Ledger.Recovery
import WayfinderRouter.Operator.Outage
import WayfinderRouter.Pricing.Budget
import WayfinderRouter.Providers.Inverse
import WayfinderRouter.Providers.PythonText
import WayfinderRouter.Providers.ResponseDetour
import WayfinderRouter.RateLimit.Accounting
import WayfinderRouter.RateLimit.Agreement
import WayfinderRouter.Reliability.CircuitBreaker
import WayfinderRouter.Reliability.SingleFlight
import WayfinderRouter.Responses.History
import WayfinderRouter.Responses.Protocol
import WayfinderRouter.Routing.Calibration
import WayfinderRouter.Routing.Extraction
import WayfinderRouter.Routing.Plan
import WayfinderRouter.Routing.Rounding
import WayfinderRouter.SharedState.Admission
import WayfinderRouter.SharedState.Budget.Balance
import WayfinderRouter.SharedState.Budget.Caps
import WayfinderRouter.SharedState.Budget.Spend
import WayfinderRouter.SharedState.Cache.Accounting
import WayfinderRouter.SharedState.Cache.Isolation
import WayfinderRouter.SharedState.Canary
import WayfinderRouter.SharedState.Health
import WayfinderRouter.Timed.Compensation
