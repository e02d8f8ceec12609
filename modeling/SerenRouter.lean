import SerenRouter.Kernel.Outcome
import SerenRouter.Kernel.SortedMap
import SerenRouter.Kernel.HashMap
import SerenRouter.Kernel.Json
import SerenRouter.Kernel.Framing
import SerenRouter.Kernel.Decimal
import SerenRouter.Kernel.Rounding
import SerenRouter.Kernel.Text
import SerenRouter.Kernel.Extremum
import SerenRouter.Kernel.Gather
import SerenRouter.Registry
import SerenRouter.Catalog
import SerenRouter.SidecarConfig
import SerenRouter.Pricing
import SerenRouter.CostFormula
import SerenRouter.Attribution
import SerenRouter.UsageCost
import SerenRouter.ServedCost
import SerenRouter.Sse
import SerenRouter.SseFrames
import SerenRouter.SsePublic
import SerenRouter.SseRuns
import SerenRouter.SseClient
import SerenRouter.SseAgreement
import SerenRouter.Kernel.JsonText
import SerenRouter.Kernel.DecimalArithmetic
import SerenRouter.StreamGuarantees
import SerenRouter.SseComments
import SerenRouter.Kernel.Window
import SerenRouter.Kernel.Smoothing
import SerenRouter.Policy.Preference
import SerenRouter.Policy.Measurements
import SerenRouter.Policy.ShareTracker
import SerenRouter.Kernel.Runs
import SerenRouter.Policy.Select
import SerenRouter.Policy.RoutePlan
import SerenRouter.Policy.Routing
import SerenRouter.Policy.RouteTable
import SerenRouter.Policy.RouteRuns
import SerenRouter.Policy.ShareQuota
import SerenRouter.Policy.Isolation
import SerenRouter.Policy.Smoothing
import SerenRouter.Policy.SelectGuarantees
import SerenRouter.Policy.Hysteresis
import SerenRouter.Policy.Refusals
import SerenRouter.Policy.Rewriting
import SerenRouter.Kernel.Numeral
import SerenRouter.Policy.TopP
import SerenRouter.Policy.Ranking
import SerenRouter.Proxy
import SerenRouter.Failover
import SerenRouter.StreamDriver
import SerenRouter.RoutedPricing
import SerenRouter.IndexAgreement
import SerenRouter.RouteNames
import SerenRouter.UpstreamCatalog
import SerenRouter.Startup
import SerenRouter.Addressing
import SerenRouter.Settlement
import SerenRouter.Ledger
import SerenRouter.CostInjection
import SerenRouter.CatalogOrder
import SerenRouter.Hydration
import SerenRouter.Kernel.FaithfulRounding
import SerenRouter.Policy.ShareWindow
import SerenRouter.Database
import SerenRouter.StreamCost
import SerenRouter.Service.GatewayAuth
import SerenRouter.Service.Lookup
import SerenRouter.Service.Metadata
import SerenRouter.Service.SourceItem
import SerenRouter.Service.Router
import SerenRouter.Service.Steps
import SerenRouter.Service.Refinement
import SerenRouter.Service.Requests
import SerenRouter.Service.Conversation
import SerenRouter.Service.Clients
import SerenRouter.Service.Accounts
import SerenRouter.Service.Independence
import SerenRouter.Service.Sidecar
import SerenRouter.Service.Forwarding
import SerenRouter.Deployment
import SerenRouter.Configuration
import SerenRouter.Coverage
import SerenRouter.Service.Launch
import SerenRouter.Service.Rollout
