import AgentOps.AgentJoin.Joins
import AgentOps.AgentJoin.Limits
import AgentOps.Approvals.Consumption
import AgentOps.Approvals.Quorum
import AgentOps.Changelog.Coverage
import AgentOps.Changelog.Sync
import AgentOps.Circle.Ambiguity
import AgentOps.Circle.Challenges
import AgentOps.Circle.Classification
import AgentOps.Circle.CliRetries
import AgentOps.Circle.ProfileWorkspace
import AgentOps.Circle.Settlement
import AgentOps.EmergencyStop.Coverage
import AgentOps.EmergencyStop.Rails
import AgentOps.Evidence.ChainSafety
import AgentOps.Evidence.Secrets
import AgentOps.Evidence.TamperEvidence
import AgentOps.Execution.DailyBudget
import AgentOps.Execution.Decisions
import AgentOps.Execution.Dispatch
import AgentOps.Execution.Entities
import AgentOps.Execution.Reconciliation
import AgentOps.Execution.Service
import AgentOps.Execution.Settlement
import AgentOps.FleetRun.Executor
import AgentOps.FleetRun.StepPayments
import AgentOps.Identity.AgentForest
import AgentOps.Identity.AgentReferences
import AgentOps.Identity.Agents
import AgentOps.Identity.ArchivedTeams
import AgentOps.Identity.AuthSessions
import AgentOps.Identity.ConnectionSecrets
import AgentOps.Identity.Connections
import AgentOps.Identity.Members
import AgentOps.Identity.Ownership
import AgentOps.Ledger.Corrections
import AgentOps.Lib.CodeUnits
import AgentOps.Lib.DecimalText
import AgentOps.Lib.Double
import AgentOps.Lib.Fallible
import AgentOps.Lib.Forest
import AgentOps.Lib.Framed
import AgentOps.Lib.HostJson
import AgentOps.Lib.HostJsonText
import AgentOps.Lib.IpText
import AgentOps.Lib.Outcome
import AgentOps.Lib.ReadCommitted
import AgentOps.Lib.Table
import AgentOps.Lib.Transition
import AgentOps.Lib.Window
import AgentOps.Operations.RateLimits
import AgentOps.PaidHttp.Addresses
import AgentOps.PaidHttp.Base64Bodies
import AgentOps.PaidHttp.Connections
import AgentOps.PaidHttp.Destinations
import AgentOps.PaidHttp.RequestHash
import AgentOps.PaidHttp.Requests
import AgentOps.PaidHttp.Responses
import AgentOps.PaidHttp.StableJson
import AgentOps.Payments.AgentFunding
import AgentOps.Payments.Agreement
import AgentOps.Payments.AmountUnits
import AgentOps.Payments.ApprovalBinding
import AgentOps.Payments.AttemptSteps
import AgentOps.Payments.Books
import AgentOps.Payments.Budget
import AgentOps.Payments.Cleanup
import AgentOps.Payments.DelegationBacking
import AgentOps.Payments.DelegationBounds
import AgentOps.Payments.EscrowMirror
import AgentOps.Payments.FleetTrust
import AgentOps.Payments.Gates
import AgentOps.Payments.Idempotency
import AgentOps.Payments.IntraFleet
import AgentOps.Payments.IntraFleetPrice
import AgentOps.Payments.IdentityRegistry
import AgentOps.Payments.IntraFleetRecords
import AgentOps.Payments.Ledger
import AgentOps.Payments.OneApproval
import AgentOps.Payments.Permit2
import AgentOps.Payments.PolicyContext
import AgentOps.Payments.PolicyFirst
import AgentOps.Payments.QuoteAuthority
import AgentOps.Payments.QuoteSelection
import AgentOps.Payments.Readings
import AgentOps.Payments.Recovery
import AgentOps.Payments.Replays
import AgentOps.Payments.Reputation
import AgentOps.Payments.Requotes
import AgentOps.Payments.StandingDelegations
import AgentOps.Payments.Submissions
import AgentOps.Payments.Trust
import AgentOps.Payments.TrustCompleteness
import AgentOps.Policy.BindingOutcomes
import AgentOps.Policy.DecisionEngine
import AgentOps.Policy.DecisionMeaning
import AgentOps.Policy.DraftOutcomes
import AgentOps.Policy.EffectiveBindings
import AgentOps.Policy.Lifecycle
import AgentOps.Policy.LifecycleLocks
import AgentOps.Policy.LiveStatements
import AgentOps.Policy.Recipients
import AgentOps.Policy.ResourceDomains
import AgentOps.Policy.Store
import AgentOps.Policy.Validator
import AgentOps.Treasury.AllocationSolvency
import AgentOps.Treasury.JobOutcomes
import AgentOps.Treasury.Liquidity
import AgentOps.Treasury.LiquidityOutcomes
import AgentOps.Treasury.ProviderReconciliation
import AgentOps.Treasury.RebalanceRecommendations
import AgentOps.Treasury.ReputationAdjustment
import AgentOps.Treasury.TopUpSolvency
import AgentOps.Wallets.Provisioning
import AgentOps.Wallets.Revocation
import AgentOps.Payments.UsdcText
import AgentOps.Evidence.RedactionFaithful
import AgentOps.Lib.HostDecimal
import AgentOps.Lib.Utf16
import AgentOps.AuditTrail.Digest
import AgentOps.AuditTrail.Binding
import AgentOps.AuditTrail.Storage
import AgentOps.RiskScreen.Heuristics
import AgentOps.RiskScreen.Evaluation
import AgentOps.RiskScreen.Requests
import AgentOps.Lib.SessionLocks
import AgentOps.Operations.Migrations
import AgentOps.Operations.MigrationRuns
import AgentOps.Circle.OrgLock
import AgentOps.Lib.SealedBox
import AgentOps.Payments.ResultEnvelopes
import AgentOps.Policy.Simulation
