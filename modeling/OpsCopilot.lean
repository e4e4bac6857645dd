import OpsCopilot.Lib.Fallible
import OpsCopilot.Lib.GridRounding
import OpsCopilot.Lib.HashChain
import OpsCopilot.Lib.Interleaving
import OpsCopilot.Lib.KeepFirst
import OpsCopilot.Lib.KeyRing
import OpsCopilot.Lib.KeyedLock
import OpsCopilot.Lib.KeyedRows
import OpsCopilot.Lib.KeyedSums
import OpsCopilot.Lib.Noninterference
import OpsCopilot.Lib.PyCompare
import OpsCopilot.Lib.PyContext
import OpsCopilot.Lib.PyDatetime
import OpsCopilot.Lib.PyDatetimeText
import OpsCopilot.Lib.PyDecimal
import OpsCopilot.Lib.PyDecimalSum
import OpsCopilot.Lib.PyDict
import OpsCopilot.Lib.PyEquality
import OpsCopilot.Lib.PyFloat
import OpsCopilot.Lib.PyJson
import OpsCopilot.Lib.PyJsonCharacters
import OpsCopilot.Lib.PyJsonContent
import OpsCopilot.Lib.PyJsonEscape
import OpsCopilot.Lib.PyJsonField
import OpsCopilot.Lib.PyJsonInjective
import OpsCopilot.Lib.PyJsonRead
import OpsCopilot.Lib.PyJsonRoundTrip
import OpsCopilot.Lib.PyJsonStable
import OpsCopilot.Lib.PyLines
import OpsCopilot.Lib.PyNumberText
import OpsCopilot.Lib.PyRepr
import OpsCopilot.Lib.PyRound
import OpsCopilot.Lib.PyString
import OpsCopilot.Lib.PyValue
import OpsCopilot.Lib.RowSecurity
import OpsCopilot.Lib.SqlNumeric
import OpsCopilot.Lib.StableSort
import OpsCopilot.Model.Basic
import OpsCopilot.Model.Credentials
import OpsCopilot.Model.Cycle
import OpsCopilot.Model.Database
import OpsCopilot.Model.Decisions
import OpsCopilot.Model.Detector
import OpsCopilot.Model.Evaluation
import OpsCopilot.Model.EventQueries
import OpsCopilot.Model.EventStore
import OpsCopilot.Model.Idempotency
import OpsCopilot.Model.IdempotencyRegistry
import OpsCopilot.Model.IdempotentExecution
import OpsCopilot.Model.LlmClient
import OpsCopilot.Model.NumericCritic
import OpsCopilot.Model.Policy
import OpsCopilot.Model.PriceLimits
import OpsCopilot.Model.Projections
import OpsCopilot.Model.Reasoning
import OpsCopilot.Model.ReasoningContext
import OpsCopilot.Model.Replay
import OpsCopilot.Model.Reports
import OpsCopilot.Model.RowLevelSecurity
import OpsCopilot.Model.Seeding
import OpsCopilot.Model.Simulator
import OpsCopilot.Model.StateChange
import OpsCopilot.Model.Submit
import OpsCopilot.Model.ToolFramework
import OpsCopilot.Model.Worker
import OpsCopilot.Proofs.AgentEvents
import OpsCopilot.Proofs.ApprovalProtocol
import OpsCopilot.Proofs.ApprovedPrice
import OpsCopilot.Proofs.Authentication
import OpsCopilot.Proofs.AutonomyGate
import OpsCopilot.Proofs.BlastRadius
import OpsCopilot.Proofs.CandidateMerging
import OpsCopilot.Proofs.ChainContent
import OpsCopilot.Proofs.ChainOrder
import OpsCopilot.Proofs.ChainRuns
import OpsCopilot.Proofs.ClaimedWork
import OpsCopilot.Proofs.ColumnCritic
import OpsCopilot.Proofs.CooldownLog
import OpsCopilot.Proofs.CycleErrors
import OpsCopilot.Proofs.DecisionLifecycle
import OpsCopilot.Proofs.DecisionRows
import OpsCopilot.Proofs.DemandPrice
import OpsCopilot.Proofs.EvaluationMetrics
import OpsCopilot.Proofs.EventAppend
import OpsCopilot.Proofs.EventErrors
import OpsCopilot.Proofs.ExecutionRecords
import OpsCopilot.Proofs.FenceStripping
import OpsCopilot.Proofs.Fingerprint
import OpsCopilot.Proofs.IdempotencyClaims
import OpsCopilot.Proofs.IdempotencyReplay
import OpsCopilot.Proofs.LaterOrders
import OpsCopilot.Proofs.LlmContainment
import OpsCopilot.Proofs.LlmInfluence
import OpsCopilot.Proofs.LlmProposals
import OpsCopilot.Proofs.LlmSoundness
import OpsCopilot.Proofs.MarginPrice
import OpsCopilot.Proofs.MetricsDefined
import OpsCopilot.Proofs.NumberSums
import OpsCopilot.Proofs.NumericVerdicts
import OpsCopilot.Proofs.PriceAgreement
import OpsCopilot.Proofs.PriceBaseline
import OpsCopilot.Proofs.PriceReports
import OpsCopilot.Proofs.PriceSteps
import OpsCopilot.Proofs.ProjectionRows
import OpsCopilot.Proofs.PromptContext
import OpsCopilot.Proofs.RecipeSplits
import OpsCopilot.Proofs.RejectedClaims
import OpsCopilot.Proofs.ReplayRun
import OpsCopilot.Proofs.ReplaySteps
import OpsCopilot.Proofs.ReplayedIngredients
import OpsCopilot.Proofs.ReplayedMenu
import OpsCopilot.Proofs.Reseeding
import OpsCopilot.Proofs.RowLevelSecurity
import OpsCopilot.Proofs.SchemaConstraints
import OpsCopilot.Proofs.SchemaRuns
import OpsCopilot.Proofs.SchemaSteps
import OpsCopilot.Proofs.Seeding
import OpsCopilot.Proofs.StaffingEdit
import OpsCopilot.Proofs.StaffingReplay
import OpsCopilot.Proofs.StaffingTarget
import OpsCopilot.Proofs.StockStep
import OpsCopilot.Proofs.StoredPrice
import OpsCopilot.Proofs.SubmitConcurrent
import OpsCopilot.Proofs.SubmitSteps
import OpsCopilot.Proofs.SubmitStranded
import OpsCopilot.Proofs.SupplierSwitch
import OpsCopilot.Proofs.TamperEvidence
import OpsCopilot.Proofs.TenantCalls
import OpsCopilot.Proofs.TenantIsolation
import OpsCopilot.Proofs.TenantReads
import OpsCopilot.Proofs.TenantRows
import OpsCopilot.Proofs.TenantRuns
import OpsCopilot.Proofs.TenantTransactions
import OpsCopilot.Proofs.TenantView
import OpsCopilot.Proofs.ToolSteps
import OpsCopilot.Proofs.ToolWork
import OpsCopilot.Proofs.WorkerRetry
import OpsCopilot.Proofs.WorkerStatus
import OpsCopilot.Proofs.WorkerSteps
import OpsCopilot.Proofs.WriteOnce
