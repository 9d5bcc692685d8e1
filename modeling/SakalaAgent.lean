import SakalaAgent.Async.Semantics
import SakalaAgent.Proofs.ProjectLocks
import SakalaAgent.Proofs.SchedulerCapacity
import SakalaAgent.Proofs.LogDelivery
import SakalaAgent.Proofs.DeliveryLatch
import SakalaAgent.Proofs.TerminalReport
import SakalaAgent.Proofs.TerminalAgreement
import SakalaAgent.Proofs.LogFollowers
import SakalaAgent.Proofs.RouteCommit
import SakalaAgent.Proofs.RouteTransactions
import SakalaAgent.Proofs.LiveRoutes
import SakalaAgent.Proofs.Admission
import SakalaAgent.Proofs.WakeCapacity
import SakalaAgent.Proofs.FollowerStop
import SakalaAgent.Async.Alike
import SakalaAgent.Async.Warranted
import SakalaAgent.Async.Discipline
import SakalaAgent.Async.Answers
import SakalaAgent.Proofs.DrainedQuiet
import SakalaAgent.Proofs.RuntimeRules
import SakalaAgent.Proofs.RuntimeLocks
import SakalaAgent.Proofs.Isolation
import SakalaAgent.Proofs.ProcessRuns
import SakalaAgent.Proofs.FailedDeployment
import SakalaAgent.Proofs.WorkloadHealth
import SakalaAgent.Proofs.FreeSlots
import SakalaAgent.Proofs.StopOrder
import SakalaAgent.Proofs.RedactedSecrets
import SakalaAgent.Proofs.SilentLogs
import SakalaAgent.Proofs.CommittedDeployment
import SakalaAgent.Proofs.ContainerLabels
import SakalaAgent.Proofs.DiskGuard
import SakalaAgent.Proofs.EnvironmentFile
import SakalaAgent.Proofs.FailedCheckout
import SakalaAgent.Proofs.LogLimits
import SakalaAgent.Proofs.NodeLifecycle
import SakalaAgent.Proofs.PreviousContainers
import SakalaAgent.Proofs.RouteFile
import SakalaAgent.Proofs.StaleRoutes
import SakalaAgent.Proofs.CapturedOutput
import SakalaAgent.Proofs.DeploymentNames
import SakalaAgent.Core.Config
import SakalaAgent.App.Config
import SakalaAgent.Proofs.RequestPolicies
import SakalaAgent.Proofs.RepositoryUrls
import SakalaAgent.Proofs.WorkspaceCollection
import SakalaAgent.Proofs.Orders
import SakalaAgent.Async.Embedding
import SakalaAgent.App.Agent
import SakalaAgent.Proofs.ReportedDeployments
import SakalaAgent.Proofs.StartupRecovery
import SakalaAgent.Proofs.StartupFollowers
