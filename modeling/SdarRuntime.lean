import SdarRuntime.Persistence.IdempotentOutcome
import SdarRuntime.Provider.TrackArbiter
import SdarRuntime.Provider.MutationJournal
import SdarRuntime.Provider.SnapshotExact
import SdarRuntime.Provider.ReplyClaims
import SdarRuntime.Provider.SubmissionAgreement
import SdarRuntime.Provider.DiagnosticLifecycle
import SdarRuntime.BusinessEvents.SourceRecovery
import SdarRuntime.BusinessEvents.SourceStatus
import SdarRuntime.BusinessEvents.Delivery
import SdarRuntime.Runtime.DrivenStop
import SdarRuntime.Runtime.Controls
import SdarRuntime.Runtime.StoppedOutcome
import SdarRuntime.Runtime.ScheduledStarts
import SdarRuntime.Notifications.Subscriptions
import SdarRuntime.Deployments.Settlement
import SdarRuntime.Configuration.OverridePolicy
import SdarRuntime.Configuration.ApplyMode
import SdarRuntime.RuntimeConfig.AcknowledgedAnswers
import SdarRuntime.Jobs.JobExecution
import SdarRuntime.Registration.Sessions
import SdarRuntime.VehicleIngress.FieldAuthority
import SdarRuntime.ProviderOps.DeliveryFence
import SdarRuntime.BusinessEvents.RelatedTasks
import SdarRuntime.BusinessEvents.EventProcessing
import SdarRuntime.Runtime.StopAnswers
import SdarRuntime.Engine.StartTimes
import SdarRuntime.BusinessEvents.NormalizedTimes
import SdarRuntime.Jobs.ReconcileScheduler
import SdarRuntime.Deployments.PortAllocation
import SdarRuntime.TrajectoryHistory.SignedProjection
import SdarRuntime.Provider.PhysicalEvidence
import SdarRuntime.Registry.SnapshotDiff
import SdarRuntime.Provider.SnapshotPart
import SdarRuntime.Runtime.RateLimiter
import SdarRuntime.Provider.Targets
import SdarRuntime.Deployments.OrphanDetection
import SdarRuntime.Provider.ExecutionStream
import SdarRuntime.Provider.FootprintProcessor
import SdarRuntime.Provider.TargetProcessor
import SdarRuntime.Provider.NavigationPlanner
import SdarRuntime.Provider.CoveredCells
import SdarRuntime.BusinessEvents.SequenceText
