import ProjectPipeline.LeaseInterleaving
import ProjectPipeline.PlanLeasing
import ProjectPipeline.Settlements
import ProjectPipeline.SingleDispatch
import ProjectPipeline.Terminality
import ProjectPipeline.SignalDelivery
import ProjectPipeline.EventCounts
import ProjectPipeline.RetryBounds
import ProjectPipeline.WaitsHonoured
import ProjectPipeline.Readability
import ProjectPipeline.WorkerFencing
import ProjectPipeline.Resends
import ProjectPipeline.LaneCompletion
import ProjectPipeline.LanePaths
import ProjectPipeline.LaneRaces
import ProjectPipeline.FleetLifecycle
import ProjectPipeline.FleetFences
import ProjectPipeline.DispatchLeases
import ProjectPipeline.WorkerExclusion
import ProjectPipeline.CommandIdempotency
import ProjectPipeline.TransitionReads
import ProjectPipeline.TraceabilityLinks
import ProjectPipeline.RequirementRevisions
import ProjectPipeline.MutationRetries
import ProjectPipeline.MigrationReceipts
import ProjectPipeline.MigrationRefusal
import ProjectPipeline.VerifiedRestores
import ProjectPipeline.JiraRewrites
import ProjectPipeline.RealtimeEvents
import ProjectPipeline.SecurityPolicy
import ProjectPipeline.ObservationStore
import ProjectPipeline.LaneSelection
import ProjectPipeline.LeaseTokens
import ProjectPipeline.AttentionInbox
import ProjectPipeline.LoadableLeases
import ProjectPipeline.UnknownOutcomes
import ProjectPipeline.Pressure
import ProjectPipeline.EnvFiles
import ProjectPipeline.Timestamps
