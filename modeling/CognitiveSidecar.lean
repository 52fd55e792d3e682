import CognitiveSidecar.FrontierFence
import CognitiveSidecar.Obligations
import CognitiveSidecar.OwnerAnswers
import CognitiveSidecar.UnknownOutcomes
import CognitiveSidecar.ContinuityRuns
import CognitiveSidecar.DetachedBounds
import CognitiveSidecar.ForgetComplete
import CognitiveSidecar.DerivedRuns
import CognitiveSidecar.FreshnessRuns
import CognitiveSidecar.AdmissionRuns
import CognitiveSidecar.CompletionRuns
import CognitiveSidecar.OccupancyCoherence
import CognitiveSidecar.PeriodicRuns
import CognitiveSidecar.OutboxTerminal
import CognitiveSidecar.SocialIngressRuns
import CognitiveSidecar.OwnerCaptureQueue
import CognitiveSidecar.CanonicalPayload
import CognitiveSidecar.WatchRuns
import CognitiveSidecar.FulfillmentTruth
import CognitiveSidecar.OwnerReplayRuns
import CognitiveSidecar.RetryEligibility
import CognitiveSidecar.AmbiguousClaims
import CognitiveSidecar.SettlementReplay
import CognitiveSidecar.ThalamusOrder
import CognitiveSidecar.AttentionDeadline
import CognitiveSidecar.PrivateConvergence
import CognitiveSidecar.CommitmentDue
import CognitiveSidecar.ContinuationLeases
import CognitiveSidecar.SupportAvailability
import CognitiveSidecar.FrontierOwnership
import CognitiveSidecar.TriggerCancellation
import CognitiveSidecar.SpeechRecovery
import CognitiveSidecar.OutcomeUnknownScan
import CognitiveSidecar.UnbatchedCaptures
import CognitiveSidecar.SpeechSupersession
import CognitiveSidecar.Salvage
import CognitiveSidecar.IndependentOrigins
import CognitiveSidecar.Succession
import CognitiveSidecar.DeliveredText
import CognitiveSidecar.DomusSelection
import CognitiveSidecar.CanonicalPaths
import CognitiveSidecar.BubblePlan
import CognitiveSidecar.SelfChangeLadder
