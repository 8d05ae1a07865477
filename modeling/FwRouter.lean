import FwRouter.Nft.Classify
import FwRouter.Nft.ScopedSteering
import FwRouter.Mihomo.Config
import FwRouter.Traffic.Batch
import FwRouter.Traffic.Conservation
import FwRouter.Traffic.Attribution
import FwRouter.Watchdog.Runs
import FwRouter.Watchdog.AutoCheck
import FwRouter.Watchdog.StallSignal
import FwRouter.Jobs.Handler
import FwRouter.Jobs.Retention
import FwRouter.Subscription.Credentials
import FwRouter.Subscription.Chain
import FwRouter.Docker.Immunity
import FwRouter.Subjects.Routes
import FwRouter.Subjects.EffectiveState
import FwRouter.Selection.Fence
import FwRouter.Xray.Pending
import FwRouter.Xray.Verify
import FwRouter.Xray.Reconcile
import FwRouter.Subscription.Generation
import FwRouter.Health.Candidates
import FwRouter.Health.RecentPing
import FwRouter.Health.ProbeRotation
import FwRouter.Provider.EmergencyDirect
import FwRouter.Subscription.SourceEdits
import FwRouter.Subjects.Manifest
import FwRouter.Transfer.ExactlyOnce
import FwRouter.Preferences.Priority
import FwRouter.Transfer.Redaction
import FwRouter.Apply.Pipeline
import FwRouter.Apply.CoreBypass
import FwRouter.Subjects.InventorySweeps
import FwRouter.Lifecycle.Forward
import FwRouter.Lifecycle.Admission
import FwRouter.Rules.Update
import FwRouter.LiveProbe.Invalidation
import FwRouter.Selector.Shortlist
import FwRouter.ApiClients.Recovery
import FwRouter.Mihomo.Rollback
import FwRouter.FixedServer.Supersession
import FwRouter.FixedServer.Precheck
import FwRouter.Rules.Protected
import FwRouter.Xray.Preimage
import FwRouter.Xray.HandoffAllocation
import FwRouter.Protocols.Endpoint
import FwRouter.Subscription.ProfileGrowth
import FwRouter.Subscription.CredentialEpochs
import FwRouter.Rules.Decisions
import FwRouter.Rules.LargeList
import FwRouter.Rules.ManualRoundTrip
import FwRouter.Rules.Canonical
import FwRouter.Jobs.ResultBound
import FwRouter.Watchdog.QualityWindow
import FwRouter.Mihomo.YamlEvents
import FwRouter.Installer.UiRuns
import FwRouter.Events.SecureRead
