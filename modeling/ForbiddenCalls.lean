import ForbiddenCalls.Main
import ForbiddenCalls.Proofs.ArrivalOrder
import ForbiddenCalls.Proofs.CallSpans
import ForbiddenCalls.Proofs.Cancellation
import ForbiddenCalls.Proofs.ChainedReceivers
import ForbiddenCalls.Proofs.ClaimedExtensions
import ForbiddenCalls.Proofs.ConfiguredRules
import ForbiddenCalls.Proofs.DistinctCalls
import ForbiddenCalls.Proofs.FirstReports
import ForbiddenCalls.Proofs.ImplicitTypes
import ForbiddenCalls.Proofs.ImportedMembers
import ForbiddenCalls.Proofs.LayoutIndependence
import ForbiddenCalls.Proofs.LoadedDefinitions
import ForbiddenCalls.Proofs.MergedFailures
import ForbiddenCalls.Proofs.NestedTypes
import ForbiddenCalls.Proofs.PartialFailure
import ForbiddenCalls.Proofs.RegistryRuns
import ForbiddenCalls.Proofs.RepeatedFiles
import ForbiddenCalls.Proofs.ReportDocuments
import ForbiddenCalls.Proofs.RuleIndependence
import ForbiddenCalls.Proofs.RuleSettings
import ForbiddenCalls.Proofs.ScheduleIndependence
import ForbiddenCalls.Proofs.Soundness
import ForbiddenCalls.Proofs.Startup
import ForbiddenCalls.Proofs.SyntaxFaults
import ForbiddenCalls.Proofs.UnknownTypes
import ForbiddenCalls.Proofs.Verdict
import ForbiddenCalls.Proofs.WalkOrder
import ForbiddenCalls.Proofs.WrittenTypes
