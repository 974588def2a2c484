import MarkLine.Json.Parser
import MarkLine.Main
import MarkLine.ProjectCheck
import MarkLine.Proofs.BuildFaults
import MarkLine.Proofs.Drawing
import MarkLine.Proofs.IdealReport
import MarkLine.Proofs.Independence
import MarkLine.Proofs.LineEnds
import MarkLine.Proofs.Matching
import MarkLine.Proofs.MessageOrder
import MarkLine.Proofs.ReportOrder
import MarkLine.Proofs.RoundTrip
import MarkLine.Proofs.SeparateParses
import MarkLine.Proofs.Rescan
import MarkLine.Proofs.ConfigSearch
import MarkLine.Proofs.Compilation
import MarkLine.Proofs.SuiteReports
import MarkLine.Proofs.Composition
import MarkLine.Proofs.Drafts
import MarkLine.Proofs.FileTrees
import MarkLine.Proofs.Walks
import MarkLine.Proofs.DiscoveredFiles
import MarkLine.Proofs.NearestConfig
import MarkLine.Proofs.CompactLines
import MarkLine.Proofs.RegionTable
import MarkLine.Proofs.SpanMismatches
