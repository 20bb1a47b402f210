import Retrace.Artifact.FileTree
import Retrace.Artifact.Memory
import Retrace.Main
import Retrace.Proofs.Frame.RoundTrip
import Retrace.Proofs.Mappings.RoundTrip
import Retrace.Proofs.Resolve
import Retrace.Proofs.Symbolication.Service
import Retrace.Settings.Record
import Retrace.Proofs.Mappings.Lines
import Retrace.Proofs.Symbolication.Remote
import Retrace.Proofs.Window
import Retrace.Proofs.Symbolication.Batch
import Retrace.Proofs.Endpoint.Form
import Retrace.Proofs.Endpoint.Agreement
import Retrace.Proofs.Json.Text
import Retrace.Proofs.Endpoint.TraceRequest
import Retrace.Proofs.Settings.Precedence
import Retrace.Proofs.ReportNumbers
import Retrace.Proofs.Endpoint.Answers
import Retrace.Proofs.Endpoint.Visibility
import Retrace.Proofs.Frame.Openings
import Retrace.Proofs.Settings.Rules
import Retrace.Proofs.Json.Lexing
import Retrace.Proofs.SourceMapDocument
import Retrace.Proofs.Wire
import Retrace.Proofs.MappingScan
import Retrace.Proofs.VlqGroups
import Retrace.Proofs.DirectivePatterns
import Retrace.Proofs.RouteModuleMark
import Retrace.Proofs.SourceContextBounds
import Retrace.Proofs.ReportBlocks
import Retrace.Proofs.PathComponents
import Retrace.Proofs.Endpoint.FrameRequest
import Retrace.Proofs.Settings.Variables
import Retrace.Proofs.RoutePrefix
import Retrace.Proofs.Mappings.Safety
