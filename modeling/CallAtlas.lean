import CallAtlas.Main
import CallAtlas.Json.Reader
import CallAtlas.Proofs.CallEdges
import CallAtlas.Proofs.CallSites
import CallAtlas.Proofs.Centering
import CallAtlas.Proofs.CircleChords
import CallAtlas.Proofs.CommentForms
import CallAtlas.Proofs.Comments
import CallAtlas.Proofs.Dialects
import CallAtlas.Proofs.Discovery
import CallAtlas.Proofs.EdgeOrder
import CallAtlas.Proofs.ExportReadings
import CallAtlas.Proofs.FaultPositions
import CallAtlas.Proofs.FirstFault
import CallAtlas.Proofs.FirstQuadrant
import CallAtlas.Proofs.Flowcharts
import CallAtlas.Proofs.FunctionPlaces
import CallAtlas.Proofs.GraphInvariant
import CallAtlas.Proofs.GraphParts
import CallAtlas.Proofs.GridReading
import CallAtlas.Proofs.GroupForms
import CallAtlas.Proofs.HookNames
import CallAtlas.Proofs.LayerPlaces
import CallAtlas.Proofs.LeadingComments
import CallAtlas.Proofs.MemberCalls
import CallAtlas.Proofs.Overrides
import CallAtlas.Proofs.Ranks
import CallAtlas.Proofs.RecordTexts
import CallAtlas.Proofs.Relayout
import CallAtlas.Proofs.ReportTotals
import CallAtlas.Proofs.Runs
import CallAtlas.Proofs.TypeTexts
import CallAtlas.Proofs.Untyped
