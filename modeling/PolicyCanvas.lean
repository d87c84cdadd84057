import PolicyCanvas.Json.Printer
import PolicyCanvas.Proofs.Attribution
import PolicyCanvas.Proofs.Content
import PolicyCanvas.Proofs.DoubleWiring
import PolicyCanvas.Proofs.EdgeScan
import PolicyCanvas.Proofs.ForestWalk
import PolicyCanvas.Proofs.Locality
import PolicyCanvas.Proofs.NumberReading
import PolicyCanvas.Proofs.OfflineCheck
import PolicyCanvas.Proofs.Origin
import PolicyCanvas.Proofs.PipelineWalk
import PolicyCanvas.Proofs.PolicyRereading
import PolicyCanvas.Proofs.Rearrangement
import PolicyCanvas.Proofs.Schedule
import PolicyCanvas.Proofs.SessionTokens
import PolicyCanvas.Proofs.StepIds
import PolicyCanvas.Proofs.SubFlowExtent
import PolicyCanvas.Proofs.Supersession
import PolicyCanvas.Proofs.TransformExpansion
import PolicyCanvas.Service
