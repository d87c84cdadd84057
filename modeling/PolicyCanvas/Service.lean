import PolicyCanvas.Canvas.Codec
import PolicyCanvas.Canvas.Wiring
import PolicyCanvas.DryRun.Report
import PolicyCanvas.DryRun.Submission

namespace PolicyCanvas.Service

/-- Every answer for the designer is an object whose `status` says what kind of answer it is. -/
def rejected (e : Refusal) : Json :=
  .ofFields [("message", some (.string e.message)), ("status", some (.string "rejected"))]

def workspace (text : String) : Except Refusal Workspace :=
  (Workspace.ofText text).mapError .unreadable

/-- Blank settings are the default ones. -/
def settings (text : String) : Except Refusal DryRun.Settings :=
  if Text.isBlank text then .ok .default else (DryRun.Settings.ofText text).mapError .unreadable

/-- Compiles a policy of the workspace. -/
def compile (workspaceText id : String) : Json :=
  let answer : Except Refusal Compilation := do
    let w ← workspace workspaceText
    w.compile id
  match answer with
  | .error e => rejected e
  | .ok c =>
    .ofFields
      [("compilation", some c.toJson),
        ("errors", some (.array (c.findings.map Finding.toJson))),
        ("status", some (.string "compiled"))]

/-- Checks a policy of the workspace without a gateway. The status is that of the report. -/
def check (workspaceText id settingsText : String) : Json :=
  let answer : Except Refusal DryRun.Report := do
    let w ← workspace workspaceText
    let s ← settings settingsText
    DryRun.checkAt w id s DryRun.Offline.verdict
  match answer with
  | .error e => rejected e
  | .ok report => report.toJson

/-- Lists what belongs to a node, for example what would go with it. -/
def subFlow (workspaceText id : String) : Json :=
  match workspace workspaceText with
  | .error e => rejected e
  | .ok w =>
    let flow := (Wiring.ofWorkspace w).subFlow id
    .ofFields
      [("edges", some (.ofTextList (flow.edges.map Edge.id))),
        ("nodes", some (.ofTextList (flow.nodes.map Node.id))),
        ("status", some (.string "subFlow"))]

end PolicyCanvas.Service
