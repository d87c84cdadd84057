import PolicyCanvas.Outcome
import PolicyCanvas.Text

/-!
# What a dry run submits

Every result whose payload is a resource is submitted, those under a result after the result itself.
Without a gateway a resource is rejected only for what can be seen from itself.
-/

namespace PolicyCanvas.DryRun

structure Submission where
  nodeId : String
  nodeType : String
  payload : Payload

namespace Submission

def toJson (s : Submission) : Json :=
  .ofFields
    [("nodeId", some (.string s.nodeId)),
      ("nodeType", some (.string s.nodeType)),
      ("payload", some s.payload.toJson)]

/-- The submission of a result itself, without those under it. -/
def ofResult? (r : ResultTree) : Option Submission :=
  match r.payload? with
  | some payload => if payload.isResource then some ⟨r.node.id, r.node.tag, payload⟩ else none
  | none => none

/-- The submissions of a list of results, in the order of the trees. -/
def ofResults (results : List ResultTree) : List Submission :=
  (ResultTree.appendAll [] results).filterMap ofResult?

end Submission

/-- What is said about a submission. -/
inductive Verdict where
  | accepted
  | rejected (message : String)
deriving DecidableEq, Repr

/-- Why a resource is rejected without asking the gateway. -/
inductive Defect where
  | schemaNotObject (id : String)
  | schemaNotJson (id : String) (e : Json.TextError)
  | noMessageType (id : String)
  | noSource (id : String)
  | noSchema
deriving DecidableEq, Repr

def Defect.message : Defect → String
  | schemaNotObject id => "Schema '" ++ id ++ "' is not a JSON schema object"
  | schemaNotJson id e => "Schema '" ++ id ++ "' is not valid JSON: " ++ e.message
  | noMessageType id => "Protobuf schema '" ++ id ++ "' requires a message type"
  | noSource id => "Function '" ++ id ++ "' has no source code"
  | noSchema => "Validator references no schema"

namespace Offline

/-- A JSON schema is an object or a boolean; one without a text is left to the gateway. -/
def schemaDefect? (s : Gateway.Schema) : Option Defect :=
  match s.type, s.definition? with
  | .json, some text =>
    match Json.ofText text with
    | .ok (.object _) | .ok (.bool _) => none
    | .ok _ => some (.schemaNotObject s.id)
    | .error e => some (.schemaNotJson s.id e)
  | .json, none => none
  | .protobuf, _ => if s.messageType?.isNone then some (.noMessageType s.id) else none

def defect? : Payload → Option Defect
  | .schema s => schemaDefect? s
  | .script s => if Text.isBlank s.source then some (.noSource s.id) else none
  | .validator v => if v.schemas.isEmpty then some .noSchema else none
  | _ => none

def verdict (s : Submission) : Verdict :=
  match defect? s.payload with
  | none => .accepted
  | some d => .rejected d.message

end Offline

end PolicyCanvas.DryRun
