import PolicyCanvas.Canvas.Codec
import PolicyCanvas.Canvas.Workspace
import PolicyCanvas.Gateway
import PolicyCanvas.Json.Decoder

/-!
# What resolving comes to

Resolving a node comes to a value or a finding, with the results of the resources that went into it.
A finding is something wrong with the drawing that is blamed on one node. `Problem` lists what can
be wrong, and `Problem.detail` words it for the node that it is found at. A payload is whatever a
part of the drawing comes to, in one type.

A tree of results is gone through from the top: a result comes before those under it, and these come
in their order.
-/

namespace PolicyCanvas

inductive FindingKind where
  | notConnected
  | cardinality
  | notConfigured
deriving DecidableEq, Repr

namespace FindingKind

def name : FindingKind → String
  | notConnected => "notConnected"
  | cardinality => "cardinality"
  | notConfigured => "notConfigured"

end FindingKind

structure Finding where
  kind : FindingKind
  /-- The id of the node that is blamed. -/
  id : String
  /-- The tag of the node that is blamed. -/
  title : String
  detail : String
deriving DecidableEq, Repr

namespace Finding

/-- A finding at a node. -/
def about (n : Node) (kind : FindingKind) (detail : String) : Finding := ⟨kind, n.id, n.tag, detail⟩

def message (f : Finding) : String :=
  "[" ++ f.kind.name ++ "] " ++ f.detail ++ " (node '" ++ f.id ++ "' of type " ++ f.title ++ ")"

def toJson (f : Finding) : Json :=
  .ofFields
    [("detail", some (.string f.detail)),
      ("id", some (.string f.id)),
      ("title", some (.string f.title)),
      ("type", some (.string f.kind.name))]

end Finding

/-- What can be wrong at a node. -/
inductive Problem where
  /-- No node with the tag is connected, through the handle if one is named. -/
  | notConnected (expected : String) (handle? : Option String)
  /-- The node is one too many at its target. -/
  | surplus (target : Node)
  /-- An operation comes after one that ends the pipeline. -/
  | afterTerminal (last : Node)
  /-- A filter has no first entry. -/
  | noEntry (filter : NodeKind)
  | noFunction
  | unknownFunction (functionId : String)
  | unnamedScript
  | schemaWithoutId
  | schemaWithoutVersion (id : String)
  | notValidator
  | argumentNotCount (name : String) (model : Behavior.Model)
  | noEvent
  | otherModel (madeFor used : Behavior.Model)
  | unusedEvent (event : String) (model : Behavior.Model)
  | noStates (event : String)
  | notInTable (event source target : String) (model : Behavior.Model)

namespace Problem

def kind : Problem → FindingKind
  | notConnected .. => .notConnected
  | surplus _ | afterTerminal _ => .cardinality
  | _ => .notConfigured

/-- The problem in words, for the node that it is found at. -/
def detail (n : Node) : Problem → String
  | notConnected expected (some handle) =>
    "No node of type " ++ expected ++ " is connected to the '" ++ handle ++ "' handle of " ++ n.tag
  | notConnected expected none => "No node of type " ++ expected ++ " is connected to " ++ n.tag
  | surplus target =>
    "Only one node of type " ++ n.tag ++ " can be connected to " ++ target.tag ++ " '" ++ target.id
      ++ "'"
  | afterTerminal last =>
    "Operation '" ++ n.id ++ "' follows the terminal operation '" ++ last.id ++ "'"
  | noEntry filter => filter.tag ++ " must define at least one entry"
  | noFunction => "Operation has no function selected"
  | unknownFunction functionId => "Function '" ++ functionId ++ "' is not offered by the gateway"
  | unnamedScript => "Function script has no name"
  | schemaWithoutId => "Schema id must not be empty"
  | schemaWithoutVersion id => "Schema '" ++ id ++ "' has no version"
  | notValidator => "Node is not a validator"
  | argumentNotCount name model =>
    "Argument '" ++ name ++ "' of " ++ model.name ++ " must be a non-negative integer"
  | noEvent => "Transition has no event selected"
  | otherModel madeFor used =>
    "Transition was defined for " ++ madeFor.name ++ " but the policy uses " ++ used.name
  | unusedEvent event model => "Event '" ++ event ++ "' is not used by " ++ model.name
  | noStates event => "Transition '" ++ event ++ "' has no source or target state"
  | notInTable event source target model =>
    "'" ++ event ++ "' from " ++ source ++ " to " ++ target ++ " is not a transition of "
      ++ model.name

/-- The problem as it is reported. -/
def finding (p : Problem) (n : Node) : Finding := .about n p.kind (p.detail n)

end Problem

inductive PayloadKind where
  | topicFilter
  | clientFilter
  | schema
  | script
  | validator
  | operation
  | model
  | transition
  | dataPolicy
  | behaviorPolicy
deriving DecidableEq, Repr

namespace PayloadKind

def name : PayloadKind → String
  | topicFilter => "topicFilter"
  | clientFilter => "clientFilter"
  | schema => "schema"
  | script => "script"
  | validator => "validator"
  | operation => "operation"
  | model => "model"
  | transition => "transition"
  | dataPolicy => "dataPolicy"
  | behaviorPolicy => "behaviorPolicy"

/-- Whether a dry run submits payloads of the kind. -/
def isResource : PayloadKind → Bool
  | schema | script | validator | operation => true
  | _ => false

end PayloadKind

inductive Payload where
  | topicFilter (topic : String)
  | clientFilter (client : String)
  | schema (s : Gateway.Schema)
  | script (s : Gateway.Script)
  | validator (v : Gateway.Validator)
  | operation (o : Gateway.Operation)
  | model (m : Gateway.BehaviorModel)
  | transition (t : Gateway.Transition)
  | dataPolicy (p : Gateway.DataPolicy)
  | behaviorPolicy (p : Gateway.BehaviorPolicy)

namespace Payload

def kind : Payload → PayloadKind
  | topicFilter _ => .topicFilter
  | clientFilter _ => .clientFilter
  | schema _ => .schema
  | script _ => .script
  | validator _ => .validator
  | operation _ => .operation
  | model _ => .model
  | transition _ => .transition
  | dataPolicy _ => .dataPolicy
  | behaviorPolicy _ => .behaviorPolicy

def isResource (p : Payload) : Bool := p.kind.isResource

/-- The value without its kind. -/
def value : Payload → Json
  | topicFilter topic => .string topic
  | clientFilter client => .string client
  | schema s => s.toJson
  | script s => s.toJson
  | validator v => v.toJson
  | operation o => o.toJson
  | model m => m.toJson
  | transition t => t.toJson
  | dataPolicy p => p.toJson none
  | behaviorPolicy p => p.toJson none

def toJson (p : Payload) : Json :=
  .ofFields [("kind", some (.string p.kind.name)), ("value", some p.value)]

end Payload

structure ResultTree where
  node : Node
  payload? : Option Payload
  finding? : Option Finding
  /-- `none` for a node that uses no resources by its nature. -/
  resources? : Option (List ResultTree)

namespace ResultTree

mutual

/-- The finding of a result and then those under it. -/
def findings : ResultTree → List Finding
  | ⟨_, _, finding?, some resources⟩ => finding?.toList ++ allFindings resources
  | ⟨_, _, finding?, none⟩ => finding?.toList

def allFindings : List ResultTree → List Finding
  | [] => []
  | r :: results => r.findings ++ allFindings results

end

mutual

/-- Appends the results under `r` that have a payload; `r` itself is not appended. -/
def appendBelow (done : List ResultTree) : ResultTree → List ResultTree
  | ⟨_, _, _, some resources⟩ => appendAll done resources
  | ⟨_, _, _, none⟩ => done

/-- Appends the results that have a payload, each followed by those under it. -/
def appendAll (done : List ResultTree) : List ResultTree → List ResultTree
  | [] => done
  | r :: results =>
    let done := if r.payload?.isSome then done ++ [r] else done
    appendAll (r.appendBelow done) results

end

mutual

def toJson : ResultTree → Json
  | ⟨node, payload?, finding?, resources?⟩ =>
    .ofFields
      [("data", payload?.map Payload.toJson),
        ("error", finding?.map Finding.toJson),
        ("node", some node.toJson),
        ("resources", match resources? with
          | some resources => some (.array (allToJson resources))
          | none => none)]

def allToJson : List ResultTree → List Json
  | [] => []
  | r :: results => r.toJson :: allToJson results

end

end ResultTree

structure Resolution (α : Type) where
  node : Node
  verdict : Except Finding α
  resources? : Option (List ResultTree)

namespace Resolution

variable {α β : Type}

def success (n : Node) (a : α) : Resolution α := ⟨n, .ok a, none⟩

def failure (n : Node) (p : Problem) : Resolution α := ⟨n, .error (p.finding n), none⟩

def withResources (r : Resolution α) (resources : List ResultTree) : Resolution α :=
  { r with resources? := some resources }

def value? (r : Resolution α) : Option α := r.verdict.toOption

def finding? (r : Resolution α) : Option Finding :=
  match r.verdict with
  | .ok _ => none
  | .error f => some f

/-- The result with its value as a payload. -/
def toTree (wrap : α → Payload) (r : Resolution α) : ResultTree where
  node := r.node
  payload? := r.value?.map wrap
  finding? := r.finding?
  resources? := r.resources?

/-- The values of those that have one. -/
def values (resolutions : List (Resolution α)) : List α := resolutions.filterMap value?

end Resolution

end PolicyCanvas
