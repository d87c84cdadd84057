import PolicyCanvas.Behavior
import PolicyCanvas.Gateway
import PolicyCanvas.Json.Basic

/-!
# Workspaces

A workspace holds what the designer has drawn, and the functions that the gateway offers. Ids may
repeat, and an edge may name a node that is not there.

A node has an id and a tag that says what it is. Nodes with one of nine tags have settings of their
own kind; a node with any other tag is foreign, and whatever else its JSON object says is kept.
-/

namespace PolicyCanvas

structure Position where
  x : Binary64
  y : Binary64
deriving DecidableEq, Repr

inductive NodeKind where
  | topicFilter
  | clientFilter
  | dataPolicy
  | behaviorPolicy
  | validator
  | schema
  | operation
  | transition
  | function
deriving DecidableEq, Repr

namespace NodeKind

def tag : NodeKind → String
  | topicFilter => "TOPIC_FILTER"
  | clientFilter => "CLIENT_FILTER"
  | dataPolicy => "DATA_POLICY"
  | behaviorPolicy => "BEHAVIOR_POLICY"
  | validator => "VALIDATOR"
  | schema => "SCHEMA"
  | operation => "OPERATION"
  | transition => "TRANSITION"
  | function => "FUNCTION"

def all : List NodeKind :=
  [topicFilter, clientFilter, dataPolicy, behaviorPolicy, validator, schema, operation, transition,
    function]

def ofTag? (s : String) : Option NodeKind := all.find? (·.tag = s)

theorem ofTag?_tag (k : NodeKind) : ofTag? k.tag = some k := by cases k <;> decide

theorem tag_of_ofTag? {s : String} {k : NodeKind} (h : ofTag? s = some k) : k.tag = s := by
  simpa using List.find?_some h

end NodeKind

structure DataPolicySettings where
  /-- The id of the policy on the gateway, when it is not that of the node. -/
  policyId? : Option String

structure BehaviorPolicySettings where
  /-- The id of the policy on the gateway, when it is not that of the node. -/
  policyId? : Option String
  model : Behavior.Model
  arguments : Json.Object

structure ValidatorSettings where
  type : ValidatorType
  strategy : Strategy

structure SchemaSettings where
  id : String
  version : String
  type : SchemaType
  source? : Option String
  messageType? : Option String

structure OperationSettings where
  functionId? : Option String
  /-- What was entered for the arguments of the function. -/
  formData : Json.Object
  isTerminal? : Option Bool

structure TransitionSettings where
  event? : Option String
  source? : Option String
  target? : Option String
  /-- The behavior model that the transition was made for. -/
  model? : Option Behavior.Model

structure FunctionSettings where
  name : String
  version? : Option UInt32
  language : ScriptLanguage
  source : String

inductive Settings where
  | topicFilter (topics : List String)
  | clientFilter (clients : List String)
  | dataPolicy (s : DataPolicySettings)
  | behaviorPolicy (s : BehaviorPolicySettings)
  | validator (s : ValidatorSettings)
  | schema (s : SchemaSettings)
  | operation (s : OperationSettings)
  | transition (s : TransitionSettings)
  | function (s : FunctionSettings)

def Settings.kind : Settings → NodeKind
  | topicFilter _ => .topicFilter
  | clientFilter _ => .clientFilter
  | dataPolicy _ => .dataPolicy
  | behaviorPolicy _ => .behaviorPolicy
  | validator _ => .validator
  | schema _ => .schema
  | operation _ => .operation
  | transition _ => .transition
  | function _ => .function

/-! ### Nodes -/

/-- A node with a tag that has no settings here. -/
structure ForeignNode where
  id : String
  tag : String
  /-- The members of its object besides the id and the tag. -/
  rest : Json.Object
  get?_id : rest.get? "id" = none
  get?_type : rest.get? "type" = none
  foreign : NodeKind.ofTag? tag = none

inductive Node where
  | known (id : String) (position? : Option Position) (settings : Settings)
  | foreign (node : ForeignNode)

namespace Node

def id : Node → String
  | known id _ _ => id
  | foreign n => n.id

def tag : Node → String
  | known _ _ s => s.kind.tag
  | foreign n => n.tag

def settings? : Node → Option Settings
  | known _ _ s => some s
  | foreign _ => none

def kind? (n : Node) : Option NodeKind := n.settings?.map Settings.kind

/-- Policies bound what belongs together: each owns the nodes wired to it. -/
def isPolicy (n : Node) : Bool :=
  match n.settings? with
  | some (.dataPolicy _) | some (.behaviorPolicy _) => true
  | _ => false

def isForeign (n : Node) : Bool := n.settings?.isNone

def topics? (n : Node) : Option (List String) :=
  match n.settings? with
  | some (.topicFilter topics) => some topics
  | _ => none

def clients? (n : Node) : Option (List String) :=
  match n.settings? with
  | some (.clientFilter clients) => some clients
  | _ => none

def validator? (n : Node) : Option ValidatorSettings :=
  match n.settings? with
  | some (.validator s) => some s
  | _ => none

def schema? (n : Node) : Option SchemaSettings :=
  match n.settings? with
  | some (.schema s) => some s
  | _ => none

def operation? (n : Node) : Option OperationSettings :=
  match n.settings? with
  | some (.operation s) => some s
  | _ => none

def transition? (n : Node) : Option TransitionSettings :=
  match n.settings? with
  | some (.transition s) => some s
  | _ => none

def function? (n : Node) : Option FunctionSettings :=
  match n.settings? with
  | some (.function s) => some s
  | _ => none

def behaviorPolicy? (n : Node) : Option BehaviorPolicySettings :=
  match n.settings? with
  | some (.behaviorPolicy s) => some s
  | _ => none

/-- The tag of a node tells its kind. -/
theorem ofTag?_tag (n : Node) : NodeKind.ofTag? n.tag = n.kind? := by
  cases n with
  | known id position? s => exact NodeKind.ofTag?_tag s.kind
  | foreign n => exact n.foreign

end Node

/-- A connection from a node to another, each end through a handle or through none. -/
structure Edge where
  id : String
  source : String
  target : String
  sourceHandle? : Option String
  targetHandle? : Option String
deriving DecidableEq, Repr

structure FunctionTraits where
  /-- Nothing may follow the function in a pipeline. -/
  isTerminal : Bool
  isDataOnly : Bool
  hasArguments : Bool
deriving DecidableEq, Repr

/-- A function that the gateway offers for pipelines. -/
structure FunctionSpec where
  functionId : String
  traits : FunctionTraits
  /-- A JSON schema of the arguments, or `null`. -/
  schema : { j : Json // j.Canonical }

structure Workspace where
  nodes : List Node
  edges : List Edge
  functions : List FunctionSpec

namespace Workspace

/-- The first node with the id. -/
def node? (w : Workspace) (id : String) : Option Node := w.nodes.find? (·.id = id)

/-- The first function with the id. -/
def function? (w : Workspace) (functionId : String) : Option FunctionSpec :=
  w.functions.find? (·.functionId = functionId)

end Workspace

namespace Handle

def onSuccess : String := "onSuccess"
def onError : String := "onError"
def output : String := "output"
def function : String := "function"
def serialiser : String := "serialiser"
def deserialiser : String := "deserialiser"

end Handle

end PolicyCanvas
