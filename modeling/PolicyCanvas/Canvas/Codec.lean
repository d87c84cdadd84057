import PolicyCanvas.Canvas.Workspace
import PolicyCanvas.Json.Decoder

/-!
# Writing and reading a workspace

The JSON object of a node names all of its settings, with `null` for what is not set; a foreign node
is written with its id and its tag among its other members.

A node is read to its end before its tag is looked at. With a tag of the canvas it is then read as
a record of that kind; with any other tag only an id is asked for. Everything else of a workspace is
read in the order of the text.
-/

namespace PolicyCanvas

open Json (Decoder Failure Form Mismatch)

def Position.toJson (p : Position) : Json :=
  .ofFields [("x", some (.number (.float p.x))), ("y", some (.number (.float p.y)))]

def Settings.toJson : Settings → Json
  | topicFilter topics => .ofFields [("topics", some (.ofTextList topics))]
  | clientFilter clients => .ofFields [("clients", some (.ofTextList clients))]
  | dataPolicy s => .ofFields [("id", some (.nullable .string s.policyId?))]
  | behaviorPolicy s =>
    .ofFields
      [("arguments", some s.arguments.toJson),
        ("id", some (.nullable .string s.policyId?)),
        ("model", some (.string s.model.name))]
  | validator s =>
    .ofFields [("strategy", some (.string s.strategy.name)), ("type", some (.string s.type.name))]
  | schema s =>
    .ofFields
      [("id", some (.string s.id)),
        ("messageType", some (.nullable .string s.messageType?)),
        ("schemaSource", some (.nullable .string s.source?)),
        ("type", some (.string s.type.name)),
        ("version", some (.string s.version))]
  | operation s =>
    .ofFields
      [("formData", some s.formData.toJson),
        ("functionId", some (.nullable .string s.functionId?)),
        ("isTerminal", some (.nullable .bool s.isTerminal?))]
  | transition s =>
    .ofFields
      [("event", some (.nullable .string s.event?)),
        ("from", some (.nullable .string s.source?)),
        ("to", some (.nullable .string s.target?)),
        ("type", some (.nullable (fun m => .string m.name) s.model?))]
  | function s =>
    .ofFields
      [("name", some (.string s.name)),
        ("sourceCode", some (.string s.source)),
        ("type", some (.string s.language.name)),
        ("version", some (.nullable (fun v => .number (.integer v.toNat)) s.version?))]

def ForeignNode.object (n : ForeignNode) : Json.Object :=
  (n.rest.insert "id" ⟨.string n.id, trivial⟩).insert "type" ⟨.string n.tag, trivial⟩

def Node.toJson : Node → Json
  | known id position? settings =>
    .ofFields
      [("data", some settings.toJson),
        ("id", some (.string id)),
        ("position", position?.map Position.toJson),
        ("type", some (.string settings.kind.tag))]
  | foreign n => n.object.toJson

def Edge.toJson (e : Edge) : Json :=
  .ofFields
    [("id", some (.string e.id)),
      ("source", some (.string e.source)),
      ("sourceHandle", some (.nullable .string e.sourceHandle?)),
      ("target", some (.string e.target)),
      ("targetHandle", some (.nullable .string e.targetHandle?))]

def FunctionTraits.toJson (t : FunctionTraits) : Json :=
  .ofFields
    [("hasArguments", some (.bool t.hasArguments)),
      ("isDataOnly", some (.bool t.isDataOnly)),
      ("isTerminal", some (.bool t.isTerminal))]

def FunctionSpec.toJson (f : FunctionSpec) : Json :=
  .ofFields
    [("functionId", some (.string f.functionId)),
      ("metadata", some f.traits.toJson),
      ("schema", some f.schema.1)]

def Workspace.toJson (w : Workspace) : Json :=
  .ofFields
    [("edges", some (.array (w.edges.map Edge.toJson))),
      ("functions", some (.array (w.functions.map FunctionSpec.toJson))),
      ("nodes", some (.array (w.nodes.map Node.toJson)))]

def Position.decoder : Decoder Position :=
  .record "Position" (.required "x" .binary64 <| .required "y" .binary64 .done)
    fun (x, y, _) => ⟨x, y⟩

def behaviorModelDecoder : Decoder Behavior.Model := .oneOf Behavior.Model.name Behavior.Model.all

def DataPolicySettings.decoder : Decoder DataPolicySettings :=
  .record "DataPolicyData" (.optional "id" .string .done) fun (policyId?, _) => ⟨policyId?⟩

def BehaviorPolicySettings.decoder : Decoder BehaviorPolicySettings :=
  .record "BehaviorPolicyData"
    (.optional "id" .string <| .required "model" behaviorModelDecoder <|
      .defaulted "arguments" .object ∅ .done)
    fun (policyId?, model, arguments, _) => ⟨policyId?, model, arguments⟩

def ValidatorSettings.decoder : Decoder ValidatorSettings :=
  .record "ValidatorData"
    (.required "type" (.oneOf ValidatorType.name [.schema]) <|
      .required "strategy" (.oneOf Strategy.name [.allOf, .anyOf]) .done)
    fun (type, strategy, _) => ⟨type, strategy⟩

def SchemaSettings.decoder : Decoder SchemaSettings :=
  .record "SchemaData"
    (.required "id" .string <| .required "version" .string <|
      .required "type" (.oneOf SchemaType.name [.json, .protobuf]) <|
      .optional "schemaSource" .string <| .optional "messageType" .string .done)
    fun (id, version, type, source?, messageType?, _) => ⟨id, version, type, source?, messageType?⟩

def OperationSettings.decoder : Decoder OperationSettings :=
  .record "OperationData"
    (.optional "functionId" .string <| .defaulted "formData" .object ∅ <|
      .optional "isTerminal" .bool .done)
    fun (functionId?, formData, isTerminal?, _) => ⟨functionId?, formData, isTerminal?⟩

def TransitionSettings.decoder : Decoder TransitionSettings :=
  .record "TransitionData"
    (.optional "event" .string <| .optional "from" .string <| .optional "to" .string <|
      .optional "type" behaviorModelDecoder .done)
    fun (event?, source?, target?, model?, _) => ⟨event?, source?, target?, model?⟩

def FunctionSettings.decoder : Decoder FunctionSettings :=
  .record "FunctionData"
    (.required "name" .string <| .optional "version" .uint32 <|
      .required "type" (.oneOf ScriptLanguage.name [.javascript]) <|
      .defaulted "sourceCode" .string "" .done)
    fun (name, version?, language, source, _) => ⟨name, version?, language, source⟩

def Settings.decoder : NodeKind → Decoder Settings
  | .topicFilter =>
    .record "TopicFilterData" (.defaulted "topics" (.list .string) [] .done)
      fun (topics, _) => .topicFilter topics
  | .clientFilter =>
    .record "ClientFilterData" (.defaulted "clients" (.list .string) [] .done)
      fun (clients, _) => .clientFilter clients
  | .dataPolicy => DataPolicySettings.decoder.map .dataPolicy
  | .behaviorPolicy => BehaviorPolicySettings.decoder.map .behaviorPolicy
  | .validator => ValidatorSettings.decoder.map .validator
  | .schema => SchemaSettings.decoder.map .schema
  | .operation => OperationSettings.decoder.map .operation
  | .transition => TransitionSettings.decoder.map .transition
  | .function => FunctionSettings.decoder.map .function

namespace Node

/-- A node with a tag of the canvas. -/
def knownDecoder (kind : NodeKind) : Decoder Node :=
  .record "NodeBase"
    (.required "id" .string <| .optional "position" Position.decoder <|
      .required "data" (Settings.decoder kind) .done)
    fun (id, position?, settings, _) => .known id position? settings

/-- A member that has to be a text if it is there. -/
def text? : Option Json → Except Mismatch (Option String)
  | none => .ok none
  | some (.string t) => .ok (some t)
  | some j => .error (.wrongType (.ofJson j) "a string")

/-- Why an object without a text for its tag is no node: a name of the wrong type comes before a
name that is missing. -/
def refuseUntagged (o : Json.Object) : Mismatch :=
  match text? (o.get? "id"), text? (o.get? "type") with
  | .error m, _ => m
  | _, .error m => m
  | .ok none, _ => .missingField "id"
  | _, _ => .missingField "type"

/-- What is left of an object when its id and its tag are taken out. -/
def restOf (o : Json.Object) : Json.Object := (o.erase "id").erase "type"

theorem get?_restOf (o : Json.Object) (key : String) :
    (restOf o).get? key = if key = "type" ∨ key = "id" then none else o.get? key := by
  rw [restOf, Json.Object.get?_erase, Json.Object.get?_erase]
  by_cases isType : key = "type" <;> simp [isType]

def ofObject (o : Json.Object) : Except Failure Node :=
  match text? (o.get? "type") with
  | .ok (some tag) =>
    match foreign : NodeKind.ofTag? tag with
    | some kind => (knownDecoder kind).read .kept (.ofJson o.toJson)
    | none =>
      match text? (o.get? "id") with
      | .ok (some id) =>
        .ok (.foreign
          { id, tag, foreign
            rest := restOf o
            get?_id := by simp [get?_restOf]
            get?_type := by simp [get?_restOf] })
      | .ok none => .error (.mismatch (.missingField "id"))
      | .error m => .error (.mismatch m)
  | _ => .error (.mismatch (refuseUntagged o))

def decoder : Decoder Node where
  read s o := do
    match ← Decoder.json.read s o with
    | ⟨.object members, canonical⟩ => ofObject ⟨members, canonical⟩
    | ⟨j, _⟩ => throw (.mismatch (.wrongType (.ofJson j) "struct UnknownNode"))

end Node

def Edge.decoder : Decoder Edge :=
  .record "PolicyEdge"
    (.required "id" .string <| .required "source" .string <| .required "target" .string <|
      .optional "sourceHandle" .string <| .optional "targetHandle" .string .done)
    fun (id, source, target, sourceHandle?, targetHandle?, _) =>
      ⟨id, source, target, sourceHandle?, targetHandle?⟩

def FunctionTraits.decoder : Decoder FunctionTraits :=
  .record "FunctionMetadata"
    (.defaulted "isTerminal" .bool false <| .defaulted "isDataOnly" .bool false <|
      .defaulted "hasArguments" .bool false .done)
    fun (isTerminal, isDataOnly, hasArguments, _) => ⟨isTerminal, isDataOnly, hasArguments⟩

def FunctionSpec.decoder : Decoder FunctionSpec :=
  .record "FunctionSpec"
    (.required "functionId" .string <|
      .defaulted "metadata" FunctionTraits.decoder ⟨false, false, false⟩ <|
      .defaulted "schema" .json ⟨.null, trivial⟩ .done)
    fun (functionId, traits, schema, _) => ⟨functionId, traits, schema⟩

namespace Workspace

def decoder : Decoder Workspace :=
  .record "WorkspaceState"
    (.required "nodes" (.list Node.decoder) <| .required "edges" (.list Edge.decoder) <|
      .defaulted "functions" (.list FunctionSpec.decoder) [] .done)
    fun (nodes, edges, functions, _) => ⟨nodes, edges, functions⟩

/-- The workspace that a text holds. -/
def ofText (text : String) : Except Json.DecodeError Workspace := decoder.ofText text

end Workspace

end PolicyCanvas
