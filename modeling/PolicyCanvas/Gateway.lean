import PolicyCanvas.Json.Decoder

/-!
# The gateway

What policies and their parts are on the gateway, each with the JSON object that stands for it and
the decoder that reads it. A data policy checks the messages on some topics; a behavior policy
follows the behavior of some clients. Where it has to be told which of the two an object is, its
member `kind` says so.
-/

namespace PolicyCanvas

inductive ValidatorType where
  | schema
deriving DecidableEq, Repr

def ValidatorType.name : ValidatorType → String
  | schema => "SCHEMA"

/-- Whether a message has to satisfy every schema of a validator or only one of them. -/
inductive Strategy where
  | allOf
  | anyOf
deriving DecidableEq, Repr

def Strategy.name : Strategy → String
  | allOf => "ALL_OF"
  | anyOf => "ANY_OF"

/-- The language that a schema is written in. -/
inductive SchemaType where
  | json
  | protobuf
deriving DecidableEq, Repr

def SchemaType.name : SchemaType → String
  | json => "JSON"
  | protobuf => "PROTOBUF"

inductive ScriptLanguage where
  | javascript
deriving DecidableEq, Repr

def ScriptLanguage.name : ScriptLanguage → String
  | javascript => "Javascript"

end PolicyCanvas

namespace PolicyCanvas.Gateway

open Json (Decoder Form)

structure SchemaReference where
  schemaId : String
  version : String
deriving DecidableEq, Repr

structure Schema where
  id : String
  version : String
  type : SchemaType
  /-- The text of the schema. -/
  definition? : Option String
  /-- The message type of a Protobuf schema. -/
  messageType? : Option String
deriving DecidableEq, Repr

def Schema.reference (s : Schema) : SchemaReference := ⟨s.id, s.version⟩

namespace SchemaReference

def toJson (r : SchemaReference) : Json :=
  .ofFields [("schemaId", some (.string r.schemaId)), ("version", some (.string r.version))]

def decoder : Decoder SchemaReference :=
  .record "SchemaReference"
    (.required "schemaId" .string <| .required "version" .string .done)
    fun (schemaId, version, _) => ⟨schemaId, version⟩

end SchemaReference

namespace Schema

def toJson (s : Schema) : Json :=
  .ofFields
    [("id", some (.string s.id)),
      ("messageType", s.messageType?.map .string),
      ("schemaDefinition", s.definition?.map .string),
      ("type", some (.string s.type.name)),
      ("version", some (.string s.version))]

def decoder : Decoder Schema :=
  .record "PolicySchema"
    (.required "id" .string <| .required "version" .string <|
      .required "type" (.oneOf SchemaType.name [.json, .protobuf]) <|
      .listed "schemaDefinition" .string <| .listed "messageType" .string .done)
    fun (id, version, type, definition?, messageType?, _) =>
      ⟨id, version, type, definition?, messageType?⟩

end Schema

/-- A script that transforms messages. -/
structure Script where
  id : String
  version? : Option UInt32
  language : ScriptLanguage
  source : String
deriving DecidableEq, Repr

namespace Script

def toJson (s : Script) : Json :=
  .ofFields
    [("functionType", some (.string s.language.name)),
      ("id", some (.string s.id)),
      ("source", some (.string s.source)),
      ("version", s.version?.map fun v => .number (.integer v.toNat))]

def decoder : Decoder Script :=
  .record "PolicyScript"
    (.required "id" .string <| .listed "version" .uint32 <|
      .required "functionType" (.oneOf ScriptLanguage.name [.javascript]) <|
      .required "source" .string .done)
    fun (id, version?, language, source, _) => ⟨id, version?, language, source⟩

end Script

structure Validator where
  type : ValidatorType
  schemas : List SchemaReference
  strategy : Strategy
deriving DecidableEq, Repr

namespace Validator

def toJson (v : Validator) : Json :=
  .ofFields
    [("arguments", some (.ofFields
        [("schemas", some (.array (v.schemas.map SchemaReference.toJson))),
          ("strategy", some (.string v.strategy.name))])),
      ("type", some (.string v.type.name))]

def argumentsDecoder : Decoder (List SchemaReference × Strategy) :=
  .record "ValidatorArguments"
    (.required "schemas" (.list SchemaReference.decoder) <|
      .required "strategy" (.oneOf Strategy.name [.allOf, .anyOf]) .done)
    fun (schemas, strategy, _) => (schemas, strategy)

def decoder : Decoder Validator :=
  .record "DataPolicyValidator"
    (.required "type" (.oneOf ValidatorType.name [.schema]) <|
      .required "arguments" argumentsDecoder .done)
    fun (type, (schemas, strategy), _) => ⟨type, schemas, strategy⟩

end Validator

/-- One step of a pipeline. -/
structure Operation where
  id : String
  functionId : String
  arguments : Json.Object

namespace Operation

def toJson (o : Operation) : Json :=
  .ofFields
    [("arguments", some o.arguments.toJson),
      ("functionId", some (.string o.functionId)),
      ("id", some (.string o.id))]

def decoder : Decoder Operation :=
  .record "PolicyOperation"
    (.required "id" .string <| .required "functionId" .string <|
      .required "arguments" .object .done)
    fun (id, functionId, arguments, _) => ⟨id, functionId, arguments⟩

end Operation

/-- A behavior model with its arguments. -/
structure BehaviorModel where
  id : String
  arguments : Json.Object

namespace BehaviorModel

def toJson (m : BehaviorModel) : Json :=
  .ofFields [("arguments", some m.arguments.toJson), ("id", some (.string m.id))]

def decoder : Decoder BehaviorModel :=
  .record "BehaviorModel" (.required "id" .string <| .required "arguments" .object .done)
    fun (id, arguments, _) => ⟨id, arguments⟩

end BehaviorModel

/-- What happens when an event takes a client from one state to another. -/
structure Transition where
  event : String
  source : String
  target : String
  pipeline : List Operation

namespace Transition

def toJson (t : Transition) : Json :=
  .ofFields
    [("event", some (.string t.event)),
      ("fromState", some (.string t.source)),
      ("pipeline", some (.array (t.pipeline.map Operation.toJson))),
      ("toState", some (.string t.target))]

def decoder : Decoder Transition :=
  .record "BehaviorPolicyTransition"
    (.required "event" .string <| .required "fromState" .string <| .required "toState" .string <|
      .required "pipeline" (.list Operation.decoder) .done)
    fun (event, source, target, pipeline, _) => ⟨event, source, target, pipeline⟩

end Transition

structure DataPolicy where
  id : String
  topicFilter : String
  validators : List Validator
  onSuccess? : Option (List Operation)
  onError? : Option (List Operation)

namespace DataPolicy

def actionJson (pipeline : List Operation) : Json :=
  .ofFields [("pipeline", some (.array (pipeline.map Operation.toJson)))]

/-- The object of the policy, with its kind if one is given. -/
def toJson (p : DataPolicy) (kind? : Option String) : Json :=
  .ofFields
    [("id", some (.string p.id)),
      ("kind", kind?.map .string),
      ("matching", some (.ofFields [("topicFilter", some (.string p.topicFilter))])),
      ("onError", p.onError?.map actionJson),
      ("onSuccess", p.onSuccess?.map actionJson),
      ("validation", some (.ofFields
        [("validators", some (.array (p.validators.map Validator.toJson)))]))]

def matchingDecoder : Decoder String :=
  .record "DataPolicyMatching" (.required "topicFilter" .string .done) Prod.fst

def validationDecoder : Decoder (List Validator) :=
  .record "DataPolicyValidation" (.required "validators" (.list Validator.decoder) .done) Prod.fst

def actionDecoder : Decoder (List Operation) :=
  .record "PolicyAction" (.required "pipeline" (.list Operation.decoder) .done) Prod.fst

def decoder : Decoder DataPolicy :=
  .record "DataPolicy"
    (.required "id" .string <| .required "matching" matchingDecoder <|
      .required "validation" validationDecoder <| .listed "onSuccess" actionDecoder <|
      .listed "onError" actionDecoder .done)
    fun (id, topicFilter, validators, onSuccess?, onError?, _) =>
      ⟨id, topicFilter, validators, onSuccess?, onError?⟩

end DataPolicy

structure BehaviorPolicy where
  id : String
  clientIdFilter : String
  model : BehaviorModel
  transitions : List Transition

namespace BehaviorPolicy

/-- The object of the policy, with its kind if one is given. -/
def toJson (p : BehaviorPolicy) (kind? : Option String) : Json :=
  .ofFields
    [("id", some (.string p.id)),
      ("kind", kind?.map .string),
      ("matching", some (.ofFields [("clientIdFilter", some (.string p.clientIdFilter))])),
      ("model", some p.model.toJson),
      ("transitions", some (.array (p.transitions.map Transition.toJson)))]

def matchingDecoder : Decoder String :=
  .record "BehaviorPolicyMatching" (.required "clientIdFilter" .string .done) Prod.fst

def decoder : Decoder BehaviorPolicy :=
  .record "BehaviorPolicy"
    (.required "id" .string <| .required "matching" matchingDecoder <|
      .required "model" BehaviorModel.decoder <|
      .required "transitions" (.list Transition.decoder) .done)
    fun (id, clientIdFilter, model, transitions, _) => ⟨id, clientIdFilter, model, transitions⟩

end BehaviorPolicy

inductive Policy where
  | data (p : DataPolicy)
  | behavior (p : BehaviorPolicy)

namespace Policy

def id : Policy → String
  | data p => p.id
  | behavior p => p.id

def toJson : Policy → Json
  | data p => p.toJson (some "dataPolicy")
  | behavior p => p.toJson (some "behaviorPolicy")

def decoder : Decoder Policy :=
  .tagged "kind" "internally tagged enum CompiledPolicy"
    [("dataPolicy", DataPolicy.decoder.map .data),
      ("behaviorPolicy", BehaviorPolicy.decoder.map .behavior)]

end Policy

end PolicyCanvas.Gateway
