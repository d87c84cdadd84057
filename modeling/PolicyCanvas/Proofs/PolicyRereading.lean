import PolicyCanvas.Gateway
import PolicyCanvas.Proofs.Rereading

/-!
# A policy is read as it was written

Schemas, scripts and every part of a policy are written as objects that their decoders read back.
What is absent is left out of the object, so it stays apart from what is there and empty. The object
of a policy also names its kind; without this member it is what the decoder of the kind reads
(`DataPolicy.reads_withoutKind`, `BehaviorPolicy.reads_withoutKind`), so a policy is read as it was
written, and different policies are written differently (`Policy.ofJson_toJson`).
-/

namespace PolicyCanvas.Gateway

open Json (canonical_list canonical_ofFields)
open Json.Decoder (reads_list reads_object reads_oneOf reads_record reads_string reads_tagged
  reads_uint32)

theorem Schema.reads_toJson (s : Schema) : decoder.Reads s.toJson s := by
  have type : (Json.Decoder.oneOf SchemaType.name [.json, .protobuf]).Reads _ s.type :=
    reads_oneOf (by cases s.type <;> rfl)
  have notNull (text : String) : Json.string text ≠ .null := nofun
  exact reads_record (by simp) (by simp) <| .field rfl (reads_string s.id) <|
    .field rfl (reads_string s.version) <| .field rfl type <|
      .listed rfl reads_string notNull <| .listed rfl reads_string notNull .done

theorem Script.reads_toJson (s : Script) : decoder.Reads s.toJson s := by
  have language : (Json.Decoder.oneOf ScriptLanguage.name [.javascript]).Reads _ s.language :=
    reads_oneOf (by cases s.language; rfl)
  have notNull (version : UInt32) : Json.number (.integer version.toNat) ≠ .null := nofun
  exact reads_record (by simp) (by simp) <| .field rfl (reads_string s.id) <|
    .listed rfl reads_uint32 notNull <| .field rfl language <|
      .field rfl (reads_string s.source) .done

theorem SchemaReference.reads_toJson (r : SchemaReference) : decoder.Reads r.toJson r :=
  reads_record (by simp) (by simp) <| .field rfl (reads_string r.schemaId) <|
    .field rfl (reads_string r.version) .done

theorem Validator.reads_toJson (v : Validator) : decoder.Reads v.toJson v := by
  have type : (Json.Decoder.oneOf ValidatorType.name [.schema]).Reads _ v.type :=
    reads_oneOf (by cases v.type; rfl)
  have strategy : (Json.Decoder.oneOf Strategy.name [.allOf, .anyOf]).Reads _ v.strategy :=
    reads_oneOf (by cases v.strategy <;> rfl)
  have arguments : argumentsDecoder.Reads
      (.ofFields [("schemas", some (.array (v.schemas.map SchemaReference.toJson))),
        ("strategy", some (.string v.strategy.name))]) (v.schemas, v.strategy) :=
    reads_record (by simp) (by simp) <|
      .field rfl (reads_list SchemaReference.reads_toJson v.schemas) <| .field rfl strategy .done
  exact reads_record (by simp) (by simp) <| .field rfl type <| .field rfl arguments .done

theorem Operation.reads_toJson (o : Operation) : decoder.Reads o.toJson o :=
  reads_record (by simp) (by simp) <| .field rfl (reads_string o.id) <|
    .field rfl (reads_string o.functionId) <| .field rfl (reads_object o.arguments) .done

theorem BehaviorModel.reads_toJson (m : BehaviorModel) : decoder.Reads m.toJson m :=
  reads_record (by simp) (by simp) <| .field rfl (reads_string m.id) <|
    .field rfl (reads_object m.arguments) .done

theorem Transition.reads_toJson (t : Transition) : decoder.Reads t.toJson t :=
  reads_record (by simp) (by simp) <| .field rfl (reads_string t.event) <|
    .field rfl (reads_string t.source) <| .field rfl (reads_string t.target) <|
      .field rfl (reads_list Operation.reads_toJson t.pipeline) .done

theorem DataPolicy.reads_actionJson (pipeline : List Operation) :
    actionDecoder.Reads (actionJson pipeline) pipeline :=
  reads_record (by simp) (by simp) <| .field rfl (reads_list Operation.reads_toJson pipeline) .done

theorem DataPolicy.reads_withoutKind (p : DataPolicy) : decoder.Reads (p.toJson none) p := by
  have matching : matchingDecoder.Reads
      (.ofFields [("topicFilter", some (.string p.topicFilter))]) p.topicFilter :=
    reads_record (by simp) (by simp) <| .field rfl (reads_string p.topicFilter) .done
  have validation : validationDecoder.Reads
      (.ofFields [("validators", some (.array (p.validators.map Validator.toJson)))])
      p.validators :=
    reads_record (by simp) (by simp) <|
      .field rfl (reads_list Validator.reads_toJson p.validators) .done
  have notNull (pipeline : List Operation) : actionJson pipeline ≠ .null := nofun
  exact reads_record (by simp) (by simp) <| .field rfl (reads_string p.id) <| .field rfl matching <|
    .field rfl validation <| .listed rfl reads_actionJson notNull <|
      .listed rfl reads_actionJson notNull .done

theorem BehaviorPolicy.reads_withoutKind (p : BehaviorPolicy) :
    decoder.Reads (p.toJson none) p := by
  have matching : matchingDecoder.Reads
      (.ofFields [("clientIdFilter", some (.string p.clientIdFilter))]) p.clientIdFilter :=
    reads_record (by simp) (by simp) <| .field rfl (reads_string p.clientIdFilter) .done
  exact reads_record (by simp) (by simp) <| .field rfl (reads_string p.id) <| .field rfl matching <|
    .field rfl p.model.reads_toJson <|
      .field rfl (reads_list Transition.reads_toJson p.transitions) .done

theorem SchemaReference.canonical_toJson (r : SchemaReference) : r.toJson.Canonical :=
  canonical_ofFields (by simp only [List.map]; decide) (by simp)

theorem Validator.canonical_toJson (v : Validator) : v.toJson.Canonical := by
  have schemas := canonical_list SchemaReference.canonical_toJson v.schemas
  have arguments : (Json.ofFields
      [("schemas", some (.array (v.schemas.map SchemaReference.toJson))),
        ("strategy", some (.string v.strategy.name))]).Canonical :=
    canonical_ofFields (by simp only [List.map]; decide) (by simp [schemas])
  exact canonical_ofFields (by simp only [List.map]; decide) (by simp [arguments])

theorem Operation.canonical_toJson (o : Operation) : o.toJson.Canonical :=
  canonical_ofFields (by simp only [List.map]; decide) (by simp)

theorem BehaviorModel.canonical_toJson (m : BehaviorModel) : m.toJson.Canonical :=
  canonical_ofFields (by simp only [List.map]; decide) (by simp)

theorem Transition.canonical_toJson (t : Transition) : t.toJson.Canonical := by
  have pipeline := canonical_list Operation.canonical_toJson t.pipeline
  exact canonical_ofFields (by simp only [List.map]; decide) (by simp [pipeline])

theorem DataPolicy.canonical_actionJson (pipeline : List Operation) :
    (actionJson pipeline).Canonical := by
  have steps := canonical_list Operation.canonical_toJson pipeline
  exact canonical_ofFields (by simp only [List.map]; decide) (by simp [steps])

theorem DataPolicy.canonical_toJson (p : DataPolicy) (kind? : Option String) :
    (p.toJson kind?).Canonical := by
  have matching : (Json.ofFields
      [("topicFilter", some (.string p.topicFilter))]).Canonical :=
    canonical_ofFields (by simp only [List.map]; decide) (by simp)
  have validators := canonical_list Validator.canonical_toJson p.validators
  have validation : (Json.ofFields
      [("validators", some (.array (p.validators.map Validator.toJson)))]).Canonical :=
    canonical_ofFields (by simp only [List.map]; decide) (by simp [validators])
  exact canonical_ofFields (by simp only [List.map]; decide)
    (by simp [matching, validation, canonical_actionJson])

theorem BehaviorPolicy.canonical_toJson (p : BehaviorPolicy) (kind? : Option String) :
    (p.toJson kind?).Canonical := by
  have matching : (Json.ofFields
      [("clientIdFilter", some (.string p.clientIdFilter))]).Canonical :=
    canonical_ofFields (by simp only [List.map]; decide) (by simp)
  have transitions := canonical_list Transition.canonical_toJson p.transitions
  exact canonical_ofFields (by simp only [List.map]; decide)
    (by simp [matching, p.model.canonical_toJson, transitions])

namespace Policy

/-- What the object of a policy has for its kind. -/
def kind : Policy → String
  | data _ => "dataPolicy"
  | behavior _ => "behaviorPolicy"

/-- The object of a policy but for its kind. -/
def withoutKind : Policy → Json
  | data p => p.toJson none
  | behavior p => p.toJson none

/-- Apart from its kind the object of a policy has what it has without one. -/
theorem exists_object (p : Policy) :
    ∃ o : Json.Object, p.toJson = o.toJson ∧ o.get? "kind" = some (.string p.kind) ∧
      Json.object (o.members.filter (·.1 != "kind")) = p.withoutKind := by
  cases p with
  | data p =>
    refine ⟨⟨_, p.canonical_toJson _⟩, rfl, rfl, ?_⟩
    exact congrArg Json.object (Json.filter_fieldMembers _ "kind")
  | behavior p =>
    refine ⟨⟨_, p.canonical_toJson _⟩, rfl, rfl, ?_⟩
    exact congrArg Json.object (Json.filter_fieldMembers _ "kind")

theorem reads_toJson (p : Policy) : decoder.Reads p.toJson p := by
  obtain ⟨o, written, tagged, rest⟩ := p.exists_object
  rw [written]
  cases p with
  | data p => exact reads_tagged tagged rfl (rest ▸ p.reads_withoutKind.map _)
  | behavior p => exact reads_tagged tagged rfl (rest ▸ p.reads_withoutKind.map _)

/-- A policy is written as an object that names its kind and read from it, wherever the object comes
from. No other policy is written as this object. -/
theorem ofJson_toJson (p : Policy) :
    (∃ o : Json.Object, p.toJson = o.toJson ∧ o.get? "kind" = some (.string p.kind)) ∧
      decoder.ofJson p.toJson = .ok p ∧ (decoder.ofJson p.toJson).map id = .ok p.id ∧
      (∀ s, decoder.read s (.ofJson p.toJson) = .ok p) ∧
      ∀ q : Policy, q.toJson = p.toJson ↔ q = p := by
  have read : decoder.ofJson p.toJson = .ok p := p.reads_toJson .value
  obtain ⟨o, written, tagged, -⟩ := p.exists_object
  refine ⟨⟨o, written, tagged⟩, read, by rw [read]; rfl, p.reads_toJson, fun q => ⟨?_, ?_⟩⟩
  · intro same
    have readAgain : decoder.ofJson q.toJson = .ok q := q.reads_toJson .value
    rw [same, read] at readAgain
    exact (Except.ok.inj readAgain).symm
  · rintro rfl
    rfl

end Policy

end PolicyCanvas.Gateway
