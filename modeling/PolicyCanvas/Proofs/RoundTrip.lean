import PolicyCanvas.Canvas.Codec
import PolicyCanvas.Proofs.Rereading

/-!
# A workspace is read as it was written

Every record of a workspace is written with all of its fields, and its decoder reads each of them
back (`Workspace.reads_toJson`). A node is read in two stages: of the object that it is written as
the tag is looked at first, and that is never the tag of another kind of node
(`Node.ofObject_of_kind`, `Node.ofObject_object`).
-/

namespace PolicyCanvas

open Json.Decoder (reads_binary64 reads_bool reads_json reads_list reads_nullable reads_object
  reads_oneOf reads_record reads_string reads_uint32)

theorem reads_texts (texts : List String) :
    (Json.Decoder.list .string).Reads (.ofTextList texts) texts := reads_list reads_string texts

theorem reads_text? (text? : Option String) :
    Json.Decoder.string.option.Reads (.nullable .string text?) text? :=
  reads_nullable reads_string (by simp) text?

theorem reads_model (m : Behavior.Model) : behaviorModelDecoder.Reads (.string m.name) m :=
  reads_oneOf (by cases m <;> rfl)

theorem Position.reads_toJson (p : Position) : Position.decoder.Reads p.toJson p :=
  reads_record (by simp) (by simp) <| .field rfl (reads_binary64 p.x) <|
    .field rfl (reads_binary64 p.y) .done

theorem Settings.reads_toJson (s : Settings) : (decoder s.kind).Reads s.toJson s := by
  cases s with
  | topicFilter topics =>
    exact reads_record (by simp) (by simp) <| .field rfl (reads_texts topics) .done
  | clientFilter clients =>
    exact reads_record (by simp) (by simp) <| .field rfl (reads_texts clients) .done
  | dataPolicy s =>
    exact .map (reads_record (by simp) (by simp) <| .field rfl (reads_text? s.policyId?) .done) _
  | behaviorPolicy s =>
    exact .map (reads_record (by simp) (by simp) <| .field rfl (reads_text? s.policyId?) <|
      .field rfl (reads_model s.model) <| .field rfl (reads_object s.arguments) .done) _
  | validator s =>
    have type : (Json.Decoder.oneOf ValidatorType.name [.schema]).Reads _ s.type :=
      reads_oneOf (by cases s.type; rfl)
    have strategy : (Json.Decoder.oneOf Strategy.name [.allOf, .anyOf]).Reads _ s.strategy :=
      reads_oneOf (by cases s.strategy <;> rfl)
    exact .map (reads_record (by simp) (by simp) <| .field rfl type <| .field rfl strategy .done) _
  | schema s =>
    have type : (Json.Decoder.oneOf SchemaType.name [.json, .protobuf]).Reads _ s.type :=
      reads_oneOf (by cases s.type <;> rfl)
    exact .map (reads_record (by simp) (by simp) <| .field rfl (reads_string s.id) <|
      .field rfl (reads_string s.version) <| .field rfl type <|
        .field rfl (reads_text? s.source?) <| .field rfl (reads_text? s.messageType?) .done) _
  | operation s =>
    have isTerminal := reads_nullable reads_bool (by simp) s.isTerminal?
    exact .map (reads_record (by simp) (by simp) <| .field rfl (reads_text? s.functionId?) <|
      .field rfl (reads_object s.formData) <| .field rfl isTerminal .done) _
  | transition s =>
    have model := reads_nullable reads_model (by simp) s.model?
    exact .map (reads_record (by simp) (by simp) <| .field rfl (reads_text? s.event?) <|
      .field rfl (reads_text? s.source?) <| .field rfl (reads_text? s.target?) <|
        .field rfl model .done) _
  | function s =>
    have version := reads_nullable reads_uint32 (by simp) s.version?
    have language : (Json.Decoder.oneOf ScriptLanguage.name [.javascript]).Reads _ s.language :=
      reads_oneOf (by cases s.language; rfl)
    exact .map (reads_record (by simp) (by simp) <| .field rfl (reads_string s.name) <|
      .field rfl version <| .field rfl language <| .field rfl (reads_string s.source) .done) _

theorem Settings.canonical_toJson (s : Settings) : s.toJson.Canonical := by
  cases s <;>
    exact Json.canonical_ofFields (by simp only [List.map]; decide)
      (by simp [Json.canonical_nullable])

theorem Position.canonical_toJson (p : Position) : p.toJson.Canonical :=
  Json.canonical_ofFields (by simp only [List.map]; decide) (by simp)

namespace Node

theorem canonical_toJson (n : Node) : n.toJson.Canonical := by
  cases n with
  | known id position? settings =>
    refine Json.canonical_ofFields (by simp only [List.map]; decide) ?_
    simp [Position.canonical_toJson, settings.canonical_toJson]
  | foreign n => exact n.object.canonical

theorem knownDecoder_reads_toJson (id : String) (position? : Option Position)
    (settings : Settings) :
    (knownDecoder settings.kind).Reads (known id position? settings).toJson
      (known id position? settings) := by
  cases position? with
  | none =>
    exact reads_record (by simp) (by simp) <| .field rfl (reads_string id) <| .default rfl rfl <|
      .field rfl settings.reads_toJson .done
  | some p =>
    exact reads_record (by simp) (by simp) <| .field rfl (reads_string id) <|
      .field rfl (p.reads_toJson.option (by simp [Position.toJson, Json.ofFields])) <|
        .field rfl settings.reads_toJson .done

theorem text?_eq_some_iff {found : Option Json} {text : String} :
    text? found = .ok (some text) ↔ found = some (.string text) := by
  unfold text?
  split
  · simp
  · simp
  next notText => simpa using notText text

/-- An object with a tag of the canvas is read as a record of that kind. -/
theorem ofObject_of_kind {o : Json.Object} {tag : String} {kind : NodeKind}
    (tagged : o.get? "type" = some (.string tag)) (isKind : NodeKind.ofTag? tag = some kind) :
    ofObject o = (knownDecoder kind).read .kept (.ofJson o.toJson) := by
  unfold ofObject
  rw [text?_eq_some_iff.mpr tagged]
  dsimp only
  split
  next other same =>
    obtain rfl := Option.some.inj (isKind.symm.trans same)
    rfl
  next foreign => cases isKind.symm.trans foreign

end Node

namespace ForeignNode

theorem get?_object (n : ForeignNode) (key : String) :
    n.object.get? key =
      if key = "type" then some (.string n.tag)
      else if key = "id" then some (.string n.id)
      else n.rest.get? key := by
  rw [object, Json.Object.get?_insert, Json.Object.get?_insert]

/-- Id and tag can be taken out again of what a node is written as. -/
theorem restOf_object (n : ForeignNode) : Node.restOf n.object = n.rest := by
  refine Json.Object.ext_get? fun key => ?_
  rw [Node.get?_restOf, get?_object]
  by_cases isType : key = "type"
  · simp [isType, n.get?_type]
  by_cases isId : key = "id"
  · simp [isId, n.get?_id]
  · simp [isType, isId]

/-- Id and tag are put back in among the members that were left. -/
theorem object_eq_of_restOf {n : ForeignNode} {o : Json.Object}
    (named : o.get? "id" = some (.string n.id)) (tagged : o.get? "type" = some (.string n.tag))
    (left : n.rest = Node.restOf o) : n.object = o := by
  refine Json.Object.ext_get? fun key => ?_
  rw [get?_object, left, Node.get?_restOf]
  by_cases isType : key = "type"
  · simp [isType, tagged]
  by_cases isId : key = "id"
  · simp [isId, named]
  · simp [isType, isId]

end ForeignNode

namespace Node

theorem ofObject_object (n : ForeignNode) : ofObject n.object = .ok (.foreign n) := by
  have tagged : n.object.get? "type" = some (.string n.tag) := by rw [n.get?_object, if_pos rfl]
  have named : n.object.get? "id" = some (.string n.id) := by simp [n.get?_object]
  unfold ofObject
  rw [text?_eq_some_iff.mpr tagged]
  dsimp only
  split
  next other same => cases n.foreign.symm.trans same
  next foreign =>
    rw [text?_eq_some_iff.mpr named]
    simp only [n.restOf_object]

/-- Of an object the decoder makes what `ofObject` makes of its members. -/
theorem read_decoder_ofJson (o : Json.Object) (s : Json.Source) :
    decoder.read s (.ofJson o.toJson) = ofObject o := by
  have read : Json.Decoder.json.read s (.ofJson o.toJson) = .ok ⟨o.toJson, o.canonical⟩ :=
    reads_json o.canonical s
  change (Json.Decoder.json.read s _ >>= _) = _
  rw [read]
  rfl

theorem reads_toJson (n : Node) : decoder.Reads n.toJson n := by
  intro s
  cases n with
  | foreign n => exact (read_decoder_ofJson n.object s).trans (ofObject_object n)
  | known id position? settings =>
    let o : Json.Object := ⟨_, (known id position? settings).canonical_toJson⟩
    have tagged : o.get? "type" = some (.string settings.kind.tag) := by
      cases position? <;> rfl
    rw [show (known id position? settings).toJson = o.toJson from rfl, read_decoder_ofJson,
      ofObject_of_kind tagged (NodeKind.ofTag?_tag _)]
    exact knownDecoder_reads_toJson id position? settings .kept

end Node

theorem Edge.reads_toJson (e : Edge) : decoder.Reads e.toJson e :=
  reads_record (by simp) (by simp) <| .field rfl (reads_string e.id) <|
    .field rfl (reads_string e.source) <| .field rfl (reads_string e.target) <|
      .field rfl (reads_text? e.sourceHandle?) <| .field rfl (reads_text? e.targetHandle?) .done

theorem FunctionTraits.reads_toJson (t : FunctionTraits) : decoder.Reads t.toJson t :=
  reads_record (by simp) (by simp) <| .field rfl (reads_bool t.isTerminal) <|
    .field rfl (reads_bool t.isDataOnly) <| .field rfl (reads_bool t.hasArguments) .done

theorem FunctionSpec.reads_toJson (f : FunctionSpec) : decoder.Reads f.toJson f :=
  reads_record (by simp) (by simp) <| .field rfl (reads_string f.functionId) <|
    .field rfl f.traits.reads_toJson <| .field rfl (reads_json f.schema.2) .done

/-- A workspace is read as it was written. -/
theorem Workspace.reads_toJson (w : Workspace) : decoder.Reads w.toJson w :=
  reads_record (by simp) (by simp) <| .field rfl (reads_list Node.reads_toJson w.nodes) <|
    .field rfl (reads_list Edge.reads_toJson w.edges) <|
      .field rfl (reads_list FunctionSpec.reads_toJson w.functions) .done

end PolicyCanvas
