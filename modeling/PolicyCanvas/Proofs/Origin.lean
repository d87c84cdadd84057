import PolicyCanvas.Json.Printer
import PolicyCanvas.Proofs.RoundTrip

/-!
# Where the nodes of a workspace come from

A node that was read has the id and the tag of the object it was read from, and a foreign node is
written as that very object (`Node.IsReadFrom`). So nothing that was drawn is taken for something
else, and what is not understood is not lost when a workspace is read and written
(`Workspace.roundTrip_of_ofText`).
-/

namespace PolicyCanvas

open Json (Decoder exists_of_map_eq_ok exists_of_bind_eq_ok)
open Json.Decoder (exists_of_record fits_of_record)

theorem Settings.kind_of_read {kind : NodeKind} {s : Json.Source} {o : Json.Outline}
    {settings : Settings} (read : (decoder kind).read s o = .ok settings) :
    settings.kind = kind := by
  cases kind with
  | topicFilter =>
    obtain ⟨_, rfl⟩ := exists_of_record read
    rfl
  | clientFilter =>
    obtain ⟨_, rfl⟩ := exists_of_record read
    rfl
  | _ =>
    obtain ⟨_, -, rfl⟩ := exists_of_map_eq_ok read
    rfl

/-- The node was read from the object: it has the id and the tag of it, it is foreign just when no
node of the canvas has the tag, and a foreign node is written as the object. -/
structure Node.IsReadFrom (n : Node) (o : Json.Object) : Prop where
  id : o.get? "id" = some (.string n.id)
  tag : o.get? "type" = some (.string n.tag)
  isForeign_iff : n.isForeign = true ↔ ∀ kind : NodeKind, n.tag ≠ kind.tag
  toJson_of_isForeign : n.isForeign = true → n.toJson = o.toJson

namespace Node

theorem string_of_read {s : Json.Source} {j : Json} {text : String}
    (read : Decoder.string.read s (.ofJson j) = .ok text) : j = .string text := by
  cases j with
  | string t =>
    obtain rfl : t = text := Except.ok.inj read
    rfl
  | _ => simp [Decoder.string, Json.Outline.ofJson] at read

theorem isForeign_iff (n : Node) : n.isForeign = true ↔ ∀ kind : NodeKind, n.tag ≠ kind.tag := by
  cases n with
  | known id position? settings =>
    simp only [isForeign, settings?, Option.isNone_some, Bool.false_eq_true, false_iff]
    exact fun other => other settings.kind rfl
  | foreign n =>
    simp only [isForeign, settings?, Option.isNone_none, true_iff]
    intro kind same
    have foreign : NodeKind.ofTag? n.tag = none := n.foreign
    rw [show n.tag = kind.tag from same, NodeKind.ofTag?_tag] at foreign
    cases foreign

/-- A record of a kind has the id of the object it was read from. -/
theorem isReadFrom_of_knownDecoder {kind : NodeKind} {o : Json.Object} {n : Node}
    (tagged : o.get? "type" = some (.string kind.tag))
    (read : (knownDecoder kind).read .kept (.ofJson o.toJson) = .ok n) : n.IsReadFrom o := by
  obtain ⟨⟨id, position?, settings, _⟩, rfl, fits⟩ := fits_of_record read (by simp)
  obtain ⟨ownId, -, ownSettings, -⟩ := fits
  obtain ⟨value, given, readId⟩ := Json.Form.exists_of_fieldFits ownId
  obtain ⟨_, -, readSettings⟩ := Json.Form.exists_of_fieldFits ownSettings
  obtain rfl := Settings.kind_of_read readSettings
  refine ⟨?_, tagged, isForeign_iff _, nofun⟩
  rw [Json.Outline.get?_ofMembers] at given
  obtain ⟨j, found, rfl⟩ := Option.map_eq_some_iff.mp given
  obtain rfl := string_of_read readId
  exact found

theorem isReadFrom_of_ofObject {o : Json.Object} {n : Node} (read : ofObject o = .ok n) :
    n.IsReadFrom o := by
  unfold ofObject at read
  split at read
  next tag isText =>
    have tagged := text?_eq_some_iff.mp isText
    split at read
    next kind isKind =>
      obtain rfl := NodeKind.tag_of_ofTag? isKind
      exact isReadFrom_of_knownDecoder tagged read
    next foreign =>
      split at read
      next id isText =>
        have named := text?_eq_some_iff.mp isText
        obtain rfl := Except.ok.inj read
        refine ⟨named, tagged, isForeign_iff _, fun _ => ?_⟩
        exact congrArg Json.Object.toJson (ForeignNode.object_eq_of_restOf named tagged rfl)
      · cases read
      · cases read
  · cases read

/-- A node is read from an object. -/
theorem exists_object_of_read {s : Json.Source} {o : Json.Outline} {n : Node}
    (read : decoder.read s o = .ok n) :
    ∃ object : Json.Object, o.toJson = .ok object.toJson ∧ n.IsReadFrom object := by
  obtain ⟨⟨j, canonical⟩, readJson, read⟩ := exists_of_bind_eq_ok read
  have value := Decoder.toJson_of_json readJson
  cases j with
  | object members => exact ⟨⟨members, canonical⟩, value, isReadFrom_of_ofObject read⟩
  | _ => cases read

end Node

/-- A workspace that was read is read again from what it is written as, wherever that comes from.
The nodes come from objects in the text, one by one. -/
theorem Workspace.roundTrip_of_ofText {text : String} {w : Workspace} (read : ofText text = .ok w) :
    (∀ s, decoder.read s (.ofJson w.toJson) = .ok w) ∧
      ∃ start depth items,
        (Json.Outline.ofText text).1.field? "nodes" 0 = some (.array start depth items) ∧
        List.Forall₂ (fun n item => ∃ o : Json.Object, item.toJson = .ok o.toJson ∧ n.IsReadFrom o)
          w.nodes items.toList := by
  refine ⟨w.reads_toJson, ?_⟩
  have readOutline := Decoder.read_of_ofText read
  obtain ⟨⟨nodes, edges, functions, _⟩, value, rfl, given, readNodes⟩ :=
    Decoder.first_of_record readOutline (by simp)
  obtain ⟨start, depth, items, rfl, each⟩ := Decoder.forall₂_of_list readNodes
  exact ⟨start, depth, items, given, each.imp fun n item => Node.exists_object_of_read⟩

/-- A node that is not of the canvas, with a member that is `null`, and a topic filter with a member
that says nothing and none for its topics. -/
def Workspace.noteText : String :=
  Json.text <| .object
    [("nodes", .array
        [.object
            [("type", .string "NOTE"), ("position", .null), ("id", .string "note")],
          .object
            [("data", .object []), ("color", .string "red"), ("type", .string "TOPIC_FILTER"),
              ("id", .string "topic")]]),
      ("edges", .array [])]

theorem Workspace.roundTrip_noteText :
    ∃ w start depth items, ofText noteText = .ok w ∧ decoder.ofJson w.toJson = .ok w ∧
      w.nodes.map (fun n => (n.id, n.tag, n.isForeign)) =
        [("note", "NOTE", true), ("topic", "TOPIC_FILTER", false)] ∧
      (Json.Outline.ofText noteText).1.field? "nodes" 0 = some (.array start depth items) ∧
        List.Forall₂ (fun n item => ∃ o : Json.Object, item.toJson = .ok o.toJson ∧ n.IsReadFrom o)
          w.nodes items.toList := by
  have nodes : (ofText noteText).toOption.map
      (fun w => w.nodes.map fun n => (n.id, n.tag, n.isForeign)) =
        some [("note", "NOTE", true), ("topic", "TOPIC_FILTER", false)] := by decide +kernel
  cases read : ofText noteText with
  | error e => simp [read, Except.toOption] at nodes
  | ok w =>
    rw [read] at nodes
    obtain ⟨again, start, depth, items, given, each⟩ := roundTrip_of_ofText read
    exact ⟨w, start, depth, items, rfl, again .value, Option.some.inj nodes, given, each⟩

end PolicyCanvas
