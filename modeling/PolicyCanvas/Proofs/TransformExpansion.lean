import PolicyCanvas.Proofs.Component
import PolicyCanvas.Proofs.Content

/-!
# What a transform comes to

A transform needs a schema to read by, scripts to run and a schema to write by. When it lacks one of
them it comes to nothing but a finding for each that it lacks. Otherwise it comes to exactly one
step for each, and under every step is the result of the one schema or script that it is made from:
this is what the step refers to, or says what keeps it from being referred to
(`transform_lacks_or_expands`).
-/

namespace PolicyCanvas

/-- What a transform needs: nodes of a kind, each connected to a handle of its own. -/
def transformInputs : List (NodeKind × String) :=
  [(.schema, Handle.deserialiser), (.function, Handle.function), (.schema, Handle.serialiser)]

/-- No node of the kind is connected to the handle. -/
def Workspace.Lacks (w : Workspace) (id : String) (input : NodeKind × String) : Prop :=
  ∀ n ∈ w.predecessors id (some input.2), n.kind? ≠ some input.1

instance (w : Workspace) (id : String) : DecidablePred (w.Lacks id) :=
  fun input => inferInstanceAs (Decidable (∀ n ∈ w.predecessors id (some input.2), _))

/-- The result of a node that lacks an input. -/
def Node.lacking (n : Node) (input : NodeKind × String) : Resolution Gateway.Operation where
  node := n
  verdict := .error
    { kind := .notConnected
      id := n.id
      title := n.tag
      detail := "No node of type " ++ input.1.tag ++ " is connected to the '" ++ input.2 ++
        "' handle of " ++ n.tag }
  resources? := none

theorem Workspace.lacks_iff {α : Type} {w : Workspace} {id handle : String} {kind : NodeKind}
    {view : Node → Option α} (isPart : Node.IsPartView kind view) :
    w.Lacks id (kind, handle) ↔ w.predecessorsOf id (some handle) view = [] := by
  simp [Lacks, predecessorsOf, Node.seenBy, ← isPart.isSome_iff]

/-- What keeps a schema from being referred to. -/
def SchemaSettings.defect? (s : SchemaSettings) : Option String :=
  if Text.isBlank s.id then some "Schema id must not be empty"
  else if Text.isBlank s.version then some ("Schema '" ++ s.id ++ "' has no version")
  else none

/-- What keeps a script from being referred to. -/
def FunctionSettings.defect? (s : FunctionSettings) : Option String :=
  if Text.isBlank s.name then some "Function script has no name" else none

/-- The step names a schema by its id and version, or a script by its id. -/
def Gateway.Operation.RefersTo (step : Gateway.Operation) : Payload → Prop
  | .schema s =>
    step.arguments.get? "schemaId" = some (.string s.id) ∧
      step.arguments.get? "schemaVersion" = some (.string s.version)
  | .script s => step.functionId = "fn:" ++ s.id ++ ":latest"
  | _ => False

/-- A step of `o`, with the result of `source` as the only one under it. The step refers to that
unless `source` has a defect; then the result is a finding that says so. -/
inductive Node.IsStepOver (o source : Node) :
    (defect? : Option String) → Resolution Gateway.Operation → Prop
  | usable {step : Gateway.Operation} {p : Payload} (refers : step.RefersTo p) :
      o.IsStepOver source none ⟨o, .ok step, some [⟨source, some p, none, none⟩]⟩
  | unusable {step : Gateway.Operation} {detail : String} :
      o.IsStepOver source (some detail)
        ⟨o, .ok step,
          some [⟨source, none, some ⟨.notConfigured, source.id, source.tag, detail⟩, none⟩]⟩

/-- The results are the steps of a transform and nothing else, each over the schema or the script
that it is made from. -/
structure Node.IsExpansion (o : Node) (settings : OperationSettings)
    (reader : Node × SchemaSettings) (scripts : List (Node × FunctionSettings))
    (writer : Node × SchemaSettings) (results : List (Resolution Gateway.Operation)) : Prop where
  length : results.length = scripts.length + 2
  steps : results.map Resolution.value? =
    (o.transformSteps settings reader.2 (scripts.map Prod.snd) writer.2).map some
  uses : List.Forall₂ (fun source r => o.IsStepOver source.1 source.2 r)
    ((reader.1, reader.2.defect?) :: scripts.map (fun f => (f.1, f.2.defect?)) ++
      [(writer.1, writer.2.defect?)]) results

namespace Parts

theorem isStepOver_schemaStep (o : Node) (functionId role : String)
    (source : Node × SchemaSettings) :
    o.IsStepOver source.1 source.2.defect? (schemaStep o functionId role source) := by
  rw [schemaStep, schema, SchemaSettings.defect?]
  by_cases noId : Text.isBlank source.2.id = true
  · rw [if_pos noId, if_pos noId]
    exact .unusable
  by_cases noVersion : Text.isBlank source.2.version = true
  · rw [if_neg noId, if_pos noVersion, if_neg noId, if_pos noVersion]
    exact .unusable
  · rw [if_neg noId, if_neg noVersion, if_neg noId, if_neg noVersion]
    exact .usable ⟨rfl, rfl⟩

theorem isStepOver_scriptStep (o : Node) (settings : OperationSettings)
    (source : Node × FunctionSettings) :
    o.IsStepOver source.1 source.2.defect? (scriptStep o settings source) := by
  rw [scriptStep, script, FunctionSettings.defect?]
  by_cases noName : Text.isBlank source.2.name = true
  · rw [if_pos noName, if_pos noName]
    exact .unusable
  · rw [if_neg noName, if_neg noName]
    exact .usable rfl

variable {w : Workspace} {o : Node}

theorem isExpansion_steps (o : Node) (settings : OperationSettings)
    (reader : Node × SchemaSettings) (scripts : List (Node × FunctionSettings))
    (writer : Node × SchemaSettings) :
    o.IsExpansion settings reader scripts writer
      (schemaStep o deserializeFunction "deserializer" reader ::
        (scripts.map (scriptStep o settings) ++
          [schemaStep o serializeFunction "serializer" writer])) where
  length := by simp
  steps := by
    have ran : (scripts.map (scriptStep o settings)).map Resolution.value? =
        (scripts.map fun f => (⟨o.id ++ "-" ++ f.2.name, "fn:" ++ f.2.name ++ ":latest",
          settings.formData⟩ : Gateway.Operation)).map some := by
      rw [List.map_map, List.map_map]
      rfl
    rw [List.map_cons, List.map_append, ran, Node.transformSteps, List.map_map]
    simp [schemaStep, String.append_assoc, deserializeFunction, serializeFunction]
  uses := by
    have ran : List.Forall₂ (fun source r => o.IsStepOver source.1 source.2 r)
        (scripts.map fun f => (f.1, f.2.defect?)) (scripts.map (scriptStep o settings)) := by
      rw [List.forall₂_map_left_iff, List.forall₂_map_right_iff, List.forall₂_same]
      exact fun f _ => isStepOver_scriptStep o settings f
    refine .cons (isStepOver_schemaStep o _ _ reader) (List.rel_append ran ?_)
    exact .cons (isStepOver_schemaStep o _ _ writer) .nil

theorem lacks_schema_iff {handle : String} :
    w.Lacks o.id (.schema, handle) ↔ schemaOn? (.ofWorkspace w) o handle = none := by
  rw [Workspace.lacks_iff .schema, schemaOn?_ofWorkspace, List.head?_eq_none_iff]

theorem lacks_function_iff :
    w.Lacks o.id (.function, Handle.function) ↔ scriptsOn (.ofWorkspace w) o = [] := by
  rw [Workspace.lacks_iff .function, scriptsOn_ofWorkspace]

theorem lacking_eq_nil_iff :
    transformInputs.filter (w.Lacks o.id) = [] ↔
      schemaOn? (.ofWorkspace w) o Handle.deserialiser ≠ none ∧
        scriptsOn (.ofWorkspace w) o ≠ [] ∧
          schemaOn? (.ofWorkspace w) o Handle.serialiser ≠ none := by
  simp [transformInputs, List.filter_eq_nil_iff, lacks_schema_iff, lacks_function_iff]

/-- With an input missing, those that are missing are reported in the order of the three. -/
theorem transform_of_lacks (settings : OperationSettings)
    (lacks : transformInputs.filter (w.Lacks o.id) ≠ []) :
    transform (.ofWorkspace w) o settings =
      (transformInputs.filter (w.Lacks o.id)).map o.lacking := by
  have report (kind : NodeKind) (handle : String) :
      (.failure o (.notConnected kind.tag (some handle)) : Resolution Gateway.Operation) =
        o.lacking (kind, handle) := rfl
  unfold transform
  split
  next reader script scripts writer reads runs writes =>
    exact absurd (lacking_eq_nil_iff.mpr (by simp [reads, runs, writes])) lacks
  · simp only [transformInputs, List.filter_cons, List.filter_nil, lacks_schema_iff,
      lacks_function_iff]
    cases schemaOn? (.ofWorkspace w) o Handle.deserialiser <;>
      cases scriptsOn (.ofWorkspace w) o <;>
        cases schemaOn? (.ofWorkspace w) o Handle.serialiser <;> simp [report]

/-- With all inputs the steps are those of the schemas and scripts found. -/
theorem isExpansion_transform (settings : OperationSettings)
    {reader writer : Node × SchemaSettings} {scripts : List (Node × FunctionSettings)}
    (reads : schemaOn? (.ofWorkspace w) o Handle.deserialiser = some reader)
    (runs : scriptsOn (.ofWorkspace w) o = scripts) (someScript : scripts ≠ [])
    (writes : schemaOn? (.ofWorkspace w) o Handle.serialiser = some writer) :
    o.IsExpansion settings reader scripts writer (transform (.ofWorkspace w) o settings) := by
  obtain ⟨script, scripts, rfl⟩ := List.exists_cons_of_ne_nil someScript
  rw [transform, reads, runs, writes]
  exact isExpansion_steps o settings reader (script :: scripts) writer

end Parts

/-- A transform comes to a finding for each input that it lacks, or has them all and comes to their
steps: by the first schema on either side, and of all scripts in the order of their edges. -/
theorem Workspace.transform_lacks_or_expands (w : Workspace) (o : Node)
    (settings : OperationSettings) :
    let results := Parts.transform (.ofWorkspace w) o settings
    let lacking := transformInputs.filter (w.Lacks o.id)
    (lacking ≠ [] ∧ results = lacking.map o.lacking) ∨
      lacking = [] ∧ ∃ reader scripts writer,
        (w.predecessorsOf o.id (some Handle.deserialiser) Node.schema?).head? = some reader ∧
        w.predecessorsOf o.id (some Handle.function) Node.function? = scripts ∧
        scripts ≠ [] ∧ (scripts.map (·.1.id)).Nodup ∧
        (w.predecessorsOf o.id (some Handle.serialiser) Node.schema?).head? = some writer ∧
        o.IsExpansion settings reader scripts writer results := by
  intro results lacking
  by_cases complete : lacking = []
  · obtain ⟨reads, someScript, writes⟩ := Parts.lacking_eq_nil_iff.mp complete
    obtain ⟨reader, reads⟩ := Option.ne_none_iff_exists'.mp reads
    obtain ⟨writer, writes⟩ := Option.ne_none_iff_exists'.mp writes
    have expanded := Parts.isExpansion_transform settings reads rfl someScript writes
    rw [Parts.schemaOn?_ofWorkspace] at reads writes
    rw [Parts.scriptsOn_ofWorkspace] at someScript expanded
    exact .inr ⟨complete, reader, _, writer, reads, rfl, someScript,
      w.nodup_ids_predecessorsOf .., writes, expanded⟩
  · exact .inl ⟨complete, Parts.transform_of_lacks settings complete⟩

end PolicyCanvas
