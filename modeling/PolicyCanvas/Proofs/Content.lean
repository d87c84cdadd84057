import Mathlib.Data.List.Forall2
import PolicyCanvas.Proofs.Blame
import PolicyCanvas.Proofs.Validity

/-!
# What is in a compiled policy

A policy that comes about has an entry for each neighbour that it should have one for, in the order
of the edges, and each pipeline is the whole chain of its handle with every operation expanded. The
entry for a transition is a row in the table of the model that the policy uses. The policy is made
from the values of its parts, and values that are missing are passed over; that none is missing
follows from there being no finding at any depth (`Resolution.forall₂_values`).
-/

namespace PolicyCanvas

/-- The configured id without the white space at its ends or, when there is none or it is blank, the
id of the node. -/
def Node.HasPolicyId (n : Node) (configured? : Option String) (id : String) : Prop :=
  (∀ configured, configured? = some configured → Text.isBlank configured = false →
    id = Text.trim configured) ∧
  (configured?.all Text.isBlank = true → id = n.id)

/-- The steps of a transform: one that reads by a schema, one for each script, and one that writes
by a schema. -/
def Node.transformSteps (n : Node) (s : OperationSettings) (reader : SchemaSettings)
    (scripts : List FunctionSettings) (writer : SchemaSettings) : List Gateway.Operation :=
  let arguments (schema : SchemaSettings) : Json.Object :=
    .ofTexts [("schemaId", schema.id), ("schemaVersion", schema.version)]
  ⟨n.id ++ "-deserializer", "Serdes.deserialize", arguments reader⟩ ::
    scripts.map (fun f => ⟨n.id ++ "-" ++ f.name, "fn:" ++ f.name ++ ":latest", s.formData⟩) ++
    [⟨n.id ++ "-serializer", "Serdes.serialize", arguments writer⟩]

namespace Workspace

/-- The steps that an operation becomes: one for a function that the catalog offers, and all those
of a transform, with the first schema connected to either end of it and all of its scripts. -/
inductive Expands (w : Workspace) : Node × OperationSettings → List Gateway.Operation → Prop
  | ordinary {n : Node} {s : OperationSettings} {functionId : String}
      (configured : s.functionId? = some functionId)
      (notBlank : Text.isBlank functionId = false)
      (notTransform : Text.trim functionId ≠ Parts.transformFunction)
      (offered : w.functions = [] ∨ ∃ f ∈ w.functions, f.functionId = Text.trim functionId) :
      w.Expands (n, s) [⟨n.id, Text.trim functionId, s.formData⟩]
  | transform {n : Node} {s : OperationSettings} {functionId : String}
      {reader writer : Node × SchemaSettings} {scripts : List (Node × FunctionSettings)}
      (configured : s.functionId? = some functionId)
      (isTransform : Text.trim functionId = Parts.transformFunction)
      (reads : (w.predecessorsOf n.id (some Handle.deserialiser) Node.schema?).head? = some reader)
      (runs : w.predecessorsOf n.id (some Handle.function) Node.function? = scripts)
      (some_script : scripts ≠ [])
      (writes : (w.predecessorsOf n.id (some Handle.serialiser) Node.schema?).head? = some writer) :
      w.Expands (n, s) (n.transformSteps s reader.2 (scripts.map Prod.snd) writer.2)

/-- The steps are those of all operations of the chain that leaves the handle, in its order, and
only the last operation may end the pipeline. -/
def IsPipelineOf (w : Workspace) (source handle : String) (pipeline : List Gateway.Operation) :
    Prop :=
  ∃ chain parts, w.IsChain source handle chain ∧ List.Forall₂ w.Expands chain parts ∧
    pipeline = parts.flatten ∧ ∀ o ∈ chain.dropLast, w.endsPipeline o.2 = false

/-- A handle has an action when an operation is connected to it, with the pipeline of the handle. -/
structure IsActionOf (w : Workspace) (source handle : String)
    (action? : Option (List Gateway.Operation)) : Prop where
  isSome_iff : action?.isSome = true ↔ w.successorsOf source (some handle) Node.operation? ≠ []
  isPipeline : ∀ pipeline, action? = some pipeline → w.IsPipelineOf source handle pipeline

/-- A validator refers to every schema in front of it, by id and version, and there are some. -/
structure IsValidatorOf (w : Workspace) (v : Node × ValidatorSettings) (out : Gateway.Validator) :
    Prop where
  type : out.type = v.2.type
  strategy : out.strategy = v.2.strategy
  schemas : out.schemas =
    (w.predecessorsOf v.1.id none Node.schema?).map fun s => ⟨s.2.id, s.2.version⟩
  schemas_ne_nil : out.schemas ≠ []
  distinct : ((w.predecessorsOf v.1.id none Node.schema?).map (·.1.id)).Nodup

/-- The data policy that the drawing stands for. -/
structure IsDataPolicyOf (w : Workspace) (n : Node) (settings : DataPolicySettings)
    (d : Gateway.DataPolicy) : Prop where
  id : n.HasPolicyId settings.policyId? d.id
  filter : ∃ filter topics,
    w.predecessorsOf n.id none Node.topics? = [(filter, d.topicFilter :: topics)]
  validators : List.Forall₂ w.IsValidatorOf (w.predecessorsOf n.id none Node.validator?)
    d.validators
  validators_ne_nil : d.validators ≠ []
  distinct : ((w.predecessorsOf n.id none Node.validator?).map (·.1.id)).Nodup
  onSuccess : w.IsActionOf n.id Handle.onSuccess d.onSuccess?
  onError : w.IsActionOf n.id Handle.onError d.onError?

end Workspace

namespace Resolution

variable {α : Type}

theorem values_append (front rest : List (Resolution α)) :
    values (front ++ rest) = values front ++ values rest :=
  List.filterMap_append

/-- Without findings every resolution has its value in the list of values. -/
theorem forall₂_values {resolutions : List (Resolution α)}
    (clean : resolutions.flatMap findings = []) :
    List.Forall₂ (fun r a => r.findings = [] ∧ r.value? = some a) resolutions
      (values resolutions) := by
  induction resolutions with
  | nil => exact .nil
  | cons r resolutions ih =>
    rw [List.flatMap_cons, List.append_eq_nil_iff] at clean
    obtain ⟨a, value⟩ := Option.isSome_iff_exists.mp (isSome_value?_of_findings clean.1)
    rw [values, List.filterMap_cons, value]
    exact .cons ⟨clean.1, value⟩ (ih clean.2)

theorem flatMap_blames_eq_nil {resolutions : List (Resolution α)}
    (clean : resolutions.flatMap findings = []) : resolutions.flatMap blames = [] := by
  rw [flatMap_blames, clean, List.map_nil]

end Resolution

/-! ### The parts -/

open Resolution (findings values)

theorem Compilation.hasPolicyId_policyId (n : Node) (configured? : Option String) :
    n.HasPolicyId configured? (policyId configured? n) := by
  refine ⟨?_, ?_⟩
  · rintro configured rfl notBlank
    have given : ¬ Text.trim configured = "" := by simp [Text.trim_eq_empty_iff, notBlank]
    simp [policyId, given]
  · intro missing
    have nothing : Text.trim (configured?.getD "") = "" := by
      rw [Text.trim_eq_empty_iff]
      cases configured? with
      | none => rfl
      | some configured => simpa using missing
    simp [policyId, nothing]

namespace Parts

/-- A filter has a value when it is the only one, and its value is its first entry. -/
theorem entries_of_singleFilter {w : Workspace} {policy : Node} {expected : NodeKind}
    {entries? : Node → Option (List String)} {entry : String}
    (value : (singleFilter (.ofWorkspace w) policy expected entries?).value? = some entry) :
    ∃ filter entries, w.predecessorsOf policy.id none entries? = [(filter, entry :: entries)] := by
  rw [singleFilter, Wiring.filterMap_incomers] at value
  split at value
  · cases value
  · cases value
  next filter first entries only =>
    split_ifs at value
    · cases value
    · cases value
      exact ⟨filter, entries, only⟩
  · cases value

theorem reference_of_schema {s : Node × SchemaSettings} {resource : Gateway.Schema}
    (value : (schema s.1 s.2).value? = some resource) :
    resource.reference = ⟨s.2.id, s.2.version⟩ := by
  unfold schema at value
  split_ifs at value
  all_goals cases value
  rfl

theorem references_of_findings {schemas : List (Node × SchemaSettings)}
    (clean : (schemas.map fun s => schema s.1 s.2).flatMap findings = []) :
    (values (schemas.map fun s => schema s.1 s.2)).map Gateway.Schema.reference =
      schemas.map fun s => ⟨s.2.id, s.2.version⟩ := by
  have resolved := Resolution.forall₂_values clean
  rw [List.forall₂_map_left_iff] at resolved
  rw [eq_comm, ← List.forall₂_eq_eq_eq, List.forall₂_map_left_iff, List.forall₂_map_right_iff]
  exact resolved.imp fun s resource ⟨_, value⟩ => (reference_of_schema value).symm

theorem isValidatorOf_of_findings {w : Workspace} {v : Node × ValidatorSettings}
    {out : Gateway.Validator} (isValidator : v.1.validator? = some v.2)
    (clean : (validator (.ofWorkspace w) v.1).findings = [])
    (value : (validator (.ofWorkspace w) v.1).value? = some out) : w.IsValidatorOf v out := by
  have distinct := w.nodup_ids_predecessorsOf v.1.id none Node.schema?
  simp only [validator, isValidator, Wiring.filterMap_incomers] at clean value
  cases found : w.predecessorsOf v.1.id none Node.schema? with
  | nil => simp [found] at clean
  | cons s schemas =>
    simp only [found, Resolution.findings_withResources] at clean value
    obtain rfl : _ = out := by simpa using value
    have references := references_of_findings clean
    refine ⟨rfl, rfl, ?_, ?_, distinct⟩
    · rw [found]
      exact references
    · intro nothing
      cases references.symm.trans nothing

theorem isValidatorOf_validators {w : Workspace} {policy : Node}
    (clean : (validators (.ofWorkspace w) policy).flatMap findings = []) :
    List.Forall₂ w.IsValidatorOf (w.predecessorsOf policy.id none Node.validator?)
        (values (validators (.ofWorkspace w) policy)) ∧
      values (validators (.ofWorkspace w) policy) ≠ [] := by
  have some_found : w.predecessorsOf policy.id none Node.validator? ≠ [] := by
    intro none_found
    simp [validators_of_nil none_found] at clean
  have isValidator : ∀ v ∈ w.predecessorsOf policy.id none Node.validator?,
      v.1.validator? = some v.2 := fun v member => (Node.mem_seenBy.mp member).2
  have resolved := Resolution.forall₂_values clean
  rw [validators_of_ne_nil some_found] at resolved ⊢
  rw [List.forall₂_map_left_iff] at resolved
  have validated := (List.forall₂_and_left _ _).mpr ⟨isValidator, resolved⟩
  refine ⟨validated.imp fun v out ⟨shown, vClean, value⟩ =>
    isValidatorOf_of_findings shown vClean value, fun nothing => ?_⟩
  rw [nothing, List.forall₂_nil_right_iff] at resolved
  exact some_found resolved

end Parts

/-! ### Pipelines -/

theorem Workspace.Expands.ne_nil {w : Workspace} {o : Node × OperationSettings}
    {part : List Gateway.Operation} (expands : w.Expands o part) : part ≠ [] := by
  cases expands <;> simp [Node.transformSteps]

theorem Workspace.flatten_eq_nil_of_expands {w : Workspace}
    {chain : List (Node × OperationSettings)} {parts : List (List Gateway.Operation)}
    (expanded : List.Forall₂ w.Expands chain parts) : parts.flatten = [] ↔ chain = [] := by
  cases expanded with
  | nil => simp
  | cons first rest => simp [first.ne_nil]

theorem Blame.inputs_of_ofTransform {w : Workspace} {operation : String}
    (blameless : ofTransform w operation = []) :
    w.predecessorsOf operation (some Handle.deserialiser) Node.schema? ≠ [] ∧
      w.predecessorsOf operation (some Handle.function) Node.function? ≠ [] ∧
        w.predecessorsOf operation (some Handle.serialiser) Node.schema? ≠ [] := by
  rw [ofTransform] at blameless
  cases readers : w.predecessorsOf operation (some Handle.deserialiser) Node.schema? <;>
    cases runs : w.predecessorsOf operation (some Handle.function) Node.function? <;>
      cases writers : w.predecessorsOf operation (some Handle.serialiser) Node.schema? <;>
        simp [readers, runs, writers] at blameless ⊢

namespace Parts

/-- Every script of a transform has its step, whatever is wrong with the script. -/
theorem values_map_scriptStep (n : Node) (s : OperationSettings)
    (scripts : List (Node × FunctionSettings)) :
    values (scripts.map (scriptStep n s)) = scripts.map fun f =>
      ⟨n.id ++ "-" ++ f.2.name, "fn:" ++ f.2.name ++ ":latest", s.formData⟩ := by
  rw [values, List.filterMap_map]
  exact congrFun List.filterMap_eq_map scripts

theorem expands_transform {w : Workspace} {n : Node} {s : OperationSettings} {functionId : String}
    (configured : s.functionId? = some functionId)
    (isTransform : Text.trim functionId = transformFunction)
    (blameless : Blame.ofTransform w n.id = []) :
    w.Expands (n, s) (values (transform (.ofWorkspace w) n s)) := by
  obtain ⟨someReader, someScript, someWriter⟩ := Blame.inputs_of_ofTransform blameless
  obtain ⟨reader, _, readers⟩ := List.exists_cons_of_ne_nil someReader
  obtain ⟨script, scripts, runs⟩ := List.exists_cons_of_ne_nil someScript
  obtain ⟨writer, _, writers⟩ := List.exists_cons_of_ne_nil someWriter
  have expanded : values (transform (.ofWorkspace w) n s) =
      n.transformSteps s reader.2 ((script :: scripts).map Prod.snd) writer.2 := by
    rw [transform, schemaOn?_ofWorkspace, scriptsOn_ofWorkspace, schemaOn?_ofWorkspace, readers,
      runs, writers]
    change values (_ :: (_ ++ [_])) = _
    rw [← List.singleton_append, Resolution.values_append, Resolution.values_append,
      values_map_scriptStep, Node.transformSteps, List.map_map]
    simp [values, schemaStep, String.append_assoc, deserializeFunction, serializeFunction]
  rw [expanded]
  exact .transform configured isTransform (by rw [readers]; rfl) runs (by simp)
    (by rw [writers]; rfl)

theorem expands_operation {w : Workspace} {n : Node} {s : OperationSettings}
    (clean : (operation (.ofWorkspace w) n s).flatMap findings = []) :
    w.Expands (n, s) (values (operation (.ofWorkspace w) n s)) := by
  have blameless : Blame.ofOperation w (n, s) = [] := by
    rw [← blames_operation, Resolution.flatMap_blames_eq_nil clean]
  unfold Blame.ofOperation at blameless
  cases configured : s.functionId? with
  | none => simp [configured] at blameless
  | some functionId =>
    simp only [configured] at blameless
    split_ifs at blameless with blank isTransform offered
    all_goals
      have notBlank : Text.isBlank functionId = false := by simpa using blank
      rw [operation_of_configured configured notBlank]
    · rw [if_pos isTransform]
      exact expands_transform configured isTransform blameless
    · rw [if_neg isTransform, if_pos offered]
      exact .ordinary configured notBlank isTransform offered

/-- Without findings a chain of operations becomes the steps of all of them. -/
theorem expands_steps {w : Workspace} {chain : List (Node × OperationSettings)}
    (clean : (steps (.ofWorkspace w) chain).flatMap findings = []) :
    ∃ parts, List.Forall₂ w.Expands chain parts ∧
      values (steps (.ofWorkspace w) chain) = parts.flatten ∧
        ∀ o ∈ chain.dropLast, w.endsPipeline o.2 = false := by
  induction chain with
  | nil => exact ⟨[], .nil, rfl, by simp⟩
  | cons o rest ih =>
    rw [steps, List.flatMap_append, List.append_eq_nil_iff, isTerminal_ofWorkspace] at clean
    obtain ⟨oClean, restClean⟩ := clean
    have first : w.Expands o (values (operation (.ofWorkspace w) o.1 o.2)) :=
      expands_operation oClean
    rw [steps, Resolution.values_append, isTerminal_ofWorkspace]
    by_cases ends : w.endsPipeline o.2 = true
    · -- an operation after this one would have a finding
      obtain rfl : rest = [] := by
        rw [if_pos ends] at restClean
        cases rest with
        | nil => rfl
        | cons after rest => simp at restClean
      exact ⟨[_], .cons first .nil, by simp [ends, values], by simp⟩
    · rw [if_neg ends] at restClean ⊢
      obtain ⟨parts, expanded, flat, onlyLast⟩ := ih restClean
      refine ⟨_ :: parts, .cons first expanded, by rw [List.flatten_cons, flat], ?_⟩
      intro p before
      cases rest with
      | nil => simp at before
      | cons next rest =>
        rw [List.dropLast_cons_cons, List.mem_cons] at before
        rcases before with rfl | before
        · simpa using ends
        · exact onlyLast p before

/-- Without findings the steps of a pipeline are those of the whole chain of its handle. -/
theorem isPipelineOf_pipeline {w : Workspace} {source : Node} {handle : String}
    (clean : (pipeline (.ofWorkspace w) source handle).flatMap findings = []) :
    w.IsPipelineOf source.id handle (values (pipeline (.ofWorkspace w) source handle)) := by
  rw [pipeline_eq_steps] at clean ⊢
  obtain ⟨parts, expanded, flat, onlyLast⟩ := expands_steps clean
  exact ⟨_, parts, w.isChain_chain source handle, expanded, flat, onlyLast⟩

/-- Without findings a pipeline is the action of its handle. -/
theorem isActionOf_pipeline {w : Workspace} {source : Node} {handle : String}
    (clean : (pipeline (.ofWorkspace w) source handle).flatMap findings = []) :
    w.IsActionOf source.id handle
      (Compilation.action? (pipeline (.ofWorkspace w) source handle)) := by
  obtain ⟨chain, parts, isChain, expanded, flat, onlyLast⟩ := isPipelineOf_pipeline clean
  have nothing_iff : values (pipeline (.ofWorkspace w) source handle) = [] ↔
      w.successorsOf source.id (some handle) Node.operation? = [] := by
    rw [flat, ← isChain.eq_nil_iff, Workspace.flatten_eq_nil_of_expands expanded]
  unfold Compilation.action?
  split
  next nothing => exact ⟨by simp [nothing_iff.mp nothing], by simp⟩
  next something =>
    refine ⟨by simpa using mt nothing_iff.mpr something, fun made same => ?_⟩
    obtain rfl := Option.some.inj same
    exact ⟨chain, parts, isChain, expanded, flat, onlyLast⟩

end Parts

/-- A data policy that comes about is the one that the drawing stands for. -/
theorem Workspace.isDataPolicyOf_of_valid (w : Workspace) {n : Node}
    {settings : DataPolicySettings} {c : Compilation} {policy : Gateway.Policy}
    (isData : n.settings? = some (.dataPolicy settings))
    (compiled : Compilation.ofNode (.ofWorkspace w) n = .ok c)
    (valid : c.policy? = some policy) :
    ∃ d, policy = .data d ∧ w.IsDataPolicyOf n settings d := by
  obtain rfl : Compilation.ofDataPolicy (.ofWorkspace w) n settings = c := by
    simpa [Compilation.ofNode, isData] using compiled
  rw [Compilation.ofDataPolicy_eq_withParts] at valid
  obtain ⟨d, made, rfl⟩ := Option.map_eq_some_iff.mp valid
  refine ⟨d, rfl, ?_⟩
  obtain ⟨clean, id, filter, validators, onSuccess, onError⟩ :=
    Compilation.parts_of_dataPolicy? made
  simp only [Compilation.allFindings_dataParts, List.append_eq_nil_iff] at clean
  obtain ⟨⟨⟨-, validatorsClean⟩, onSuccessClean⟩, onErrorClean⟩ := clean
  obtain ⟨validated, validated_ne_nil⟩ := Parts.isValidatorOf_validators validatorsClean
  refine ⟨?_, Parts.entries_of_singleFilter filter, ?_, ?_, w.nodup_ids_predecessorsOf .., ?_, ?_⟩
  · rw [id]
    exact Compilation.hasPolicyId_policyId n settings.policyId?
  · rw [validators]
    exact validated
  · rw [validators]
    exact validated_ne_nil
  · rw [onSuccess]
    exact Parts.isActionOf_pipeline onSuccessClean
  · rw [onError]
    exact Parts.isActionOf_pipeline onErrorClean

theorem Workspace.isDataPolicyOf_wired :
    let n : Node := .known "policy" none (.dataPolicy ⟨none⟩)
    n.settings? = some (.dataPolicy ⟨none⟩) ∧
      ∃ c d, Compilation.ofNode (.ofWorkspace wired) n = .ok c ∧ c.policy? = some (.data d) ∧
        wired.IsDataPolicyOf n ⟨none⟩ d := by
  intro n
  have isData : n.settings? = some (.dataPolicy ⟨none⟩) := rfl
  have compiled : Compilation.ofNode (.ofWorkspace wired) n = .ok _ := rfl
  have some_policy :
      (Compilation.ofDataPolicy (.ofWorkspace wired) n ⟨none⟩).policy?.isSome = true := by
    decide +kernel
  obtain ⟨policy, valid⟩ := Option.isSome_iff_exists.mp some_policy
  obtain ⟨d, rfl, content⟩ := wired.isDataPolicyOf_of_valid isData compiled valid
  exact ⟨isData, _, d, compiled, valid, content⟩

namespace Workspace

/-- A transition is the row of the model that its settings name, with the pipeline of its output. -/
structure IsTransitionOf (w : Workspace) (m : Behavior.Model) (t : Node × TransitionSettings)
    (out : Gateway.Transition) : Prop where
  madeFor : t.2.model? = none ∨ t.2.model? = some m
  event : t.2.event? = some out.event
  source : t.2.source? = some out.source
  target : t.2.target? = some out.target
  isRow : ⟨out.event, out.source, out.target⟩ ∈ m.machine.rows
  isPipeline : w.IsPipelineOf t.1.id Handle.output out.pipeline

/-- The behavior policy that the drawing stands for. -/
structure IsBehaviorPolicyOf (w : Workspace) (n : Node) (settings : BehaviorPolicySettings)
    (b : Gateway.BehaviorPolicy) : Prop where
  id : n.HasPolicyId settings.policyId? b.id
  modelId : b.model.id = settings.model.name
  arguments : b.model.arguments = settings.arguments
  filter : ∃ filter clients,
    w.predecessorsOf n.id none Node.clients? = [(filter, b.clientIdFilter :: clients)]
  transitions : List.Forall₂ (w.IsTransitionOf settings.model)
    (w.successorsOf n.id none Node.transition?) b.transitions
  distinct : ((w.successorsOf n.id none Node.transition?).map (·.1.id)).Nodup

end Workspace

open Resolution (findings values)

namespace Parts

/-- A model has a value when its arguments are in order, and these are kept as they are. -/
theorem eq_of_model {policy : Node} {settings : BehaviorPolicySettings}
    {m : Gateway.BehaviorModel} (value : (model policy settings).value? = some m) :
    m = ⟨settings.model.name, settings.arguments⟩ := by
  dsimp only [model] at value
  split at value
  · cases value
  · cases value
    rfl

theorem isTransitionOf_of_findings {w : Workspace} {m : Behavior.Model}
    {t : Node × TransitionSettings} {out : Gateway.Transition}
    (clean : (transition (.ofWorkspace w) m.machine t.1 t.2).findings = [])
    (value : (transition (.ofWorkspace w) m.machine t.1 t.2).value? = some out) :
    w.IsTransitionOf m t out := by
  unfold transition at clean value
  cases decided : row m.machine t.2 with
  | error p => simp [decided] at clean
  | ok r =>
    obtain ⟨madeFor, isRow, event, source, target⟩ := row_eq_ok_iff.mp decided
    simp only [decided, Resolution.findings_withResources] at clean value
    obtain rfl : _ = out := by simpa using value
    exact ⟨madeFor, event, source, target, isRow, isPipelineOf_pipeline clean⟩

theorem isTransitionOf_transitions {w : Workspace} {policy : Node}
    {settings : BehaviorPolicySettings}
    (clean : (transitions (.ofWorkspace w) policy settings).flatMap findings = []) :
    List.Forall₂ (w.IsTransitionOf settings.model)
      (w.successorsOf policy.id none Node.transition?)
      (values (transitions (.ofWorkspace w) policy settings)) := by
  have resolved := Resolution.forall₂_values clean
  rw [transitions_ofWorkspace] at resolved ⊢
  rw [List.forall₂_map_left_iff] at resolved
  exact resolved.imp fun t out ⟨tClean, value⟩ => isTransitionOf_of_findings tClean value

end Parts

/-- A behavior policy that comes about is the one that the drawing stands for. -/
theorem Workspace.isBehaviorPolicyOf_of_valid (w : Workspace) {n : Node}
    {settings : BehaviorPolicySettings} {c : Compilation} {policy : Gateway.Policy}
    (isBehavior : n.settings? = some (.behaviorPolicy settings))
    (compiled : Compilation.ofNode (.ofWorkspace w) n = .ok c)
    (valid : c.policy? = some policy) :
    ∃ b, policy = .behavior b ∧ w.IsBehaviorPolicyOf n settings b := by
  obtain rfl : Compilation.ofBehaviorPolicy (.ofWorkspace w) n settings = c := by
    simpa [Compilation.ofNode, isBehavior] using compiled
  rw [Compilation.ofBehaviorPolicy_eq_withParts] at valid
  obtain ⟨b, made, rfl⟩ := Option.map_eq_some_iff.mp valid
  refine ⟨b, rfl, ?_⟩
  obtain ⟨clean, id, filter, model, transitions⟩ := Compilation.parts_of_behaviorPolicy? made
  simp only [Compilation.allFindings_behaviorParts, List.append_eq_nil_iff] at clean
  obtain ⟨-, transitionsClean⟩ := clean
  have kept := Parts.eq_of_model model
  refine ⟨?_, by rw [kept], by rw [kept], Parts.entries_of_singleFilter filter, ?_,
    w.nodup_ids_successorsOf ..⟩
  · rw [id]
    exact Compilation.hasPolicyId_policyId n settings.policyId?
  · rw [transitions]
    exact Parts.isTransitionOf_transitions transitionsClean

theorem Workspace.isBehaviorPolicyOf_guarded :
    let s : BehaviorPolicySettings :=
      ⟨some " quota ", .publishQuota, .ofTexts [("note", "daily")]⟩
    let n : Node := .known "policy" none (.behaviorPolicy s)
    n.settings? = some (.behaviorPolicy s) ∧
      ∃ c b, Compilation.ofNode (.ofWorkspace guarded) n = .ok c ∧
        c.policy? = some (.behavior b) ∧ guarded.IsBehaviorPolicyOf n s b := by
  intro s n
  have isBehavior : n.settings? = some (.behaviorPolicy s) := rfl
  have compiled : Compilation.ofNode (.ofWorkspace guarded) n = .ok _ := rfl
  have some_policy :
      (Compilation.ofBehaviorPolicy (.ofWorkspace guarded) n s).policy?.isSome = true := by
    decide +kernel
  obtain ⟨policy, valid⟩ := Option.isSome_iff_exists.mp some_policy
  obtain ⟨b, rfl, content⟩ := guarded.isBehaviorPolicyOf_of_valid isBehavior compiled valid
  exact ⟨isBehavior, _, b, compiled, valid, content⟩

end PolicyCanvas
