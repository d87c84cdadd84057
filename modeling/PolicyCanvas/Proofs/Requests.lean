import PolicyCanvas.DryRun.Submission
import PolicyCanvas.Proofs.Blame
import PolicyCanvas.Proofs.Validity

/-!
# What is submitted is what is published

The submissions of a policy fall into blocks: a validator with its schemas, or a step of a pipeline
with the schema or the script that it uses (`Workspace.IsBlock`). The validators and the steps among
them are those of the policy, when there is one (`submissions_agree_of_isPolicy`). A policy is made
from the values of its parts, the submissions from the trees of their results; what a part adds to
both is said at once (`Workspace.Submits`).
-/

namespace PolicyCanvas

open DryRun (Submission)
open DryRun.Submission (ofResults ofResult?)
open Resolution (values)

/-- The submission of a payload of a node. -/
def DryRun.Submission.of (n : Node) (p : Payload) : Submission := ⟨n.id, n.tag, p⟩

@[simp]
theorem DryRun.Submission.payload_of (n : Node) (p : Payload) : (of n p).payload = p := rfl

def Payload.validator? : Payload → Option Gateway.Validator
  | .validator v => some v
  | _ => none

def Payload.operation? : Payload → Option Gateway.Operation
  | .operation o => some o
  | _ => none

/-- The validators of a policy, in their order. -/
def Gateway.Policy.validators : Gateway.Policy → List Gateway.Validator
  | .data d => d.validators
  | .behavior _ => []

/-- The steps of all pipelines of a policy, in their order. -/
def Gateway.Policy.operations : Gateway.Policy → List Gateway.Operation
  | .data d => d.onSuccess?.getD [] ++ d.onError?.getD []
  | .behavior b => b.transitions.flatMap Gateway.Transition.pipeline

/-- The operation stands for the steps of a transform. -/
def OperationSettings.IsTransform (s : OperationSettings) : Prop :=
  ∃ functionId, s.functionId? = some functionId ∧ Text.trim functionId = Parts.transformFunction

namespace Workspace

/-- Submissions that belong together: the first needs those after it. A schema or a script that
cannot be referred to is not submitted. -/
inductive IsBlock (w : Workspace) : List Submission → Prop
  | validator {n : Node} {v : Gateway.Validator} {schemas : List (Node × Gateway.Schema)}
      (agree : schemas.map (·.2.reference) = v.schemas) :
      w.IsBlock (.of n (.validator v) :: schemas.map fun s => .of s.1 (.schema s.2))
  | ordinary {o : Node × OperationSettings} {step : Gateway.Operation} (drawn : w.IsDrawn o)
      (notTransform : ¬ o.2.IsTransform) : w.IsBlock [.of o.1 (.operation step)]
  | schemaStep {o : Node × OperationSettings} {step : Gateway.Operation} {id version : String}
      {used : List Submission} (drawn : w.IsDrawn o) (isTransform : o.2.IsTransform)
      (readsOrWrites : step.functionId = "Serdes.deserialize" ∨
        step.functionId = "Serdes.serialize")
      (hasId : step.arguments.get? "schemaId" = some (.string id))
      (hasVersion : step.arguments.get? "schemaVersion" = some (.string version))
      (uses : if Text.isBlank id || Text.isBlank version then used = [] else
        ∃ n s, used = [.of n (.schema s)] ∧ s.id = id ∧ s.version = version) :
      w.IsBlock (.of o.1 (.operation step) :: used)
  | scriptStep {o : Node × OperationSettings} {step : Gateway.Operation} {name : String}
      {used : List Submission} (drawn : w.IsDrawn o) (isTransform : o.2.IsTransform)
      (hasName : step.functionId = "fn:" ++ name ++ ":latest")
      (uses : if Text.isBlank name then used = [] else
        ∃ n s, used = [.of n (.script s)] ∧ s.id = name) :
      w.IsBlock (.of o.1 (.operation step) :: used)

/-- Submissions that fall into blocks, with their validators and their operations. -/
structure Submits (w : Workspace) (submissions : List Submission)
    (validators : List Gateway.Validator) (operations : List Gateway.Operation) : Prop where
  blocks : ∃ blocks : List (List Submission),
    submissions = blocks.flatten ∧ ∀ b ∈ blocks, w.IsBlock b
  validators : submissions.filterMap (·.payload.validator?) = validators
  operations : submissions.filterMap (·.payload.operation?) = operations

end Workspace

/-! ### Submissions of results -/

namespace DryRun.Submission

open ResultTree (allPreorder)

theorem ofResults_eq_preorder (results : List ResultTree) :
    ofResults results = (allPreorder results).filterMap ofResult? := by
  rw [ofResults, ResultTree.appendAll_eq_preorder, List.nil_append, List.filterMap_filter]
  congr 1
  funext r
  cases carries : r.payload? <;> simp [ofResult?, carries]

theorem ofResults_append (front rest : List ResultTree) :
    ofResults (front ++ rest) = ofResults front ++ ofResults rest := by
  simp only [ofResults_eq_preorder, ResultTree.allPreorder_append, List.filterMap_append]

theorem ofResults_cons (r : ResultTree) (results : List ResultTree) :
    ofResults (r :: results) =
      (ofResult? r).toList ++ ofResults (r.resources?.getD []) ++ ofResults results := by
  simp only [ofResults_eq_preorder, allPreorder, ResultTree.preorder_eq_cons,
    List.filterMap_append, List.filterMap_cons]
  cases ofResult? r <;> simp

variable {α : Type} (wrap : α → Payload)

/-- Results of resolutions that use nothing are submitted as they are. -/
theorem ofResults_leaves (isResource : ∀ a, (wrap a).isResource = true)
    {resolutions : List (Resolution α)} (leaves : ∀ r ∈ resolutions, r.resources? = none) :
    ofResults (resolutions.map (·.toTree wrap)) =
      (resolutions.filterMap fun r => r.value?.map (r.node, ·)).map fun p =>
        .of p.1 (wrap p.2) := by
  induction resolutions with
  | nil => rfl
  | cons r rest ih =>
    have leaf : r.resources? = none := leaves r (by simp)
    rw [List.map_cons, ofResults_cons, ih fun r later => leaves r (List.mem_cons_of_mem _ later)]
    cases value : r.value? <;>
      simp [Resolution.toTree, ofResult?, value, leaf, isResource, Submission.of, ofResults,
        ResultTree.appendAll]

theorem ofResults_cons_of_notResource (notResource : ∀ a, (wrap a).isResource = false)
    {r : Resolution α} (leaf : r.resources? = none) (results : List ResultTree) :
    ofResults (r.toTree wrap :: results) = ofResults results := by
  rw [ofResults_cons]
  cases value : r.value? <;>
    simp [Resolution.toTree, ofResult?, value, leaf, notResource, ofResults, ResultTree.appendAll]

theorem ofResults_withResources (n : Node) (a : α) (resources : List ResultTree) :
    ofResults [((Resolution.success n a).withResources resources).toTree wrap] =
      (ofResult? ((Resolution.success n a).toTree wrap)).toList ++ ofResults resources := by
  rw [ofResults_cons]
  exact List.append_nil _

end DryRun.Submission

namespace Workspace

variable {w : Workspace}

namespace Submits

@[simp]
private theorem flatMap_nothing {α β : Type} (l : List α) :
    l.flatMap (fun _ => ([] : List β)) = [] :=
  List.flatMap_eq_nil_iff.mpr fun _ _ => rfl

theorem nil : w.Submits [] [] [] := ⟨⟨[], rfl, by simp⟩, rfl, rfl⟩

theorem append {front rest : List Submission} {validators validators' : List Gateway.Validator}
    {operations operations' : List Gateway.Operation} (f : w.Submits front validators operations)
    (r : w.Submits rest validators' operations') :
    w.Submits (front ++ rest) (validators ++ validators') (operations ++ operations') := by
  obtain ⟨⟨blocks, rfl, isBlock⟩, rfl, rfl⟩ := f
  obtain ⟨⟨blocks', rfl, isBlock'⟩, rfl, rfl⟩ := r
  refine ⟨⟨blocks ++ blocks', List.flatten_append.symm, ?_⟩, List.filterMap_append,
    List.filterMap_append⟩
  intro b member
  exact (List.mem_append.mp member).elim (isBlock b) (isBlock' b)

/-- A block that begins with a validator or a step and goes on with what that uses. -/
theorem of_isBlock {α : Type} (first : Submission) {used : List (Resolution α)}
    (wrap : α → Payload) (isResource : ∀ a, (wrap a).isResource = true)
    (leaves : ∀ r ∈ used, r.resources? = none)
    (only : ∀ a, (wrap a).validator? = none ∧ (wrap a).operation? = none)
    (isBlock : w.IsBlock (first :: ofResults (used.map (·.toTree wrap)))) :
    w.Submits (first :: ofResults (used.map (·.toTree wrap))) first.payload.validator?.toList
      first.payload.operation?.toList := by
  refine ⟨⟨[_], List.flatten_singleton.symm, by simpa using isBlock⟩, ?_, ?_⟩
  · rw [Submission.ofResults_leaves wrap isResource leaves, List.filterMap_cons, List.filterMap_map]
    cases first.payload.validator? <;> simp [Function.comp_def, only]
  · rw [Submission.ofResults_leaves wrap isResource leaves, List.filterMap_cons, List.filterMap_map]
    cases first.payload.operation? <;> simp [Function.comp_def, only]

/-- What the resolutions of a list add, when each adds what its value makes up. -/
theorem map {α : Type} (resolutions : List (Resolution α)) (wrap : α → Payload)
    (validators : α → List Gateway.Validator) (operations : α → List Gateway.Operation)
    (each : ∀ r ∈ resolutions, w.Submits (ofResults [r.toTree wrap])
      (r.value?.toList.flatMap validators) (r.value?.toList.flatMap operations)) :
    w.Submits (ofResults (resolutions.map (·.toTree wrap)))
      ((values resolutions).flatMap validators) ((values resolutions).flatMap operations) := by
  induction resolutions with
  | nil => exact nil
  | cons r rest ih =>
    have first := each r (by simp)
    have later := ih fun r member => each r (List.mem_cons_of_mem _ member)
    have valuesCons : values (r :: rest) = r.value?.toList ++ values rest := by
      rw [values, List.filterMap_cons]
      cases r.value? <;> rfl
    rw [List.map_cons, ← List.singleton_append, Submission.ofResults_append, valuesCons,
      List.flatMap_append, List.flatMap_append]
    exact first.append later

end Submits

end Workspace

namespace Parts

theorem resources?_schema (n : Node) (s : SchemaSettings) : (schema n s).resources? = none := by
  unfold schema
  split_ifs <;> rfl

theorem resources?_script (n : Node) (s : FunctionSettings) : (script n s).resources? = none := by
  unfold script
  split_ifs <;> rfl

end Parts

namespace Workspace

variable {w : Workspace}

theorem submits_withSchemas (n : Node) (type : ValidatorType) (strategy : Strategy)
    {schemas : List (Resolution Gateway.Schema)} (leaves : ∀ r ∈ schemas, r.resources? = none) :
    let v : Gateway.Validator := ⟨type, (values schemas).map Gateway.Schema.reference, strategy⟩
    w.Submits (ofResults [((Resolution.success n v).withResources
      (schemas.map (·.toTree .schema))).toTree .validator]) [v] [] := by
  intro v
  let used := schemas.filterMap fun r => r.value?.map (r.node, ·)
  have agree : used.map (·.2.reference) = v.schemas := by
    simp only [used, v, values, List.map_filterMap, Option.map_map]
    rfl
  rw [Submission.ofResults_withResources]
  refine Submits.of_isBlock (.of n (.validator v)) .schema (fun _ => rfl) leaves
    (fun _ => ⟨rfl, rfl⟩) ?_
  rw [Submission.ofResults_leaves _ (fun _ => rfl) leaves]
  exact .validator agree

theorem submits_validator (n : Node) :
    w.Submits (ofResults [(Parts.validator (.ofWorkspace w) n).toTree .validator])
      (Parts.validator (.ofWorkspace w) n).value?.toList [] := by
  unfold Parts.validator
  split
  · exact .nil
  split
  · exact .nil
  · refine submits_withSchemas n _ _ fun r member => ?_
    obtain ⟨s, -, rfl⟩ := List.mem_map.mp member
    exact Parts.resources?_schema s.1 s.2

theorem submits_validators (policy : Node) :
    w.Submits (ofResults ((Parts.validators (.ofWorkspace w) policy).map (·.toTree .validator)))
      (values (Parts.validators (.ofWorkspace w) policy)) [] := by
  have each : ∀ r ∈ Parts.validators (.ofWorkspace w) policy,
      w.Submits (ofResults [r.toTree .validator]) r.value?.toList [] := by
    intro r member
    unfold Parts.validators at member
    split at member
    · obtain rfl := List.mem_singleton.mp member
      exact .nil
    · obtain ⟨n, -, rfl⟩ := List.mem_map.mp member
      exact submits_validator n
  have submits := Submits.map _ Payload.validator (fun v => [v]) (fun _ => []) (by simpa using each)
  simpa using submits

/-! ### Steps of pipelines -/

/-- What an operation of the drawing can be resolved to. -/
inductive IsStep (w : Workspace) : Resolution Gateway.Operation → Prop
  | failure (n : Node) (p : Problem) : w.IsStep (.failure n p)
  | ordinary {o : Node × OperationSettings} (step : Gateway.Operation) (drawn : w.IsDrawn o)
      (notTransform : ¬ o.2.IsTransform) : w.IsStep (.success o.1 step)
  | schemaStep {o : Node × OperationSettings} {functionId : String} (role : String)
      (source : Node × SchemaSettings) (drawn : w.IsDrawn o) (isTransform : o.2.IsTransform)
      (readsOrWrites : functionId = Parts.deserializeFunction ∨
        functionId = Parts.serializeFunction) :
      w.IsStep (Parts.schemaStep o.1 functionId role source)
  | scriptStep {o : Node × OperationSettings} (source : Node × FunctionSettings)
      (drawn : w.IsDrawn o) (isTransform : o.2.IsTransform) :
      w.IsStep (Parts.scriptStep o.1 o.2 source)

theorem isStep_of_mem_transform {o : Node × OperationSettings} (drawn : w.IsDrawn o)
    (isTransform : o.2.IsTransform) {r : Resolution Gateway.Operation}
    (member : r ∈ Parts.transform (.ofWorkspace w) o.1 o.2) : w.IsStep r := by
  rcases Parts.mem_transform_cases member with
    ⟨p, -, rfl⟩ | ⟨functionId, role, handle, source, readsOrWrites, -, rfl⟩ | ⟨source, -, rfl⟩
  · exact .failure _ p
  · exact .schemaStep role source drawn isTransform readsOrWrites
  · exact .scriptStep source drawn isTransform

theorem isStep_of_mem_operation {o : Node × OperationSettings} (drawn : w.IsDrawn o)
    {r : Resolution Gateway.Operation}
    (member : r ∈ Parts.operation (.ofWorkspace w) o.1 o.2) : w.IsStep r := by
  by_cases blank : o.2.functionId?.all Text.isBlank = true
  · rw [Parts.operation_of_notConfigured blank] at member
    obtain rfl := List.mem_singleton.mp member
    exact .failure _ _
  · obtain ⟨functionId, configured, notBlank⟩ := Parts.exists_functionId blank
    have isTransform_iff : o.2.IsTransform ↔
        Text.trim functionId = Parts.transformFunction := by
      simp [OperationSettings.IsTransform, configured]
    rw [Parts.operation_of_configured configured notBlank] at member
    split_ifs at member with isTransform offered
    · exact isStep_of_mem_transform drawn (isTransform_iff.mpr isTransform) member
    · obtain rfl := List.mem_singleton.mp member
      exact .ordinary _ drawn (mt isTransform_iff.mp isTransform)
    · obtain rfl := List.mem_singleton.mp member
      exact .failure _ _

theorem isStep_of_mem_steps {chain : List (Node × OperationSettings)}
    (drawn : ∀ o ∈ chain, w.IsDrawn o) {r : Resolution Gateway.Operation}
    (member : r ∈ Parts.steps (.ofWorkspace w) chain) : w.IsStep r := by
  induction chain with
  | nil => simp [Parts.steps] at member
  | cons o rest ih =>
    rw [Parts.steps] at member
    rcases List.mem_append.mp member with member | member
    · exact isStep_of_mem_operation (drawn o (by simp)) member
    split_ifs at member
    · obtain ⟨after, -, rfl⟩ := List.mem_map.mp member
      exact .failure _ _
    · exact ih (fun o later => drawn o (List.mem_cons_of_mem _ later)) member

theorem uses_schema (n : Node) (s : SchemaSettings) :
    let used := ofResults ([Parts.schema n s].map (·.toTree .schema))
    if Text.isBlank s.id || Text.isBlank s.version then used = [] else
      ∃ n r, used = [.of n (.schema r)] ∧ r.id = s.id ∧ r.version = s.version := by
  unfold Parts.schema
  cases noId : Text.isBlank s.id with
  | true => rfl
  | false =>
    cases noVersion : Text.isBlank s.version with
    | true => rfl
    | false => exact ⟨n, ⟨s.id, s.version, s.type, s.source?, s.messageType?⟩, rfl, rfl, rfl⟩

theorem uses_script (n : Node) (s : FunctionSettings) :
    let used := ofResults ([Parts.script n s].map (·.toTree .script))
    if Text.isBlank s.name then used = [] else
      ∃ n r, used = [.of n (.script r)] ∧ r.id = s.name := by
  unfold Parts.script
  cases noName : Text.isBlank s.name with
  | true => rfl
  | false => exact ⟨n, ⟨s.name, s.version?, s.language, s.source⟩, rfl, rfl⟩

theorem IsStep.submits {r : Resolution Gateway.Operation} (isStep : w.IsStep r) :
    w.Submits (ofResults [r.toTree .operation]) [] r.value?.toList := by
  cases isStep with
  | failure n p => exact .nil
  | ordinary step drawn notTransform =>
    have block : w.IsBlock [.of _ (.operation step)] := .ordinary drawn notTransform
    exact ⟨⟨[_], rfl, by simpa using block⟩, rfl, rfl⟩
  | @schemaStep o functionId role source drawn isTransform readsOrWrites =>
    rw [Parts.schemaStep, Submission.ofResults_withResources]
    have leaf : ∀ r ∈ [Parts.schema source.1 source.2], r.resources? = none := by
      simp [Parts.resources?_schema]
    refine Submits.of_isBlock (.of o.1 (.operation _)) .schema (fun _ => rfl) leaf
      (fun _ => ⟨rfl, rfl⟩) ?_
    exact .schemaStep drawn isTransform readsOrWrites rfl rfl (uses_schema source.1 source.2)
  | @scriptStep o source drawn isTransform =>
    rw [Parts.scriptStep, Submission.ofResults_withResources]
    have leaf : ∀ r ∈ [Parts.script source.1 source.2], r.resources? = none := by
      simp [Parts.resources?_script]
    refine Submits.of_isBlock (.of o.1 (.operation _)) .script (fun _ => rfl) leaf
      (fun _ => ⟨rfl, rfl⟩) ?_
    exact .scriptStep drawn isTransform rfl (uses_script source.1 source.2)

theorem submits_pipeline (source : Node) (handle : String) :
    w.Submits
      (ofResults ((Parts.pipeline (.ofWorkspace w) source handle).map (·.toTree .operation))) []
      (values (Parts.pipeline (.ofWorkspace w) source handle)) := by
  have each : ∀ r ∈ Parts.pipeline (.ofWorkspace w) source handle,
      w.Submits (ofResults [r.toTree .operation]) [] r.value?.toList := fun r member => by
    rw [Parts.pipeline_eq_steps] at member
    exact (isStep_of_mem_steps (fun _ => (w.isChain_chain source handle).isDrawn) member).submits
  have submits := Submits.map _ Payload.operation (fun _ => []) (fun o => [o]) (by simpa using each)
  simpa using submits

theorem submits_transition (m : Behavior.StateMachine) (n : Node) (s : TransitionSettings) :
    let r := Parts.transition (.ofWorkspace w) m n s
    w.Submits (ofResults [r.toTree .transition]) []
      (r.value?.toList.flatMap Gateway.Transition.pipeline) := by
  intro r
  unfold r Parts.transition
  split
  · exact .nil
  · rw [Submission.ofResults_withResources]
    change w.Submits (ofResults _) [] (_ ++ [])
    rw [List.append_nil]
    exact submits_pipeline n Handle.output

theorem submits_transitions (policy : Node) (settings : BehaviorPolicySettings) :
    let transitions := Parts.transitions (.ofWorkspace w) policy settings
    w.Submits (ofResults (transitions.map (·.toTree .transition))) []
      ((values transitions).flatMap Gateway.Transition.pipeline) := by
  intro transitions
  have each : ∀ r ∈ transitions, w.Submits (ofResults [r.toTree .transition]) []
      (r.value?.toList.flatMap Gateway.Transition.pipeline) := by
    intro r member
    obtain ⟨t, -, rfl⟩ := List.mem_map.mp member
    exact submits_transition settings.model.machine t.1 t.2
  have submits := Submits.map _ Payload.transition (fun _ => []) Gateway.Transition.pipeline
    (by simpa using each)
  simpa using submits

end Workspace

/-! ### Policies -/

theorem Parts.resources?_singleFilter (w : Wiring) (policy : Node) (expected : NodeKind)
    (entries? : Node → Option (List String)) :
    (singleFilter w policy expected entries?).resources? = none := by
  unfold singleFilter
  split
  · rfl
  · rfl
  · split_ifs <;> rfl
  · rfl

theorem Parts.resources?_model (policy : Node) (settings : BehaviorPolicySettings) :
    (model policy settings).resources? = none := by
  dsimp only [model]
  split <;> rfl

namespace Compilation

theorem getD_action? (steps : List (Resolution Gateway.Operation)) :
    (action? steps).getD [] = values steps := by
  unfold action?
  split
  next nothing => exact nothing.symm
  · rfl

theorem ofResults_withParts (n : Node) (parts : List ResultTree)
    (policy? : Option Gateway.Policy) :
    ofResults (withParts n parts policy?).results = ofResults parts := by
  have bare : ofResults [policyResult n (policy?.map .ofPolicy)] = [] := by
    rcases policy? with _ | ⟨_⟩ | ⟨_⟩ <;> rfl
  rw [withParts, Submission.ofResults_append, bare, List.append_nil]

theorem submits_dataParts (w : Workspace) (n : Node) :
    w.Submits (ofResults (dataParts (.ofWorkspace w) n))
      (values (Parts.validators (.ofWorkspace w) n))
      (values (Parts.pipeline (.ofWorkspace w) n Handle.onSuccess) ++
        values (Parts.pipeline (.ofWorkspace w) n Handle.onError)) := by
  have leaf : (Parts.topicFilter (.ofWorkspace w) n).resources? = none :=
    Parts.resources?_singleFilter ..
  have submits := ((w.submits_validators n).append (w.submits_pipeline n Handle.onSuccess)).append
    (w.submits_pipeline n Handle.onError)
  rw [dataParts, Submission.ofResults_cons_of_notResource _ (fun _ => rfl) leaf,
    Submission.ofResults_append, Submission.ofResults_append]
  simpa using submits

theorem submits_behaviorParts (w : Workspace) (n : Node) (settings : BehaviorPolicySettings) :
    w.Submits (ofResults (behaviorParts (.ofWorkspace w) n settings)) []
      ((values (Parts.transitions (.ofWorkspace w) n settings)).flatMap
        Gateway.Transition.pipeline) := by
  have filterLeaf : (Parts.clientFilter (.ofWorkspace w) n).resources? = none :=
    Parts.resources?_singleFilter ..
  have modelLeaf := Parts.resources?_model n settings
  rw [behaviorParts, Submission.ofResults_cons_of_notResource _ (fun _ => rfl) filterLeaf,
    Submission.ofResults_cons_of_notResource _ (fun _ => rfl) modelLeaf]
  exact w.submits_transitions n settings

/-- The submissions of a policy fall into blocks, whatever is wrong with it. The validators and the
operations among them are those of the policy if there is one. -/
theorem submissions_agree_of_isPolicy (w : Workspace) {n : Node} (isPolicy : n.isPolicy = true) :
    ∃ c validators operations, ofNode (.ofWorkspace w) n = .ok c ∧
      w.Submits (ofResults c.results) validators operations ∧
        ∀ policy, c.policy? = some policy →
          validators = policy.validators ∧ operations = policy.operations := by
  unfold Node.isPolicy at isPolicy
  split at isPolicy
  next settings kind =>
    have compiled : ofNode (.ofWorkspace w) n = .ok (ofDataPolicy (.ofWorkspace w) n settings) := by
      rw [ofNode, kind]
    rw [ofDataPolicy_eq_withParts] at compiled
    have submits := submits_dataParts w n
    rw [← ofResults_withParts n] at submits
    refine ⟨_, _, _, compiled, submits, fun policy valid => ?_⟩
    obtain ⟨d, made, rfl⟩ := Option.map_eq_some_iff.mp valid
    obtain ⟨-, -, -, validators, onSuccess, onError⟩ := parts_of_dataPolicy? made
    rw [Gateway.Policy.validators, Gateway.Policy.operations, validators, onSuccess, onError,
      getD_action?, getD_action?]
    exact ⟨rfl, rfl⟩
  next settings kind =>
    have compiled : ofNode (.ofWorkspace w) n =
        .ok (ofBehaviorPolicy (.ofWorkspace w) n settings) := by
      rw [ofNode, kind]
    rw [ofBehaviorPolicy_eq_withParts] at compiled
    have submits := submits_behaviorParts w n settings
    rw [← ofResults_withParts n] at submits
    refine ⟨_, _, _, compiled, submits, fun policy valid => ?_⟩
    obtain ⟨b, made, rfl⟩ := Option.map_eq_some_iff.mp valid
    obtain ⟨-, -, -, -, transitions⟩ := parts_of_behaviorPolicy? made
    rw [Gateway.Policy.validators, Gateway.Policy.operations, transitions]
    exact ⟨rfl, rfl⟩
  · cases isPolicy

theorem submissions_agree_wired :
    let d : Node := .known "policy" none (.dataPolicy ⟨none⟩)
    let b : Node := .known "policy" none
      (.behaviorPolicy ⟨some " quota ", .publishQuota, .ofTexts [("note", "daily")]⟩)
    (d.isPolicy = true ∧ ∃ c policy validators operations,
      ofNode (.ofWorkspace .wired) d = .ok c ∧ c.policy? = some policy ∧
        Workspace.wired.Submits (ofResults c.results) validators operations ∧
          validators = policy.validators ∧ operations = policy.operations ∧
            (ofResults c.results).map (·.payload.kind) =
              [.validator, .schema, .operation, .schema, .operation, .script, .operation,
                .schema]) ∧
    b.isPolicy = true ∧ ∃ c policy validators operations,
      ofNode (.ofWorkspace .guarded) b = .ok c ∧ c.policy? = some policy ∧
        Workspace.guarded.Submits (ofResults c.results) validators operations ∧
          validators = policy.validators ∧ operations = policy.operations ∧
            (ofResults c.results).map (·.payload.kind) =
              [.operation, .schema, .operation, .script, .operation, .schema, .operation] := by
  intro d b
  constructor
  · have isPolicy : d.isPolicy = true := rfl
    obtain ⟨c, validators, operations, compiled, submits, agree⟩ :=
      submissions_agree_of_isPolicy .wired isPolicy
    have valid : c.policy?.isSome = true := by
      cases compiled
      decide +kernel
    obtain ⟨policy, valid⟩ := Option.isSome_iff_exists.mp valid
    obtain ⟨sameValidators, sameOperations⟩ := agree policy valid
    refine ⟨isPolicy, c, policy, validators, operations, compiled, valid, submits, sameValidators,
      sameOperations, ?_⟩
    cases compiled
    decide +kernel
  · have isPolicy : b.isPolicy = true := rfl
    obtain ⟨c, validators, operations, compiled, submits, agree⟩ :=
      submissions_agree_of_isPolicy .guarded isPolicy
    have valid : c.policy?.isSome = true := by
      cases compiled
      decide +kernel
    obtain ⟨policy, valid⟩ := Option.isSome_iff_exists.mp valid
    obtain ⟨sameValidators, sameOperations⟩ := agree policy valid
    refine ⟨isPolicy, c, policy, validators, operations, compiled, valid, submits, sameValidators,
      sameOperations, ?_⟩
    cases compiled
    decide +kernel

end Compilation

end PolicyCanvas
