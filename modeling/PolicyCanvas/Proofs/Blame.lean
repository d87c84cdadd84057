import PolicyCanvas.Parts
import PolicyCanvas.Proofs.OperationChain
import PolicyCanvas.Proofs.ResultForest

/-!
# Who is blamed for what

What is wrong with each part of a policy, read off the nodes and the edges alone: every part has a
list of blames that is defined without resolving anything, and the main statements say that
resolving the part finds exactly these, in this order.
-/

namespace PolicyCanvas

/-- The node that a finding is about, and what kind of finding it is. -/
structure Blame where
  id : String
  kind : FindingKind
deriving DecidableEq, Repr

def Finding.blame (f : Finding) : Blame := ⟨f.id, f.kind⟩

namespace Blame

/-- A policy needs exactly one filter, with a first entry that is not blank. -/
def ofFilter (w : Workspace) (policy : String) (entries? : Node → Option (List String)) :
    List Blame :=
  match w.predecessorsOf policy none entries? with
  | [] => [⟨policy, .notConnected⟩]
  | [(filter, entries)] =>
    if entries.head?.all Text.isBlank then [⟨filter.id, .notConfigured⟩] else []
  | _ :: (second, _) :: _ => [⟨second.id, .cardinality⟩]

/-- A schema needs an id and a version. -/
def ofSchema (schema : Node × SchemaSettings) : List Blame :=
  if Text.isBlank schema.2.id || Text.isBlank schema.2.version then
    [⟨schema.1.id, .notConfigured⟩]
  else []

/-- A validator needs schemas, and each of them counts. -/
def ofValidator (w : Workspace) (validator : String) : List Blame :=
  match w.predecessorsOf validator none Node.schema? with
  | [] => [⟨validator, .notConnected⟩]
  | schemas => schemas.flatMap ofSchema

/-- A data policy needs validators, and each of them counts. -/
def ofValidation (w : Workspace) (policy : String) : List Blame :=
  match w.predecessorsOf policy none Node.validator? with
  | [] => [⟨policy, .notConnected⟩]
  | validators => validators.flatMap fun v => ofValidator w v.1.id

/-- A script needs a name. -/
def ofScript (script : Node × FunctionSettings) : List Blame :=
  if Text.isBlank script.2.name then [⟨script.1.id, .notConfigured⟩] else []

/-- A transform is blamed once for each of its three inputs that is missing; when none is, the
schemas and scripts that go into it count. -/
def ofTransform (w : Workspace) (operation : String) : List Blame :=
  let readers := w.predecessorsOf operation (some Handle.deserialiser) Node.schema?
  let scripts := w.predecessorsOf operation (some Handle.function) Node.function?
  let writers := w.predecessorsOf operation (some Handle.serialiser) Node.schema?
  match readers, scripts, writers with
  | reader :: _, _ :: _, writer :: _ =>
    ofSchema reader ++ scripts.flatMap ofScript ++ ofSchema writer
  | _, _, _ =>
    List.replicate ([readers.isEmpty, scripts.isEmpty, writers.isEmpty].count true)
      ⟨operation, .notConnected⟩

/-- An operation needs a function, and one of the catalog unless that is empty. -/
def ofOperation (w : Workspace) (o : Node × OperationSettings) : List Blame :=
  match o.2.functionId? with
  | none => [⟨o.1.id, .notConfigured⟩]
  | some functionId =>
    if Text.isBlank functionId then [⟨o.1.id, .notConfigured⟩]
    else if Text.trim functionId = Parts.transformFunction then ofTransform w o.1.id
    else if w.functions = [] ∨ ∃ f ∈ w.functions, f.functionId = Text.trim functionId then []
    else [⟨o.1.id, .notConfigured⟩]

end Blame

/-- Nothing may follow the operation: its own setting says so or, without one, that of its function
in the catalog. -/
def Workspace.endsPipeline (w : Workspace) (s : OperationSettings) : Bool :=
  match s.isTerminal? with
  | some own => own
  | none => (s.functionId?.bind w.function?).any (·.traits.isTerminal)

/-- The operations of a chain count up to the first that ends the pipeline; each one after it is too
many. -/
def Blame.ofChain (w : Workspace) (chain : List (Node × OperationSettings)) : List Blame :=
  let goesOn (o : Node × OperationSettings) : Bool := !w.endsPipeline o.2
  let rest := chain.dropWhile goesOn
  (chain.takeWhile goesOn ++ rest.take 1).flatMap (ofOperation w) ++
    (rest.drop 1).map fun o => ⟨o.1.id, .cardinality⟩

/-- A whole number of the unsigned 64-bit range. -/
def Json.IsCount (j : Json) : Prop := ∃ n : Nat, n < UInt64.size ∧ j = .number (.integer n)

/-- The transition is a row in the table of the model, and was made for it if for any. -/
def TransitionSettings.IsRowOf (s : TransitionSettings) (m : Behavior.Model) : Prop :=
  (s.model? = none ∨ s.model? = some m) ∧
    ∃ r ∈ m.machine.rows,
      s.event? = some r.event ∧ s.source? = some r.source ∧ s.target? = some r.target

theorem Parts.isCount_iff {j : Json} : Parts.isCount j = true ↔ j.IsCount := by
  constructor
  · intro counts
    match j with
    | .number (.integer i) =>
      obtain ⟨notNegative, small⟩ : 0 ≤ i ∧ i < UInt64.size := of_decide_eq_true counts
      exact ⟨i.toNat, by omega, by rw [Int.toNat_of_nonneg notNegative]⟩
    | .number (.float x) => exact (of_decide_eq_true counts : False).elim
  · rintro ⟨n, small, rfl⟩
    have inRange : (Json.Number.integer n).IsUnsigned := ⟨by omega, by omega⟩
    simpa only [isCount, decide_eq_true_eq] using inRange

instance : DecidablePred Json.IsCount := fun _ => decidable_of_iff _ Parts.isCount_iff

instance (s : TransitionSettings) (m : Behavior.Model) : Decidable (s.IsRowOf m) :=
  inferInstanceAs (Decidable (_ ∧ _))

namespace Blame

/-- The arguments of the quota model that are given have to be counts. -/
def ofModel (policy : String) (s : BehaviorPolicySettings) : List Blame :=
  if s.model = .publishQuota ∧ ∃ name ∈ ["minPublishes", "maxPublishes"],
      ∃ j ∈ s.arguments.get? name, ¬ j.IsCount then
    [⟨policy, .notConfigured⟩]
  else []

/-- A transition has to be a row of the model, and then the chain that leaves it counts. -/
def ofTransition (w : Workspace) (m : Behavior.Model) (t : Node × TransitionSettings)
    (chain : List (Node × OperationSettings)) : List Blame :=
  if t.2.IsRowOf m then ofChain w chain else [⟨t.1.id, .notConfigured⟩]

end Blame

/-! ### What resolving a part finds -/

/-- Whom a resolution blames, at any depth. -/
def Resolution.blames {α : Type} (r : Resolution α) : List Blame := r.findings.map Finding.blame

namespace Resolution

variable {α β : Type}

@[simp]
theorem blames_success (n : Node) (a : α) : (success n a).blames = [] := rfl

@[simp]
theorem blames_failure (n : Node) (p : Problem) :
    (failure n p : Resolution α).blames = [⟨n.id, p.kind⟩] := rfl

theorem flatMap_blames (resolutions : List (Resolution α)) :
    resolutions.flatMap blames = (resolutions.flatMap findings).map Finding.blame := by
  rw [List.map_flatMap]
  rfl

@[simp]
theorem blames_withResources (n : Node) (a : α) (wrap : β → Payload)
    (resources : List (Resolution β)) :
    ((success n a).withResources (resources.map (·.toTree wrap))).blames =
      resources.flatMap blames := by
  rw [blames, findings_withResources, flatMap_blames]

@[simp]
theorem blames_withResource (n : Node) (a : α) (wrap : β → Payload) (resource : Resolution β) :
    ((success n a).withResources [resource.toTree wrap]).blames = resource.blames := by
  simpa using blames_withResources n a wrap [resource]

theorem flatMap_blames_failures {γ : Type} (l : List γ) (nodeOf : γ → Node) (p : Problem) :
    (l.map fun c => (failure (nodeOf c) p : Resolution α)).flatMap blames =
      l.map fun c => ⟨(nodeOf c).id, p.kind⟩ := by
  rw [List.flatMap_map, List.map_eq_flatMap]
  rfl

end Resolution

namespace Parts

theorem blames_singleFilter (w : Workspace) (policy : Node) (expected : NodeKind)
    (entries? : Node → Option (List String)) :
    (singleFilter (.ofWorkspace w) policy expected entries?).blames =
      Blame.ofFilter w policy.id entries? := by
  rw [singleFilter, Wiring.filterMap_incomers, Blame.ofFilter]
  match w.predecessorsOf policy.id none entries? with
  | [] => rfl
  | [(filter, [])] => rfl
  | [(filter, first :: entries)] =>
    by_cases blank : Text.isBlank first <;> simp [blank, Problem.kind]
  | filter :: (second, _) :: _ => simp [Problem.kind]

theorem blames_schema (n : Node) (s : SchemaSettings) :
    (schema n s).blames = Blame.ofSchema (n, s) := by
  by_cases noId : Text.isBlank s.id
  · simp [schema, Blame.ofSchema, noId, Problem.kind]
  · by_cases noVersion : Text.isBlank s.version <;>
      simp [schema, Blame.ofSchema, noId, noVersion, Problem.kind]

theorem blames_validator (w : Workspace) {n : Node} {settings : ValidatorSettings}
    (isValidator : n.validator? = some settings) :
    (validator (.ofWorkspace w) n).blames = Blame.ofValidator w n.id := by
  simp only [validator, isValidator, Wiring.filterMap_incomers, Blame.ofValidator]
  cases w.predecessorsOf n.id none Node.schema? with
  | nil => rfl
  | cons s schemas =>
    simp only [Resolution.blames_withResources, List.flatMap_map, blames_schema]

theorem validators_of_nil {w : Workspace} {policy : Node}
    (none_found : w.predecessorsOf policy.id none Node.validator? = []) :
    validators (.ofWorkspace w) policy =
      [.failure policy (.notConnected NodeKind.validator.tag none)] := by
  rw [validators, Wiring.filter_incomers, none_found]
  rfl

theorem validators_of_ne_nil {w : Workspace} {policy : Node}
    (some_found : w.predecessorsOf policy.id none Node.validator? ≠ []) :
    validators (.ofWorkspace w) policy =
      (w.predecessorsOf policy.id none Node.validator?).map fun v =>
        validator (.ofWorkspace w) v.1 := by
  obtain ⟨v, validators, found⟩ := List.exists_cons_of_ne_nil some_found
  rw [Parts.validators, Wiring.filter_incomers, found]
  simp

theorem blames_validators (w : Workspace) (policy : Node) :
    (validators (.ofWorkspace w) policy).flatMap Resolution.blames =
      Blame.ofValidation w policy.id := by
  rw [Blame.ofValidation]
  split
  next none_found =>
    rw [validators_of_nil none_found]
    rfl
  next some_found =>
    rw [validators_of_ne_nil some_found, List.flatMap_map]
    exact List.flatMap_congr fun v member => blames_validator w (Node.mem_seenBy.mp member).2

/-! ### Pipelines -/

theorem blames_script (n : Node) (s : FunctionSettings) :
    (script n s).blames = Blame.ofScript (n, s) := by
  by_cases noName : Text.isBlank s.name <;> simp [script, Blame.ofScript, noName, Problem.kind]

theorem schemaOn?_ofWorkspace (w : Workspace) (n : Node) (handle : String) :
    schemaOn? (.ofWorkspace w) n handle =
      (w.predecessorsOf n.id (some handle) Node.schema?).head? :=
  Wiring.findSome?_incomers ..

theorem scriptsOn_ofWorkspace (w : Workspace) (n : Node) :
    scriptsOn (.ofWorkspace w) n =
      w.predecessorsOf n.id (some Handle.function) Node.function? :=
  Wiring.filterMap_incomers ..

theorem blames_transform (w : Workspace) (n : Node) (settings : OperationSettings) :
    (transform (.ofWorkspace w) n settings).flatMap Resolution.blames =
      Blame.ofTransform w n.id := by
  rw [transform, schemaOn?_ofWorkspace, scriptsOn_ofWorkspace, schemaOn?_ofWorkspace,
    Blame.ofTransform]
  cases w.predecessorsOf n.id (some Handle.deserialiser) Node.schema? <;>
    cases w.predecessorsOf n.id (some Handle.function) Node.function? <;>
      cases w.predecessorsOf n.id (some Handle.serialiser) Node.schema? <;>
        simp [schemaStep, scriptStep, blames_schema, blames_script, Problem.kind,
          List.flatMap_map]

/-- A transform lacks an input, or has a step for each of them. -/
theorem mem_transform_cases {w : Wiring} {n : Node} {settings : OperationSettings}
    {r : Resolution Gateway.Operation} (member : r ∈ transform w n settings) :
    (∃ p : Problem, p.kind = .notConnected ∧ r = .failure n p) ∨
      (∃ functionId role handle source,
        (functionId = deserializeFunction ∨ functionId = serializeFunction) ∧
          schemaOn? w n handle = some source ∧ r = schemaStep n functionId role source) ∨
        ∃ source ∈ scriptsOn w n, r = scriptStep n settings source := by
  unfold transform at member
  split at member
  next reader s scripts writer reads runs writes =>
    rcases List.mem_cons.mp member with rfl | member
    · exact .inr (.inl ⟨_, _, _, reader, .inl rfl, reads, rfl⟩)
    rcases List.mem_append.mp member with member | member
    · obtain ⟨source, among, rfl⟩ := List.mem_map.mp member
      exact .inr (.inr ⟨source, by rwa [runs], rfl⟩)
    · obtain rfl := List.mem_singleton.mp member
      exact .inr (.inl ⟨_, _, _, writer, .inr rfl, writes, rfl⟩)
  · obtain ⟨p, missing, rfl⟩ := List.mem_map.mp member
    refine .inl ⟨p, ?_, rfl⟩
    simp only [List.mem_append, List.mem_ite_nil_left, List.mem_singleton] at missing
    rcases missing with (⟨-, rfl⟩ | ⟨-, rfl⟩) | ⟨-, rfl⟩ <;> rfl

/-- An operation is not configured, is a transform, or is a step of its own. -/
theorem mem_operation_cases {w : Wiring} {n : Node} {settings : OperationSettings}
    {r : Resolution Gateway.Operation} (member : r ∈ operation w n settings) :
    (∃ p : Problem, p.kind = .notConfigured ∧ r = .failure n p) ∨
      r ∈ transform w n settings ∨ ∃ step, r = .success n step := by
  simp only [operation] at member
  split_ifs at member
  · exact .inl ⟨_, rfl, List.mem_singleton.mp member⟩
  · exact .inr (.inl member)
  · exact .inl ⟨_, rfl, List.mem_singleton.mp member⟩
  · exact .inr (.inr ⟨_, List.mem_singleton.mp member⟩)

theorem operation_of_notConfigured {w : Wiring} {n : Node} {settings : OperationSettings}
    (blank : settings.functionId?.all Text.isBlank = true) :
    operation w n settings = [.failure n .noFunction] := by
  have nothing : Text.trim (settings.functionId?.getD "") = "" := by
    rw [Text.trim_eq_empty_iff]
    cases given : settings.functionId? with
    | none => rfl
    | some functionId => simpa [given] using blank
  rw [operation, if_pos nothing]

theorem exists_functionId {settings : OperationSettings}
    (configured : ¬ settings.functionId?.all Text.isBlank = true) :
    ∃ functionId, settings.functionId? = some functionId ∧ Text.isBlank functionId = false := by
  simpa [Option.all_eq_true] using configured

theorem operation_of_configured {w : Workspace} {n : Node} {settings : OperationSettings}
    {functionId : String} (configured : settings.functionId? = some functionId)
    (notBlank : Text.isBlank functionId = false) :
    operation (.ofWorkspace w) n settings =
      if Text.trim functionId = transformFunction then transform (.ofWorkspace w) n settings
      else if w.functions = [] ∨ ∃ f ∈ w.functions, f.functionId = Text.trim functionId then
        [.success n ⟨n.id, Text.trim functionId, settings.formData⟩]
      else [.failure n (.unknownFunction (Text.trim functionId))] := by
  have given : ¬ Text.trim functionId = "" := by simp [Text.trim_eq_empty_iff, notBlank]
  have missing_iff : (!w.functions.isEmpty && (w.function? (Text.trim functionId)).isNone) = true ↔
      ¬ (w.functions = [] ∨ ∃ f ∈ w.functions, f.functionId = Text.trim functionId) := by
    simp [Workspace.function?]
  simp only [operation, configured, Option.getD_some, given, ↓reduceIte,
    Wiring.workspace_ofWorkspace, Wiring.function?_ofWorkspace, missing_iff, ite_not]

theorem blames_operation (w : Workspace) (n : Node) (settings : OperationSettings) :
    (operation (.ofWorkspace w) n settings).flatMap Resolution.blames =
      Blame.ofOperation w (n, settings) := by
  rw [Blame.ofOperation]
  cases configured : settings.functionId? with
  | none =>
    rw [operation_of_notConfigured (by simp [configured])]
    rfl
  | some functionId =>
    by_cases blank : Text.isBlank functionId = true
    · rw [operation_of_notConfigured (by simp [configured, blank])]
      simp [blank, Problem.kind]
    rw [operation_of_configured configured (by simpa using blank)]
    simp only [blank, Bool.false_eq_true, ↓reduceIte]
    split
    · exact blames_transform w n settings
    · split <;> rfl

theorem isTerminal_ofWorkspace (w : Workspace) (settings : OperationSettings) :
    isTerminal (.ofWorkspace w) settings = w.endsPipeline settings := by
  rw [isTerminal, Workspace.endsPipeline]
  cases settings.isTerminal? with
  | some own => rfl
  | none =>
    rw [Wiring.function?_ofWorkspace]
    cases settings.functionId?.bind w.function? <;> rfl

theorem blames_steps (w : Workspace) (chain : List (Node × OperationSettings)) :
    (steps (.ofWorkspace w) chain).flatMap Resolution.blames = Blame.ofChain w chain := by
  induction chain with
  | nil => rfl
  | cons o rest ih =>
    rw [steps, List.flatMap_append, blames_operation, isTerminal_ofWorkspace]
    by_cases ends : w.endsPipeline o.2
    · simp [ends, Blame.ofChain, Resolution.flatMap_blames_failures, Problem.kind]
    · simp [ends, Blame.ofChain, ih]

theorem blames_pipeline (w : Workspace) (source : Node) (handle : String) :
    (pipeline (.ofWorkspace w) source handle).flatMap Resolution.blames =
      Blame.ofChain w (chain (.ofWorkspace w) source handle) := by
  rw [pipeline_eq_steps, blames_steps]

theorem blames_model (policy : Node) (settings : BehaviorPolicySettings) :
    (model policy settings).blames = Blame.ofModel policy.id settings := by
  have isWrong : ((countArguments settings.model).find? fun name =>
      (settings.arguments.get? name).any (!isCount ·)).isSome = true ↔
        settings.model = .publishQuota ∧ ∃ name ∈ ["minPublishes", "maxPublishes"],
          ∃ j ∈ settings.arguments.get? name, ¬ j.IsCount := by
    rw [List.find?_isSome]
    cases settings.model <;> simp [countArguments, Option.any_eq_true, ← isCount_iff]
  simp only [model, Blame.ofModel, ← isWrong]
  cases (countArguments settings.model).find? fun name =>
      (settings.arguments.get? name).any (!isCount ·) with
  | none => rfl
  | some name => rfl

/-- No row of a table has the empty event. -/
theorem event_ne_empty {m : Behavior.Model} {r : Behavior.Row} (member : r ∈ m.machine.rows) :
    r.event ≠ "" := by
  have named : ∀ r ∈ m.machine.rows, r.event ≠ "" := by cases m <;> decide
  exact named r member

theorem row_eq_ok_iff {m : Behavior.Model} {s : TransitionSettings} {r : Behavior.Row} :
    row m.machine s = .ok r ↔
      (s.model? = none ∨ s.model? = some m) ∧ r ∈ m.machine.rows ∧
        s.event? = some r.event ∧ s.source? = some r.source ∧ s.target? = some r.target := by
  constructor
  · intro isRow
    unfold row at isRow
    split at isRow
    · cases isRow
    next event hasEvent =>
      split_ifs at isRow with noEvent other unused
      split at isRow
      next source target hasSource hasTarget =>
        split at isRow
        next r' found =>
          obtain rfl : r' = r := by simpa using isRow
          obtain ⟨member, same⟩ := Behavior.StateMachine.find?_eq_some_iff.mp found
          refine ⟨?_, member, ?_⟩
          · rw [Behavior.Model.model_machine] at other
            cases h : s.model? <;> simp_all
          · simp [same, hasEvent, hasSource, hasTarget]
        · cases isRow
      · cases isRow
  · rintro ⟨made, member, hasEvent, hasSource, hasTarget⟩
    have found : m.machine.find? r.event r.source r.target = some r :=
      Behavior.StateMachine.find?_eq_some_iff.mpr ⟨member, rfl⟩
    have used : m.machine.hasEvent r.event = true := by
      simpa [Behavior.StateMachine.hasEvent] using ⟨r, member, rfl⟩
    have same : s.model?.any (· ≠ m.machine.model) = false := by
      rw [Behavior.Model.model_machine]
      rcases made with h | h <;> simp [h]
    simp only [row, hasEvent, hasSource, hasTarget, event_ne_empty member, same, used, found]
    simp

theorem kind_of_row_eq_error {m : Behavior.StateMachine} {s : TransitionSettings} {p : Problem}
    (wrong : row m s = .error p) : p.kind = .notConfigured := by
  unfold row at wrong
  split at wrong
  · cases wrong; rfl
  · split_ifs at wrong
    · cases wrong; rfl
    · cases wrong; rfl
    · cases wrong; rfl
    · split at wrong
      · split at wrong
        · cases wrong
        · cases wrong; rfl
      · cases wrong; rfl

theorem blames_transition (w : Workspace) (m : Behavior.Model) (n : Node)
    (settings : TransitionSettings) :
    (transition (.ofWorkspace w) m.machine n settings).blames =
      Blame.ofTransition w m (n, settings) (chain (.ofWorkspace w) n Handle.output) := by
  rw [transition, Blame.ofTransition]
  cases decided : row m.machine settings with
  | ok r =>
    obtain ⟨made, member, isRow⟩ := row_eq_ok_iff.mp decided
    have legal : settings.IsRowOf m := ⟨made, r, member, isRow⟩
    simp [legal, blames_pipeline]
  | error p =>
    have illegal : ¬ settings.IsRowOf m := by
      rintro ⟨made, r, member, isRow⟩
      have found := row_eq_ok_iff.mpr ⟨made, member, isRow⟩
      rw [decided] at found
      cases found
    simp [illegal, kind_of_row_eq_error decided]

theorem transitions_ofWorkspace (w : Workspace) (policy : Node)
    (settings : BehaviorPolicySettings) :
    transitions (.ofWorkspace w) policy settings =
      (w.successorsOf policy.id none Node.transition?).map fun t =>
        transition (.ofWorkspace w) settings.model.machine t.1 t.2 := by
  rw [transitions, Wiring.filterMap_outgoers]

theorem blames_transitions (w : Workspace) (policy : Node) (settings : BehaviorPolicySettings) :
    (transitions (.ofWorkspace w) policy settings).flatMap Resolution.blames =
      (w.successorsOf policy.id none Node.transition?).flatMap fun t =>
        Blame.ofTransition w settings.model t (chain (.ofWorkspace w) t.1 Handle.output) := by
  rw [transitions_ofWorkspace, List.flatMap_map]
  simp only [blames_transition]

end Parts

end PolicyCanvas
