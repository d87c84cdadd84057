import PolicyCanvas.Proofs.Content

/-!
# Where a pipeline ends

An operation may be marked as final, by its own setting or by the function that it is compiled to,
and each operation after a final one should be reported as one too many. A pipeline looks the
function up under the id as it was entered, while the operation is compiled to the id without the
white space at its ends. So the reports come just when the mark is found under the id as it was
entered (`surplus_iff_of_isFinal`), and `not_surplus_dropping` is a drawing where it is not.
-/

namespace PolicyCanvas

namespace Workspace

/-- The operation is compiled to the function with the id, as a step of its own. -/
def IsOrdinary (w : Workspace) (o : Node × OperationSettings) (functionId : String) : Prop :=
  Parts.operation (.ofWorkspace w) o.1 o.2 =
    [.success o.1 ⟨o.1.id, functionId, o.2.formData⟩]

/-- An operation with these settings that is compiled to the function is marked as final: by its own
setting or, without one, by the function in the catalog. -/
def IsFinal (w : Workspace) (s : OperationSettings) (functionId : String) : Prop :=
  s.isTerminal? = some true ∨
    s.isTerminal? = none ∧ ∃ f, w.function? functionId = some f ∧ f.traits.isTerminal = true

/-- The handles of a policy, or of the transitions of one, that pipelines leave through. -/
inductive IsPipelineSource (w : Workspace) (p : Node) : Node → String → Prop
  | onSuccess {settings : DataPolicySettings}
      (isData : p.settings? = some (.dataPolicy settings)) :
      w.IsPipelineSource p p Handle.onSuccess
  | onError {settings : DataPolicySettings}
      (isData : p.settings? = some (.dataPolicy settings)) :
      w.IsPipelineSource p p Handle.onError
  | output {settings : BehaviorPolicySettings} {t : Node × TransitionSettings}
      (isBehavior : p.settings? = some (.behaviorPolicy settings))
      (member : t ∈ w.successorsOf p.id none Node.transition?) :
      w.IsPipelineSource p t.1 Handle.output

theorem endsPipeline_of_isFinal {w : Workspace} {s : OperationSettings} {functionId : String}
    (final : w.IsFinal s functionId)
    (found : s.isTerminal? = some true ∨ s.functionId? = some functionId) :
    w.endsPipeline s = true := by
  rcases final with own | ⟨unset, f, offered, marked⟩
  · simp [endsPipeline, own]
  · obtain entered := found.resolve_left (by simp [unset])
    simp [endsPipeline, unset, entered, offered, marked]

end Workspace

/-- One of the results is of the node and says that it is one too many. -/
def Resolution.ReportsSurplus {α : Type} (results : List (Resolution α)) (n : Node) : Prop :=
  ∃ r ∈ results, r.node = n ∧ ∃ f, r.finding? = some f ∧ f.kind = .cardinality

theorem Resolution.reportsSurplus_append {α : Type} {front rest : List (Resolution α)} {n : Node} :
    ReportsSurplus (front ++ rest) n ↔ ReportsSurplus front n ∨ ReportsSurplus rest n := by
  simp only [ReportsSurplus, List.mem_append, or_and_right, exists_or]

open Resolution (findings ReportsSurplus)
open ResultTree (allFindings)

namespace Parts

variable {w : Workspace}

theorem steps_append_of_goesOn {front : List (Node × OperationSettings)}
    (goesOn : ∀ o ∈ front, w.endsPipeline o.2 = false) (rest : List (Node × OperationSettings)) :
    steps (.ofWorkspace w) (front ++ rest) =
      (front.flatMap fun o => operation (.ofWorkspace w) o.1 o.2) ++
        steps (.ofWorkspace w) rest := by
  induction front with
  | nil => rfl
  | cons o front ih =>
    have first : w.endsPipeline o.2 = false := goesOn o (by simp)
    rw [List.cons_append, steps, isTerminal_ofWorkspace, if_neg (by simp [first]),
      ih fun b later => goesOn b (List.mem_cons_of_mem _ later), List.flatMap_cons,
      List.append_assoc]

theorem steps_cons_of_endsPipeline {o : Node × OperationSettings}
    (ends : w.endsPipeline o.2 = true) (rest : List (Node × OperationSettings)) :
    steps (.ofWorkspace w) (o :: rest) =
      operation (.ofWorkspace w) o.1 o.2 ++
        rest.map fun later => .failure later.1 (.afterTerminal o.1) := by
  rw [steps, isTerminal_ofWorkspace, if_pos ends]

/-- Resolving an operation never says that it is one too many. -/
theorem not_reportsSurplus_operation (wiring : Wiring) (o : Node × OperationSettings) (n : Node) :
    ¬ ReportsSurplus (operation wiring o.1 o.2) n := by
  rintro ⟨r, member, -, f, found, isSurplus⟩
  rcases mem_operation_cases member with ⟨p, kind, rfl⟩ | member | ⟨step, rfl⟩
  · obtain rfl := Option.some.inj found
    cases kind.symm.trans isSurplus
  · rcases mem_transform_cases member with ⟨p, kind, rfl⟩ | ⟨_, _, _, _, -, -, rfl⟩ | ⟨_, -, rfl⟩
    · obtain rfl := Option.some.inj found
      cases kind.symm.trans isSurplus
    · cases found
    · cases found
  · cases found

theorem reportsSurplus_of_endsPipeline {o after : Node × OperationSettings}
    (ends : w.endsPipeline o.2 = true) {rest : List (Node × OperationSettings)}
    (member : after ∈ rest) : ReportsSurplus (steps (.ofWorkspace w) (o :: rest)) after.1 := by
  rw [steps_cons_of_endsPipeline ends, Resolution.reportsSurplus_append]
  exact .inr ⟨_, List.mem_map.mpr ⟨after, member, rfl⟩, rfl, _, rfl, rfl⟩

/-- The first operation of a chain is not reported, for only those after it can be. -/
theorem mem_of_reportsSurplus {o : Node × OperationSettings}
    {rest : List (Node × OperationSettings)} {n : Node}
    (reported : ReportsSurplus (steps (.ofWorkspace w) (o :: rest)) n) :
    n ∈ rest.map Prod.fst := by
  induction rest generalizing o with
  | nil =>
    rw [steps, Resolution.reportsSurplus_append] at reported
    obtain ⟨r, member, -⟩ := reported.resolve_left (not_reportsSurplus_operation _ o n)
    simp [steps] at member
  | cons next rest ih =>
    rw [steps, isTerminal_ofWorkspace, Resolution.reportsSurplus_append] at reported
    have later := reported.resolve_left (not_reportsSurplus_operation _ o n)
    split_ifs at later
    · obtain ⟨r, member, rfl, -⟩ := later
      obtain ⟨after, follows, rfl⟩ := List.mem_map.mp member
      exact List.mem_map_of_mem follows
    · exact List.mem_cons_of_mem _ (ih later)

/-- An operation of a chain is reported as one too many just when one before it ends the
pipeline. -/
theorem reportsSurplus_iff {front rest : List (Node × OperationSettings)}
    {o : Node × OperationSettings} (distinct : ((front ++ o :: rest).map (·.1.id)).Nodup) :
    ReportsSurplus (steps (.ofWorkspace w) (front ++ o :: rest)) o.1 ↔
      ∃ b ∈ front, w.endsPipeline b.2 = true := by
  induction front with
  | nil =>
    simp only [List.not_mem_nil, false_and, exists_false, iff_false]
    intro reported
    obtain ⟨later, follows, same⟩ := List.mem_map.mp (mem_of_reportsSurplus reported)
    exact (List.nodup_cons.mp distinct).1 (List.mem_map.mpr ⟨later, follows, by rw [same]⟩)
  | cons b front ih =>
    by_cases ends : w.endsPipeline b.2 = true
    · simp only [List.mem_cons, exists_eq_or_imp, ends, true_or, iff_true]
      exact reportsSurplus_of_endsPipeline ends (by simp)
    · rw [List.cons_append, steps, isTerminal_ofWorkspace, if_neg ends,
        Resolution.reportsSurplus_append, ih (List.nodup_cons.mp distinct).2]
      simp [ends, not_reportsSurplus_operation]

/-- An operation with a step of its own is compiled to the function that was entered, without the
white space at its ends. -/
theorem entered_of_isOrdinary {o : Node × OperationSettings} {functionId : String}
    (ordinary : w.IsOrdinary o functionId) :
    ∃ entered, o.2.functionId? = some entered ∧ functionId = Text.trim entered := by
  unfold Workspace.IsOrdinary at ordinary
  by_cases blank : o.2.functionId?.all Text.isBlank = true
  · rw [operation_of_notConfigured blank] at ordinary
    cases ordinary
  · obtain ⟨entered, configured, notBlank⟩ := exists_functionId blank
    rw [operation_of_configured configured notBlank] at ordinary
    split_ifs at ordinary
    · -- the steps of a transform have resources, and this one has none
      have member : .success o.1 ⟨o.1.id, functionId, o.2.formData⟩ ∈
          transform (.ofWorkspace w) o.1 o.2 := by simp [ordinary]
      rcases mem_transform_cases member with
        ⟨p, -, same⟩ | ⟨_, _, _, _, -, -, same⟩ | ⟨_, -, same⟩
      · cases congrArg Resolution.verdict same
      · cases congrArg Resolution.resources? same
      · cases congrArg Resolution.resources? same
    · cases ordinary
      exact ⟨entered, configured, rfl⟩
    · cases ordinary

theorem findings_pipeline_of_transition {t : Node × TransitionSettings} {m : Behavior.StateMachine}
    (clean : (transition (.ofWorkspace w) m t.1 t.2).findings = []) :
    (pipeline (.ofWorkspace w) t.1 Handle.output).flatMap findings = [] := by
  unfold transition at clean
  split at clean
  · simp at clean
  · rwa [Resolution.findings_withResources] at clean

end Parts

/-- When a policy comes about, none of its pipelines has a finding. -/
theorem Compilation.findings_pipeline_of_valid {w : Workspace} {p source : Node} {handle : String}
    {c : Compilation} (compiled : ofNode (.ofWorkspace w) p = .ok c)
    (valid : c.policy?.isSome = true) (leaves : w.IsPipelineSource p source handle) :
    (Parts.pipeline (.ofWorkspace w) source handle).flatMap Resolution.findings = [] := by
  have clean := (isSome_policy?_iff compiled).mp valid
  have ofData {settings : DataPolicySettings} (isData : p.settings? = some (.dataPolicy settings)) :
      allFindings (dataParts (.ofWorkspace w) p) = [] := by
    obtain rfl : ofDataPolicy (.ofWorkspace w) p settings = c := by
      simpa [ofNode, isData] using compiled
    rwa [ofDataPolicy_eq_withParts, findings_withParts] at clean
  cases leaves with
  | onSuccess isData =>
    have clean := ofData isData
    simp only [allFindings_dataParts, List.append_eq_nil_iff] at clean
    exact clean.1.2
  | onError isData =>
    have clean := ofData isData
    simp only [allFindings_dataParts, List.append_eq_nil_iff] at clean
    exact clean.2
  | @output settings t isBehavior member =>
    obtain rfl : ofBehaviorPolicy (.ofWorkspace w) p settings = c := by
      simpa [ofNode, isBehavior] using compiled
    rw [ofBehaviorPolicy_eq_withParts, findings_withParts, allFindings_behaviorParts,
      Parts.transitions_ofWorkspace, List.append_eq_nil_iff, List.flatMap_eq_nil_iff] at clean
    exact Parts.findings_pipeline_of_transition (clean.2 _ (List.mem_map_of_mem member))

/-- The operations after one that is marked as final are reported just when there are none or the
mark is found, which it is when it is the operation's own or its function was entered as it is
compiled. Where it is found, the operation is the last of its pipeline in every policy that comes
about. -/
theorem Workspace.surplus_iff_of_isFinal (w : Workspace) {source : Node} {handle : String}
    {front rest : List (Node × OperationSettings)} {o : Node × OperationSettings}
    {functionId : String} (isChain : w.IsChain source.id handle (front ++ o :: rest))
    (goesOn : ∀ b ∈ front, w.endsPipeline b.2 = false) (ordinary : w.IsOrdinary o functionId)
    (final : w.IsFinal o.2 functionId) :
    let results := Parts.pipeline (.ofWorkspace w) source handle
    let step : Gateway.Operation := ⟨o.1.id, functionId, o.2.formData⟩
    ((∀ later ∈ rest, ReportsSurplus results later.1) ↔ rest = [] ∨ w.endsPipeline o.2 = true) ∧
      (∃ entered, o.2.functionId? = some entered ∧ functionId = Text.trim entered ∧
        (o.2.isTerminal? = some true ∨ entered = functionId → w.endsPipeline o.2 = true)) ∧
      (w.endsPipeline o.2 = true →
        results = (front.flatMap fun b => Parts.operation (.ofWorkspace w) b.1 b.2) ++
          .success o.1 step :: rest.map fun later => .failure later.1 (.afterTerminal o.1)) ∧
      (w.endsPipeline o.2 = true → ∀ p c, w.IsPipelineSource p source handle →
        Compilation.ofNode (.ofWorkspace w) p = .ok c → c.policy?.isSome = true →
          rest = [] ∧ ∃ before, Resolution.values results = before ++ [step]) := by
  intro results step
  have made : Parts.chain (.ofWorkspace w) source handle = front ++ o :: rest :=
    (existsUnique_isChain w source handle).unique (isChain_chain w source handle) isChain
  have stepsOf : results = Parts.steps (.ofWorkspace w) (front ++ o :: rest) := by
    rw [← made]
    exact Parts.pipeline_eq_steps ..
  have resultsOf (ends : w.endsPipeline o.2 = true) :
      results = (front.flatMap fun b => Parts.operation (.ofWorkspace w) b.1 b.2) ++
        .success o.1 step :: rest.map fun later => .failure later.1 (.afterTerminal o.1) := by
    rw [stepsOf, Parts.steps_append_of_goesOn goesOn, Parts.steps_cons_of_endsPipeline ends,
      ordinary, List.singleton_append]
  refine ⟨⟨?_, ?_⟩, ?_, resultsOf, ?_⟩
  · intro reported
    cases rest with
    | nil => exact .inl rfl
    | cons next rest =>
      have distinct := isChain.distinct
      rw [List.append_cons] at distinct stepsOf
      have first := reported next (by simp)
      rw [stepsOf, Parts.reportsSurplus_iff distinct] at first
      obtain ⟨b, before, ends⟩ := first
      rcases List.mem_append.mp before with before | same
      · simp [goesOn b before] at ends
      · obtain rfl := List.mem_singleton.mp same
        exact .inr ends
  · rintro (rfl | ends) later member
    · cases member
    · rw [resultsOf ends, Resolution.reportsSurplus_append]
      refine .inr ⟨_, List.mem_cons_of_mem _ (List.mem_map_of_mem member), rfl, _, rfl, rfl⟩
  · obtain ⟨entered, configured, same⟩ := Parts.entered_of_isOrdinary ordinary
    refine ⟨entered, configured, same, fun found => endsPipeline_of_isFinal final ?_⟩
    exact found.imp_right fun asEntered => by rw [configured, asEntered]
  · intro ends p c leaves compiled valid
    have clean := Compilation.findings_pipeline_of_valid compiled valid leaves
    rw [Parts.pipeline_eq_steps] at clean
    obtain ⟨-, -, -, onlyLast⟩ := Parts.expands_steps clean
    obtain rfl : rest = [] := by
      by_contra something
      have before : o ∈ (Parts.chain (.ofWorkspace w) source handle).dropLast := by
        rw [made, List.dropLast_append_of_ne_nil (by simp), List.dropLast_cons_of_ne_nil something]
        simp
      simp [onlyLast o before] at ends
    let earlier := front.flatMap fun b => Parts.operation (.ofWorkspace w) b.1 b.2
    refine ⟨rfl, Resolution.values earlier, ?_⟩
    rw [resultsOf ends, Resolution.values_append]
    rfl

/-- An operation with the function that was entered for it. -/
def Node.running (id entered : String) : Node × OperationSettings :=
  (.known id none (.operation ⟨some entered, ∅, none⟩), ⟨some entered, ∅, none⟩)

namespace Workspace

/-- A data policy with two operations. The catalog has the function that was entered for the first
one, unless white space makes it another, and says that nothing may follow it. -/
def dropping (entered : String) : Workspace where
  nodes :=
    [.known "policy" none (.dataPolicy ⟨none⟩),
      .known "topic" none (.topicFilter ["plant/+"]),
      .known "check" none (.validator ⟨.schema, .allOf⟩),
      .known "shape" none (.schema ⟨"shape", "1", .json, none, none⟩),
      (Node.running "drop" entered).1,
      (Node.running "log" "System.log").1]
  edges :=
    [⟨"e1", "topic", "policy", none, none⟩,
      ⟨"e2", "check", "policy", none, none⟩,
      ⟨"e3", "shape", "check", none, none⟩,
      ⟨"e4", "policy", "drop", some "onSuccess", none⟩,
      ⟨"e5", "drop", "log", some "output", none⟩]
  functions :=
    [⟨"Mqtt.drop", ⟨true, false, false⟩, ⟨.null, trivial⟩⟩,
      ⟨"System.log", ⟨false, false, true⟩, ⟨.null, trivial⟩⟩]

theorem isChain_dropping (entered : String) :
    (dropping entered).IsChain "policy" Handle.onSuccess
      ([] ++ Node.running "drop" entered :: [Node.running "log" "System.log"]) where
  follows i inside := by
    match i, inside with
    | 0, _ => rfl
    | 1, _ => rfl
  distinct := by simp [Node.running, Node.id]
  stops o next := by cases next

theorem isOrdinary_dropping {entered : String} (compiledTo : Text.trim entered = "Mqtt.drop") :
    (dropping entered).IsOrdinary (Node.running "drop" entered) "Mqtt.drop" := by
  have configured : (Node.running "drop" entered).2.functionId? = some entered := rfl
  have notBlank : Text.isBlank entered = false := by
    rw [← Bool.not_eq_true, ← Text.trim_eq_empty_iff, compiledTo]
    decide
  rw [IsOrdinary, Parts.operation_of_configured configured notBlank, compiledTo,
    if_neg (by decide), if_pos (.inr ⟨_, List.mem_cons_self, rfl⟩)]

theorem isFinal_dropping (entered : String) :
    (dropping entered).IsFinal (Node.running "drop" entered).2 "Mqtt.drop" :=
  .inr ⟨rfl, _, rfl, rfl⟩

theorem surplus_dropping :
    let w := dropping "Mqtt.drop"
    let policy : Node := .known "policy" none (.dataPolicy ⟨none⟩)
    let drop := Node.running "drop" "Mqtt.drop"
    let log := Node.running "log" "System.log"
    w.IsChain policy.id Handle.onSuccess ([] ++ drop :: [log]) ∧ w.IsOrdinary drop "Mqtt.drop" ∧
      w.IsFinal drop.2 "Mqtt.drop" ∧
        ReportsSurplus (Parts.pipeline (.ofWorkspace w) policy Handle.onSuccess) log.1 := by
  intro w policy drop log
  have isChain : w.IsChain policy.id Handle.onSuccess ([] ++ drop :: [log]) :=
    isChain_dropping "Mqtt.drop"
  have ordinary : w.IsOrdinary drop "Mqtt.drop" := isOrdinary_dropping (by decide +kernel)
  have final := isFinal_dropping "Mqtt.drop"
  obtain ⟨reported_iff, -⟩ := surplus_iff_of_isFinal w isChain (by simp) ordinary final
  exact ⟨isChain, ordinary, final, reported_iff.mpr (.inr (by decide)) log (.head _)⟩

/-- With white space at its ends the function is compiled to the same one, but the operation that
follows is not reported, and the policy comes about with it. -/
theorem not_surplus_dropping :
    let w := dropping " Mqtt.drop "
    let policy : Node := .known "policy" none (.dataPolicy ⟨none⟩)
    let drop := Node.running "drop" " Mqtt.drop "
    let log := Node.running "log" "System.log"
    w.IsChain policy.id Handle.onSuccess ([] ++ drop :: [log]) ∧ w.IsOrdinary drop "Mqtt.drop" ∧
      w.IsFinal drop.2 "Mqtt.drop" ∧
        ¬ ReportsSurplus (Parts.pipeline (.ofWorkspace w) policy Handle.onSuccess) log.1 ∧
          ∃ c, w.compile policy.id = .ok c ∧ c.policy?.isSome = true := by
  intro w policy drop log
  have isChain := isChain_dropping " Mqtt.drop "
  have ordinary : w.IsOrdinary drop "Mqtt.drop" := isOrdinary_dropping (by decide +kernel)
  have made : Parts.chain (.ofWorkspace w) policy Handle.onSuccess = [drop] ++ [log] :=
    (existsUnique_isChain w policy _).unique (isChain_chain w policy _) isChain
  have goesOn : w.endsPipeline drop.2 = false := by decide
  have compiled : (dropping " Mqtt.drop ").compile "policy" = .ok _ := rfl
  refine ⟨isChain, ordinary, isFinal_dropping _, ?_, _, compiled, by decide +kernel⟩
  have distinct : (([drop] ++ log :: []).map (·.1.id)).Nodup := isChain.distinct
  rw [Parts.pipeline_eq_steps, made, Parts.reportsSurplus_iff distinct]
  simp [goesOn]

end Workspace

end PolicyCanvas
