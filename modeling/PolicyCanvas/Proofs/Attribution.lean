import PolicyCanvas.DryRun.Report
import PolicyCanvas.Proofs.CallWindow
import PolicyCanvas.Proofs.Component
import PolicyCanvas.Proofs.Diagnosis
import PolicyCanvas.Proofs.Requests

/-!
# Whose result a result is

Every result of a compilation, however deep it lies, is one of a node in the sub-flow of the policy.
It has a payload that suits its node or a finding that names its node, and never both; only the
result of the policy itself may have neither (`attributed_of_compile`). So the node type of every
submission fits what is submitted.
-/

namespace PolicyCanvas

open Node (IsPartView)
open ResultTree (allPreorder)

/-- The kind of node that payloads of a kind come from. -/
def PayloadKind.nodeKind : PayloadKind → NodeKind
  | topicFilter => .topicFilter
  | clientFilter => .clientFilter
  | schema => .schema
  | script => .function
  | validator => .validator
  | operation => .operation
  | transition => .transition
  | dataPolicy => .dataPolicy
  | model | behaviorPolicy => .behaviorPolicy

namespace ResultTree

/-- The result is one of the nodes: a finding names its node, and a payload suits its node. -/
structure IsAttributed (nodes : List Node) (r : ResultTree) : Prop where
  node_mem : r.node ∈ nodes
  named : ∀ f, r.finding? = some f → f.id = r.node.id ∧ f.title = r.node.tag
  suited : ∀ p, r.payload? = some p → r.node.tag = p.kind.nodeKind.tag

/-- All results of the forest are attributed, and each has a payload or a finding, but not both. -/
def AllAttributed (nodes : List Node) (results : List ResultTree) : Prop :=
  ∀ r ∈ allPreorder results, r.IsAttributed nodes ∧ r.payload?.isSome = !r.finding?.isSome

namespace AllAttributed

variable {nodes : List Node}

theorem nil : AllAttributed nodes [] := by simp [AllAttributed, allPreorder]

theorem append {front rest : List ResultTree} (first : AllAttributed nodes front)
    (later : AllAttributed nodes rest) : AllAttributed nodes (front ++ rest) := by
  intro r member
  rw [ResultTree.allPreorder_append] at member
  exact (List.mem_append.mp member).elim (first r) (later r)

variable {α β : Type} (wrap : α → Payload)

theorem map {resolutions : List (Resolution α)}
    (each : ∀ r ∈ resolutions, AllAttributed nodes [r.toTree wrap]) :
    AllAttributed nodes (resolutions.map (·.toTree wrap)) := by
  induction resolutions with
  | nil => exact nil
  | cons r rest ih =>
    rw [List.map_cons, ← List.singleton_append]
    exact (each r (by simp)).append (ih fun r later => each r (List.mem_cons_of_mem _ later))

/-- A resolution always has a payload or a finding, so it is enough to look at its own node and at
its resources. -/
theorem ofResolution {r : Resolution α} (own : (r.toTree wrap).IsAttributed nodes)
    (below : AllAttributed nodes (r.resources?.getD [])) :
    AllAttributed nodes [r.toTree wrap] := by
  intro s member
  rw [allPreorder, allPreorder, List.append_nil, ResultTree.preorder_eq_cons,
    List.mem_cons] at member
  rcases member with rfl | deeper
  · exact ⟨own, Option.isSome_map.trans r.isSome_value?_eq⟩
  · exact below s deeper

theorem failure {n : Node} (member : n ∈ nodes) (p : Problem) :
    AllAttributed nodes [(Resolution.failure n p).toTree wrap] := by
  refine ofResolution wrap ⟨member, fun f found => ?_, nofun⟩ nil
  obtain rfl := Option.some.inj found
  exact ⟨rfl, rfl⟩

theorem withResources {n : Node} {a : α} {resources : List ResultTree} (member : n ∈ nodes)
    (suited : n.tag = (wrap a).kind.nodeKind.tag) (below : AllAttributed nodes resources) :
    AllAttributed nodes [((Resolution.success n a).withResources resources).toTree wrap] := by
  refine ofResolution wrap ⟨member, nofun, fun p carried => ?_⟩ below
  obtain rfl := Option.some.inj carried
  exact suited

theorem success {n : Node} {a : α} (member : n ∈ nodes)
    (suited : n.tag = (wrap a).kind.nodeKind.tag) :
    AllAttributed nodes [(Resolution.success n a).toTree wrap] := by
  refine ofResolution wrap ⟨member, nofun, fun p carried => ?_⟩ nil
  obtain rfl := Option.some.inj carried
  exact suited

end AllAttributed

end ResultTree

open ResultTree (AllAttributed)

theorem Node.tag_eq_of_kind? {n : Node} {kind : NodeKind} (isKind : n.kind? = some kind) :
    n.tag = kind.tag := by
  cases n with
  | known id position? settings =>
    obtain rfl := Option.some.inj isKind
    rfl
  | foreign n => cases isKind

namespace Workspace

variable {w : Workspace} {start : String}

/-- The nodes that belong to a node. -/
def flowNodes (w : Workspace) (start : String) : List Node :=
  ((Wiring.ofWorkspace w).subFlow start).nodes

theorem mem_nodes_of_lastNode? {id : String} {n : Node} (last : w.lastNode? id = some n) :
    n ∈ w.nodes :=
  List.mem_reverse.mp (List.mem_of_find?_eq_some last)

/-- The node that is found under an id of the sub-flow belongs to it. -/
theorem mem_flowNodes_of_last {id : String} {n : Node} (last : w.lastNode? id = some n)
    (inside : n.id ∈ (Wiring.ofWorkspace w).component start) : n ∈ w.flowNodes start :=
  Wiring.mem_nodes_subFlow_iff.mpr ⟨mem_nodes_of_lastNode? last, inside⟩

theorem mem_flowNodes_self {n : Node} (present : n ∈ w.nodes) : n ∈ w.flowNodes n.id := by
  refine Wiring.mem_nodes_subFlow_iff.mpr ⟨present, Wiring.mem_component_self ?_⟩
  simpa [hasNode] using ⟨n, present, rfl⟩

section

variable {n : Node} {handle? : Option String} {kind : NodeKind} {α : Type} {view : Node → Option α}

theorem flowNodes_of_predecessorsOf (member : n ∈ w.flowNodes start) (isPart : IsPartView kind view)
    {p : Node × α} (found : p ∈ w.predecessorsOf n.id handle? view) :
    p.1 ∈ w.flowNodes start ∧ p.1.tag = kind.tag := by
  have inside := (Wiring.mem_nodes_subFlow_iff.mp member).2
  obtain ⟨neighbour, shown⟩ := Node.mem_seenBy.mp found
  have inner := (w.isClosed_component start).before n.id inside isPart p found
  exact ⟨mem_flowNodes_of_last (lastNode?_of_mem_predecessors neighbour) inner,
    Node.tag_eq_of_kind? (isPart.kind?_eq shown)⟩

theorem flowNodes_of_successorsOf (member : n ∈ w.flowNodes start) (isPart : IsPartView kind view)
    {s : Node × α} (found : s ∈ w.successorsOf n.id handle? view) :
    s.1 ∈ w.flowNodes start ∧ s.1.tag = kind.tag := by
  have inside := (Wiring.mem_nodes_subFlow_iff.mp member).2
  obtain ⟨neighbour, shown⟩ := Node.mem_seenBy.mp found
  have inner := (w.isClosed_component start).after n.id inside isPart s found
  exact ⟨mem_flowNodes_of_last (lastNode?_of_mem_successors neighbour) inner,
    Node.tag_eq_of_kind? (isPart.kind?_eq shown)⟩

end

theorem flowNodes_of_mem_chain {source : Node} (member : source ∈ w.flowNodes start)
    {handle : String} {o : Node × OperationSettings}
    (follows : o ∈ Parts.chain (.ofWorkspace w) source handle) :
    o.1 ∈ w.flowNodes start ∧ o.1.tag = NodeKind.operation.tag := by
  have inside := (Wiring.mem_nodes_subFlow_iff.mp member).2
  have drawn := (isChain_chain w source handle).isDrawn follows
  have inner := (w.isClosed_component start).inside_of_mem_chain inside follows
  exact ⟨mem_flowNodes_of_last drawn.1 inner,
    Node.tag_eq_of_kind? (IsPartView.operation.kind?_eq drawn.2)⟩

end Workspace

/-! ### Results of the parts -/

namespace Parts

variable {w : Workspace} {start : String}

theorem attributed_singleFilter {policy : Node} (member : policy ∈ w.flowNodes start)
    {kind : NodeKind} {entries? : Node → Option (List String)} (isPart : IsPartView kind entries?)
    (expected : NodeKind) {wrap : String → Payload}
    (suited : ∀ entry, (wrap entry).kind.nodeKind = kind) :
    AllAttributed (w.flowNodes start)
      [(singleFilter (.ofWorkspace w) policy expected entries?).toTree wrap] := by
  have filters (p : Node × List String) (found : p ∈ w.predecessorsOf policy.id none entries?) :=
    Workspace.flowNodes_of_predecessorsOf member isPart found
  rw [singleFilter, Wiring.filterMap_incomers]
  split
  · exact .failure wrap member _
  next filter only => exact .failure wrap (filters (filter, []) (by simp [only])).1 _
  next filter first entries only =>
    obtain ⟨own, tag⟩ := filters (filter, first :: entries) (by simp [only])
    split_ifs
    · exact .failure wrap own _
    · exact .success wrap own (by rw [tag, suited])
  next one second entries more found =>
    exact .failure wrap (filters (second, entries) (by simp [found])).1 _

theorem attributed_schema {s : Node × SchemaSettings} (member : s.1 ∈ w.flowNodes start)
    (tag : s.1.tag = NodeKind.schema.tag) :
    AllAttributed (w.flowNodes start) [(schema s.1 s.2).toTree .schema] := by
  unfold schema
  split_ifs
  · exact .failure _ member _
  · exact .failure _ member _
  · exact .success _ member tag

theorem attributed_script {s : Node × FunctionSettings} (member : s.1 ∈ w.flowNodes start)
    (tag : s.1.tag = NodeKind.function.tag) :
    AllAttributed (w.flowNodes start) [(script s.1 s.2).toTree .script] := by
  unfold script
  split_ifs
  · exact .failure _ member _
  · exact .success _ member tag

theorem attributed_validator {n : Node} (member : n ∈ w.flowNodes start)
    (tag : n.tag = NodeKind.validator.tag) :
    AllAttributed (w.flowNodes start) [(validator (.ofWorkspace w) n).toTree .validator] := by
  unfold validator
  split
  · exact .failure _ member _
  rw [Wiring.filterMap_incomers]
  split
  · exact .failure _ member _
  · refine .withResources _ member tag (.map _ fun r among => ?_)
    obtain ⟨s, found, rfl⟩ := List.mem_map.mp among
    obtain ⟨own, tag⟩ := Workspace.flowNodes_of_predecessorsOf member .schema found
    exact attributed_schema own tag

theorem attributed_validators {policy : Node} (member : policy ∈ w.flowNodes start) :
    AllAttributed (w.flowNodes start)
      ((validators (.ofWorkspace w) policy).map (·.toTree .validator)) := by
  by_cases none_found : w.predecessorsOf policy.id none Node.validator? = []
  · rw [validators_of_nil none_found]
    exact .failure _ member _
  · rw [validators_of_ne_nil none_found]
    refine .map _ fun r among => ?_
    obtain ⟨v, found, rfl⟩ := List.mem_map.mp among
    obtain ⟨own, tag⟩ := Workspace.flowNodes_of_predecessorsOf member .validator found
    exact attributed_validator own tag

theorem attributed_transform {o : Node × OperationSettings} (member : o.1 ∈ w.flowNodes start)
    (tag : o.1.tag = NodeKind.operation.tag) {r : Resolution Gateway.Operation}
    (among : r ∈ transform (.ofWorkspace w) o.1 o.2) :
    AllAttributed (w.flowNodes start) [r.toTree .operation] := by
  have schemaStep {handle : String} {s : Node × SchemaSettings} (functionId role : String)
      (found : schemaOn? (.ofWorkspace w) o.1 handle = some s) :
      AllAttributed (w.flowNodes start) [(schemaStep o.1 functionId role s).toTree .operation] := by
    rw [schemaOn?_ofWorkspace] at found
    obtain ⟨own, schemaTag⟩ :=
      Workspace.flowNodes_of_predecessorsOf member .schema (List.mem_of_head? found)
    exact .withResources _ member tag (attributed_schema own schemaTag)
  have scriptStep {s : Node × FunctionSettings} (found : s ∈ scriptsOn (.ofWorkspace w) o.1) :
      AllAttributed (w.flowNodes start) [(scriptStep o.1 o.2 s).toTree .operation] := by
    rw [scriptsOn_ofWorkspace] at found
    obtain ⟨own, scriptTag⟩ := Workspace.flowNodes_of_predecessorsOf member .function found
    exact .withResources _ member tag (attributed_script own scriptTag)
  rcases mem_transform_cases among with
    ⟨p, -, rfl⟩ | ⟨functionId, role, handle, source, -, found, rfl⟩ | ⟨source, found, rfl⟩
  · exact .failure _ member p
  · exact schemaStep functionId role found
  · exact scriptStep found

theorem attributed_operation {o : Node × OperationSettings} (member : o.1 ∈ w.flowNodes start)
    (tag : o.1.tag = NodeKind.operation.tag) {r : Resolution Gateway.Operation}
    (among : r ∈ operation (.ofWorkspace w) o.1 o.2) :
    AllAttributed (w.flowNodes start) [r.toTree .operation] := by
  rcases mem_operation_cases among with ⟨p, -, rfl⟩ | among | ⟨step, rfl⟩
  · exact .failure _ member p
  · exact attributed_transform member tag among
  · exact .success _ member tag

theorem attributed_steps {chain : List (Node × OperationSettings)}
    (own : ∀ o ∈ chain, o.1 ∈ w.flowNodes start ∧ o.1.tag = NodeKind.operation.tag)
    {r : Resolution Gateway.Operation} (among : r ∈ steps (.ofWorkspace w) chain) :
    AllAttributed (w.flowNodes start) [r.toTree .operation] := by
  induction chain with
  | nil => simp [steps] at among
  | cons o rest ih =>
    have ownRest := fun o later => own o (List.mem_cons_of_mem _ later)
    rw [steps] at among
    rcases List.mem_append.mp among with first | later
    · obtain ⟨member, tag⟩ := own o (by simp)
      exact attributed_operation member tag first
    split_ifs at later
    · obtain ⟨after, follows, rfl⟩ := List.mem_map.mp later
      exact .failure _ (ownRest after follows).1 _
    · exact ih ownRest later

theorem attributed_pipeline {source : Node} (member : source ∈ w.flowNodes start)
    (handle : String) :
    AllAttributed (w.flowNodes start)
      ((pipeline (.ofWorkspace w) source handle).map (·.toTree .operation)) :=
  .map _ fun r among => by
    rw [pipeline_eq_steps] at among
    exact attributed_steps (fun _ follows => Workspace.flowNodes_of_mem_chain member follows) among

theorem attributed_transitions {policy : Node} (member : policy ∈ w.flowNodes start)
    (settings : BehaviorPolicySettings) :
    AllAttributed (w.flowNodes start)
      ((transitions (.ofWorkspace w) policy settings).map (·.toTree .transition)) := by
  rw [transitions_ofWorkspace]
  refine .map _ fun r among => ?_
  obtain ⟨t, found, rfl⟩ := List.mem_map.mp among
  obtain ⟨own, tag⟩ := Workspace.flowNodes_of_successorsOf member .transition found
  unfold transition
  split
  · exact .failure _ own _
  · exact .withResources _ own tag (attributed_pipeline own Handle.output)

theorem attributed_model {policy : Node} (member : policy ∈ w.flowNodes start)
    (tag : policy.tag = NodeKind.behaviorPolicy.tag) (settings : BehaviorPolicySettings) :
    AllAttributed (w.flowNodes start) [(model policy settings).toTree .model] := by
  dsimp only [model]
  split
  · exact .failure _ member _
  · exact .success _ member tag

end Parts

namespace Compilation

variable {w : Workspace} {start : String} {n : Node}

theorem attributed_dataParts (member : n ∈ w.flowNodes start) :
    AllAttributed (w.flowNodes start) (dataParts (.ofWorkspace w) n) := by
  rw [dataParts, ← List.singleton_append]
  refine .append (Parts.attributed_singleFilter member .topics _ fun _ => rfl) ?_
  exact ((Parts.attributed_validators member).append (Parts.attributed_pipeline member _)).append
    (Parts.attributed_pipeline member _)

theorem attributed_behaviorParts (member : n ∈ w.flowNodes start)
    (tag : n.tag = NodeKind.behaviorPolicy.tag) (settings : BehaviorPolicySettings) :
    AllAttributed (w.flowNodes start) (behaviorParts (.ofWorkspace w) n settings) := by
  have filter : AllAttributed (w.flowNodes start)
      [(Parts.clientFilter (.ofWorkspace w) n).toTree .clientFilter] :=
    Parts.attributed_singleFilter member .clients .clientFilter fun _ => rfl
  exact filter.append
    ((Parts.attributed_model member tag settings).append
      (Parts.attributed_transitions member settings))

/-- The results of a compilation are those of the parts, which are attributed and decided, and then
that of the policy. -/
theorem exists_attributed (member : n ∈ w.flowNodes start) {c : Compilation}
    (compiled : ofNode (.ofWorkspace w) n = .ok c) :
    ∃ parts last, c.results = parts ++ [last] ∧ AllAttributed (w.flowNodes start) parts ∧
      last.IsAttributed (w.flowNodes start) ∧ last.finding? = none ∧ last.resources? = none := by
  have ofPolicy {payload? : Option Payload}
      (suited : ∀ p ∈ payload?, n.tag = p.kind.nodeKind.tag) :
      (policyResult n payload?).IsAttributed (w.flowNodes start) :=
    ⟨member, nofun, suited⟩
  unfold ofNode at compiled
  split at compiled
  next settings isData =>
    obtain rfl := Except.ok.inj compiled
    rw [ofDataPolicy_eq_withParts]
    refine ⟨_, _, rfl, attributed_dataParts member, ofPolicy fun p carried => ?_, rfl, rfl⟩
    rw [Option.map_map, Option.mem_def, Option.map_eq_some_iff] at carried
    obtain ⟨d, -, rfl⟩ := carried
    exact Node.tag_eq_of_kind? (by rw [Node.kind?, isData]; rfl)
  next settings isBehavior =>
    have tag : n.tag = NodeKind.behaviorPolicy.tag :=
      Node.tag_eq_of_kind? (by rw [Node.kind?, isBehavior]; rfl)
    obtain rfl := Except.ok.inj compiled
    rw [ofBehaviorPolicy_eq_withParts]
    refine ⟨_, _, rfl, attributed_behaviorParts member tag settings,
      ofPolicy fun p carried => ?_, rfl, rfl⟩
    rw [Option.map_map, Option.mem_def, Option.map_eq_some_iff] at carried
    obtain ⟨b, -, rfl⟩ := carried
    exact tag
  · cases compiled

end Compilation

/-! ### Submissions -/

namespace DryRun

/-- The submission is that of one of the nodes, with a payload that suits the node. -/
def Submission.IsFrom (nodes : List Node) (s : Submission) : Prop :=
  ∃ n ∈ nodes, s.nodeId = n.id ∧ s.nodeType = n.tag ∧ s.nodeType = s.payload.kind.nodeKind.tag

theorem Submission.isFrom_of_mem_ofResults {nodes : List Node} {results : List ResultTree}
    (attributed : ∀ r ∈ allPreorder results, r.IsAttributed nodes) {s : Submission}
    (member : s ∈ ofResults results) : s.IsFrom nodes := by
  rw [ofResults_eq_preorder] at member
  obtain ⟨r, among, submitted⟩ := List.mem_filterMap.mp member
  obtain ⟨own, -, suited⟩ := attributed r among
  unfold ofResult? at submitted
  split at submitted
  next payload carried =>
    split_ifs at submitted
    obtain rfl := Option.some.inj submitted
    exact ⟨r.node, own, rfl, rfl, suited payload carried⟩
  · cases submitted

/-- Whatever is called in the course of a run is a submission of a compilation of the node. -/
theorem Run.mem_ofResults_of_reaches {w : Workspace} {n : Node} {settings : Settings} {run : Run}
    (started : Run.start w n settings = .ok run) {verdict : Submission → Verdict}
    {order : List Submission} {now : Window} (reached : run.window.Reaches verdict order now)
    {s : Submission} (called : s ∈ now.started) :
    ∃ c, Compilation.ofNode (.ofWorkspace w) n = .ok c ∧ s ∈ Submission.ofResults c.results := by
  unfold Run.start at started
  cases compiled : Compilation.ofNode (.ofWorkspace w) n with
  | error e => simp [compiled, Except.map] at started
  | ok c =>
    rw [compiled] at started
    obtain rfl := Except.ok.inj started
    refine ⟨c, rfl, ?_⟩
    rw [← (Window.keeps_of_reaches reached).total]
    exact List.mem_append_left _ called

end DryRun

namespace Compilation

variable {w : Workspace} {n : Node} {c : Compilation}

theorem isAttributed_of_mem_preorder (present : n ∈ w.nodes)
    (compiled : ofNode (.ofWorkspace w) n = .ok c) {r : ResultTree}
    (member : r ∈ allPreorder c.results) : r.IsAttributed (w.flowNodes n.id) := by
  obtain ⟨parts, last, results, attributed, own, -, leaf⟩ :=
    exists_attributed (Workspace.mem_flowNodes_self present) compiled
  rw [results, ResultTree.allPreorder_append, List.mem_append] at member
  rcases member with below | top
  · exact (attributed r below).1
  · rw [allPreorder, allPreorder, List.append_nil, ResultTree.preorder_eq_cons, leaf] at top
    obtain rfl : r = last := by simpa [allPreorder] using top
    exact own

theorem isFrom_of_mem_ofResults (present : n ∈ w.nodes)
    (compiled : ofNode (.ofWorkspace w) n = .ok c) {s : DryRun.Submission}
    (member : s ∈ DryRun.Submission.ofResults c.results) : s.IsFrom (w.flowNodes n.id) :=
  DryRun.Submission.isFrom_of_mem_ofResults
    (fun _ among => isAttributed_of_mem_preorder present compiled among) member

end Compilation

/-- Every result of a compilation is attributed to a node in the sub-flow, and each but the last at
the top has a payload or a finding, but not both. What a dry run of the id calls is submitted for a
node in the sub-flow that it suits. -/
theorem Workspace.attributed_of_compile (w : Workspace) (id : String) :
    (∀ c, w.compile id = .ok c →
      (∃ parts last, c.results = parts ++ [last] ∧ AllAttributed (w.flowNodes id) parts ∧
        last.IsAttributed (w.flowNodes id) ∧ last.finding? = none ∧ last.resources? = none) ∧
      ∀ s ∈ DryRun.Submission.ofResults c.results, s.IsFrom (w.flowNodes id)) ∧
    ∀ settings run, DryRun.Run.startAt w id settings = .ok run →
      ∀ verdict order now, run.window.Reaches verdict order now →
        ∀ s ∈ now.started, s.IsFrom (w.flowNodes id) := by
  constructor
  · intro c compiled
    cases found : (Wiring.ofWorkspace w).node? id with
    | none => simp [Workspace.compile, found] at compiled
    | some n =>
      rw [compile_eq_ofNode found] at compiled
      rw [Wiring.node?_ofWorkspace] at found
      have present := mem_nodes_of_lastNode? found
      obtain rfl := id_of_lastNode? found
      exact ⟨Compilation.exists_attributed (mem_flowNodes_self present) compiled,
        fun s => Compilation.isFrom_of_mem_ofResults present compiled⟩
  · -- A dry run takes the first node with the id, which need not be the one that is compiled.
    intro settings run started verdict order now reached s called
    unfold DryRun.Run.startAt at started
    split at started
    · cases started
    next n found =>
      have present := List.mem_of_find?_eq_some found
      obtain rfl : n.id = id := by simpa using List.find?_some found
      obtain ⟨c, compiled, member⟩ := DryRun.Run.mem_ofResults_of_reaches started reached called
      exact Compilation.isFrom_of_mem_ofResults present compiled member

/-- The schema without a version has a finding under its validator, which has a payload all the
same. The policy that does not come about has neither. The results of a behavior policy with the
pipelines of its transitions have payloads throughout. -/
theorem Workspace.attributed_compile_crowded :
    let nodes := crowded.flowNodes "policy"
    let guardedNodes := guarded.flowNodes "policy"
    (∃ c parts last, crowded.compile "policy" = .ok c ∧ c.results = parts ++ [last] ∧
      AllAttributed nodes parts ∧ last.IsAttributed nodes ∧
        (allPreorder c.results).map (fun r =>
            (r.node.id, r.payload?.map (·.kind.nodeKind), r.finding?.map (·.title))) =
          [("second", none, some "TOPIC_FILTER"), ("check", some .validator, none),
            ("shape", none, some "SCHEMA"), ("log", some .operation, none),
            ("again", none, some "OPERATION"), ("policy", none, none)] ∧
        ∀ s ∈ DryRun.Submission.ofResults c.results, s.IsFrom nodes) ∧
    ∃ c parts last, guarded.compile "policy" = .ok c ∧ c.results = parts ++ [last] ∧
      AllAttributed guardedNodes parts ∧ last.IsAttributed guardedNodes ∧
        (allPreorder c.results).map (fun r => (r.node.id, r.payload?.map (·.kind.nodeKind))) =
          [("clients", some .clientFilter), ("policy", some .behaviorPolicy),
            ("publish", some .transition), ("convert", some .operation), ("shape", some .schema),
            ("convert", some .operation), ("round", some .function),
            ("convert", some .operation), ("shape", some .schema), ("log", some .operation),
            ("connect", some .transition), ("policy", some .behaviorPolicy)] ∧
        ∀ s ∈ DryRun.Submission.ofResults c.results, s.IsFrom guardedNodes := by
  intro nodes guardedNodes
  constructor
  · obtain ⟨attributed, -⟩ := crowded.attributed_of_compile "policy"
    have compiled : crowded.compile "policy" = .ok _ := rfl
    obtain ⟨⟨parts, last, results, decided, own, -⟩, isFrom⟩ := attributed _ compiled
    exact ⟨_, parts, last, compiled, results, decided, own, by decide +kernel, isFrom⟩
  · obtain ⟨attributed, -⟩ := guarded.attributed_of_compile "policy"
    have compiled : guarded.compile "policy" = .ok _ := rfl
    obtain ⟨⟨parts, last, results, decided, own, -⟩, isFrom⟩ := attributed _ compiled
    exact ⟨_, parts, last, compiled, results, decided, own, by decide +kernel, isFrom⟩

end PolicyCanvas
