import PolicyCanvas.Compilation
import PolicyCanvas.Proofs.Blame
import PolicyCanvas.Proofs.Component

/-!
# What a compilation depends on

Compiling asks a drawing for the neighbours of the policy and of its parts, as far as these are
parts themselves, and for functions of the catalog. Two workspaces that answer alike wherever the
answers lead (`Workspace.Alike`) come to the same compilation (`compile_eq_of_alike`), whatever else
they hold.
-/

namespace PolicyCanvas

open Node (IsPartView)

namespace Workspace

/-- Whatever compiling asks about the nodes with an id `inside` has the same answer in both
workspaces, and no answer leads out of them. -/
structure Alike (w w' : Workspace) (inside : String → Prop) : Prop where
  closed : w.IsClosed inside
  functions_eq_nil_iff : w'.functions = [] ↔ w.functions = []
  function?_eq : w'.function? = w.function?
  before : ∀ id, inside id → ∀ {kind : NodeKind} {α : Type} {view : Node → Option α},
    IsPartView kind view → w'.predecessorsOf id none view = w.predecessorsOf id none view
  after : ∀ id, inside id → ∀ {kind : NodeKind} {α : Type} {view : Node → Option α},
    IsPartView kind view → w'.successorsOf id none view = w.successorsOf id none view
  /-- The inputs of an operation are told apart by their handles. -/
  inputs : ∀ o, w.IsDrawn o → inside o.1.id → ∀ (handle : String) {kind : NodeKind} {α : Type}
    {view : Node → Option α}, IsPartView kind view →
      w'.predecessorsOf o.1.id (some handle) view = w.predecessorsOf o.1.id (some handle) view
  next : ∀ id, inside id → ∀ handle, w'.firstOperation? id handle = w.firstOperation? id handle

end Workspace

section

variable {w w' : Workspace} {inside : String → Prop} (alike : w.Alike w' inside)
include alike

namespace Workspace

theorem Alike.walk_eq {source handle : String} (member : inside source) (i : Nat) :
    w'.walk source handle i = w.walk source handle i := by
  induction i with
  | zero => exact alike.next source member handle
  | succ i ih =>
    rw [walk, walk, ih]
    cases reached : w.walk source handle i with
    | none => rfl
    | some o => exact alike.next o.1.id (alike.closed.inside_of_walk member reached) _

theorem Alike.chain_eq {source : Node} (member : inside source.id) (handle : String) :
    Parts.chain (.ofWorkspace w') source handle = Parts.chain (.ofWorkspace w) source handle := by
  have made := isChain_chain w' source handle
  have isChain : w.IsChain source.id handle (Parts.chain (.ofWorkspace w') source handle) := by
    refine ⟨fun i within => ?_, made.distinct, fun o reached => ?_⟩
    · rw [← alike.walk_eq member, made.follows i within]
    · exact made.stops o (by rw [alike.walk_eq member, reached])
  exact (existsUnique_isChain w source handle).unique isChain (isChain_chain w source handle)

end Workspace

namespace Parts

theorem singleFilter_eq_of_alike {policy : Node} (member : inside policy.id) (expected : NodeKind)
    {kind : NodeKind} {entries? : Node → Option (List String)} (isPart : IsPartView kind entries?) :
    singleFilter (.ofWorkspace w') policy expected entries? =
      singleFilter (.ofWorkspace w) policy expected entries? := by
  rw [singleFilter, singleFilter, Wiring.filterMap_incomers, Wiring.filterMap_incomers,
    alike.before policy.id member isPart]

theorem validator_eq_of_alike {n : Node} (member : inside n.id) :
    validator (.ofWorkspace w') n = validator (.ofWorkspace w) n := by
  unfold validator
  rw [Wiring.filterMap_incomers, Wiring.filterMap_incomers, alike.before n.id member .schema]

theorem validators_eq_of_alike {policy : Node} (member : inside policy.id) :
    validators (.ofWorkspace w') policy = validators (.ofWorkspace w) policy := by
  have same := alike.before policy.id member .validator
  by_cases none_found : w.predecessorsOf policy.id none Node.validator? = []
  · rw [validators_of_nil none_found, validators_of_nil (same.trans none_found)]
  · rw [validators_of_ne_nil none_found, validators_of_ne_nil (same ▸ none_found), same]
    exact List.map_congr_left fun v found =>
      validator_eq_of_alike alike (alike.closed.before policy.id member .validator v found)

theorem transform_eq_of_alike {o : Node × OperationSettings} (drawn : w.IsDrawn o)
    (member : inside o.1.id) :
    transform (.ofWorkspace w') o.1 o.2 = transform (.ofWorkspace w) o.1 o.2 := by
  have schemas (handle : String) :
      schemaOn? (.ofWorkspace w') o.1 handle = schemaOn? (.ofWorkspace w) o.1 handle := by
    rw [schemaOn?_ofWorkspace, schemaOn?_ofWorkspace, alike.inputs o drawn member handle .schema]
  have scripts : scriptsOn (.ofWorkspace w') o.1 = scriptsOn (.ofWorkspace w) o.1 := by
    rw [scriptsOn_ofWorkspace, scriptsOn_ofWorkspace, alike.inputs o drawn member _ .function]
  rw [transform, transform, schemas, schemas, scripts]

theorem operation_eq_of_alike {o : Node × OperationSettings} (drawn : w.IsDrawn o)
    (member : inside o.1.id) :
    operation (.ofWorkspace w') o.1 o.2 = operation (.ofWorkspace w) o.1 o.2 := by
  have offersAll : w'.functions.isEmpty = w.functions.isEmpty := by
    rw [Bool.eq_iff_iff, List.isEmpty_iff, List.isEmpty_iff, alike.functions_eq_nil_iff]
  simp only [operation]
  rw [transform_eq_of_alike alike drawn member, Wiring.workspace_ofWorkspace,
    Wiring.workspace_ofWorkspace, Wiring.function?_ofWorkspace, Wiring.function?_ofWorkspace,
    alike.function?_eq, offersAll]

theorem isTerminal_eq_of_alike (settings : OperationSettings) :
    isTerminal (.ofWorkspace w') settings = isTerminal (.ofWorkspace w) settings := by
  rw [isTerminal, isTerminal, Wiring.function?_ofWorkspace, Wiring.function?_ofWorkspace,
    alike.function?_eq]

theorem steps_eq_of_alike {chain : List (Node × OperationSettings)}
    (drawn : ∀ o ∈ chain, w.IsDrawn o ∧ inside o.1.id) :
    steps (.ofWorkspace w') chain = steps (.ofWorkspace w) chain := by
  induction chain with
  | nil => rfl
  | cons o rest ih =>
    obtain ⟨first, member⟩ := drawn o List.mem_cons_self
    rw [steps, steps, operation_eq_of_alike alike first member, isTerminal_eq_of_alike alike,
      ih fun o later => drawn o (List.mem_cons_of_mem _ later)]

theorem pipeline_eq_of_alike {source : Node} (member : inside source.id) (handle : String) :
    pipeline (.ofWorkspace w') source handle = pipeline (.ofWorkspace w) source handle := by
  rw [pipeline_eq_steps, pipeline_eq_steps, alike.chain_eq member handle]
  exact steps_eq_of_alike alike fun o follows =>
    ⟨(Workspace.isChain_chain w source handle).isDrawn follows,
      alike.closed.inside_of_mem_chain member follows⟩

theorem transition_eq_of_alike {n : Node} (member : inside n.id) (m : Behavior.StateMachine)
    (settings : TransitionSettings) :
    transition (.ofWorkspace w') m n settings = transition (.ofWorkspace w) m n settings := by
  rw [transition, transition, pipeline_eq_of_alike alike member]

theorem transitions_eq_of_alike {policy : Node} (member : inside policy.id)
    (settings : BehaviorPolicySettings) :
    transitions (.ofWorkspace w') policy settings =
      transitions (.ofWorkspace w) policy settings := by
  rw [transitions_ofWorkspace, transitions_ofWorkspace, alike.after policy.id member .transition]
  exact List.map_congr_left fun t found =>
    transition_eq_of_alike alike (alike.closed.after policy.id member .transition t found) _ _

end Parts

theorem Compilation.ofNode_eq_of_alike {n : Node} (member : inside n.id) :
    ofNode (.ofWorkspace w') n = ofNode (.ofWorkspace w) n := by
  have topics := Parts.singleFilter_eq_of_alike alike member .topicFilter .topics
  have clients := Parts.singleFilter_eq_of_alike alike member .clientFilter .clients
  have validators := Parts.validators_eq_of_alike alike member
  have pipelines := Parts.pipeline_eq_of_alike alike member
  have transitions := Parts.transitions_eq_of_alike alike member
  unfold ofNode
  split
  · simp only [ofDataPolicy, Parts.topicFilter, topics, validators, pipelines]
  · simp only [ofBehaviorPolicy, Parts.clientFilter, clients, transitions]
  · rfl

/-- Workspaces that answer alike come to the same compilation, or to the same refusal. -/
theorem Workspace.compile_eq_of_alike {id : String} (member : inside id)
    (last : w'.lastNode? id = w.lastNode? id) : w'.compile id = w.compile id := by
  rw [compile, compile, Wiring.node?_ofWorkspace, Wiring.node?_ofWorkspace, last]
  cases found : w.lastNode? id with
  | none => rfl
  | some n =>
    rw [← id_of_lastNode? found] at member
    exact Compilation.ofNode_eq_of_alike alike member

end

end PolicyCanvas
