import Mathlib.Data.List.Chain
import Mathlib.Data.List.Perm.Subperm
import PolicyCanvas.Proofs.Component

/-!
# Exactly what a sub-flow takes in

The search for a sub-flow goes along live edges, whichever way they point, and never into another
policy. So its ids are those that a path leads to on which nothing but its start is a policy
(`mem_component_iff`), and each of them is entered once, however the drawing loops
(`nodup_component`). Its nodes and edges are all those that have these ids, in the order of the
workspace (`subFlow_eq_filter`).
-/

namespace PolicyCanvas

namespace Workspace

/-- The ids that follow `start` on a path along live edges. The start may be a policy, and come
again; nothing else on the path is one. -/
structure IsPath (w : Workspace) (start : String) (path : List String) : Prop where
  present : w.hasNode start = true
  joined : (start :: path).IsChain w.Touches
  passable : ∀ id ∈ path, id ≠ start → ∃ n, w.lastNode? id = some n ∧ n.isPolicy = false

/-- A path leads from `start` to the id. -/
def LeadsTo (w : Workspace) (start id : String) : Prop :=
  ∃ path, w.IsPath start path ∧ (start :: path).getLast? = some id

end Workspace

namespace Workspace

variable {w : Workspace} {start id : String}

theorem leadsTo_self (present : w.hasNode start = true) : w.LeadsTo start start :=
  ⟨[], ⟨present, .singleton start, by simp⟩, rfl⟩

/-- A path goes on along an edge to its start, and to whatever is no policy. -/
theorem LeadsTo.step {next : String} (reached : w.LeadsTo start id) (touches : w.Touches id next)
    (passable : next ≠ start → ∃ n, w.lastNode? next = some n ∧ n.isPolicy = false) :
    w.LeadsTo start next := by
  obtain ⟨path, isPath, last⟩ := reached
  refine ⟨path ++ [next], ⟨isPath.present, ?_, ?_⟩, ?_⟩
  · rw [← List.cons_append, List.isChain_append]
    refine ⟨isPath.joined, .singleton next, fun x isLast y isNext => ?_⟩
    obtain rfl : id = x := Option.some.inj (last.symm.trans isLast)
    obtain rfl : next = y := by simpa using isNext
    exact touches
  · intro other member
    rcases List.mem_append.mp member with before | same
    · exact isPath.passable other before
    · obtain rfl := List.mem_singleton.mp same
      exact passable
  · rw [← List.cons_append, List.getLast?_concat]

end Workspace

namespace Wiring

variable {w : Workspace} {start id : String}

theorem leadsTo_of_mem_component (member : id ∈ (ofWorkspace w).component start) :
    w.LeadsTo start id :=
  component_induction Workspace.leadsTo_self
    (fun _ _ reached touches enters => reached.step touches enters.resolve_left) id member

/-- No path that goes on from a sub-flow leads out of it. -/
theorem mem_component_of_chain {path : List String}
    (member : id ∈ (ofWorkspace w).component start) (joined : (id :: path).IsChain w.Touches)
    (passable : ∀ next ∈ path, next ≠ start → ∃ n, w.lastNode? next = some n ∧ n.isPolicy = false)
    {last : String} (isLast : (id :: path).getLast? = some last) :
    last ∈ (ofWorkspace w).component start := by
  induction path generalizing id with
  | nil =>
    obtain rfl : id = last := by simpa using isLast
    exact member
  | cons next path ih =>
    obtain ⟨touches, joined⟩ := List.isChain_cons_cons.mp joined
    have entered : next ∈ (ofWorkspace w).component start :=
      mem_component_of_touches member touches <|
        or_iff_not_imp_left.mpr (passable next List.mem_cons_self)
    rw [List.getLast?_cons_cons] at isLast
    exact ih entered joined (fun later isLater => passable later (List.mem_cons_of_mem _ isLater))
      isLast

theorem mem_component_iff :
    id ∈ (ofWorkspace w).component start ↔ w.LeadsTo start id := by
  constructor
  · exact leadsTo_of_mem_component
  · rintro ⟨path, isPath, last⟩
    exact mem_component_of_chain (mem_component_self isPath.present) isPath.joined isPath.passable
      last

instance : Decidable (w.LeadsTo start id) := decidable_of_iff _ mem_component_iff

/-- No id is entered twice. -/
theorem nodup_component : ((ofWorkspace w).component start).Nodup := by
  cases isFirst : (ofWorkspace w).nodeIndices[start]? with
  | none => simp [subFlow_of_missing isFirst]
  | some first =>
    rw [component_of_place isFirst]
    refine nodup_visited_search.map_on fun i isVisited j isVisited' same => ?_
    have place := place_of_reaches isFirst (mem_visited_search_iff.mp isVisited)
    rw [same, place_of_reaches isFirst (mem_visited_search_iff.mp isVisited')] at place
    exact (Option.some.inj place).symm

/-- No more ids are entered than there are. -/
theorem length_component_le :
    ((ofWorkspace w).component start).length ≤ (ofWorkspace w).idCount := by
  rw [idCount, ← Std.TreeMap.length_keys]
  refine (nodup_component.subperm fun id member => ?_).length_le
  have present := hasNode_of_entered member
  rw [← isSome_nodeIndices] at present
  exact Std.TreeMap.mem_keys.mpr (Std.TreeMap.mem_iff_isSome_getElem?.mpr present)

/-- Of a node that is there the sub-flow has exactly the nodes that paths lead to and the live edges
between these, in the order of the workspace; of any other id it has nothing. The ids that paths
lead to are entered once each, and no more of them than there are. -/
theorem subFlow_eq_filter (w : Workspace) (start : String) :
    let flow := (ofWorkspace w).subFlow start
    let entered := (ofWorkspace w).component start
    (w.hasNode start = false → flow.nodes = [] ∧ flow.edges = []) ∧
      flow.nodes = w.nodes.filter (fun n => w.LeadsTo start n.id) ∧
      flow.edges =
        w.liveEdges.filter (fun e => w.LeadsTo start e.source ∧ w.LeadsTo start e.target) ∧
      (∀ id, id ∈ entered ↔ w.LeadsTo start id) ∧ entered.Nodup ∧
      entered.length ≤ (ofWorkspace w).idCount := by
  intro flow entered
  have nodes : flow.nodes = w.nodes.filter fun n => w.LeadsTo start n.id := by
    rw [nodes_subFlow]
    refine List.filter_congr fun n _ => ?_
    rw [Bool.eq_iff_iff, List.contains_iff_mem, decide_eq_true_eq, mem_component_iff]
  have edges : flow.edges =
      w.liveEdges.filter fun e => w.LeadsTo start e.source ∧ w.LeadsTo start e.target := by
    rw [edges_subFlow, Workspace.liveEdges, List.filter_filter]
    refine List.filter_congr fun e _ => ?_
    -- both ends of an edge between ids that were entered are there
    rw [Bool.eq_iff_iff]
    simp only [Bool.and_eq_true, List.contains_iff_mem, decide_eq_true_eq, ← mem_component_iff]
    constructor
    · intro inside
      exact ⟨inside, hasNode_of_entered inside.1, hasNode_of_entered inside.2⟩
    · exact And.left
  refine ⟨fun missing => ?_, nodes, edges, fun _ => mem_component_iff, nodup_component,
    length_component_le⟩
  have nowhere (id : String) : ¬ w.LeadsTo start id := by
    rintro ⟨path, isPath, -⟩
    simp [isPath.present] at missing
  simp [nodes, edges, nowhere]

end Wiring

namespace Workspace

/-- A data policy with operations that lead back to one another, to themselves and to the policy.
Its filter and its last operation are wired to another policy, which has an operation of its own. -/
def looping : Workspace where
  nodes :=
    [.known "policy" none (.dataPolicy ⟨none⟩),
      .known "other" none (.dataPolicy ⟨none⟩),
      .known "topic" none (.topicFilter ["plant/+"]),
      .known "log" none (.operation ⟨some "System.log", ∅, none⟩),
      .known "retry" none (.operation ⟨some "Delivery.redirectTo", ∅, none⟩),
      .known "drop" none (.operation ⟨some "Mqtt.drop", ∅, none⟩)]
  edges :=
    [⟨"e1", "topic", "other", none, none⟩,
      ⟨"e2", "topic", "policy", none, none⟩,
      ⟨"e3", "policy", "log", some "onSuccess", none⟩,
      ⟨"e4", "log", "retry", some "output", none⟩,
      ⟨"e5", "retry", "log", some "output", none⟩,
      ⟨"e6", "log", "retry", none, none⟩,
      ⟨"e7", "retry", "retry", none, none⟩,
      ⟨"e8", "retry", "policy", none, none⟩,
      ⟨"e9", "other", "retry", none, none⟩,
      ⟨"e10", "other", "drop", some "onError", none⟩,
      ⟨"e11", "nowhere", "log", none, none⟩]
  functions := []

theorem subFlow_looping :
    let w := looping
    let flow := (Wiring.ofWorkspace w).subFlow "policy"
    let missing := (Wiring.ofWorkspace w).subFlow "nowhere"
    w.hasNode "nowhere" = false ∧ missing.nodes = [] ∧ missing.edges = [] ∧
      flow.nodes.map Node.id = ["policy", "topic", "log", "retry"] ∧
        flow.edges.map Edge.id = ["e2", "e3", "e4", "e5", "e6", "e7", "e8"] ∧
          w.LeadsTo "policy" "retry" ∧ ¬ w.LeadsTo "policy" "drop" := by
  intro w flow missing
  have notThere : w.hasNode "nowhere" = false := by decide
  obtain ⟨nothing, -⟩ := Wiring.subFlow_eq_filter w "nowhere"
  obtain ⟨-, nodes, edges, -⟩ := Wiring.subFlow_eq_filter w "policy"
  refine ⟨notThere, (nothing notThere).1, (nothing notThere).2, ?_, ?_, ?_, ?_⟩
  · rw [nodes]
    decide +kernel
  · rw [edges]
    decide +kernel
  · decide +kernel
  · decide +kernel

end Workspace

end PolicyCanvas
