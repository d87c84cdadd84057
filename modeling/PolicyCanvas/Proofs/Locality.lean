import PolicyCanvas.Proofs.Dependence
import PolicyCanvas.Proofs.Validity

/-!
# A policy depends on its sub-flow only

A policy comes to the same compilation when the drawing loses nodes and edges that do not belong to
its sub-flow, and nodes that are foreign wherever they are (`compile_eq_of_prunes`). So what belongs
to a policy can be looked at as a drawing of its own.
-/

namespace PolicyCanvas

open Node (IsPartView)

namespace Workspace

/-- The drawing `w'` is what is left of `w` without some nodes, each of them foreign or not in the
sub-flow of `id`, and without some edges that this sub-flow does not list. An edge may stay though
an end of it is gone. -/
structure Prunes (w w' : Workspace) (id : String) : Prop where
  nodes : w'.nodes.Sublist w.nodes
  removed : ∀ n ∈ w.nodes, n ∉ w'.nodes →
    n.id ≠ id ∧ (n.isForeign = true ∨ n ∉ ((Wiring.ofWorkspace w).subFlow id).nodes)
  edges : w'.edges.Sublist w.edges
  listed : ((Wiring.ofWorkspace w).subFlow id).edges.Sublist w'.edges
  functions : w'.functions = w.functions

/-- The sub-flow of a node as a drawing of its own. -/
def cutOut (w : Workspace) (id : String) : Workspace where
  nodes := ((Wiring.ofWorkspace w).subFlow id).nodes
  edges := ((Wiring.ofWorkspace w).subFlow id).edges
  functions := w.functions

theorem prunes_cutOut (w : Workspace) (id : String) : w.Prunes (w.cutOut id) id where
  nodes := by
    rw [cutOut, Wiring.nodes_subFlow]
    exact List.filter_sublist
  removed n present gone := by
    refine ⟨fun same => gone (Wiring.mem_nodes_subFlow_iff.mpr ⟨present, ?_⟩), .inr gone⟩
    rw [same]
    exact Wiring.mem_component_self (hasNode_iff.mpr ⟨n, present, same⟩)
  edges := by
    rw [cutOut, Wiring.edges_subFlow]
    exact List.filter_sublist
  listed := List.Sublist.refl _
  functions := rfl

namespace Prunes

variable {w w' : Workspace} {id : String}

theorem hasNode (pruned : w.Prunes w' id) {x : String} (present : w'.hasNode x = true) :
    w.hasNode x = true := by
  obtain ⟨n, member, rfl⟩ := hasNode_iff.mp present
  exact hasNode_iff.mpr ⟨n, pruned.nodes.mem member, rfl⟩

/-- The edges of the sub-flow are all there. -/
theorem filter_edges (pruned : w.Prunes w' id) {q : Edge → Bool}
    (inner : ∀ e ∈ w.edges, q e = true →
      e.source ∈ (Wiring.ofWorkspace w).component id ∧
        e.target ∈ (Wiring.ofWorkspace w).component id) :
    w'.edges.filter q = w.edges.filter q := by
  refine List.Sublist.antisymm (pruned.edges.filter q) ?_
  have inside : w.edges.filter q = (((Wiring.ofWorkspace w).subFlow id).edges).filter q := by
    rw [Wiring.edges_subFlow, List.filter_filter]
    refine List.filter_congr fun e member => ?_
    cases holds : q e with
    | false => rfl
    | true => simp [inner e member holds]
  rw [inside]
  exact pruned.listed.filter q

/-- The node with the id is in the sub-flow, and it is still there. -/
def Keeps (w w' : Workspace) (id x : String) : Prop :=
  x ∈ (Wiring.ofWorkspace w).component id ∧ w'.hasNode x = true

/-- The live edges between nodes that are kept are live as before. -/
theorem filter_liveEdges (pruned : w.Prunes w' id) {q : Edge → Bool}
    (inner : ∀ e ∈ w.liveEdges, q e = true → Keeps w w' id e.source ∧ Keeps w w' id e.target) :
    w'.liveEdges.filter q = w.liveEdges.filter q := by
  have isLive {e : Edge} (member : e ∈ w.edges)
      (holds : (q e && (w.hasNode e.source && w.hasNode e.target)) = true) :
      e ∈ w.liveEdges ∧ q e = true := by
    simp only [Bool.and_eq_true] at holds
    exact ⟨mem_liveEdges_iff.mpr ⟨member, holds.2⟩, holds.1⟩
  rw [liveEdges, liveEdges, List.filter_filter, List.filter_filter,
    ← pruned.filter_edges fun e member holds => ?_]
  · refine List.filter_congr fun e member => ?_
    have present := pruned.edges.mem member
    rw [Bool.eq_iff_iff]
    constructor
    · intro holds
      simp only [Bool.and_eq_true] at holds ⊢
      exact ⟨holds.1, pruned.hasNode holds.2.1, pruned.hasNode holds.2.2⟩
    · intro holds
      obtain ⟨live, isQ⟩ := isLive present holds
      obtain ⟨source, target⟩ := inner e live isQ
      simp [isQ, source.2, target.2]
  · obtain ⟨live, isQ⟩ := isLive member holds
    obtain ⟨source, target⟩ := inner e live isQ
    exact ⟨source.1, target.1⟩

variable (pruned : w.Prunes w' id) (distinct : (w.nodes.map Node.id).Nodup)
include pruned distinct

theorem lastNode?_eq {x : String} (present : w'.hasNode x = true) :
    w'.lastNode? x = w.lastNode? x := by
  obtain ⟨n, member, sameId⟩ := hasNode_iff.mp present
  have distinct' : (w'.nodes.map Node.id).Nodup := (pruned.nodes.map Node.id).nodup distinct
  rw [(lastNode?_eq_some_iff distinct').mpr ⟨member, sameId⟩,
    (lastNode?_eq_some_iff distinct).mpr ⟨pruned.nodes.mem member, sameId⟩]

/-- A node of the sub-flow is kept unless it is foreign. -/
theorem keeps_of_known {x : String} {n : Node}
    (member : x ∈ (Wiring.ofWorkspace w).component id) (last : w.lastNode? x = some n)
    (known : n.isForeign = false) : Keeps w w' id x := by
  obtain ⟨present, sameId⟩ := (lastNode?_eq_some_iff distinct).mp last
  refine ⟨member, ?_⟩
  by_contra gone
  have removed : n ∉ w'.nodes := fun kept => gone (hasNode_iff.mpr ⟨n, kept, sameId⟩)
  rcases (pruned.removed n present removed).2 with isForeign | outside
  · simp [known] at isForeign
  · exact outside (Wiring.mem_nodes_subFlow_iff.mpr ⟨present, by rwa [sameId]⟩)

/-- What a view of parts shows at one end of the live edges with `q` is the same when it is kept
together with the other end. -/
theorem filterMap_ends_eq {kind : NodeKind} {α : Type} {view : Node → Option α}
    (isPart : IsPartView kind view) (endOf : Edge → String) (q : Edge → Bool)
    (isEnd : ∀ e ∈ w'.liveEdges, w'.hasNode (endOf e) = true)
    (inner : ∀ e ∈ w.liveEdges, q e = true → ∀ n, w.lastNode? (endOf e) = some n →
      n.isPolicy = false → n.isForeign = false →
        Keeps w w' id e.source ∧ Keeps w w' id e.target) :
    ((w'.liveEdges.filter q).map endOf).eraseDups.filterMap (w'.shown? view) =
      ((w.liveEdges.filter q).map endOf).eraseDups.filterMap (w.shown? view) := by
  refine filterMap_eraseDups_congr endOf (fun e among => ?_) ?_
  · have live := (List.mem_filter.mp among).1
    rw [shown?, shown?, pruned.lastNode?_eq distinct (isEnd e live)]
  · rw [List.filter_filter, List.filter_filter]
    refine pruned.filter_liveEdges fun e live holds => ?_
    obtain ⟨shown, isQ⟩ := Bool.and_eq_true_iff.mp holds
    obtain ⟨n, last, part, known⟩ := exists_part_of_shown? isPart shown
    exact inner e live isQ n last part known

theorem predecessorsOf_eq {kind : NodeKind} {α : Type} {view : Node → Option α}
    (isPart : IsPartView kind view) {x : String} (kept : Keeps w w' id x)
    (handle? : Option String) :
    w'.predecessorsOf x handle? view = w.predecessorsOf x handle? view := by
  rw [predecessorsOf_eq_filterMap, predecessorsOf_eq_filterMap]
  refine pruned.filterMap_ends_eq distinct isPart _ _
    (fun e live => (mem_liveEdges_iff.mp live).2.1) fun e live isQ n last part known => ?_
  obtain ⟨rfl, -⟩ : e.target = x ∧ _ := by simpa using isQ
  have member := source_mem_component live kept.1 last part
  exact ⟨pruned.keeps_of_known distinct member last known, kept⟩

theorem successorsOf_eq {kind : NodeKind} {α : Type} {view : Node → Option α}
    (isPart : IsPartView kind view) {x : String} (kept : Keeps w w' id x)
    (handle? : Option String) :
    w'.successorsOf x handle? view = w.successorsOf x handle? view := by
  rw [successorsOf_eq_filterMap, successorsOf_eq_filterMap]
  refine pruned.filterMap_ends_eq distinct isPart _ _
    (fun e live => (mem_liveEdges_iff.mp live).2.2) fun e live isQ n last part known => ?_
  obtain ⟨rfl, -⟩ : e.source = x ∧ _ := by simpa using isQ
  have member := target_mem_component live kept.1 last part
  exact ⟨kept, pruned.keeps_of_known distinct member last known⟩

theorem isClosed : w.IsClosed (Keeps w w' id) where
  before x kept _ _ _ _ isPart p found := by
    obtain ⟨neighbour, shown⟩ := Node.mem_seenBy.mp found
    exact pruned.keeps_of_known distinct
      ((w.isClosed_component id).before x kept.1 isPart p found)
      (lastNode?_of_mem_predecessors neighbour) (isPart.isForeign_eq_false shown)
  after x kept _ _ _ _ isPart s found := by
    obtain ⟨neighbour, shown⟩ := Node.mem_seenBy.mp found
    exact pruned.keeps_of_known distinct
      ((w.isClosed_component id).after x kept.1 isPart s found)
      (lastNode?_of_mem_successors neighbour) (isPart.isForeign_eq_false shown)

/-- What is asked about the nodes that are kept is answered as before. -/
theorem alike : w.Alike w' (Keeps w w' id) where
  closed := pruned.isClosed distinct
  functions_eq_nil_iff := by rw [pruned.functions]
  function?_eq := by
    funext functionId
    rw [function?, function?, pruned.functions]
  before _ kept _ _ _ isPart := pruned.predecessorsOf_eq distinct isPart kept none
  after _ kept _ _ _ isPart := pruned.successorsOf_eq distinct isPart kept none
  inputs _ _ kept handle _ _ _ isPart :=
    pruned.predecessorsOf_eq distinct isPart kept (some handle)
  next _ kept handle := by
    rw [firstOperation?, firstOperation?,
      pruned.successorsOf_eq distinct .operation kept (some handle)]

theorem compile_eq : w'.compile id = w.compile id := by
  cases present : w.hasNode id with
  | false =>
    have gone : w'.hasNode id = false :=
      Bool.eq_false_iff.mpr fun kept => by simp [pruned.hasNode kept] at present
    rw [compile, compile, Wiring.node?_ofWorkspace, Wiring.node?_ofWorkspace,
      lastNode?_eq_none_iff.mpr present, lastNode?_eq_none_iff.mpr gone]
  | true =>
    have left : w'.hasNode id = true := by
      obtain ⟨n, member, sameId⟩ := hasNode_iff.mp present
      refine hasNode_iff.mpr ⟨n, ?_, sameId⟩
      by_contra gone
      exact (pruned.removed n member gone).1 sameId
    exact compile_eq_of_alike (pruned.alike distinct)
      ⟨Wiring.mem_component_self present, left⟩ (pruned.lastNode?_eq distinct left)

end Prunes

/-- A policy is compiled the same, or refused the same, when nodes that are foreign or not in its
sub-flow are removed and edges that its sub-flow does not list; in particular when nothing is left
but its sub-flow. -/
theorem compile_eq_of_prunes (w : Workspace) (distinct : (w.nodes.map Node.id).Nodup)
    (id : String) :
    (∀ w', w.Prunes w' id → w'.compile id = w.compile id) ∧
      (w.cutOut id).compile id = w.compile id :=
  ⟨fun _ pruned => pruned.compile_eq distinct, (w.prunes_cutOut id).compile_eq distinct⟩

/-- Two data policies with one filter. A note hangs between the first of them and its validator. -/
def shared : Workspace where
  nodes :=
    [.known "policy" none (.dataPolicy ⟨none⟩),
      .known "topic" none (.topicFilter ["plant/+"]),
      .foreign ⟨"note", "NOTE", ∅, rfl, rfl, by decide⟩,
      .known "check" none (.validator ⟨.schema, .anyOf⟩),
      .known "other" none (.dataPolicy ⟨none⟩),
      .known "shape" none (.schema ⟨"shape", "1", .json, none, none⟩),
      .known "log" none (.operation ⟨some "System.log", ∅, none⟩)]
  edges :=
    [⟨"e1", "note", "policy", none, none⟩,
      ⟨"e2", "topic", "other", none, none⟩,
      ⟨"e3", "topic", "policy", none, none⟩,
      ⟨"e4", "note", "check", none, none⟩,
      ⟨"e5", "check", "policy", none, none⟩,
      ⟨"e6", "shape", "check", none, none⟩,
      ⟨"e7", "other", "log", some "onError", none⟩]
  functions := []

/-- The behavior policy of `guarded` beside a data policy that has an operation in common with
it. -/
def guardedBeside : Workspace where
  nodes := .known "other" none (.dataPolicy ⟨none⟩) :: guarded.nodes
  edges := ⟨"e0", "other", "log", some "onError", none⟩ :: guarded.edges
  functions := []

theorem compile_eq_shared :
    let w' : Workspace :=
      { shared with
        nodes := shared.nodes.filter fun n => n.id != "note" && n.id != "other"
        edges := shared.edges.filter fun e => e.id != "e7" }
    ((shared.nodes.map Node.id).Nodup ∧ shared.Prunes w' "policy" ∧
      w'.compile "policy" = shared.compile "policy" ∧
        (shared.cutOut "policy").nodes.map Node.id = ["policy", "topic", "note", "check", "shape"] ∧
          (shared.cutOut "policy").compile "policy" = shared.compile "policy" ∧
            ∃ c, shared.compile "policy" = .ok c ∧ c.policy?.isSome = true) ∧
    (guardedBeside.nodes.map Node.id).Nodup ∧ guardedBeside.Prunes guarded "policy" ∧
      guarded.compile "policy" = guardedBeside.compile "policy" ∧
        (guardedBeside.cutOut "policy").nodes.map Node.id = guarded.nodes.map Node.id ∧
          (guardedBeside.cutOut "policy").compile "policy" = guardedBeside.compile "policy" ∧
            ∃ c, guardedBeside.compile "policy" = .ok c ∧ c.policy?.isSome = true := by
  intro w'
  refine ⟨?_, ?_⟩
  · have distinct : (shared.nodes.map Node.id).Nodup := by decide +kernel
    have component : (shared.cutOut "policy").nodes.map Node.id =
        ["policy", "topic", "note", "check", "shape"] := by decide +kernel
    have isNote : ∀ n ∈ shared.nodes, n.id = "note" → n.isForeign = true := by decide +kernel
    have pruned : shared.Prunes w' "policy" := by
      refine ⟨List.filter_sublist, fun n present gone => ?_, List.filter_sublist, by decide +kernel,
        rfl⟩
      have removed : n.id = "note" ∨ n.id = "other" := by
        by_contra neither
        exact gone (List.mem_filter.mpr ⟨present, by simpa using neither⟩)
      rcases removed with note | other
      · exact ⟨by simp [note], .inl (isNote n present note)⟩
      · refine ⟨by simp [other], .inr fun inside => ?_⟩
        have listed : n.id ∈ (shared.cutOut "policy").nodes.map Node.id :=
          List.mem_map_of_mem inside
        simp [component, other] at listed
    obtain ⟨prunes, cutOut⟩ := compile_eq_of_prunes shared distinct "policy"
    have compiled : shared.compile "policy" = .ok _ := rfl
    exact ⟨distinct, pruned, prunes w' pruned, component, cutOut, _, compiled, by decide +kernel⟩
  · have distinct : (guardedBeside.nodes.map Node.id).Nodup := by decide +kernel
    have component : (guardedBeside.cutOut "policy").nodes.map Node.id =
        guarded.nodes.map Node.id := by decide +kernel
    have pruned : guardedBeside.Prunes guarded "policy" := by
      refine ⟨List.sublist_cons_self .., fun n present gone => ?_, List.sublist_cons_self ..,
        by decide +kernel, rfl⟩
      obtain rfl := (List.mem_cons.mp present).resolve_right gone
      refine ⟨by decide, .inr fun inside => ?_⟩
      have listed : "other" ∈ (guardedBeside.cutOut "policy").nodes.map Node.id :=
        List.mem_map.mpr ⟨_, inside, rfl⟩
      rw [component] at listed
      exact absurd listed (by decide)
    obtain ⟨prunes, cutOut⟩ := compile_eq_of_prunes guardedBeside distinct "policy"
    have compiled : guardedBeside.compile "policy" = .ok _ := rfl
    exact ⟨distinct, pruned, prunes guarded pruned, component, cutOut, _, compiled,
      by decide +kernel⟩

end Workspace

end PolicyCanvas
