import PolicyCanvas.Proofs.OperationChain
import PolicyCanvas.Proofs.SubFlowSearch

/-!
# What a sub-flow takes in

A sub-flow can only be left into another policy: whichever way an edge of a node in it points, the
node at the other end is in it too unless it is a policy (`source_mem_component`,
`target_mem_component`). So the edges that are crossed on the way are all those between its nodes
(`edges_subFlow`). The parts of a policy are never policies themselves, so going from part to part
does not lead out of the sub-flow (`isClosed_component`).
-/

namespace PolicyCanvas

namespace Node

/-- The views that a policy has of its parts, each with the kind of node that it shows. -/
inductive IsPartView : NodeKind → {α : Type} → (Node → Option α) → Prop
  | topics : IsPartView .topicFilter topics?
  | clients : IsPartView .clientFilter clients?
  | validator : IsPartView .validator validator?
  | schema : IsPartView .schema schema?
  | operation : IsPartView .operation operation?
  | transition : IsPartView .transition transition?
  | function : IsPartView .function function?

theorem IsPartView.kind?_eq {kind : NodeKind} {α : Type} {view : Node → Option α}
    (isPart : IsPartView kind view) {n : Node} {a : α} (shown : view n = some a) :
    n.kind? = some kind := by
  cases n with
  | foreign n => cases isPart <;> cases shown
  | known id position? settings => cases isPart <;> cases settings <;> cases shown <;> rfl

/-- A view shows something of exactly the nodes of its kind. -/
theorem IsPartView.isSome_iff {kind : NodeKind} {α : Type} {view : Node → Option α}
    (isPart : IsPartView kind view) {n : Node} : (view n).isSome ↔ n.kind? = some kind := by
  constructor
  · intro shows
    obtain ⟨a, shown⟩ := Option.isSome_iff_exists.mp shows
    exact isPart.kind?_eq shown
  · intro isKind
    cases n with
    | foreign n => cases isKind
    | known id position? settings => cases isPart <;> cases settings <;> cases isKind <;> rfl

theorem IsPartView.isPolicy_eq_false {kind : NodeKind} {α : Type} {view : Node → Option α}
    (isPart : IsPartView kind view) {n : Node} {a : α} (shown : view n = some a) :
    n.isPolicy = false := by
  cases n with
  | foreign n => rfl
  | known id position? settings => cases isPart <;> cases settings <;> cases shown <;> rfl

theorem IsPartView.isForeign_eq_false {kind : NodeKind} {α : Type} {view : Node → Option α}
    (isPart : IsPartView kind view) {n : Node} {a : α} (shown : view n = some a) :
    n.isForeign = false := by
  cases n with
  | foreign n => cases isPart <;> cases shown
  | known id position? settings => rfl

end Node

/-! ### The ids of a sub-flow -/

/-- A live edge joins the two ids, whichever way it points. -/
def Workspace.Touches (w : Workspace) (id next : String) : Prop :=
  ∃ e ∈ w.liveEdges, e.source = id ∧ e.target = next ∨ e.target = id ∧ e.source = next

namespace Wiring

/-- The ids of the nodes that the search for a sub-flow visits. -/
def component (w : Wiring) (start : String) : List String :=
  match w.nodeIndices[start]? with
  | none => []
  | some first => (w.search first (.start first)).visited.map w.idAt

theorem subFlow_of_missing {w : Wiring} {start : String} (missing : w.nodeIndices[start]? = none) :
    w.component start = [] ∧ w.subFlow start = ⟨[], []⟩ := by
  rw [component, subFlow, missing]
  exact ⟨rfl, rfl⟩

variable {w : Workspace} {start id : String}
  {first i other : Fin (ofWorkspace w).workspace.nodes.length} {place : Nat}

/-- Other policies than the start are not entered. -/
theorem mayEnter_iff (isFirst : (ofWorkspace w).nodeIndices[start]? = some first)
    (isNext : (ofWorkspace w).nodeIndices[id]? = some i) :
    (ofWorkspace w).mayEnter first i = true ↔
      id = start ∨ ∃ n, w.lastNode? id = some n ∧ n.isPolicy = false := by
  have same : i = first ↔ id = start := by
    constructor
    · rintro rfl
      rw [← idAt_of_place isNext, idAt_of_place isFirst]
    · rintro rfl
      exact Option.some.inj (isNext.symm.trans isFirst)
  rw [mayEnter, idAt_of_place isNext, node?_ofWorkspace, lastNode?_of_place isNext, Bool.or_eq_true,
    beq_iff_eq, same]
  simp

theorem placed_of_getElem? {l : Link w.nodes.length}
    (found : (ofWorkspace w).graph.links[place]? = some l) : IsPlaced w l :=
  isPlaced_of_mem (Array.mem_toList_iff.mpr (Array.mem_of_getElem? found))

/-- What can be crossed to has the place of its id. -/
theorem place_of_reaches (isFirst : (ofWorkspace w).nodeIndices[start]? = some first)
    (reaches : (ofWorkspace w).Reaches first i) :
    (ofWorkspace w).nodeIndices[(ofWorkspace w).idAt i]? = some i := by
  cases reaches with
  | refl => rwa [idAt_of_place isFirst]
  | tail _ joined =>
    obtain ⟨place, l, found, ⟨-, rfl⟩ | ⟨-, rfl⟩, -⟩ := joined
    · have target := (placed_of_getElem? found).near .incoming
      rwa [← idAt_of_place target] at target
    · have source := (placed_of_getElem? found).near .outgoing
      rwa [← idAt_of_place source] at source

theorem touches_of_crosses (crosses : (ofWorkspace w).Crosses first i place other) :
    w.Touches ((ofWorkspace w).idAt i) ((ofWorkspace w).idAt other) := by
  obtain ⟨l, found, ends, -⟩ := crosses
  have placed := placed_of_getElem? found
  have live : l.edge ∈ w.liveEdges := by
    rw [← map_edge_links]
    exact List.mem_map_of_mem (Array.mem_toList_iff.mpr (Array.mem_of_getElem? found))
  have source := idAt_of_place (placed.near .outgoing)
  have target := idAt_of_place (placed.near .incoming)
  rcases ends with ⟨rfl, rfl⟩ | ⟨rfl, rfl⟩
  · exact ⟨l.edge, live, .inl ⟨source.symm, target.symm⟩⟩
  · exact ⟨l.edge, live, .inr ⟨target.symm, source.symm⟩⟩

/-- A live edge makes a link that can be crossed between the places of its ends. -/
theorem exists_crosses_of_touches {next : String}
    (isFirst : (ofWorkspace w).nodeIndices[start]? = some first)
    (isCurrent : (ofWorkspace w).nodeIndices[id]? = some i) (touches : w.Touches id next)
    (enters : next = start ∨ ∃ n, w.lastNode? next = some n ∧ n.isPolicy = false) :
    ∃ place other, (ofWorkspace w).nodeIndices[next]? = some other ∧
      (ofWorkspace w).Crosses first i place other := by
  obtain ⟨e, live, ends⟩ := touches
  rw [← map_edge_links] at live
  obtain ⟨l, isLink, rfl⟩ := List.mem_map.mp live
  obtain ⟨place, found⟩ := List.mem_iff_getElem?.mp isLink
  rw [Array.getElem?_toList] at found
  have source := (isPlaced_of_mem isLink).near .outgoing
  have target := (isPlaced_of_mem isLink).near .incoming
  rcases ends with ⟨rfl, rfl⟩ | ⟨rfl, rfl⟩
  · have current := Option.some.inj (source.symm.trans isCurrent)
    exact ⟨place, l.target, target, l, found, .inl ⟨current, rfl⟩,
      (mayEnter_iff isFirst target).mpr enters⟩
  · have current := Option.some.inj (target.symm.trans isCurrent)
    exact ⟨place, l.source, source, l, found, .inr ⟨current, rfl⟩,
      (mayEnter_iff isFirst source).mpr enters⟩

theorem component_of_place {w : Wiring} {first : Fin w.workspace.nodes.length}
    (isFirst : w.nodeIndices[start]? = some first) :
    w.component start = (w.search first (.start first)).visited.map w.idAt := by
  rw [component, isFirst]

theorem mem_component_iff_reaches : id ∈ (ofWorkspace w).component start ↔
    ∃ first i, (ofWorkspace w).nodeIndices[start]? = some first ∧
      (ofWorkspace w).nodeIndices[id]? = some i ∧ (ofWorkspace w).Reaches first i := by
  constructor
  · intro member
    cases isFirst : (ofWorkspace w).nodeIndices[start]? with
    | none => simp [subFlow_of_missing isFirst] at member
    | some first =>
      rw [component_of_place isFirst] at member
      obtain ⟨i, visited, rfl⟩ := List.mem_map.mp member
      have reaches := mem_visited_search_iff.mp visited
      exact ⟨first, i, rfl, place_of_reaches isFirst reaches, reaches⟩
  · rintro ⟨first, i, isFirst, place, reaches⟩
    rw [component_of_place isFirst, ← idAt_of_place place]
    exact List.mem_map_of_mem (mem_visited_search_iff.mpr reaches)

theorem mem_visited_iff (isFirst : (ofWorkspace w).nodeIndices[start]? = some first)
    (place : (ofWorkspace w).nodeIndices[id]? = some i) :
    i ∈ ((ofWorkspace w).search first (.start first)).visited ↔
      id ∈ (ofWorkspace w).component start := by
  rw [mem_visited_search_iff, mem_component_iff_reaches]
  constructor
  · intro reaches
    exact ⟨first, i, isFirst, place, reaches⟩
  · rintro ⟨_, _, isFirst', place', reaches⟩
    obtain rfl := Option.some.inj (isFirst'.symm.trans isFirst)
    obtain rfl := Option.some.inj (place'.symm.trans place)
    exact reaches

theorem hasNode_of_place (place : (ofWorkspace w).nodeIndices[id]? = some i) :
    w.hasNode id = true := by
  rw [← isSome_nodeIndices, place]
  rfl

theorem exists_place (present : w.hasNode id = true) :
    ∃ i, (ofWorkspace w).nodeIndices[id]? = some i := by
  rwa [← isSome_nodeIndices, Option.isSome_iff_exists] at present

/-- Only ids of nodes are entered. -/
theorem hasNode_of_entered (member : id ∈ (ofWorkspace w).component start) :
    w.hasNode id = true := by
  obtain ⟨first, i, -, place, -⟩ := mem_component_iff_reaches.mp member
  exact hasNode_of_place place

theorem mem_component_self (present : w.hasNode start = true) :
    start ∈ (ofWorkspace w).component start := by
  obtain ⟨first, isFirst⟩ := exists_place present
  exact mem_component_iff_reaches.mpr ⟨first, first, isFirst, isFirst, .refl⟩

/-- A sub-flow goes on along live edges, to its start and to whatever is no policy. -/
theorem mem_component_of_touches {next : String} (member : id ∈ (ofWorkspace w).component start)
    (touches : w.Touches id next)
    (enters : next = start ∨ ∃ n, w.lastNode? next = some n ∧ n.isPolicy = false) :
    next ∈ (ofWorkspace w).component start := by
  obtain ⟨first, i, isFirst, isCurrent, reaches⟩ := mem_component_iff_reaches.mp member
  obtain ⟨place, other, isNext, crosses⟩ :=
    exists_crosses_of_touches isFirst isCurrent touches enters
  exact mem_component_iff_reaches.mpr
    ⟨first, other, isFirst, isNext, reaches.tail ⟨place, crosses⟩⟩

/-- What holds of the start and passes along the live edges holds of the whole sub-flow. -/
theorem component_induction {P : String → Prop} (begun : w.hasNode start = true → P start)
    (passes : ∀ id next, P id → w.Touches id next →
      (next = start ∨ ∃ n, w.lastNode? next = some n ∧ n.isPolicy = false) → P next) :
    ∀ id ∈ (ofWorkspace w).component start, P id := by
  intro id member
  obtain ⟨first, i, isFirst, place, reaches⟩ := mem_component_iff_reaches.mp member
  rw [← idAt_of_place place]
  clear place member
  induction reaches with
  | refl =>
    rw [idAt_of_place isFirst]
    exact begun (hasNode_of_place isFirst)
  | tail reaches joined ih =>
    have isNext := place_of_reaches isFirst (reaches.tail joined)
    have enters := (mayEnter_iff isFirst isNext).mp (mayEnter_of_reaches (reaches.tail joined))
    obtain ⟨place, crosses⟩ := joined
    exact passes _ _ ih (touches_of_crosses crosses) enters

theorem nodes_subFlow (w : Workspace) (start : String) :
    ((ofWorkspace w).subFlow start).nodes =
      w.nodes.filter fun n => ((ofWorkspace w).component start).contains n.id := by
  cases isFirst : (ofWorkspace w).nodeIndices[start]? with
  | none => simp [subFlow_of_missing isFirst]
  | some first =>
    simp only [subFlow, isFirst]
    refine List.filter_congr fun n member => ?_
    obtain ⟨i, place⟩ := exists_place (w := w) (Workspace.hasNode_iff.mpr ⟨n, member, rfl⟩)
    rw [Bool.eq_iff_iff, place, Option.any_some, decide_eq_true_iff, List.contains_iff_mem,
      mem_visited_iff isFirst place]

theorem mem_nodes_subFlow_iff {n : Node} :
    n ∈ ((ofWorkspace w).subFlow start).nodes ↔
      n ∈ w.nodes ∧ n.id ∈ (ofWorkspace w).component start := by
  simp [nodes_subFlow]

/-- The edges that are crossed somewhere in a sub-flow are all those between its ids. -/
theorem edges_subFlow (w : Workspace) (start : String) :
    ((ofWorkspace w).subFlow start).edges = w.edges.filter fun e =>
      ((ofWorkspace w).component start).contains e.source &&
        ((ofWorkspace w).component start).contains e.target := by
  cases isFirst : (ofWorkspace w).nodeIndices[start]? with
  | none => simp [subFlow_of_missing isFirst]
  | some first =>
    have between : ((ofWorkspace w).subFlow start).edges = w.liveEdges.filter fun e =>
        ((ofWorkspace w).component start).contains e.source &&
          ((ofWorkspace w).component start).contains e.target := by
      simp only [subFlow, isFirst, sortPlaces_crossed_search, filterMap_places]
      refine map_edge_filter_links fun l placed => ?_
      rw [Bool.eq_iff_iff]
      simp only [Bool.and_eq_true, decide_eq_true_eq, List.contains_iff_mem]
      exact and_congr (mem_visited_iff isFirst (placed.near .outgoing))
        (mem_visited_iff isFirst (placed.near .incoming))
    rw [between, Workspace.liveEdges, List.filter_filter]
    refine List.filter_congr fun e _ => ?_
    -- both ends of an edge between ids that were entered are there
    rw [Bool.eq_iff_iff]
    simp only [Bool.and_eq_true, List.contains_iff_mem]
    exact and_iff_left_of_imp fun inside =>
      ⟨hasNode_of_entered inside.1, hasNode_of_entered inside.2⟩

end Wiring

/-! ### Neighbours in the sub-flow -/

namespace Workspace

/-- What a view of parts shows is a part. -/
theorem exists_part_of_shown? {w : Workspace} {kind : NodeKind} {α : Type}
    {view : Node → Option α} (isPart : Node.IsPartView kind view) {id : String}
    (shown : (w.shown? view id).isSome = true) :
    ∃ n, w.lastNode? id = some n ∧ n.isPolicy = false ∧ n.isForeign = false := by
  obtain ⟨p, shown⟩ := Option.isSome_iff_exists.mp shown
  obtain ⟨n, last, seen⟩ := Option.bind_eq_some_iff.mp shown
  obtain ⟨a, seen, -⟩ := Option.map_eq_some_iff.mp seen
  exact ⟨n, last, isPart.isPolicy_eq_false seen, isPart.isForeign_eq_false seen⟩

theorem source_mem_component {w : Workspace} {start : String} {e : Edge} {n : Node}
    (live : e ∈ w.liveEdges) (member : e.target ∈ (Wiring.ofWorkspace w).component start)
    (last : w.lastNode? e.source = some n) (part : n.isPolicy = false) :
    e.source ∈ (Wiring.ofWorkspace w).component start :=
  Wiring.mem_component_of_touches member ⟨e, live, .inr ⟨rfl, rfl⟩⟩ (.inr ⟨n, last, part⟩)

theorem target_mem_component {w : Workspace} {start : String} {e : Edge} {n : Node}
    (live : e ∈ w.liveEdges) (member : e.source ∈ (Wiring.ofWorkspace w).component start)
    (last : w.lastNode? e.target = some n) (part : n.isPolicy = false) :
    e.target ∈ (Wiring.ofWorkspace w).component start :=
  Wiring.mem_component_of_touches member ⟨e, live, .inl ⟨rfl, rfl⟩⟩ (.inr ⟨n, last, part⟩)

/-- Going from the nodes with an id `inside` to their parts does not lead out of them. -/
structure IsClosed (w : Workspace) (inside : String → Prop) : Prop where
  before : ∀ id, inside id → ∀ {handle? : Option String} {kind : NodeKind} {α : Type}
    {view : Node → Option α}, Node.IsPartView kind view →
      ∀ p ∈ w.predecessorsOf id handle? view, inside p.1.id
  after : ∀ id, inside id → ∀ {handle? : Option String} {kind : NodeKind} {α : Type}
    {view : Node → Option α}, Node.IsPartView kind view →
      ∀ s ∈ w.successorsOf id handle? view, inside s.1.id

/-- All nodes together cannot be left. -/
theorem isClosed_everywhere (w : Workspace) : w.IsClosed fun _ => True where
  before _ _ _ _ _ _ _ _ _ := trivial
  after _ _ _ _ _ _ _ _ _ := trivial

theorem isClosed_component (w : Workspace) (start : String) :
    w.IsClosed (· ∈ (Wiring.ofWorkspace w).component start) where
  before id member _ _ _ _ isPart p found := by
    obtain ⟨neighbour, shown⟩ := Node.mem_seenBy.mp found
    obtain ⟨source, isSource, last⟩ := List.mem_filterMap.mp neighbour
    simp only [sourcesInto, List.mem_eraseDups, List.mem_map, List.mem_filter, Bool.and_eq_true,
      decide_eq_true_eq] at isSource
    obtain ⟨e, ⟨live, rfl, -⟩, rfl⟩ := isSource
    rw [id_of_lastNode? last]
    exact source_mem_component live member last (isPart.isPolicy_eq_false shown)
  after id member _ _ _ _ isPart s found := by
    obtain ⟨neighbour, shown⟩ := Node.mem_seenBy.mp found
    obtain ⟨target, isTarget, last⟩ := List.mem_filterMap.mp neighbour
    simp only [targetsOutOf, List.mem_eraseDups, List.mem_map, List.mem_filter, Bool.and_eq_true,
      decide_eq_true_eq] at isTarget
    obtain ⟨e, ⟨live, rfl, -⟩, rfl⟩ := isTarget
    rw [id_of_lastNode? last]
    exact target_mem_component live member last (isPart.isPolicy_eq_false shown)

namespace IsClosed

variable {w : Workspace} {inside : String → Prop} (closed : w.IsClosed inside)
include closed

theorem inside_of_walk {source handle : String} (member : inside source) {i : Nat}
    {o : Node × OperationSettings} (reached : w.walk source handle i = some o) :
    inside o.1.id := by
  induction i generalizing o with
  | zero => exact closed.after source member .operation o (List.mem_of_head? reached)
  | succ i ih =>
    obtain ⟨p, before, next⟩ := Option.bind_eq_some_iff.mp reached
    exact closed.after p.1.id (ih before) .operation o (List.mem_of_head? next)

theorem inside_of_mem_chain {source : Node} (member : inside source.id) {handle : String}
    {o : Node × OperationSettings} (follows : o ∈ Parts.chain (.ofWorkspace w) source handle) :
    inside o.1.id := by
  have isChain := isChain_chain w source handle
  obtain ⟨i, within, rfl⟩ := List.mem_iff_getElem.mp follows
  apply closed.inside_of_walk member
  rw [← isChain.follows i within, List.getElem?_eq_getElem within]

end IsClosed

end Workspace

end PolicyCanvas
