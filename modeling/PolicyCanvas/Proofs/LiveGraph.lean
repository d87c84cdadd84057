import Mathlib.Data.List.Nodup
import Mathlib.Data.List.Sort
import PolicyCanvas.Canvas.Wiring

/-!
# The graph of the live edges

An edge is live when both of its ends are there. The links of a wiring are the live edges in the
order of the workspace (`map_edge_links`), and their ends are the places of the last nodes with the
ids that the edges name (`IsPlaced`). So what a wiring finds by places can be read off the edge
array by ids (`neighbours_eq_filterMap`).
-/

namespace PolicyCanvas

namespace Workspace

/-- Whether a node has the id. -/
def hasNode (w : Workspace) (id : String) : Bool := w.nodes.any (·.id = id)

/-- The last node with the id. -/
def lastNode? (w : Workspace) (id : String) : Option Node := w.nodes.reverse.find? (·.id = id)

/-- The edges with both ends on nodes. -/
def liveEdges (w : Workspace) : List Edge :=
  w.edges.filter fun e => w.hasNode e.source && w.hasNode e.target

theorem hasNode_iff {w : Workspace} {id : String} :
    w.hasNode id = true ↔ ∃ n ∈ w.nodes, n.id = id := by
  simp [hasNode]

theorem lastNode?_eq_none_iff {w : Workspace} {id : String} :
    w.lastNode? id = none ↔ w.hasNode id = false := by
  simp [lastNode?, hasNode]

theorem id_of_lastNode? {w : Workspace} {id : String} {n : Node}
    (found : w.lastNode? id = some n) : n.id = id := by
  simpa using List.find?_some found

theorem mem_liveEdges_iff {w : Workspace} {e : Edge} :
    e ∈ w.liveEdges ↔ e ∈ w.edges ∧ w.hasNode e.source = true ∧ w.hasNode e.target = true := by
  simp [liveEdges]

end Workspace

namespace Direction

/-- The end of an edge at the node that it is followed from. -/
def near : Direction → Edge → String
  | incoming => Edge.target
  | outgoing => Edge.source

/-- The other end of an edge. -/
def far : Direction → Edge → String
  | incoming => Edge.source
  | outgoing => Edge.target

end Direction

section Places

variable {α : Type} {as : Array α} {p : α → Bool}

theorem mem_places_iff {k : Nat} : k ∈ places as p ↔ ∃ a, as[k]? = some a ∧ p a = true := by
  rw [places, List.mem_filter, List.mem_range, Option.any_eq_true]
  constructor
  · rintro ⟨-, a, found, holds⟩
    exact ⟨a, found, holds⟩
  · rintro ⟨a, found, holds⟩
    exact ⟨(Array.getElem?_eq_some_iff.mp found).1, a, found, holds⟩

theorem pairwise_places (as : Array α) (p : α → Bool) : (places as p).Pairwise (· < ·) :=
  List.pairwise_lt_range.filter _

theorem filterMap_getElem?_range (l : List α) : (List.range l.length).filterMap (l[·]?) = l := by
  induction l with
  | nil => rfl
  | cons a l ih =>
    rw [List.length_cons, List.range_succ_eq_map, List.filterMap_cons_some List.getElem?_cons_zero,
      List.filterMap_map]
    exact congrArg (a :: ·) ih

theorem filterMap_places (as : Array α) (p : α → Bool) :
    (places as p).filterMap (as[·]?) = as.toList.filter p := by
  obtain ⟨l⟩ := as
  rw [places, List.filterMap_filter, ← congrArg (List.filter p) (filterMap_getElem?_range l),
    List.filter_filterMap]
  refine List.filterMap_congr fun k _ => ?_
  cases found : l[k]? with
  | none => simp [found]
  | some a => by_cases holds : p a <;> simp [found, holds, Option.filter]

theorem insertPlace_eq_orderedInsert (k : Nat) (ks : List Nat) :
    insertPlace k ks = ks.orderedInsert (· ≤ ·) k := by
  induction ks with
  | nil => rfl
  | cons j ks ih => rw [insertPlace, List.orderedInsert_cons, ih]

theorem sortPlaces_eq_insertionSort (ks : List Nat) :
    sortPlaces ks = ks.reverse.insertionSort (· ≤ ·) := by
  simp only [sortPlaces, List.insertionSort, List.foldr_reverse, insertPlace_eq_orderedInsert]

/-- Sorting brings the places at which a property holds into their order. -/
theorem sortPlaces_eq_places {ks : List Nat} (distinct : ks.Nodup)
    (same : ∀ k, k ∈ ks ↔ k ∈ places as p) : sortPlaces ks = places as p := by
  have ascending := pairwise_places as p
  rw [sortPlaces_eq_insertionSort]
  refine List.Perm.eq_of_pairwise (fun a b _ _ => Nat.le_antisymm)
    (List.pairwise_insertionSort _ _) (ascending.imp Nat.le_of_lt) ?_
  refine ((List.perm_insertionSort _ _).trans ks.reverse_perm).trans ?_
  exact (List.perm_ext_iff_of_nodup distinct (ascending.imp Nat.ne_of_lt)).mpr same

end Places

/-- Telling elements apart by what stands for them keeps the same ones. -/
theorem eraseDups_map {α β : Type} [DecidableEq α] [DecidableEq β] (f : α → β) :
    ∀ {l : List α}, (∀ a ∈ l, ∀ b ∈ l, f a = f b → a = b) →
      (l.map f).eraseDups = l.eraseDups.map f
  | [], _ => by simp
  | a :: l, apart => by
    obtain ⟨first, rest⟩ := List.forall_mem_cons.mp apart
    have others : (l.map f).filter (fun b => !b == f a) = (l.filter fun b => !b == a).map f := by
      rw [List.filter_map]
      congr 1
      refine List.filter_congr fun b member => ?_
      have same : f b = f a ↔ b = a :=
        ⟨fun equal => (first b (List.mem_cons_of_mem _ member) equal.symm).symm, congrArg f⟩
      rw [Bool.eq_iff_iff]
      simp [same]
    rw [List.map_cons, List.eraseDups_cons, List.eraseDups_cons, List.map_cons, others]
    refine congrArg (f a :: ·) (eraseDups_map f fun b isB c isC => ?_)
    exact rest b (List.mem_of_mem_filter isB) c
      (List.mem_cons_of_mem _ (List.mem_of_mem_filter isC))
termination_by l => l.length
decreasing_by exact Nat.lt_succ_of_le (List.length_filter_le _ l)

namespace Wiring

@[simp]
theorem workspace_ofWorkspace (w : Workspace) : (ofWorkspace w).workspace = w := rfl

@[simp]
theorem function?_ofWorkspace (w : Workspace) : (ofWorkspace w).function? = w.function? := rfl

theorem getElem?_index (nodes : List Node) (id : String) :
    (index nodes)[id]? =
      (List.finRange nodes.length).reverse.find? fun i => (nodes.get i).id = id := by
  have step (places : List (Fin nodes.length)) (byId : Std.TreeMap String (Fin nodes.length)) :
      (places.foldl (fun byId i => byId.insert nodes[i].id i) byId)[id]? =
        (places.reverse.find? fun i => (nodes.get i).id = id).or byId[id]? := by
    induction places generalizing byId with
    | nil => simp
    | cons i places ih =>
      rw [List.foldl_cons, ih, Std.TreeMap.getElem?_insert, List.reverse_cons, List.find?_append]
      by_cases same : nodes[i.val].id = id
      · simp [same]
      · have other : ¬ compare nodes[i.val].id id = .eq := by simpa using same
        simp [same, other]
  rw [index, step]
  simp

theorem node?_ofWorkspace (w : Workspace) (id : String) :
    (ofWorkspace w).node? id = w.lastNode? id := by
  have listed : w.nodes.reverse = (List.finRange w.nodes.length).reverse.map (w.nodes[·]) := by
    rw [List.map_reverse]
    exact congrArg List.reverse (List.map_getElem_finRange w.nodes).symm
  rw [Workspace.lastNode?, listed, List.find?_map]
  exact congrArg (Option.map _) (getElem?_index w.nodes id)

theorem isSome_nodeIndices (w : Workspace) (id : String) :
    (ofWorkspace w).nodeIndices[id]?.isSome = w.hasNode id := by
  have found := congrArg Option.isSome (node?_ofWorkspace w id)
  rw [node?, Option.isSome_map] at found
  rw [found, Workspace.hasNode, Workspace.lastNode?, List.isSome_find?, List.any_reverse]

/-- A place is found by the id of the node there. -/
theorem idAt_of_place {w : Workspace} {id : String} {i : Fin w.nodes.length}
    (place : (ofWorkspace w).nodeIndices[id]? = some i) : (ofWorkspace w).idAt i = id := by
  have found := List.find?_some ((getElem?_index w.nodes id).symm.trans place)
  exact of_decide_eq_true found

/-- The last node with an id is at the place of the id. -/
theorem lastNode?_of_place {w : Workspace} {id : String} {i : Fin w.nodes.length}
    (place : (ofWorkspace w).nodeIndices[id]? = some i) : w.lastNode? id = some w.nodes[i] := by
  rw [← node?_ofWorkspace, node?, place]
  rfl

end Wiring

/-! ### The links -/

namespace Graph

variable {size : Nat}

theorem linkOf?_eq_some_iff {byId : Std.TreeMap String (Fin size)} {e : Edge} {l : Link size} :
    linkOf? byId e = some l ↔
      byId[e.source]? = some l.source ∧ byId[e.target]? = some l.target ∧ l.edge = e := by
  obtain ⟨source, target, edge⟩ := l
  unfold linkOf?
  split
  next i j isSource isTarget =>
    simp only [isSource, isTarget, Option.some.injEq, Link.mk.injEq]
    tauto
  next missing =>
    refine iff_of_false nofun fun ⟨isSource, isTarget, _⟩ => missing _ _ isSource isTarget

theorem map_edge_linkOf? (byId : Std.TreeMap String (Fin size)) (e : Edge) :
    (linkOf? byId e).map Link.edge =
      Option.guard (fun e => byId[e.source]?.isSome && byId[e.target]?.isSome) e := by
  cases isSource : byId[e.source]? <;> cases isTarget : byId[e.target]? <;>
    simp [linkOf?, Option.guard, isSource, isTarget]

theorem toList_links_ofEdges (byId : Std.TreeMap String (Fin size)) (edges : List Edge) :
    (ofEdges byId edges).links.toList = edges.filterMap (linkOf? byId) := by
  have step (g : Graph size) :
      (edges.foldl (fun g e => (linkOf? byId e).elim g g.addLink) g).links.toList =
        g.links.toList ++ edges.filterMap (linkOf? byId) := by
    induction edges generalizing g with
    | nil => simp
    | cons e edges ih =>
      rw [List.foldl_cons, ih]
      cases link : linkOf? byId e with
      | none => simp [link]
      | some l => simp [link, addLink]
  exact step empty

theorem sortPlaces_incident (g : Graph size) (i : Fin size) (d : Direction) :
    sortPlaces (g.incident i d) = places g.links (·.near d = i) := by
  rw [incident_eq]
  refine sortPlaces_eq_places (List.nodup_reverse.mpr ?_) fun k => List.mem_reverse
  exact (pairwise_places ..).imp Nat.ne_of_lt

end Graph

namespace Wiring

variable {w : Workspace} {l : Link w.nodes.length}

theorem toList_links_ofWorkspace (w : Workspace) :
    (ofWorkspace w).graph.links.toList =
      w.edges.filterMap (Graph.linkOf? (ofWorkspace w).nodeIndices) :=
  Graph.toList_links_ofEdges ..

/-- The ends of the link have the places of the ids that its edge names. -/
structure IsPlaced (w : Workspace) (l : Link w.nodes.length) : Prop where
  near : ∀ d : Direction, (ofWorkspace w).nodeIndices[d.near l.edge]? = some (l.near d)
  far : ∀ d : Direction, (ofWorkspace w).nodeIndices[d.far l.edge]? = some (l.far d)

theorem isPlaced_of_mem (member : l ∈ (ofWorkspace w).graph.links.toList) : IsPlaced w l := by
  rw [toList_links_ofWorkspace] at member
  obtain ⟨e, -, link⟩ := List.mem_filterMap.mp member
  obtain ⟨source, target, rfl⟩ := Graph.linkOf?_eq_some_iff.mp link
  exact ⟨fun d => by cases d <;> assumption, fun d => by cases d <;> assumption⟩

theorem map_edge_links (w : Workspace) :
    (ofWorkspace w).graph.links.toList.map Link.edge = w.liveEdges := by
  rw [toList_links_ofWorkspace, List.map_filterMap, Workspace.liveEdges]
  simp only [Graph.map_edge_linkOf?, isSome_nodeIndices, List.filterMap_eq_filter]

/-- What holds of the links by their places and of the live edges by the ids picks the same ones. -/
theorem map_edge_filter_links {p : Link w.nodes.length → Bool} {q : Edge → Bool}
    (agree : ∀ l, IsPlaced w l → p l = q l.edge) :
    ((ofWorkspace w).graph.links.toList.filter p).map Link.edge = w.liveEdges.filter q := by
  rw [← map_edge_links, List.filter_map]
  congr 1
  exact List.filter_congr fun l member => agree l (isPlaced_of_mem member)

/-- An id and its place are met by the same links. -/
theorem IsPlaced.near_eq_iff (placed : IsPlaced w l) {id : String} {i : Fin w.nodes.length}
    (place : (ofWorkspace w).nodeIndices[id]? = some i) (d : Direction) :
    l.near d = i ↔ d.near l.edge = id := by
  constructor
  · rintro rfl
    rw [← idAt_of_place (placed.near d), idAt_of_place place]
  · rintro rfl
    exact Option.some.inj ((placed.near d).symm.trans place)

/-- No two places that links lead to have one id. -/
theorem IsPlaced.far_eq_of_idAt {l' : Link w.nodes.length} (placed : IsPlaced w l)
    (placed' : IsPlaced w l') {d : Direction}
    (same : (ofWorkspace w).idAt (l.far d) = (ofWorkspace w).idAt (l'.far d)) :
    l.far d = l'.far d := by
  rw [idAt_of_place (placed.far d), idAt_of_place (placed'.far d)] at same
  have place := placed.far d
  rw [same, placed'.far d] at place
  exact (Option.some.inj place).symm

theorem filter_liveEdges_of_missing {id : String} (missing : w.hasNode id = false) (d : Direction)
    (p : Edge → Bool) : w.liveEdges.filter (fun e => d.near e = id && p e) = [] := by
  rw [List.filter_eq_nil_iff]
  intro e live meets
  obtain ⟨-, source, target⟩ := Workspace.mem_liveEdges_iff.mp live
  obtain ⟨rfl, -⟩ : d.near e = id ∧ p e = true := by simpa using meets
  cases d with
  | incoming => simp [show w.hasNode e.target = false from missing] at target
  | outgoing => simp [show w.hasNode e.source = false from missing] at source

theorem neighbours_of_missing {w : Wiring} {id : String} (missing : w.nodeIndices[id]? = none)
    (d : Direction) (handle? : Option String) : w.neighbours d id handle? = [] := by
  rw [neighbours, missing]

/-- Sorted by their places, the links at a node are in the order of all links. -/
theorem neighbours_of_place {w : Wiring} {id : String} {i : Fin w.workspace.nodes.length}
    (place : w.nodeIndices[id]? = some i) (d : Direction) (handle? : Option String) :
    w.neighbours d id handle? =
      (((w.graph.links.toList.filter fun l =>
        l.near d = i && passes handle? (d.handle? l.edge)).map (·.far d)).eraseDups.map
          w.idAt).filterMap w.node? := by
  simp only [neighbours, place, Graph.sortPlaces_incident, filterMap_places, List.filter_filter,
    Bool.and_comm, List.filterMap_map, Function.comp_def]

/-- The neighbours of a node are the last nodes with the ids at the other ends of its live edges, in
the order of these. -/
theorem neighbours_eq_filterMap (w : Workspace) (d : Direction) (id : String)
    (handle? : Option String) :
    (ofWorkspace w).neighbours d id handle? =
      ((w.liveEdges.filter fun e => d.near e = id && passes handle? (d.handle? e)).map
        d.far).eraseDups.filterMap w.lastNode? := by
  have last : (ofWorkspace w).node? = w.lastNode? := funext (node?_ofWorkspace w)
  cases place : (ofWorkspace w).nodeIndices[id]? with
  | none =>
    have missing : w.hasNode id = false := by rw [← isSome_nodeIndices, place]; rfl
    rw [neighbours_of_missing place, filter_liveEdges_of_missing missing]
    rfl
  | some i =>
    let passing := (ofWorkspace w).graph.links.toList.filter fun l =>
      l.near d = i && passes handle? (d.handle? l.edge)
    have edges : passing.map Link.edge =
        w.liveEdges.filter fun e => d.near e = id && passes handle? (d.handle? e) := by
      refine map_edge_filter_links fun l placed => ?_
      rw [decide_eq_decide.mpr (placed.near_eq_iff place d)]
    have placed : ∀ l ∈ passing, IsPlaced w l :=
      fun l member => isPlaced_of_mem (List.mem_of_mem_filter member)
    have ids : (passing.map (·.far d)).map (ofWorkspace w).idAt =
        (passing.map Link.edge).map d.far := by
      rw [List.map_map, List.map_map]
      exact List.map_congr_left fun l member => idAt_of_place ((placed l member).far d)
    rw [neighbours_of_place place, ← eraseDups_map, ids, edges, last]
    intro i isFar j isFar' same
    obtain ⟨l, member, rfl⟩ := List.mem_map.mp isFar
    obtain ⟨l', member', rfl⟩ := List.mem_map.mp isFar'
    exact (placed l member).far_eq_of_idAt (placed l' member') same

end Wiring

end PolicyCanvas
