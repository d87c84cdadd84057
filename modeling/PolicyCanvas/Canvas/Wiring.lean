import Std.Data.TreeMap
import PolicyCanvas.Canvas.Workspace

/-!
# The wiring of a workspace

The nodes of a workspace are looked up by id, and its edges make up a graph in which nodes are known
by their places. Of several nodes with one id the last one counts, and every edge belongs to it; an
edge without a node at either end is no part of the graph. The neighbours of a node are listed in
the order of the edge array, each at its first edge.

The sub-flow of a node is all that is joined to it by edges, whichever way they point, without
passing through another policy: adjacent policies that share a filter or a schema keep sub-flows of
their own.
-/

namespace PolicyCanvas

/-- Which way edges are followed from a node. -/
inductive Direction where
  | incoming
  | outgoing
deriving DecidableEq, Repr

/-- The handle of an edge at the node that it is followed from. -/
def Direction.handle? : Direction → Edge → Option String
  | incoming => Edge.targetHandle?
  | outgoing => Edge.sourceHandle?

/-- An edge between two of `size` nodes. -/
structure Link (size : Nat) where
  source : Fin size
  target : Fin size
  edge : Edge

/-- The places, in ascending order, at which the property holds. -/
def places {α : Type} (as : Array α) (p : α → Bool) : List Nat :=
  (List.range as.size).filter fun k => as[k]?.any p

theorem places_push {α : Type} (as : Array α) (p : α → Bool) (a : α) :
    places (as.push a) p = places as p ++ if p a then [as.size] else [] := by
  have before : (List.range as.size).filter (fun k => (as.push a)[k]?.any p) = places as p := by
    refine List.filter_congr fun k inside => ?_
    have inside : k < as.size := List.mem_range.mp inside
    rw [Array.getElem?_push, if_neg (Nat.ne_of_lt inside)]
  rw [places, Array.size_push, List.range_succ, List.filter_append, before]
  by_cases holds : p a <;> simp [holds]

/-- Puts a place before the first one that is not smaller. -/
def insertPlace (k : Nat) : List Nat → List Nat
  | [] => [k]
  | j :: js => if k ≤ j then k :: j :: js else j :: insertPlace k js

/-- The places in ascending order. -/
def sortPlaces (ks : List Nat) : List Nat :=
  ks.foldl (fun sorted k => insertPlace k sorted) []

/-- Links between `size` nodes, with the places of those that enter and of those that leave each
node. The link added last comes first. -/
structure Graph (size : Nat) where
  links : Array (Link size)
  entering : Vector (List Nat) size
  leaving : Vector (List Nat) size
  entering_eq : ∀ i : Fin size, entering[i] = (places links (·.target = i)).reverse
  leaving_eq : ∀ i : Fin size, leaving[i] = (places links (·.source = i)).reverse

variable {size : Nat}

namespace Link

/-- The node that the link is followed from. -/
def near (l : Link size) : Direction → Fin size
  | .incoming => l.target
  | .outgoing => l.source

/-- The node that the link is followed to. -/
def far (l : Link size) : Direction → Fin size
  | .incoming => l.source
  | .outgoing => l.target

/-- The other end of a link of the node. -/
def across (l : Link size) (i : Fin size) : Fin size :=
  if l.source = i then l.target else l.source

end Link

namespace Graph

def empty : Graph size where
  links := #[]
  entering := .replicate size []
  leaving := .replicate size []
  entering_eq i := by simp [places]
  leaving_eq i := by simp [places]

theorem getElem_set_places {links : Array (Link size)} {endOf : Link size → Fin size}
    {byEnd : Vector (List Nat) size}
    (byEnd_eq : ∀ i : Fin size, byEnd[i] = (places links (endOf · = i)).reverse) (l : Link size)
    (i : Fin size) :
    (byEnd.set (endOf l) (links.size :: byEnd[endOf l]))[i] =
      (places (links.push l) (endOf · = i)).reverse := by
  rw [places_push, List.reverse_append, ← byEnd_eq]
  by_cases same : endOf l = i
  · subst same
    simp
  · have apart : (endOf l).val ≠ i.val := fun equal => same (Fin.ext equal)
    simp [same, apart]

def addLink (g : Graph size) (l : Link size) : Graph size where
  links := g.links.push l
  entering := g.entering.set l.target (g.links.size :: g.entering[l.target])
  leaving := g.leaving.set l.source (g.links.size :: g.leaving[l.source])
  entering_eq := getElem_set_places g.entering_eq l
  leaving_eq := getElem_set_places g.leaving_eq l

/-- The places of the links of a node, the newest first. -/
def incident (g : Graph size) (i : Fin size) : Direction → List Nat
  | .incoming => g.entering[i]
  | .outgoing => g.leaving[i]

theorem incident_eq (g : Graph size) (i : Fin size) (d : Direction) :
    g.incident i d = (places g.links (·.near d = i)).reverse := by
  cases d with
  | incoming => exact g.entering_eq i
  | outgoing => exact g.leaving_eq i

/-- The link that an edge makes between the nodes with these ids. -/
def linkOf? (byId : Std.TreeMap String (Fin size)) (e : Edge) : Option (Link size) :=
  match byId[e.source]?, byId[e.target]? with
  | some source, some target => some ⟨source, target, e⟩
  | _, _ => none

/-- The graph of the edges whose ends are both there. -/
def ofEdges (byId : Std.TreeMap String (Fin size)) (edges : List Edge) : Graph size :=
  edges.foldl (fun g e => (linkOf? byId e).elim g g.addLink) empty

end Graph

structure Wiring where
  workspace : Workspace
  /-- The places of the nodes by their ids. -/
  nodeIndices : Std.TreeMap String (Fin workspace.nodes.length)
  graph : Graph workspace.nodes.length

namespace Wiring

/-- The places of the nodes by id, a later one instead of an earlier one. -/
def index (nodes : List Node) : Std.TreeMap String (Fin nodes.length) :=
  (List.finRange nodes.length).foldl (fun byId i => byId.insert nodes[i].id i) ∅

def ofWorkspace (w : Workspace) : Wiring :=
  let nodeIndices := index w.nodes
  { workspace := w
    nodeIndices
    graph := .ofEdges nodeIndices w.edges }

/-- The last node with the id. -/
def node? (w : Wiring) (id : String) : Option Node :=
  w.nodeIndices[id]?.map fun i => w.workspace.nodes[i]

/-- The id of the node at a place. -/
def idAt (w : Wiring) (i : Fin w.workspace.nodes.length) : String := w.workspace.nodes[i].id

/-- Whether an edge passes a restriction on its handle; without one every edge does. -/
def passes (handle? edgeHandle? : Option String) : Bool :=
  match handle? with
  | none => true
  | some h => edgeHandle? = some h

/-- The nodes that the edges of a node lead to, restricted to a handle of it if one is given. -/
def neighbours (w : Wiring) (d : Direction) (id : String) (handle? : Option String) :
    List Node :=
  match w.nodeIndices[id]? with
  | none => []
  | some i =>
    let links := (sortPlaces (w.graph.incident i d)).filterMap (w.graph.links[·]?)
    let passing := links.filter fun l => passes handle? (d.handle? l.edge)
    (passing.map (·.far d)).eraseDups.filterMap fun other => w.node? (w.idAt other)

/-- The nodes with an edge into the node, restricted to a handle of it if one is given. -/
def incomers (w : Wiring) (id : String) (handle? : Option String) : List Node :=
  w.neighbours .incoming id handle?

/-- The nodes with an edge out of the node, restricted to a handle of it if one is given. -/
def outgoers (w : Wiring) (id : String) (handle? : Option String) : List Node :=
  w.neighbours .outgoing id handle?

theorem mem_nodes_of_node? {w : Wiring} {id : String} {n : Node} (found : w.node? id = some n) :
    n ∈ w.workspace.nodes := by
  obtain ⟨i, -, rfl⟩ := Option.map_eq_some_iff.mp found
  exact List.getElem_mem i.isLt

theorem mem_nodes_of_mem_neighbours {w : Wiring} {d : Direction} {id : String}
    {handle? : Option String} {n : Node} (member : n ∈ w.neighbours d id handle?) :
    n ∈ w.workspace.nodes := by
  unfold neighbours at member
  split at member
  · cases member
  · obtain ⟨other, -, found⟩ := List.mem_filterMap.mp member
    exact mem_nodes_of_node? found

/-- The function of the catalog with the id. -/
def function? (w : Wiring) (functionId : String) : Option FunctionSpec :=
  w.workspace.function? functionId

/-- How many ids the nodes have. -/
def idCount (w : Wiring) : Nat := w.nodeIndices.size

end Wiring

/-! ### Sub-flows -/

/-- One more key that is seen leaves fewer elements to be seen. -/
theorem length_filter_notMem_cons_lt {α β : Type} [DecidableEq β] (key : α → β) {l : List α}
    {seen : List β} {a : α} (member : a ∈ l) (new : key a ∉ seen) :
    (l.filter (key · ∉ key a :: seen)).length < (l.filter (key · ∉ seen)).length := by
  have left : l.filter (key · ∉ key a :: seen) =
      (l.filter (key · ∉ seen)).filter (key · ≠ key a) := by
    rw [List.filter_filter]
    refine List.filter_congr fun b _ => ?_
    simp [List.mem_cons, not_or]
  rw [left, List.length_filter_lt_length_iff_exists]
  exact ⟨a, by simp [member, new], by simp⟩

/-- A search for the nodes of a sub-flow, on its way. -/
structure Search (size : Nat) where
  visited : List (Fin size)
  /-- The places of the links that led from one node to another. -/
  crossed : List Nat
  /-- The visited nodes whose links have not been looked at. -/
  worklist : List (Fin size)

namespace Search

def start (i : Fin size) : Search size := ⟨[i], [], [i]⟩

/-- Crosses the link at a place to the node at its other end. -/
def cross (s : Search size) (place : Nat) (other : Fin size) : Search size :=
  let crossed := s.crossed.insert place
  if other ∈ s.visited then { s with crossed }
  else ⟨other :: s.visited, crossed, s.worklist ++ [other]⟩

/-- How many nodes are left to be gone on from, counting those that were not visited. -/
def remaining (s : Search size) : Nat :=
  s.worklist.length + ((List.finRange size).filter (· ∉ s.visited)).length

theorem remaining_cross_le (s : Search size) (place : Nat) (other : Fin size) :
    (s.cross place other).remaining ≤ s.remaining := by
  unfold cross
  split
  · exact Nat.le_refl _
  next new =>
    have fewer := length_filter_notMem_cons_lt id (List.mem_finRange other) new
    simp only [id] at fewer
    simp only [remaining, List.length_append, List.length_singleton]
    omega

end Search

/-- Nodes and edges in the order of the workspace. -/
structure SubFlow where
  nodes : List Node
  edges : List Edge

namespace Wiring

variable (w : Wiring)

/-- Other policies than the start are not entered. -/
def mayEnter (start other : Fin w.workspace.nodes.length) : Bool :=
  other == start || !(w.node? (w.idAt other)).any Node.isPolicy

/-- Looks at the link of the current node at a place. -/
def follow (start current : Fin w.workspace.nodes.length)
    (s : Search w.workspace.nodes.length) (place : Nat) : Search w.workspace.nodes.length :=
  match w.graph.links[place]? with
  | none => s
  | some l => if w.mayEnter start (l.across current) then s.cross place (l.across current) else s

theorem remaining_foldl_follow_le (start current : Fin w.workspace.nodes.length)
    (s : Search w.workspace.nodes.length) (incident : List Nat) :
    (incident.foldl (w.follow start current) s).remaining ≤ s.remaining := by
  induction incident generalizing s with
  | nil => exact Nat.le_refl _
  | cons place incident ih =>
    refine Nat.le_trans (ih _) ?_
    unfold follow
    split
    · exact Nat.le_refl _
    · split
      · exact s.remaining_cross_le ..
      · exact Nat.le_refl _

/-- Goes on from one node of the worklist after the other, along the edges out of it and then along
those into it. -/
def search (start : Fin w.workspace.nodes.length) (s : Search w.workspace.nodes.length) :
    Search w.workspace.nodes.length :=
  match _ : s.worklist with
  | [] => s
  | current :: worklist =>
    search start ((w.graph.incident current .outgoing ++ w.graph.incident current .incoming).foldl
      (w.follow start current) { s with worklist })
termination_by s.remaining
decreasing_by
  refine Nat.lt_of_le_of_lt (w.remaining_foldl_follow_le ..) ?_
  simp only [Search.remaining, *, List.length_cons]
  omega

/-- Nothing belongs to an id that no node has. -/
def subFlow (id : String) : SubFlow :=
  match w.nodeIndices[id]? with
  | none => ⟨[], []⟩
  | some start =>
    let found := w.search start (.start start)
    let links := (sortPlaces found.crossed).filterMap (w.graph.links[·]?)
    { nodes := w.workspace.nodes.filter fun n => w.nodeIndices[n.id]?.any (· ∈ found.visited)
      edges := links.map Link.edge }

end Wiring

end PolicyCanvas
