import PolicyCanvas.Proofs.LiveGraph

/-!
# Neighbours read off the edge array

Incomers and outgoers, read off the edge array: a live edge counts when it ends where it should and
passes the handle, each neighbour is taken at its first edge, and of several nodes with one id the
last one counts. These are the lists that a wiring finds in its graph (`incomers_ofWorkspace`,
`outgoers_ofWorkspace`).
-/

namespace PolicyCanvas

namespace Workspace

/-- The ids with a live edge into `id`, restricted to a handle of it if one is given. -/
def sourcesInto (w : Workspace) (id : String) (handle? : Option String) : List String :=
  ((w.liveEdges.filter fun e => e.target = id && Wiring.passes handle? e.targetHandle?).map
    Edge.source).eraseDups

/-- The ids with a live edge out of `id`, restricted to a handle of it if one is given. -/
def targetsOutOf (w : Workspace) (id : String) (handle? : Option String) : List String :=
  ((w.liveEdges.filter fun e => e.source = id && Wiring.passes handle? e.sourceHandle?).map
    Edge.target).eraseDups

def predecessors (w : Workspace) (id : String) (handle? : Option String) : List Node :=
  (w.sourcesInto id handle?).filterMap w.lastNode?

def successors (w : Workspace) (id : String) (handle? : Option String) : List Node :=
  (w.targetsOutOf id handle?).filterMap w.lastNode?

end Workspace

/-- The nodes that `view` has something to show of, each with what it shows. -/
def Node.seenBy {α : Type} (view : Node → Option α) (nodes : List Node) : List (Node × α) :=
  nodes.filterMap fun n => (view n).map (n, ·)

namespace Workspace

variable {α : Type}

/-- The predecessors of one kind, with their settings. -/
def predecessorsOf (w : Workspace) (id : String) (handle? : Option String)
    (view : Node → Option α) : List (Node × α) :=
  Node.seenBy view (w.predecessors id handle?)

/-- The successors of one kind, with their settings. -/
def successorsOf (w : Workspace) (id : String) (handle? : Option String)
    (view : Node → Option α) : List (Node × α) :=
  Node.seenBy view (w.successors id handle?)

/-- What `view` shows of the last node with the id. -/
def shown? (w : Workspace) (view : Node → Option α) (id : String) : Option (Node × α) :=
  (w.lastNode? id).bind fun n => (view n).map (n, ·)

theorem predecessorsOf_eq_filterMap (w : Workspace) (id : String) (handle? : Option String)
    (view : Node → Option α) :
    w.predecessorsOf id handle? view = (w.sourcesInto id handle?).filterMap (w.shown? view) :=
  List.filterMap_filterMap

theorem successorsOf_eq_filterMap (w : Workspace) (id : String) (handle? : Option String)
    (view : Node → Option α) :
    w.successorsOf id handle? view = (w.targetsOutOf id handle?).filterMap (w.shown? view) :=
  List.filterMap_filterMap

end Workspace

/-- With distinct keys what is found is what has the key. -/
theorem find?_key_eq_some_iff {α : Type} (key : α → String) {l : List α}
    (distinct : (l.map key).Nodup) {k : String} {a : α} :
    l.find? (key · = k) = some a ↔ a ∈ l ∧ key a = k := by
  constructor
  · intro found
    exact ⟨List.mem_of_find?_eq_some found, by simpa using List.find?_some found⟩
  · rintro ⟨member, sameKey⟩
    cases found : l.find? (key · = k) with
    | none => exact absurd sameKey (by simpa using List.find?_eq_none.mp found a member)
    | some b =>
      have foundKey : key b = k := by simpa using List.find?_some found
      have memberFound := List.mem_of_find?_eq_some found
      rw [List.inj_on_of_nodup_map distinct memberFound member (foundKey.trans sameKey.symm)]

/-- With distinct keys the order does not matter for what is found. -/
theorem find?_key_eq_of_perm {α : Type} (key : α → String) {l l' : List α} (perm : l'.Perm l)
    (distinct : (l.map key).Nodup) (k : String) :
    l'.find? (key · = k) = l.find? (key · = k) := by
  ext a
  rw [find?_key_eq_some_iff key distinct,
    find?_key_eq_some_iff key ((perm.map key).nodup_iff.mpr distinct), perm.mem_iff]

/-- With distinct ids the first node with an id is the last one. -/
theorem Workspace.node?_eq_lastNode? {w : Workspace} (distinct : (w.nodes.map Node.id).Nodup)
    (id : String) : w.node? id = w.lastNode? id :=
  (find?_key_eq_of_perm Node.id (List.reverse_perm _) distinct id).symm

/-- With distinct ids a node is the last one with its id. -/
theorem Workspace.lastNode?_eq_some_iff {w : Workspace} (distinct : (w.nodes.map Node.id).Nodup)
    {id : String} {n : Node} : w.lastNode? id = some n ↔ n ∈ w.nodes ∧ n.id = id := by
  rw [← node?_eq_lastNode? distinct, node?, find?_key_eq_some_iff Node.id distinct]

theorem Node.mem_seenBy {α : Type} {view : Node → Option α} {nodes : List Node} {n : Node} {a : α} :
    (n, a) ∈ seenBy view nodes ↔ n ∈ nodes ∧ view n = some a := by
  simp [seenBy]

theorem Node.map_fst_seenBy {α : Type} (view : Node → Option α) (nodes : List Node) :
    (seenBy view nodes).map Prod.fst = nodes.filter fun n => (view n).isSome := by
  induction nodes with
  | nil => rfl
  | cons n nodes ih =>
    rw [seenBy] at ih ⊢
    cases shown : view n with
    | none => simpa [shown] using ih
    | some a => simpa [shown] using ih

theorem Workspace.lastNode?_of_mem_predecessors {w : Workspace} {id : String}
    {handle? : Option String} {n : Node} (member : n ∈ w.predecessors id handle?) :
    w.lastNode? n.id = some n := by
  obtain ⟨source, -, found⟩ := List.mem_filterMap.mp member
  rwa [id_of_lastNode? found]

theorem Workspace.lastNode?_of_mem_successors {w : Workspace} {id : String}
    {handle? : Option String} {n : Node} (member : n ∈ w.successors id handle?) :
    w.lastNode? n.id = some n := by
  obtain ⟨target, -, found⟩ := List.mem_filterMap.mp member
  rwa [id_of_lastNode? found]

namespace Wiring

theorem incomers_ofWorkspace (w : Workspace) (id : String) (handle? : Option String) :
    (ofWorkspace w).incomers id handle? = w.predecessors id handle? :=
  neighbours_eq_filterMap w .incoming id handle?

theorem outgoers_ofWorkspace (w : Workspace) (id : String) (handle? : Option String) :
    (ofWorkspace w).outgoers id handle? = w.successors id handle? :=
  neighbours_eq_filterMap w .outgoing id handle?

variable {α : Type}

theorem filterMap_incomers (w : Workspace) (id : String) (handle? : Option String)
    (view : Node → Option α) :
    (((ofWorkspace w).incomers id handle?).filterMap fun n => (view n).map (n, ·)) =
      w.predecessorsOf id handle? view := by
  rw [incomers_ofWorkspace, Workspace.predecessorsOf, Node.seenBy]

theorem findSome?_incomers (w : Workspace) (id : String) (handle? : Option String)
    (view : Node → Option α) :
    (((ofWorkspace w).incomers id handle?).findSome? fun n => (view n).map (n, ·)) =
      (w.predecessorsOf id handle? view).head? := by
  rw [← filterMap_incomers, List.head?_filterMap]

theorem filter_incomers (w : Workspace) (id : String) (handle? : Option String)
    (view : Node → Option α) :
    (((ofWorkspace w).incomers id handle?).filter fun n => (view n).isSome) =
      (w.predecessorsOf id handle? view).map Prod.fst := by
  rw [incomers_ofWorkspace, Workspace.predecessorsOf, Node.map_fst_seenBy]

theorem filterMap_outgoers (w : Workspace) (id : String) (handle? : Option String)
    (view : Node → Option α) :
    (((ofWorkspace w).outgoers id handle?).filterMap fun n => (view n).map (n, ·)) =
      w.successorsOf id handle? view := by
  rw [outgoers_ofWorkspace, Workspace.successorsOf, Node.seenBy]

theorem findSome?_outgoers (w : Workspace) (id : String) (handle? : Option String)
    (view : Node → Option α) :
    (((ofWorkspace w).outgoers id handle?).findSome? fun n => (view n).map (n, ·)) =
      (w.successorsOf id handle? view).head? := by
  rw [← filterMap_outgoers, List.head?_filterMap]

end Wiring

theorem nodup_eraseDups (ids : List String) : ids.eraseDups.Nodup := by
  cases ids with
  | nil => simp
  | cons id rest =>
    rw [List.eraseDups_cons, List.nodup_cons]
    refine ⟨by simp [List.mem_eraseDups], ?_⟩
    exact nodup_eraseDups (rest.filter fun other => !other == id)
termination_by ids.length
decreasing_by
  have shorter := List.length_filter_le (fun other => !other == id) rest
  simp only [List.length_cons]
  omega

theorem eraseDups_filter (p : String → Bool) (ids : List String) :
    (ids.filter p).eraseDups = ids.eraseDups.filter p := by
  cases ids with
  | nil => simp
  | cons id rest =>
    have ih := eraseDups_filter p (rest.filter fun other => !other == id)
    by_cases kept : p id = true
    · rw [List.filter_cons_of_pos kept, List.eraseDups_cons, List.eraseDups_cons,
        List.filter_cons_of_pos kept, ← ih, List.filter_filter, List.filter_filter]
      simp only [Bool.and_comm]
    · -- what is kept of the rest differs from `id` anyway
      have other : (rest.filter fun other => !other == id).filter p = rest.filter p := by
        rw [List.filter_filter]
        refine List.filter_congr fun other _ => ?_
        by_cases same : other = id <;> simp [same, kept]
      rw [List.filter_cons_of_neg kept, List.eraseDups_cons, List.filter_cons_of_neg kept, ← ih,
        other]
termination_by ids.length
decreasing_by
  have shorter := List.length_filter_le (fun other => !other == id) rest
  simp only [List.length_cons]
  omega

/-- Edges to whose ends nothing is found may be left out. -/
theorem filterMap_eraseDups_congr {α : Type} {edges edges' : List Edge} (endOf : Edge → String)
    {found found' : String → Option α} (agree : ∀ e ∈ edges', found' (endOf e) = found (endOf e))
    (same : edges'.filter (fun e => (found (endOf e)).isSome) =
      edges.filter fun e => (found (endOf e)).isSome) :
    (edges'.map endOf).eraseDups.filterMap found' =
      (edges.map endOf).eraseDups.filterMap found := by
  have leave_out (edges : List Edge) : (edges.map endOf).eraseDups.filterMap found =
      ((edges.filter fun e => (found (endOf e)).isSome).map endOf).eraseDups.filterMap found := by
    rw [show (fun e => (found (endOf e)).isSome) = (fun id => (found id).isSome) ∘ endOf from rfl,
      ← List.filter_map, eraseDups_filter, List.filterMap_filter]
    refine List.filterMap_congr fun id _ => ?_
    cases found id <;> rfl
  rw [leave_out edges, ← same, ← leave_out edges']
  refine List.filterMap_congr fun id member => ?_
  obtain ⟨e, isEdge, rfl⟩ := List.mem_map.mp (List.mem_eraseDups.mp member)
  exact agree e isEdge

theorem Node.ids_seenBy_sublist {α : Type} (view : Node → Option α) (nodes : List Node) :
    ((seenBy view nodes).map (·.1.id)).Sublist (nodes.map Node.id) := by
  induction nodes with
  | nil => simp [seenBy]
  | cons n nodes ih =>
    rw [seenBy] at ih ⊢
    cases shown : view n with
    | none => simpa [shown] using ih.cons n.id
    | some a => simpa [shown] using ih

namespace Workspace

variable {α : Type}

theorem ids_filterMap_lastNode?_sublist (w : Workspace) (ids : List String) :
    ((ids.filterMap w.lastNode?).map Node.id).Sublist ids := by
  induction ids with
  | nil => simp
  | cons id ids ih =>
    cases found : w.lastNode? id with
    | none => simpa [found] using ih.cons id
    | some n => simpa [found, id_of_lastNode? found] using ih

theorem nodup_ids_predecessorsOf (w : Workspace) (id : String) (handle? : Option String)
    (view : Node → Option α) : ((w.predecessorsOf id handle? view).map (·.1.id)).Nodup :=
  ((Node.ids_seenBy_sublist view _).trans (w.ids_filterMap_lastNode?_sublist _)).nodup
    (nodup_eraseDups _)

theorem nodup_ids_successorsOf (w : Workspace) (id : String) (handle? : Option String)
    (view : Node → Option α) : ((w.successorsOf id handle? view).map (·.1.id)).Nodup :=
  ((Node.ids_seenBy_sublist view _).trans (w.ids_filterMap_lastNode?_sublist _)).nodup
    (nodup_eraseDups _)

end Workspace

end PolicyCanvas
