import PolicyCanvas.Proofs.Neighbours

/-!
# Neighbours by a plain scan

The neighbours of a node, found by nothing but a scan of the edges of the workspace in their order:
an edge counts when both of its ends are there, it meets the node the right way round and it passes
the handle, and the id at its other end is listed unless it has been listed before. The graph of a
wiring leads to the same ids in the same order, and to the last node with each of them
(`neighbours_eq_scan`).
-/

namespace PolicyCanvas

namespace Workspace

/-- The edge leads from one node to another and meets the id, through the handle if one is given. -/
def Meets (w : Workspace) (d : Direction) (id : String) (handle? : Option String) (e : Edge) :
    Prop :=
  (∃ n ∈ w.nodes, n.id = e.source) ∧ (∃ n ∈ w.nodes, n.id = e.target) ∧ d.near e = id ∧
    ∀ handle ∈ handle?, d.handle? e = some handle

instance (w : Workspace) (d : Direction) (id : String) (handle? : Option String) :
    DecidablePred (w.Meets d id handle?) :=
  fun _ => inferInstanceAs (Decidable (_ ∧ _))

/-- The ids at the other ends of the edges that meet the id, in the order of the edges. Those that
were seen are passed over. -/
def scan (w : Workspace) (d : Direction) (id : String) (handle? : Option String)
    (seen : List String) : List Edge → List String
  | [] => []
  | e :: edges =>
    if w.Meets d id handle? e ∧ d.far e ∉ seen then
      d.far e :: scan w d id handle? (d.far e :: seen) edges
    else scan w d id handle? seen edges

variable {w : Workspace} {d : Direction} {id : String} {handle? : Option String}

/-- Scanning lists the other ends of the edges that meet the id, each once. -/
theorem scan_eq_eraseDups (seen : List String) (edges : List Edge) :
    w.scan d id handle? seen edges =
      (((edges.filter (w.Meets d id handle?)).map d.far).filter (· ∉ seen)).eraseDups := by
  induction edges generalizing seen with
  | nil => rfl
  | cons e edges ih =>
    rw [scan]
    by_cases meets : w.Meets d id handle? e
    · rw [List.filter_cons_of_pos (by simpa using meets), List.map_cons]
      by_cases listed : d.far e ∈ seen
      · rw [if_neg (fun new => new.2 listed), ih, List.filter_cons_of_neg (by simpa using listed)]
      · rw [if_pos ⟨meets, listed⟩, ih, List.filter_cons_of_pos (by simpa using listed),
          List.eraseDups_cons, List.filter_filter]
        congr 2
        refine List.filter_congr fun other _ => ?_
        rw [Bool.eq_iff_iff]
        simp
    · rw [if_neg (fun counts => meets counts.1), ih, List.filter_cons_of_neg (by simpa using meets)]

theorem passes_iff {edgeHandle? : Option String} :
    Wiring.passes handle? edgeHandle? = true ↔ ∀ handle ∈ handle?, edgeHandle? = some handle := by
  cases handle? <;> simp [Wiring.passes]

/-- The edges that a scan counts are the live ones at the id that pass the handle. -/
theorem filter_liveEdges_eq_meets (w : Workspace) (d : Direction) (id : String)
    (handle? : Option String) :
    w.liveEdges.filter (fun e => d.near e = id && Wiring.passes handle? (d.handle? e)) =
      w.edges.filter (w.Meets d id handle?) := by
  rw [liveEdges, List.filter_filter]
  refine List.filter_congr fun e _ => ?_
  rw [Bool.eq_iff_iff, decide_eq_true_iff, Meets]
  simp only [Bool.and_eq_true, decide_eq_true_eq, passes_iff, hasNode_iff]
  tauto

theorem scan_eq_map_far (w : Workspace) (d : Direction) (id : String) (handle? : Option String) :
    w.scan d id handle? [] w.edges =
      ((w.liveEdges.filter fun e => d.near e = id && Wiring.passes handle? (d.handle? e)).map
        d.far).eraseDups := by
  rw [scan_eq_eraseDups, filter_liveEdges_eq_meets]
  simp only [List.not_mem_nil, not_false_eq_true, decide_true, List.filter_true]

theorem exists_meets_of_mem_scan {other : String}
    (member : other ∈ w.scan d id handle? [] w.edges) :
    ∃ e ∈ w.edges, w.Meets d id handle? e ∧ d.far e = other := by
  simpa [scan_eq_eraseDups, and_assoc] using member

theorem Meets.hasNode_near {e : Edge} (meets : w.Meets d id handle? e) : w.hasNode id = true := by
  obtain ⟨source, target, rfl, -⟩ := meets
  cases d with
  | incoming => exact hasNode_iff.mpr target
  | outgoing => exact hasNode_iff.mpr source

theorem Meets.hasNode_far {e : Edge} (meets : w.Meets d id handle? e) :
    w.hasNode (d.far e) = true := by
  obtain ⟨source, target, -, -⟩ := meets
  cases d with
  | incoming => exact hasNode_iff.mpr source
  | outgoing => exact hasNode_iff.mpr target

/-- Ids that nodes have lead to a node each. -/
theorem map_some_filterMap_lastNode? {ids : List String}
    (there : ∀ id ∈ ids, w.hasNode id = true) :
    (ids.filterMap w.lastNode?).map some = ids.map w.lastNode? := by
  induction ids with
  | nil => rfl
  | cons id ids ih =>
    obtain ⟨present, there⟩ := List.forall_mem_cons.mp there
    cases found : w.lastNode? id with
    | none => simp [lastNode?_eq_none_iff.mp found] at present
    | some n => rw [List.filterMap_cons_some found, List.map_cons, List.map_cons, found, ih there]

end Workspace

namespace Wiring

theorem neighbours_ofWorkspace (w : Workspace) (d : Direction) (id : String)
    (handle? : Option String) :
    (ofWorkspace w).neighbours d id handle? =
      (w.scan d id handle? [] w.edges).filterMap w.lastNode? := by
  rw [Workspace.scan_eq_map_far, neighbours_eq_filterMap]

/-- The neighbours that a wiring finds are those of a plain scan: of each id that it lists the last
node, and none is left out. An id that no node has is met by no edge that counts. -/
theorem neighbours_eq_scan (w : Workspace) (d : Direction) (id : String)
    (handle? : Option String) :
    ((ofWorkspace w).neighbours d id handle?).map some =
        (w.scan d id handle? [] w.edges).map w.lastNode? ∧
      (w.hasNode id = false → (ofWorkspace w).neighbours d id handle? = []) := by
  rw [neighbours_ofWorkspace]
  refine ⟨?_, fun missing => ?_⟩
  · refine Workspace.map_some_filterMap_lastNode? fun other member => ?_
    obtain ⟨e, -, meets, rfl⟩ := Workspace.exists_meets_of_mem_scan member
    exact meets.hasNode_far
  · have nothing : w.scan d id handle? [] w.edges = [] := by
      rw [List.eq_nil_iff_forall_not_mem]
      intro other member
      obtain ⟨e, -, meets, -⟩ := Workspace.exists_meets_of_mem_scan member
      simp [meets.hasNode_near] at missing
    rw [nothing, List.filterMap_nil]

end Wiring

/-- Two nodes share an id, two edges lead to or from nowhere, one leads back to its own node, and
another is drawn twice. -/
def Workspace.tangled : Workspace where
  nodes :=
    [.known "shape" none (.validator ⟨.schema, .allOf⟩),
      .known "convert" none (.operation ⟨some "DataHub.transform", ∅, none⟩),
      .known "round" none (.function ⟨"round", none, .javascript, ""⟩),
      .known "shape" none (.schema ⟨"shape", "1", .json, none, none⟩)]
  edges :=
    [⟨"e1", "nowhere", "convert", none, some "deserialiser"⟩,
      ⟨"e2", "round", "convert", none, some "function"⟩,
      ⟨"e3", "shape", "convert", none, some "deserialiser"⟩,
      ⟨"e4", "convert", "convert", some "output", some "deserialiser"⟩,
      ⟨"e5", "round", "convert", none, some "deserialiser"⟩,
      ⟨"e6", "shape", "convert", none, some "deserialiser"⟩,
      ⟨"e7", "convert", "nowhere", some "output", none⟩]
  functions := []

theorem Wiring.neighbours_tangled :
    let w := Workspace.tangled
    let into := (ofWorkspace w).neighbours .incoming "convert" (some "deserialiser")
    w.hasNode "nowhere" = false ∧ (ofWorkspace w).neighbours .outgoing "nowhere" none = [] ∧
      into.map some = [w.lastNode? "shape", w.lastNode? "convert", w.lastNode? "round"] ∧
        into.map Node.tag = ["SCHEMA", "OPERATION", "FUNCTION"] := by
  intro w into
  have missing : w.hasNode "nowhere" = false := by decide
  obtain ⟨found, -⟩ := neighbours_eq_scan w .incoming "convert" (some "deserialiser")
  obtain ⟨-, nothing⟩ := neighbours_eq_scan w .outgoing "nowhere" none
  have scanned : w.scan .incoming "convert" (some "deserialiser") [] w.edges =
      ["shape", "convert", "round"] := by
    decide +kernel
  rw [scanned] at found
  exact ⟨missing, nothing missing, found, by decide +kernel⟩

end PolicyCanvas
