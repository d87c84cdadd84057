import Mathlib.Data.Fin.VecNotation
import Mathlib.Data.List.FinRange
import PolicyCanvas.Proofs.Dependence
import PolicyCanvas.Proofs.Validity

/-!
# The order of a drawing

The nodes and the functions of a workspace may stand in any order, and so may its edges as long as
those that meet at an end of theirs keep their order: a policy comes to the same compilation
(`compile_eq_of_rearranges`). Neighbours are listed in the order of the edges that lead to them, and
these edges meet at the node that is asked about (`filter_eq_of_place`).
-/

namespace PolicyCanvas

namespace Workspace

/-- The same nodes, edges and functions in another order, in which any two edges that have a source
or a target in common follow each other as before. -/
structure Rearranges (w w' : Workspace) : Prop where
  nodes : w'.nodes.Perm w.nodes
  functions : w'.functions.Perm w.functions
  edges : ∃ place : Fin w.edges.length ≃ Fin w'.edges.length,
    (∀ i, w'.edges[place i] = w.edges[i]) ∧
      ∀ i j, i < j →
        w.edges[i].source = w.edges[j].source ∨ w.edges[i].target = w.edges[j].target →
          place i < place j

end Workspace

section

variable {α : Type}

theorem filter_eq_map_finRange (l : List α) (p : α → Bool) :
    l.filter p = ((List.finRange l.length).filter fun i => p l[i]).map fun i => l[i] := by
  conv_lhs => rw [← List.map_getElem_finRange l]
  exact List.filter_map

/-- What passes a filter is the same list when its items keep their order among each other. -/
theorem filter_eq_of_place {l l' : List α} (place : Fin l.length ≃ Fin l'.length)
    (same : ∀ i, l'[place i] = l[i]) {p : α → Bool}
    (ordered : ∀ i j, i < j → p l[i] = true → p l[j] = true → place i < place j) :
    l'.filter p = l.filter p := by
  rw [filter_eq_map_finRange l', filter_eq_map_finRange l]
  set kept := (List.finRange l.length).filter fun i => p l[i] with kept_def
  set kept' := (List.finRange l'.length).filter fun i => p l'[i] with kept'_def
  have sorted : kept.Pairwise (· < ·) := (List.pairwise_lt_finRange _).filter _
  have sorted' : kept'.Pairwise (· < ·) := (List.pairwise_lt_finRange _).filter _
  -- both lists of positions are sorted, so it is enough that they have the same positions
  have perm : (kept.map place).Perm kept' := by
    rw [List.perm_ext_iff_of_nodup (sorted.nodup.map place.injective) sorted'.nodup]
    intro j
    obtain ⟨i, rfl⟩ := place.surjective j
    have passes : p l[i] = p l'[place i] := congrArg p (same i).symm
    simpa [kept_def, kept'_def] using passes
  have moved : kept.map place = kept' := by
    refine perm.eq_of_pairwise (fun _ _ _ _ less more => absurd less more.asymm) ?_ sorted'
    rw [List.pairwise_map]
    refine sorted.imp_of_mem fun {i j} among among' before => ordered i j before ?_ ?_
    · simpa [kept_def] using among
    · simpa [kept_def] using among'
  rw [← moved, List.map_map]
  exact List.map_congr_left fun i _ => same i

end

namespace Workspace.Rearranges

variable {w w' : Workspace} (same : w.Rearranges w')
include same

theorem hasNode_eq (id : String) : w'.hasNode id = w.hasNode id := same.nodes.any_eq

theorem lastNode?_eq (distinct : (w.nodes.map Node.id).Nodup) (id : String) :
    w'.lastNode? id = w.lastNode? id := by
  have distinct' := (same.nodes.map Node.id).nodup_iff.mpr distinct
  rw [← node?_eq_lastNode? distinct', ← node?_eq_lastNode? distinct]
  exact find?_key_eq_of_perm Node.id same.nodes distinct id

theorem function?_eq (distinct : (w.functions.map FunctionSpec.functionId).Nodup) :
    w'.function? = w.function? :=
  funext (find?_key_eq_of_perm FunctionSpec.functionId same.functions distinct)

/-- The live edges of a kind follow each other as before if any two of the kind meet. -/
theorem filter_liveEdges_eq {q : Edge → Bool}
    (meets : ∀ e e', q e = true → q e' = true → e.source = e'.source ∨ e.target = e'.target) :
    w'.liveEdges.filter q = w.liveEdges.filter q := by
  obtain ⟨place, kept, ordered⟩ := same.edges
  simp only [liveEdges, List.filter_filter, same.hasNode_eq]
  refine filter_eq_of_place place kept fun i j before isQ isQ' => ordered i j before ?_
  exact meets _ _ (Bool.and_eq_true_iff.mp isQ).1 (Bool.and_eq_true_iff.mp isQ').1

variable (distinct : (w.nodes.map Node.id).Nodup)
include distinct

theorem predecessors_eq (id : String) (handle? : Option String) :
    w'.predecessors id handle? = w.predecessors id handle? := by
  have last : w'.lastNode? = w.lastNode? := funext (same.lastNode?_eq distinct)
  rw [predecessors, predecessors, sourcesInto, sourcesInto, last, same.filter_liveEdges_eq]
  intro e e' into into'
  simp only [Bool.and_eq_true, decide_eq_true_eq] at into into'
  exact .inr (into.1.trans into'.1.symm)

theorem successors_eq (id : String) (handle? : Option String) :
    w'.successors id handle? = w.successors id handle? := by
  have last : w'.lastNode? = w.lastNode? := funext (same.lastNode?_eq distinct)
  rw [successors, successors, targetsOutOf, targetsOutOf, last, same.filter_liveEdges_eq]
  intro e e' outOf outOf'
  simp only [Bool.and_eq_true, decide_eq_true_eq] at outOf outOf'
  exact .inl (outOf.1.trans outOf'.1.symm)

theorem alike (distinctFunctions : (w.functions.map FunctionSpec.functionId).Nodup) :
    w.Alike w' fun _ => True where
  closed := w.isClosed_everywhere
  functions_eq_nil_iff := by
    rw [← List.length_eq_zero_iff, same.functions.length_eq, List.length_eq_zero_iff]
  function?_eq := same.function?_eq distinctFunctions
  before id _ _ _ _ _ := by rw [predecessorsOf, same.predecessors_eq distinct, predecessorsOf]
  after id _ _ _ _ _ := by rw [successorsOf, same.successors_eq distinct, successorsOf]
  inputs _ _ _ _ _ _ _ _ := by rw [predecessorsOf, same.predecessors_eq distinct, predecessorsOf]
  next id _ handle := by
    rw [firstOperation?, successorsOf, same.successors_eq distinct, firstOperation?, successorsOf]

end Workspace.Rearranges

namespace Workspace

/-- Drawings that only differ in the order of what is in them come to the same compilations, or to
the same refusals, when edges that meet are in the same order in both. -/
theorem compile_eq_of_rearranges (w w' : Workspace) (distinct : (w.nodes.map Node.id).Nodup)
    (distinctFunctions : (w.functions.map FunctionSpec.functionId).Nodup)
    (same : w.Rearranges w') (id : String) : w'.compile id = w.compile id :=
  compile_eq_of_alike (same.alike distinct distinctFunctions) trivial
    (same.lastNode?_eq distinct id)

/-- A policy with two filters, of which the second is one too many. -/
def crossed : Workspace where
  nodes :=
    [.known "policy" none (.dataPolicy ⟨none⟩),
      .known "plant" none (.topicFilter ["plant/+"]),
      .known "office" none (.topicFilter ["office/+"]),
      .known "check" none (.validator ⟨.schema, .allOf⟩),
      .known "shape" none (.schema ⟨"shape", "1", .json, none, none⟩),
      .known "log" none (.operation ⟨some "System.log", ∅, none⟩)]
  edges :=
    [⟨"e1", "plant", "policy", none, none⟩,
      ⟨"e2", "office", "policy", none, none⟩,
      ⟨"e3", "check", "policy", none, none⟩,
      ⟨"e4", "shape", "check", none, none⟩,
      ⟨"e5", "policy", "log", some "onSuccess", none⟩]
  functions :=
    [⟨"Mqtt.drop", ⟨true, false, false⟩, ⟨.null, trivial⟩⟩,
      ⟨"System.log", ⟨false, false, true⟩, ⟨.null, trivial⟩⟩]

theorem compile_eq_crossed :
    let w' : Workspace :=
      { nodes := crossed.nodes.reverse
        edges := crossed.edges.reverse.take 2 ++ crossed.edges.take 3
        functions := crossed.functions.reverse }
    let guarded' : Workspace :=
      { nodes := guarded.nodes.reverse
        edges := guarded.edges.drop 4 ++ (guarded.edges.drop 1).take 3 ++ guarded.edges.take 1
        functions := [] }
    ((crossed.nodes.map Node.id).Nodup ∧
      (crossed.functions.map FunctionSpec.functionId).Nodup ∧ crossed.Rearranges w' ∧
        w'.compile "policy" = crossed.compile "policy" ∧
          ∃ c, crossed.compile "policy" = .ok c ∧
            c.findings.map (fun f => (f.kind, f.id)) = [(.cardinality, "office")]) ∧
    (guarded.nodes.map Node.id).Nodup ∧ (guarded.functions.map FunctionSpec.functionId).Nodup ∧
      guarded.Rearranges guarded' ∧ guarded'.compile "policy" = guarded.compile "policy" ∧
        ∃ c, guarded.compile "policy" = .ok c ∧ c.policy?.isSome = true := by
  intro w' guarded'
  refine ⟨?_, ?_⟩
  · have distinct : (crossed.nodes.map Node.id).Nodup := by decide +kernel
    have distinctFunctions : (crossed.functions.map FunctionSpec.functionId).Nodup := by
      decide +kernel
    have same : crossed.Rearranges w' := by
      refine ⟨List.reverse_perm _, List.reverse_perm _, ?_⟩
      let place : Fin 5 ≃ Fin 5 :=
        { toFun := ![2, 3, 4, 1, 0]
          invFun := ![4, 3, 0, 1, 2]
          left_inv := fun i => by decide +revert
          right_inv := fun i => by decide +revert }
      exact ⟨place, by decide +kernel, by decide +kernel⟩
    have compiled : crossed.compile "policy" = .ok _ := rfl
    exact ⟨distinct, distinctFunctions, same,
      compile_eq_of_rearranges crossed w' distinct distinctFunctions same "policy", _, compiled,
      by decide +kernel⟩
  · have distinct : (guarded.nodes.map Node.id).Nodup := by decide +kernel
    have distinctFunctions : (guarded.functions.map FunctionSpec.functionId).Nodup := .nil
    have same : guarded.Rearranges guarded' := by
      refine ⟨List.reverse_perm _, .nil, ?_⟩
      let place : Fin 10 ≃ Fin 10 :=
        { toFun := ![9, 6, 7, 8, 0, 1, 2, 3, 4, 5]
          invFun := ![4, 5, 6, 7, 8, 9, 1, 2, 3, 0]
          left_inv := fun i => by decide +revert
          right_inv := fun i => by decide +revert }
      exact ⟨place, by decide +kernel, by decide +kernel⟩
    have compiled : guarded.compile "policy" = .ok _ := rfl
    exact ⟨distinct, distinctFunctions, same,
      compile_eq_of_rearranges guarded guarded' distinct distinctFunctions same "policy", _,
      compiled, by decide +kernel⟩

end Workspace

end PolicyCanvas
