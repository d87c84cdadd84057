import Mathlib.Data.List.Induction
import Mathlib.Data.List.Perm.Subperm
import PolicyCanvas.Proofs.PipelineEnd

/-!
# What a pipeline comes to

A pipeline is told by the one chain of operations that leaves its handle. Each operation of it has
an outcome that depends on those before it only in whether one of them ends the pipeline: if none
does it is resolved, and otherwise it is reported once, against the first that does. One more
operation adds its outcome to what is there (`steps_concat`), so a pipeline comes to the outcomes of
its chain in their order (`pipeline_eq_outcomes`), however the drawing loops.
-/

namespace PolicyCanvas

namespace Workspace

/-- The ids that operations have, each once. -/
def operationIds (w : Workspace) : List String :=
  ((w.nodes.filter (·.operation?.isSome)).map Node.id).eraseDups

/-- What an operation comes to after the ones `before` it in a chain. -/
def outcome (w : Workspace) (before : List (Node × OperationSettings))
    (o : Node × OperationSettings) : List (Resolution Gateway.Operation) :=
  match before.find? fun b => w.endsPipeline b.2 with
  | none => Parts.operation (.ofWorkspace w) o.1 o.2
  | some last =>
    let finding : Finding :=
      { kind := .cardinality
        id := o.1.id
        title := o.1.tag
        detail :=
          "Operation '" ++ o.1.id ++ "' follows the terminal operation '" ++ last.1.id ++ "'" }
    [⟨o.1, .error finding, none⟩]

theorem IsChain.length_le_operationIds {w : Workspace} {source handle : String}
    {chain : List (Node × OperationSettings)} (isChain : w.IsChain source handle chain) :
    chain.length ≤ w.operationIds.length := by
  rw [← List.length_map (·.1.id)]
  refine (isChain.distinct.subperm fun id member => ?_).length_le
  obtain ⟨o, follows, rfl⟩ := List.mem_map.mp member
  obtain ⟨last, isOperation⟩ := isChain.isDrawn follows
  have drawn : o.1 ∈ w.nodes := List.mem_reverse.mp (List.mem_of_find?_eq_some last)
  simp only [operationIds, List.mem_eraseDups, List.mem_map, List.mem_filter]
  exact ⟨o.1, ⟨drawn, by simp [isOperation]⟩, rfl⟩

end Workspace

namespace Parts

theorem transform_ne_nil (w : Wiring) (n : Node) (settings : OperationSettings) :
    transform w n settings ≠ [] := by
  cases reads : schemaOn? w n Handle.deserialiser with
  | none => simp [transform, reads]
  | some reader =>
    cases runs : scriptsOn w n with
    | nil => simp [transform, reads, runs]
    | cons s scripts =>
      cases writes : schemaOn? w n Handle.serialiser with
      | none => simp [transform, reads, runs, writes]
      | some writer => simp [transform, reads, runs, writes]

theorem operation_ne_nil (w : Wiring) (n : Node) (settings : OperationSettings) :
    operation w n settings ≠ [] := by
  simp only [operation]
  split_ifs
  · simp
  · exact transform_ne_nil w n settings
  · simp
  · simp

/-- Whatever an operation comes to is a result of its node. -/
theorem node_of_mem_operation {w : Wiring} {n : Node} {settings : OperationSettings}
    {r : Resolution Gateway.Operation} (member : r ∈ operation w n settings) : r.node = n := by
  rcases mem_operation_cases member with ⟨p, -, rfl⟩ | member | ⟨step, rfl⟩
  · rfl
  · rcases mem_transform_cases member with ⟨p, -, rfl⟩ | ⟨_, _, _, _, -, -, rfl⟩ | ⟨_, -, rfl⟩
    · rfl
    · rfl
    · rfl
  · rfl

theorem exists_mem_outcome (w : Workspace) (before : List (Node × OperationSettings))
    (o : Node × OperationSettings) : ∃ r ∈ w.outcome before o, r.node = o.1 := by
  unfold Workspace.outcome
  split
  · obtain ⟨r, member⟩ := List.exists_mem_of_ne_nil _ (operation_ne_nil (.ofWorkspace w) o.1 o.2)
    exact ⟨r, member, node_of_mem_operation member⟩
  · exact ⟨_, List.mem_singleton_self _, rfl⟩

/-- An operation adds its outcome to what those before it come to. -/
theorem steps_concat (w : Workspace) (before : List (Node × OperationSettings))
    (o : Node × OperationSettings) :
    steps (.ofWorkspace w) (before ++ [o]) =
      steps (.ofWorkspace w) before ++ w.outcome before o := by
  cases ended : before.find? fun b => w.endsPipeline b.2 with
  | none =>
    have goesOn : ∀ b ∈ before, w.endsPipeline b.2 = false := by
      simpa using List.find?_eq_none.mp ended
    have own : steps (.ofWorkspace w) [o] = operation (.ofWorkspace w) o.1 o.2 := by
      simp [steps]
    have alone := steps_append_of_goesOn goesOn []
    rw [List.append_nil] at alone
    rw [steps_append_of_goesOn goesOn, own, alone, Workspace.outcome, ended]
    simp [steps]
  | some last =>
    obtain ⟨ends, front, rest, rfl, goesOn⟩ := List.find?_eq_some_iff_append.mp ended
    have goesOn : ∀ b ∈ front, w.endsPipeline b.2 = false := by simpa using goesOn
    rw [List.append_assoc, List.cons_append, steps_append_of_goesOn goesOn,
      steps_append_of_goesOn goesOn, steps_cons_of_endsPipeline ends,
      steps_cons_of_endsPipeline ends, Workspace.outcome, ended, List.map_append]
    simp only [List.append_assoc]
    rfl

/-- A chain comes to the outcomes of its operations. -/
theorem steps_eq_outcomes (w : Workspace) (chain : List (Node × OperationSettings)) :
    steps (.ofWorkspace w) chain =
      chain.zipIdx.flatMap fun (o, i) => w.outcome (chain.take i) o := by
  induction chain using List.reverseRecOn with
  | nil => rfl
  | append_singleton before o ih =>
    have earlier : (before.zipIdx.flatMap fun (b, i) => w.outcome ((before ++ [o]).take i) b) =
        before.zipIdx.flatMap fun (b, i) => w.outcome (before.take i) b := by
      refine List.flatMap_congr fun (b, i) member => ?_
      have inside : i < before.length := by simpa using (List.mem_zipIdx member).2.1
      dsimp only
      rw [List.take_append_of_le_length (by omega)]
    rw [steps_concat, ih, List.zipIdx_append, List.flatMap_append, earlier]
    simp

end Parts

/-- A handle has exactly one chain, of no more operations than have ids of their own, and the
pipeline comes to the outcomes of these and nothing else. Every operation has a result, whatever
becomes of those before it. -/
theorem Workspace.pipeline_eq_outcomes (w : Workspace) (source : Node) (handle : String) :
    let results := Parts.pipeline (.ofWorkspace w) source handle
    ∃ chain, (∀ other, w.IsChain source.id handle other ↔ other = chain) ∧
      chain.length ≤ w.operationIds.length ∧
      results = chain.zipIdx.flatMap (fun (o, i) => w.outcome (chain.take i) o) ∧
      ∀ o ∈ chain, ∃ r ∈ results, r.node = o.1 := by
  intro results
  let chain := Parts.chain (.ofWorkspace w) source handle
  have isChain : w.IsChain source.id handle chain := isChain_chain w source handle
  have outcomes : results = chain.zipIdx.flatMap fun (o, i) => w.outcome (chain.take i) o :=
    (Parts.pipeline_eq_steps ..).trans (Parts.steps_eq_outcomes w chain)
  refine ⟨chain, fun other => ⟨fun also => ?_, ?_⟩, isChain.length_le_operationIds, outcomes, ?_⟩
  · exact (existsUnique_isChain w source handle).unique also isChain
  · rintro rfl
    exact isChain
  · intro o member
    obtain ⟨i, inside, rfl⟩ := List.mem_iff_getElem.mp member
    obtain ⟨r, result, own⟩ := Parts.exists_mem_outcome w (chain.take i) chain[i]
    refine ⟨r, ?_, own⟩
    rw [outcomes, List.mem_flatMap]
    exact ⟨(chain[i], i), List.mk_mem_zipIdx_iff_getElem?.mpr (List.getElem?_eq_getElem inside),
      result⟩

/-- Three operations, of which the last leads back to the second, and nothing may follow that. -/
def Workspace.returning : Workspace where
  nodes :=
    [.known "policy" none (.dataPolicy ⟨none⟩),
      .known "log" none (.operation ⟨some "System.log", ∅, none⟩),
      .known "drop" none (.operation ⟨some "Mqtt.drop", ∅, some true⟩),
      .known "again" none (.operation ⟨some "System.log", ∅, none⟩)]
  edges :=
    [⟨"e1", "policy", "log", some "onSuccess", none⟩,
      ⟨"e2", "log", "drop", some "output", none⟩,
      ⟨"e3", "drop", "again", some "output", none⟩,
      ⟨"e4", "again", "drop", some "output", none⟩]
  functions := []

theorem Workspace.outcomes_returning :
    let w := returning
    let policy : Node := .known "policy" none (.dataPolicy ⟨none⟩)
    let results := Parts.pipeline (.ofWorkspace w) policy Handle.onSuccess
    ∃ chain, w.IsChain "policy" Handle.onSuccess chain ∧ chain.length ≤ 3 ∧
      results = chain.zipIdx.flatMap (fun (o, i) => w.outcome (chain.take i) o) ∧
        results.map (fun r => (r.node.id, r.findings.map Finding.detail)) =
          [("log", []), ("drop", []),
            ("again", ["Operation 'again' follows the terminal operation 'drop'"])] := by
  intro w policy results
  obtain ⟨chain, isChain_iff, short, outcomes, -⟩ :=
    pipeline_eq_outcomes w policy Handle.onSuccess
  have three : w.operationIds.length = 3 := by decide +kernel
  exact ⟨chain, (isChain_iff chain).mpr rfl, three ▸ short, outcomes, by decide +kernel⟩

end PolicyCanvas
