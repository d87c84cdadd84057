import Mathlib.Data.Set.Pairwise.List
import PolicyCanvas.Proofs.PipelineEnd
import PolicyCanvas.Proofs.Requests

/-!
# The ids of steps

A step has the id of its operation, and a step of a transform has a dash and its own name behind
that. Nothing keeps two steps of a pipeline from coming to one id: scripts may have one name, or the
name of a step that reads or writes, and the id of an operation may be that of a transform with a
dash and the first part of a name behind it. There is no other way (`nodup_stepIds_iff`), and
`not_nodup_scripted` is a drawing with two scripts of one name.
-/

namespace PolicyCanvas

/-- The pipelines of a policy: its actions, or one for each transition. -/
def Gateway.Policy.pipelines : Gateway.Policy → List (List Gateway.Operation)
  | .data d => d.onSuccess?.toList ++ d.onError?.toList
  | .behavior b => b.transitions.map Gateway.Transition.pipeline

instance (s : OperationSettings) : Decidable s.IsTransform :=
  decidable_of_iff (s.functionId?.any (Text.trim · = Parts.transformFunction) = true)
    (by cases given : s.functionId? <;> simp [OperationSettings.IsTransform, given])

namespace Workspace

/-- The names of the scripts of a transform, in the order of their edges. -/
def scriptNames (w : Workspace) (operation : String) : List String :=
  (w.predecessorsOf operation (some Handle.function) Node.function?).map (·.2.name)

/-- The names of the steps of a transform. -/
def stepNames (w : Workspace) (operation : String) : List String :=
  "deserializer" :: (w.scriptNames operation ++ ["serializer"])

/-- What the steps of an operation have behind its id. -/
def endings (w : Workspace) (o : Node × OperationSettings) : List String :=
  if o.2.IsTransform then (w.stepNames o.1.id).map ("-" ++ ·) else [""]

def stepIds (w : Workspace) (o : Node × OperationSettings) : List String :=
  (w.endings o).map (o.1.id ++ ·)

/-- The id of `o` is that of the transform `t` with a dash and some `z` behind it, and with its own
ending behind that, a step of `o` comes to the name of a step of `t`. -/
def Overlaps (w : Workspace) (t o : Node × OperationSettings) : Prop :=
  t.2.IsTransform ∧ ∃ z, o.1.id = t.1.id ++ "-" ++ z ∧
    ∃ ending ∈ w.endings o, z ++ ending ∈ w.stepNames t.1.id

/-- The names of the scripts of each transform differ from one another and from those of its other
steps, and no operation overlaps with another one. -/
structure NamesApart (w : Workspace) (chain : List (Node × OperationSettings)) : Prop where
  distinct : ∀ t ∈ chain, t.2.IsTransform → (w.scriptNames t.1.id).Nodup
  noReader : ∀ t ∈ chain, t.2.IsTransform → "deserializer" ∉ w.scriptNames t.1.id
  noWriter : ∀ t ∈ chain, t.2.IsTransform → "serializer" ∉ w.scriptNames t.1.id
  noOverlap : ∀ t ∈ chain, ∀ o ∈ chain, ¬ w.Overlaps t o

end Workspace

theorem Text.append_eq_append {a b x y : String} (same : a ++ x = b ++ y) :
    (∃ z, b = a ++ z ∧ x = z ++ y) ∨ ∃ z, a = b ++ z ∧ y = z ++ x := by
  rw [← String.toList_inj, String.toList_append, String.toList_append] at same
  rcases List.append_eq_append_iff.mp same with ⟨z, longer, rest⟩ | ⟨z, longer, rest⟩
  · refine .inl ⟨.ofList z, ?_, ?_⟩
    · simp [← String.toList_inj, longer]
    · simp [← String.toList_inj, rest]
  · refine .inr ⟨.ofList z, ?_, ?_⟩
    · simp [← String.toList_inj, longer]
    · simp [← String.toList_inj, rest]

namespace Workspace

variable {w : Workspace}

theorem endings_of_isTransform {o : Node × OperationSettings} (isTransform : o.2.IsTransform) :
    w.endings o = (w.stepNames o.1.id).map ("-" ++ ·) :=
  if_pos isTransform

theorem endings_of_notTransform {o : Node × OperationSettings}
    (notTransform : ¬ o.2.IsTransform) : w.endings o = [""] :=
  if_neg notTransform

theorem Expands.map_id {o : Node × OperationSettings} {part : List Gateway.Operation}
    (expands : w.Expands o part) : part.map (·.id) = w.stepIds o := by
  cases expands with
  | @ordinary n s functionId configured _ notTransform _ =>
    have notTransform : ¬ s.IsTransform := by
      simpa [OperationSettings.IsTransform, configured] using notTransform
    simp [stepIds, endings_of_notTransform (o := (n, s)) notTransform]
  | @transform n s functionId _ _ _ configured isTransform _ runs _ _ =>
    have isTransform : s.IsTransform := ⟨functionId, configured, isTransform⟩
    rw [stepIds, endings_of_isTransform (o := (n, s)) isTransform, stepNames, scriptNames, runs]
    simp [Node.transformSteps, String.append_assoc]

theorem map_id_of_expands {chain : List (Node × OperationSettings)}
    {parts : List (List Gateway.Operation)} (expanded : List.Forall₂ w.Expands chain parts) :
    parts.flatten.map (·.id) = chain.flatMap w.stepIds := by
  induction expanded with
  | nil => rfl
  | cons first _ ih => rw [List.flatten_cons, List.map_append, first.map_id, ih, List.flatMap_cons]

theorem nodup_stepNames_iff {operation : String} :
    (w.stepNames operation).Nodup ↔ (w.scriptNames operation).Nodup ∧
      "deserializer" ∉ w.scriptNames operation ∧ "serializer" ∉ w.scriptNames operation := by
  have apart : ¬ "deserializer" = "serializer" := by decide
  simp only [stepNames, List.nodup_cons, List.nodup_append_comm, List.singleton_append,
    List.mem_append, List.mem_singleton, apart, or_false]
  exact ⟨fun ⟨reader, writer, distinct⟩ => ⟨distinct, reader, writer⟩,
    fun ⟨distinct, reader, writer⟩ => ⟨reader, writer, distinct⟩⟩

theorem nodup_stepIds_operation_iff {o : Node × OperationSettings} :
    (w.stepIds o).Nodup ↔ (o.2.IsTransform → (w.stepNames o.1.id).Nodup) := by
  have append_injective (a : String) : Function.Injective (a ++ · : String → String) :=
    fun _ _ => (String.append_right_inj a).mp
  rw [stepIds, List.nodup_map_iff (append_injective _)]
  by_cases isTransform : o.2.IsTransform
  · rw [endings_of_isTransform isTransform, List.nodup_map_iff (append_injective _)]
    simp [isTransform]
  · simp [endings_of_notTransform isTransform, isTransform]

/-- Only the endings of a transform can be cut, and behind the dash of one a name begins. -/
theorem exists_name_of_append_mem_endings {t : Node × OperationSettings} {c x : String}
    (something : c ≠ "") (member : c ++ x ∈ w.endings t) :
    t.2.IsTransform ∧ ∃ z, c = "-" ++ z ∧ z ++ x ∈ w.stepNames t.1.id := by
  by_cases isTransform : t.2.IsTransform
  · rw [endings_of_isTransform isTransform] at member
    obtain ⟨name, named, same⟩ := List.mem_map.mp member
    refine ⟨isTransform, ?_⟩
    rcases Text.append_eq_append same with ⟨z, rfl, rfl⟩ | ⟨z, dash, rfl⟩
    · exact ⟨z, rfl, named⟩
    · -- something that the dash begins with is the dash
      obtain ⟨rfl, rfl⟩ : c = "-" ∧ z = "" := by
        rw [← String.toList_inj, String.toList_append] at dash
        rw [Ne, ← String.toList_eq_nil_iff] at something
        rcases List.singleton_eq_append_iff.mp dash with ⟨nothing, -⟩ | ⟨isDash, rest⟩
        · exact absurd nothing something
        · exact ⟨String.toList_inj.mp isDash, String.toList_eq_nil_iff.mp rest⟩
      exact ⟨"", by simp, by simpa using named⟩
  · rw [endings_of_notTransform isTransform, List.mem_singleton] at member
    exact absurd (String.append_eq_empty_iff.mp member).1 something

theorem overlaps_of_append_mem_endings {t o : Node × OperationSettings} {c ending : String}
    (apart : t.1.id ≠ o.1.id) (longer : o.1.id = t.1.id ++ c) (own : ending ∈ w.endings o)
    (member : c ++ ending ∈ w.endings t) : w.Overlaps t o := by
  have something : c ≠ "" := by
    rintro rfl
    exact apart (by simp [longer])
  obtain ⟨isTransform, z, rfl, named⟩ := exists_name_of_append_mem_endings something member
  exact ⟨isTransform, z, by rw [longer, String.append_assoc], ending, own, named⟩

theorem Overlaps.exists_mem {t o : Node × OperationSettings} (overlaps : w.Overlaps t o) :
    ∃ id, id ∈ w.stepIds t ∧ id ∈ w.stepIds o := by
  obtain ⟨isTransform, z, longer, ending, own, named⟩ := overlaps
  refine ⟨o.1.id ++ ending, ?_, List.mem_map_of_mem own⟩
  rw [stepIds, endings_of_isTransform isTransform, List.map_map, List.mem_map]
  exact ⟨z ++ ending, named, by simp [longer, String.append_assoc]⟩

/-- Two operations come to a common id just when one of them overlaps with the other. -/
theorem disjoint_stepIds_iff {t o : Node × OperationSettings} (apart : t.1.id ≠ o.1.id) :
    (w.stepIds t).Disjoint (w.stepIds o) ↔ ¬ w.Overlaps t o ∧ ¬ w.Overlaps o t := by
  constructor
  · intro disjoint
    refine ⟨fun overlaps => ?_, fun overlaps => ?_⟩
    · obtain ⟨id, first, second⟩ := overlaps.exists_mem
      exact disjoint first second
    · obtain ⟨id, second, first⟩ := overlaps.exists_mem
      exact disjoint first second
  · rintro ⟨notOver, notUnder⟩ id first second
    obtain ⟨x, ofFirst, rfl⟩ := List.mem_map.mp first
    obtain ⟨y, ofSecond, same⟩ := List.mem_map.mp second
    rcases Text.append_eq_append same with ⟨c, longer, rfl⟩ | ⟨c, longer, rfl⟩
    · exact notUnder (overlaps_of_append_mem_endings apart.symm longer ofFirst ofSecond)
    · exact notOver (overlaps_of_append_mem_endings apart longer ofSecond ofFirst)

theorem not_overlaps_self (o : Node × OperationSettings) : ¬ w.Overlaps o o := by
  rintro ⟨-, z, longer, -⟩
  have tooLong := congrArg String.length longer
  have dash : "-".length = 1 := rfl
  rw [String.length_append, String.length_append] at tooLong
  omega

theorem IsChain.nodup_iff_namesApart {source handle : String}
    {chain : List (Node × OperationSettings)} (isChain : w.IsChain source handle chain) :
    (chain.flatMap w.stepIds).Nodup ↔ w.NamesApart chain := by
  have noneTwice : chain.Nodup := isChain.distinct.of_map _
  have apart {t o : Node × OperationSettings} (tMember : t ∈ chain) (oMember : o ∈ chain)
      (other : t ≠ o) : t.1.id ≠ o.1.id := fun same =>
    other (List.inj_on_of_nodup_map isChain.distinct tMember oMember same)
  have symmetric : Std.Symm (Function.onFun List.Disjoint w.stepIds) :=
    ⟨fun _ _ disjoint => List.disjoint_symm disjoint⟩
  rw [List.nodup_flatMap, ← List.Nodup.pairwise_coe noneTwice]
  constructor
  · rintro ⟨each, both⟩
    have named (t) (member : t ∈ chain) (isTransform : t.2.IsTransform) :=
      nodup_stepNames_iff.mp (nodup_stepIds_operation_iff.mp (each t member) isTransform)
    refine ⟨fun t member is => (named t member is).1, fun t member is => (named t member is).2.1,
      fun t member is => (named t member is).2.2, fun t tMember o oMember overlaps => ?_⟩
    by_cases same : t = o
    · subst same
      exact not_overlaps_self t overlaps
    · exact ((disjoint_stepIds_iff (apart tMember oMember same)).mp
        (both tMember oMember same)).1 overlaps
  · intro names
    refine ⟨fun o member => ?_, fun t tMember o oMember other => ?_⟩
    · exact nodup_stepIds_operation_iff.mpr fun isTransform => nodup_stepNames_iff.mpr
        ⟨names.distinct o member isTransform, names.noReader o member isTransform,
          names.noWriter o member isTransform⟩
    · exact (disjoint_stepIds_iff (apart tMember oMember other)).mpr
        ⟨names.noOverlap t tMember o oMember, names.noOverlap o oMember t tMember⟩

end Workspace

/-! ### Where the pipelines of a policy come from -/

open Resolution (values)

namespace Compilation

theorem eq_values_of_action? {results : List (Resolution Gateway.Operation)}
    {pipeline : List Gateway.Operation} (action : action? results = some pipeline) :
    pipeline = values results := by
  rw [← getD_action?, action, Option.getD_some]

theorem pipeline_of_transition {w : Wiring} {m : Behavior.StateMachine}
    {t : Node × TransitionSettings} {out : Gateway.Transition}
    (value : (Parts.transition w m t.1 t.2).value? = some out) :
    out.pipeline = values (Parts.pipeline w t.1 Handle.output) := by
  unfold Parts.transition at value
  split at value
  · cases value
  · obtain rfl := Option.some.inj value
    rfl

/-- Each pipeline of a policy holds what the steps of a handle come to. -/
theorem exists_source_of_mem_pipelines {w : Workspace} {n : Node} {c : Compilation}
    {policy : Gateway.Policy} (compiled : ofNode (.ofWorkspace w) n = .ok c)
    (valid : c.policy? = some policy) {pipeline : List Gateway.Operation}
    (member : pipeline ∈ policy.pipelines) :
    ∃ source handle, w.IsPipelineSource n source handle ∧
      pipeline = values (Parts.pipeline (.ofWorkspace w) source handle) := by
  unfold ofNode at compiled
  split at compiled
  next settings isData =>
    obtain rfl := Except.ok.inj compiled
    rw [ofDataPolicy_eq_withParts] at valid
    obtain ⟨d, made, rfl⟩ := Option.map_eq_some_iff.mp valid
    obtain ⟨-, -, -, -, onSuccess, onError⟩ := parts_of_dataPolicy? made
    rcases List.mem_append.mp member with member | member
    · rw [Option.mem_toList, onSuccess] at member
      exact ⟨n, Handle.onSuccess, .onSuccess isData, eq_values_of_action? member⟩
    · rw [Option.mem_toList, onError] at member
      exact ⟨n, Handle.onError, .onError isData, eq_values_of_action? member⟩
  next settings isBehavior =>
    obtain rfl := Except.ok.inj compiled
    rw [ofBehaviorPolicy_eq_withParts] at valid
    obtain ⟨b, made, rfl⟩ := Option.map_eq_some_iff.mp valid
    obtain ⟨-, -, -, -, transitions⟩ := parts_of_behaviorPolicy? made
    obtain ⟨out, isOut, rfl⟩ := List.mem_map.mp member
    rw [transitions, Parts.transitions_ofWorkspace, values, List.mem_filterMap] at isOut
    obtain ⟨r, resolved, value⟩ := isOut
    obtain ⟨t, follows, rfl⟩ := List.mem_map.mp resolved
    exact ⟨t.1, Handle.output, .output isBehavior follows, pipeline_of_transition value⟩
  next => cases compiled

end Compilation

namespace Workspace

/-- The steps of a pipeline have the ids of its chain, and no two of them have one id just when the
names along the chain are apart. -/
theorem nodup_stepIds_iff (w : Workspace) {n : Node} {c : Compilation} {policy : Gateway.Policy}
    (compiled : Compilation.ofNode (.ofWorkspace w) n = .ok c) (valid : c.policy? = some policy) :
    ∀ pipeline ∈ policy.pipelines, ∃ source handle chain,
      w.IsPipelineSource n source handle ∧ w.IsChain source.id handle chain ∧
        pipeline.map (·.id) = chain.flatMap w.stepIds ∧
          ((pipeline.map (·.id)).Nodup ↔ w.NamesApart chain) := by
  intro pipeline member
  obtain ⟨source, handle, leaves, rfl⟩ :=
    Compilation.exists_source_of_mem_pipelines compiled valid member
  have clean := Compilation.findings_pipeline_of_valid compiled
    (Option.isSome_of_eq_some valid) leaves
  obtain ⟨chain, parts, isChain, expanded, flat, -⟩ := Parts.isPipelineOf_pipeline clean
  have ids := map_id_of_expands expanded
  rw [← flat] at ids
  exact ⟨source, handle, chain, leaves, isChain, ids, by rw [ids, isChain.nodup_iff_namesApart]⟩

/-- The transform of `wired` runs a second script, with the name. -/
def scripted (name : String) : Workspace where
  nodes := wired.nodes ++ [.known "second" none (.function ⟨name, none, .javascript, ""⟩)]
  edges := wired.edges ++ [⟨"e8", "second", "convert", none, some "function"⟩]
  functions := []

private theorem exists_of_ids (c : Compilation) (ids : List String)
    (only : c.policy?.map (fun policy => policy.pipelines.map fun pipeline => pipeline.map (·.id)) =
      some [ids]) :
    ∃ policy pipeline, c.policy? = some policy ∧ pipeline ∈ policy.pipelines ∧
      pipeline.map (·.id) = ids := by
  obtain ⟨policy, valid, only⟩ := Option.map_eq_some_iff.mp only
  obtain ⟨pipeline, isOnly, same⟩ := List.map_eq_singleton_iff.mp only
  exact ⟨policy, pipeline, valid, isOnly ▸ List.mem_singleton_self _, same⟩

theorem namesApart_scripted :
    let w := scripted "scale"
    let n : Node := .known "policy" none (.dataPolicy ⟨none⟩)
    ∃ c policy pipeline source handle chain, Compilation.ofNode (.ofWorkspace w) n = .ok c ∧
      c.policy? = some policy ∧ pipeline ∈ policy.pipelines ∧ w.IsPipelineSource n source handle ∧
        w.IsChain source.id handle chain ∧ w.NamesApart chain ∧ chain.flatMap w.stepIds =
          ["convert-deserializer", "convert-round", "convert-scale", "convert-serializer"] := by
  intro w n
  have compiled : Compilation.ofNode (.ofWorkspace w) n = .ok _ := rfl
  obtain ⟨policy, pipeline, valid, member, ids⟩ := exists_of_ids
    (Compilation.ofDataPolicy (.ofWorkspace w) n ⟨none⟩)
    ["convert-deserializer", "convert-round", "convert-scale", "convert-serializer"]
    (by decide +kernel)
  obtain ⟨source, handle, chain, leaves, isChain, same, nodup_iff⟩ :=
    nodup_stepIds_iff w compiled valid pipeline member
  exact ⟨_, policy, pipeline, source, handle, chain, compiled, valid, member, leaves, isChain,
    nodup_iff.mp (by rw [ids]; decide), same.symm.trans ids⟩

/-- With the name of the first script, two steps of the policy that comes about have one id. -/
theorem not_nodup_scripted :
    let w := scripted "round"
    (w.nodes.map Node.id).Nodup ∧ ∃ c policy, w.compile "policy" = .ok c ∧
      c.policy? = some policy ∧ ∃ pipeline ∈ policy.pipelines, ¬ (pipeline.map (·.id)).Nodup := by
  intro w
  have compiled : (scripted "round").compile "policy" = .ok _ := rfl
  obtain ⟨policy, pipeline, valid, member, ids⟩ := exists_of_ids
    (Compilation.ofDataPolicy (.ofWorkspace w) (.known "policy" none (.dataPolicy ⟨none⟩)) ⟨none⟩)
    ["convert-deserializer", "convert-round", "convert-round", "convert-serializer"]
    (by decide +kernel)
  exact ⟨by decide, _, policy, compiled, valid, pipeline, member, by rw [ids]; decide⟩

end Workspace

end PolicyCanvas
