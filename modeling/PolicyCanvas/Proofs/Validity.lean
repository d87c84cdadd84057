import Mathlib.Tactic.TFAE
import PolicyCanvas.Compilation
import PolicyCanvas.Proofs.ResultForest

/-!
# When a policy comes about

A compilation has the results of the parts and then that of the policy itself. There is a policy
just when no part has a finding at any depth, and the last result is the policy when there is one
and bare otherwise (`valid_tfae_of_isPolicy`).
-/

namespace PolicyCanvas

/-- A policy as the payload of its own result. -/
def Payload.ofPolicy : Gateway.Policy → Payload
  | .data p => .dataPolicy p
  | .behavior p => .behaviorPolicy p

namespace Compilation

open ResultTree (allFindings allPreorder)

/-- The results of the parts of a data policy: filter, validators and the two pipelines. -/
def dataParts (w : Wiring) (n : Node) : List ResultTree :=
  (Parts.topicFilter w n).toTree .topicFilter ::
    ((Parts.validators w n).map (·.toTree .validator) ++
      (Parts.pipeline w n Handle.onSuccess).map (·.toTree .operation) ++
        (Parts.pipeline w n Handle.onError).map (·.toTree .operation))

/-- The data policy that the parts make up when nothing is wrong with them. -/
def dataPolicy? (w : Wiring) (n : Node) (settings : DataPolicySettings) :
    Option Gateway.DataPolicy :=
  match (Parts.topicFilter w n).value?, allFindings (dataParts w n) with
  | some topicFilter, [] =>
    some
      { id := policyId settings.policyId? n
        topicFilter
        validators := Resolution.values (Parts.validators w n)
        onSuccess? := action? (Parts.pipeline w n Handle.onSuccess)
        onError? := action? (Parts.pipeline w n Handle.onError) }
  | _, _ => none

/-- The results of the parts of a behavior policy: filter, model and transitions. -/
def behaviorParts (w : Wiring) (n : Node) (settings : BehaviorPolicySettings) : List ResultTree :=
  (Parts.clientFilter w n).toTree .clientFilter :: (Parts.model n settings).toTree .model ::
    (Parts.transitions w n settings).map (·.toTree .transition)

/-- The behavior policy that the parts make up when nothing is wrong with them. -/
def behaviorPolicy? (w : Wiring) (n : Node) (settings : BehaviorPolicySettings) :
    Option Gateway.BehaviorPolicy :=
  match (Parts.clientFilter w n).value?, (Parts.model n settings).value?,
    allFindings (behaviorParts w n settings) with
  | some clientIdFilter, some model, [] =>
    some
      { id := policyId settings.policyId? n
        clientIdFilter
        model
        transitions := Resolution.values (Parts.transitions w n settings) }
  | _, _, _ => none

/-- The compilation of `n` with the results of these parts, and with a policy or without. -/
def withParts (n : Node) (parts : List ResultTree) (policy? : Option Gateway.Policy) :
    Compilation :=
  ⟨parts ++ [policyResult n (policy?.map .ofPolicy)], policy?⟩

theorem ofDataPolicy_eq_withParts (w : Wiring) (n : Node) (settings : DataPolicySettings) :
    ofDataPolicy w n settings =
      withParts n (dataParts w n) ((dataPolicy? w n settings).map .data) := by
  rw [withParts, Option.map_map]
  rfl

theorem ofBehaviorPolicy_eq_withParts (w : Wiring) (n : Node)
    (settings : BehaviorPolicySettings) :
    ofBehaviorPolicy w n settings =
      withParts n (behaviorParts w n settings)
        ((behaviorPolicy? w n settings).map .behavior) := by
  rw [withParts, Option.map_map]
  rfl

theorem findings_withParts (n : Node) (parts : List ResultTree)
    (policy? : Option Gateway.Policy) :
    (withParts n parts policy?).findings = allFindings parts := by
  have bare (payload? : Option Payload) : allFindings [policyResult n payload?] = [] := rfl
  rw [findings, withParts, ResultTree.allFindings_append, bare, List.append_nil]

theorem allFindings_cons_toTree {α : Type} (r : Resolution α) (wrap : α → Payload)
    (rest : List ResultTree) :
    allFindings (r.toTree wrap :: rest) = r.findings ++ allFindings rest := by
  rw [ResultTree.allFindings, Resolution.findings_toTree]

theorem allFindings_dataParts (w : Wiring) (n : Node) :
    allFindings (dataParts w n) =
      (Parts.topicFilter w n).findings ++ (Parts.validators w n).flatMap Resolution.findings ++
        (Parts.pipeline w n Handle.onSuccess).flatMap Resolution.findings ++
          (Parts.pipeline w n Handle.onError).flatMap Resolution.findings := by
  simp only [dataParts, allFindings_cons_toTree, ResultTree.allFindings_append,
    Resolution.allFindings_map_toTree, List.append_assoc]

theorem allFindings_behaviorParts (w : Wiring) (n : Node) (settings : BehaviorPolicySettings) :
    allFindings (behaviorParts w n settings) =
      (Parts.clientFilter w n).findings ++ (Parts.model n settings).findings ++
        (Parts.transitions w n settings).flatMap Resolution.findings := by
  simp only [behaviorParts, allFindings_cons_toTree, Resolution.allFindings_map_toTree,
    List.append_assoc]

/-- A data policy that comes about is made of the values of its parts. -/
theorem parts_of_dataPolicy? {w : Wiring} {n : Node} {settings : DataPolicySettings}
    {d : Gateway.DataPolicy} (made : dataPolicy? w n settings = some d) :
    allFindings (dataParts w n) = [] ∧ d.id = policyId settings.policyId? n ∧
      (Parts.topicFilter w n).value? = some d.topicFilter ∧
        d.validators = Resolution.values (Parts.validators w n) ∧
          d.onSuccess? = action? (Parts.pipeline w n Handle.onSuccess) ∧
            d.onError? = action? (Parts.pipeline w n Handle.onError) := by
  unfold dataPolicy? at made
  split at made
  next topicFilter value clean =>
    obtain rfl := Option.some.inj made
    dsimp only
    exact ⟨clean, rfl, value, rfl, rfl, rfl⟩
  · cases made

/-- A behavior policy that comes about is made of the values of its parts. -/
theorem parts_of_behaviorPolicy? {w : Wiring} {n : Node}
    {settings : BehaviorPolicySettings} {b : Gateway.BehaviorPolicy}
    (made : behaviorPolicy? w n settings = some b) :
    allFindings (behaviorParts w n settings) = [] ∧
      b.id = policyId settings.policyId? n ∧
        (Parts.clientFilter w n).value? = some b.clientIdFilter ∧
          (Parts.model n settings).value? = some b.model ∧
            b.transitions = Resolution.values (Parts.transitions w n settings) := by
  unfold behaviorPolicy? at made
  split at made
  next clientIdFilter model filterValue modelValue clean =>
    obtain rfl := Option.some.inj made
    dsimp only
    exact ⟨clean, rfl, filterValue, modelValue, rfl⟩
  · cases made

theorem isSome_dataPolicy?_iff {w : Wiring} {n : Node} {settings : DataPolicySettings} :
    (dataPolicy? w n settings).isSome = true ↔ allFindings (dataParts w n) = [] := by
  constructor
  · intro valid
    obtain ⟨d, made⟩ := Option.isSome_iff_exists.mp valid
    exact (parts_of_dataPolicy? made).1
  · intro clean
    have filterClean : (Parts.topicFilter w n).findings = [] := by
      simp only [allFindings_dataParts, List.append_eq_nil_iff] at clean
      exact clean.1.1.1
    obtain ⟨topicFilter, value⟩ :=
      Option.isSome_iff_exists.mp (Resolution.isSome_value?_of_findings filterClean)
    simp only [dataPolicy?, value, clean, Option.isSome_some]

theorem isSome_behaviorPolicy?_iff {w : Wiring} {n : Node} {settings : BehaviorPolicySettings} :
    (behaviorPolicy? w n settings).isSome = true ↔
      allFindings (behaviorParts w n settings) = [] := by
  constructor
  · intro valid
    unfold behaviorPolicy? at valid
    split at valid
    next clean => exact clean
    · cases valid
  · intro clean
    have partsClean : (Parts.clientFilter w n).findings = [] ∧
        (Parts.model n settings).findings = [] := by
      simp only [allFindings_behaviorParts, List.append_eq_nil_iff] at clean
      exact clean.1
    obtain ⟨clientIdFilter, filterValue⟩ :=
      Option.isSome_iff_exists.mp (Resolution.isSome_value?_of_findings partsClean.1)
    obtain ⟨model, modelValue⟩ :=
      Option.isSome_iff_exists.mp (Resolution.isSome_value?_of_findings partsClean.2)
    simp only [behaviorPolicy?, filterValue, modelValue, clean, Option.isSome_some]

/-- Compiling a policy gives the results of some parts and then its own, and the policy comes about
when none of the parts has a finding. -/
theorem exists_parts_of_isPolicy (w : Wiring) {n : Node} (isPolicy : n.isPolicy = true) :
    ∃ parts policy?, ofNode w n = .ok (withParts n parts policy?) ∧
      (policy?.isSome = true ↔ allFindings parts = []) := by
  unfold Node.isPolicy at isPolicy
  unfold ofNode
  cases kind : n.settings? with
  | none => simp [kind] at isPolicy
  | some settings =>
    cases settings with
    | dataPolicy settings =>
      refine ⟨_, _, congrArg _ (ofDataPolicy_eq_withParts w n settings), ?_⟩
      rw [Option.isSome_map, isSome_dataPolicy?_iff]
    | behaviorPolicy settings =>
      refine ⟨_, _, congrArg _ (ofBehaviorPolicy_eq_withParts w n settings), ?_⟩
      rw [Option.isSome_map, isSome_behaviorPolicy?_iff]
    | _ => simp [kind] at isPolicy

/-- The compilation of a node has a policy when it has no findings. -/
theorem isSome_policy?_iff {w : Wiring} {n : Node} {c : Compilation}
    (compiled : ofNode w n = .ok c) : c.policy?.isSome = true ↔ c.findings = [] := by
  have isPolicy : n.isPolicy = true := by
    cases kind : n.settings? with
    | none => simp [ofNode, kind] at compiled
    | some settings => cases settings <;> simp [ofNode, kind, Node.isPolicy] at compiled ⊢
  obtain ⟨parts, policy?, same, isSome_iff⟩ := exists_parts_of_isPolicy w isPolicy
  obtain rfl := Except.ok.inj (compiled.symm.trans same)
  rwa [findings_withParts]

/-- A policy, no finding at any depth, and a last result with a payload are one and the same: the
last result is that of the policy, with the policy itself if there is one and bare if not. -/
theorem valid_tfae_of_isPolicy (w : Workspace) {n : Node} (isPolicy : n.isPolicy = true) :
    ∃ c last, ofNode (.ofWorkspace w) n = .ok c ∧ c.results.getLast? = some last ∧
      [c.policy?.isSome = true, c.findings = [],
        ∀ r ∈ allPreorder c.results, r.finding? = none, last.payload?.isSome = true].TFAE ∧
      (∀ policy, c.policy? = some policy → last = ⟨n, some (.ofPolicy policy), none, none⟩) ∧
      (c.policy? = none → last = ⟨n, none, none, none⟩) := by
  obtain ⟨parts, policy?, compiled, isSome_iff⟩ :=
    exists_parts_of_isPolicy (.ofWorkspace w) isPolicy
  refine ⟨_, policyResult n (policy?.map .ofPolicy), compiled, by simp [withParts], ?_, ?_, ?_⟩
  · rw [← findings_withParts n parts policy?] at isSome_iff
    tfae_have 1 ↔ 2 := isSome_iff
    tfae_have 2 ↔ 3 := ResultTree.allFindings_eq_nil_iff
    tfae_have 1 ↔ 4 := by simp [withParts, policyResult]
    tfae_finish
  · intro policy valid
    obtain rfl : policy? = some policy := valid
    rfl
  · intro invalid
    obtain rfl : policy? = none := invalid
    rfl

end Compilation

/-- A policy with a filter, a validator and a transform, all wired up as they should be. -/
def Workspace.wired : Workspace where
  nodes :=
    [.known "policy" none (.dataPolicy ⟨none⟩),
      .known "topic" none (.topicFilter ["plant/+"]),
      .known "check" none (.validator ⟨.schema, .allOf⟩),
      .known "shape" none (.schema ⟨"shape", "1", .json, none, none⟩),
      .known "convert" none (.operation ⟨some "DataHub.transform", ∅, none⟩),
      .known "round" none (.function ⟨"round", none, .javascript, ""⟩)]
  edges :=
    [⟨"e1", "topic", "policy", none, none⟩,
      ⟨"e2", "check", "policy", none, none⟩,
      ⟨"e3", "shape", "check", none, none⟩,
      ⟨"e4", "policy", "convert", some "onSuccess", none⟩,
      ⟨"e5", "shape", "convert", none, some "deserialiser"⟩,
      ⟨"e6", "round", "convert", none, some "function"⟩,
      ⟨"e7", "shape", "convert", none, some "serialiser"⟩]
  functions := []

/-- A behavior policy with two transitions, the second wired twice. A transform leaves the first,
and its chain comes back to it. -/
def Workspace.guarded : Workspace where
  nodes :=
    [.known "policy" none
        (.behaviorPolicy ⟨some " quota ", .publishQuota, .ofTexts [("note", "daily")]⟩),
      .known "clients" none (.clientFilter ["sensor-.*", "spare"]),
      .known "connect" none
        (.transition ⟨some "Mqtt.OnInboundConnect", some "Initial", some "Connected", none⟩),
      .known "publish" none
        (.transition ⟨some "Mqtt.OnInboundPublish", some "Connected", some "Publishing",
          some .publishQuota⟩),
      .known "convert" none (.operation ⟨some "DataHub.transform", ∅, none⟩),
      .known "log" none (.operation ⟨some "System.log", ∅, none⟩),
      .known "shape" none (.schema ⟨"shape", "1", .json, none, none⟩),
      .known "round" none (.function ⟨"round", none, .javascript, ""⟩)]
  edges :=
    [⟨"e1", "clients", "policy", none, none⟩,
      ⟨"e2", "policy", "publish", some "transitions", none⟩,
      ⟨"e3", "policy", "connect", none, none⟩,
      ⟨"e4", "policy", "publish", none, none⟩,
      ⟨"e5", "publish", "convert", some "output", none⟩,
      ⟨"e6", "convert", "log", some "output", none⟩,
      ⟨"e7", "log", "convert", some "output", none⟩,
      ⟨"e8", "shape", "convert", none, some "deserialiser"⟩,
      ⟨"e9", "round", "convert", none, some "function"⟩,
      ⟨"e10", "shape", "convert", none, some "serialiser"⟩]
  functions := []

theorem Compilation.valid_wired :
    let d : Node := .known "policy" none (.dataPolicy ⟨none⟩)
    let b : Node := .known "policy" none
      (.behaviorPolicy ⟨some " quota ", .publishQuota, .ofTexts [("note", "daily")]⟩)
    (d.isPolicy = true ∧ ∃ c last policy, ofNode (.ofWorkspace .wired) d = .ok c ∧
      c.findings = [] ∧ c.policy? = some policy ∧ c.results.getLast? = some last ∧
        last = ⟨d, some (.ofPolicy policy), none, none⟩) ∧
    b.isPolicy = true ∧ ∃ c last policy, ofNode (.ofWorkspace .guarded) b = .ok c ∧
      c.findings = [] ∧ c.policy? = some policy ∧ c.results.getLast? = some last ∧
        last = ⟨b, some (.ofPolicy policy), none, none⟩ := by
  intro d b
  constructor
  · have isPolicy : d.isPolicy = true := rfl
    obtain ⟨c, last, compiled, isLast, same, carries, -⟩ := valid_tfae_of_isPolicy .wired isPolicy
    have clean : c.findings = [] := by
      cases compiled
      decide +kernel
    obtain ⟨policy, valid⟩ := Option.isSome_iff_exists.mp ((same.out 0 1).mpr clean)
    exact ⟨isPolicy, c, last, policy, compiled, clean, valid, isLast, carries policy valid⟩
  · have isPolicy : b.isPolicy = true := rfl
    obtain ⟨c, last, compiled, isLast, same, carries, -⟩ :=
      valid_tfae_of_isPolicy .guarded isPolicy
    have clean : c.findings = [] := by
      cases compiled
      decide +kernel
    obtain ⟨policy, valid⟩ := Option.isSome_iff_exists.mp ((same.out 0 1).mpr clean)
    exact ⟨isPolicy, c, last, policy, compiled, clean, valid, isLast, carries policy valid⟩

end PolicyCanvas
