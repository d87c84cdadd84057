import PolicyCanvas.Proofs.Blame
import PolicyCanvas.Proofs.Validity

/-!
# What a compilation reports

The findings of a compilation, in their order and as often as they come, are the blames of its
parts: those of a data policy in `blames_compile_of_dataPolicy`, those of a behavior policy in
`blames_compile_of_behaviorPolicy`.
-/

namespace PolicyCanvas

open ResultTree (allFindings)

namespace Workspace

theorem compile_eq_ofNode {w : Workspace} {id : String} {n : Node}
    (found : (Wiring.ofWorkspace w).node? id = some n) :
    w.compile id = Compilation.ofNode (.ofWorkspace w) n := by
  rw [compile, found]

theorem id_of_node? {w : Workspace} {id : String} {n : Node}
    (found : (Wiring.ofWorkspace w).node? id = some n) : n.id = id := by
  rw [Wiring.node?_ofWorkspace] at found
  exact id_of_lastNode? found

end Workspace

namespace Compilation

theorem blames_dataParts (w : Workspace) (n : Node) :
    (allFindings (dataParts (.ofWorkspace w) n)).map Finding.blame =
      Blame.ofFilter w n.id Node.topics? ++ Blame.ofValidation w n.id ++
        Blame.ofChain w (Parts.chain (.ofWorkspace w) n Handle.onSuccess) ++
          Blame.ofChain w (Parts.chain (.ofWorkspace w) n Handle.onError) := by
  have filter : (Parts.topicFilter (.ofWorkspace w) n).blames = _ := Parts.blames_singleFilter ..
  rw [allFindings_dataParts]
  simp only [List.map_append, ← Resolution.flatMap_blames, Parts.blames_validators,
    Parts.blames_pipeline]
  rw [← filter, Resolution.blames]

theorem blames_behaviorParts (w : Workspace) (n : Node) (settings : BehaviorPolicySettings) :
    (allFindings (behaviorParts (.ofWorkspace w) n settings)).map Finding.blame =
      Blame.ofFilter w n.id Node.clients? ++ Blame.ofModel n.id settings ++
        (w.successorsOf n.id none Node.transition?).flatMap fun t =>
          Blame.ofTransition w settings.model t
            (Parts.chain (.ofWorkspace w) t.1 Handle.output) := by
  have filter : (Parts.clientFilter (.ofWorkspace w) n).blames = _ := Parts.blames_singleFilter ..
  rw [allFindings_behaviorParts]
  simp only [List.map_append, ← Resolution.flatMap_blames, Parts.blames_transitions]
  rw [← filter, ← Parts.blames_model n settings, Resolution.blames, Resolution.blames]

end Compilation

/-- A data policy is blamed for its filter, its validators and the two chains of operations that
leave it. -/
theorem Workspace.blames_compile_of_dataPolicy (w : Workspace) {id : String} {p : Node}
    {settings : DataPolicySettings} (found : (Wiring.ofWorkspace w).node? id = some p)
    (isData : p.settings? = some (.dataPolicy settings)) :
    ∃ c onSuccess onError, w.compile id = .ok c ∧
      w.IsChain id Handle.onSuccess onSuccess ∧ w.IsChain id Handle.onError onError ∧
      c.findings.map Finding.blame =
        Blame.ofFilter w id Node.topics? ++ Blame.ofValidation w id ++
          Blame.ofChain w onSuccess ++ Blame.ofChain w onError := by
  have compiled : w.compile id = .ok (Compilation.ofDataPolicy (.ofWorkspace w) p settings) := by
    rw [compile_eq_ofNode found, Compilation.ofNode, isData]
  obtain rfl := id_of_node? found
  refine ⟨_, _, _, compiled, isChain_chain w p _, isChain_chain w p _, ?_⟩
  rw [Compilation.ofDataPolicy_eq_withParts, Compilation.findings_withParts,
    Compilation.blames_dataParts]

/-- A data policy with a filter too many, a schema without a version, and an operation after one
that ends the pipeline, from which an edge leads back to it. -/
def Workspace.crowded : Workspace where
  nodes :=
    [.known "policy" none (.dataPolicy ⟨none⟩),
      .known "first" none (.topicFilter ["a"]),
      .known "second" none (.topicFilter ["b"]),
      .known "check" none (.validator ⟨.schema, .allOf⟩),
      .known "shape" none (.schema ⟨"shape", " ", .json, none, none⟩),
      .known "log" none (.operation ⟨some "System.log", ∅, some true⟩),
      .known "again" none (.operation ⟨some "System.log", ∅, none⟩)]
  edges :=
    [⟨"e1", "first", "policy", none, none⟩,
      ⟨"e2", "second", "policy", none, none⟩,
      ⟨"e3", "check", "policy", none, none⟩,
      ⟨"e4", "shape", "check", none, none⟩,
      ⟨"e5", "policy", "log", some "onSuccess", none⟩,
      ⟨"e6", "log", "again", some "output", none⟩,
      ⟨"e7", "again", "log", some "output", none⟩]
  functions := []

theorem Workspace.blames_compile_crowded :
    let p : Node := .known "policy" none (.dataPolicy ⟨none⟩)
    (Wiring.ofWorkspace crowded).node? "policy" = some p ∧
      p.settings? = some (.dataPolicy ⟨none⟩) ∧
      ∃ c, crowded.compile "policy" = .ok c ∧ c.findings.map Finding.blame =
        [⟨"second", .cardinality⟩, ⟨"shape", .notConfigured⟩, ⟨"again", .cardinality⟩] := by
  intro p
  have found : (Wiring.ofWorkspace crowded).node? "policy" = some p := rfl
  obtain ⟨c, onSuccess, onError, compiled, isSuccess, isError, blamed⟩ :=
    crowded.blames_compile_of_dataPolicy found rfl
  obtain rfl := (existsUnique_isChain crowded p _).unique isSuccess (isChain_chain crowded p _)
  obtain rfl := (existsUnique_isChain crowded p _).unique isError (isChain_chain crowded p _)
  refine ⟨found, rfl, c, compiled, blamed.trans ?_⟩
  decide +kernel

/-- A behavior policy is blamed for its filter, its model and its transitions, each with the chain
of operations that leaves it. -/
theorem Workspace.blames_compile_of_behaviorPolicy (w : Workspace) {id : String} {b : Node}
    {settings : BehaviorPolicySettings} (found : (Wiring.ofWorkspace w).node? id = some b)
    (isBehavior : b.settings? = some (.behaviorPolicy settings)) :
    ∃ c, ∃ chainOf : Node → List (Node × OperationSettings), w.compile id = .ok c ∧
      (∀ t, w.IsChain t.id Handle.output (chainOf t)) ∧
      c.findings.map Finding.blame =
        Blame.ofFilter w id Node.clients? ++ Blame.ofModel id settings ++
          (w.successorsOf id none Node.transition?).flatMap fun t =>
            Blame.ofTransition w settings.model t (chainOf t.1) := by
  have compiled :
      w.compile id = .ok (Compilation.ofBehaviorPolicy (.ofWorkspace w) b settings) := by
    rw [compile_eq_ofNode found, Compilation.ofNode, isBehavior]
  obtain rfl := id_of_node? found
  refine ⟨_, _, compiled, fun t => isChain_chain w t _, ?_⟩
  rw [Compilation.ofBehaviorPolicy_eq_withParts, Compilation.findings_withParts,
    Compilation.blames_behaviorParts]

/-- A behavior policy with a blank filter and a text for a count. Of its two transitions one leads
to an operation without a function; the other is in no table, so that its operation is left
alone. -/
def Workspace.unsettled : Workspace where
  nodes :=
    [.known "policy" none
        (.behaviorPolicy ⟨none, .publishQuota, .ofTexts [("maxPublishes", "ten")]⟩),
      .known "clients" none (.clientFilter [" "]),
      .known "connect" none
        (.transition ⟨some "Mqtt.OnInboundConnect", some "Initial", some "Connected", none⟩),
      .known "return" none
        (.transition ⟨some "Mqtt.OnInboundConnect", some "Connected", some "Initial", none⟩),
      .known "idle" none (.operation ⟨none, ∅, none⟩)]
  edges :=
    [⟨"e1", "clients", "policy", none, none⟩,
      ⟨"e2", "policy", "connect", none, none⟩,
      ⟨"e3", "policy", "return", none, none⟩,
      ⟨"e4", "connect", "idle", some "output", none⟩,
      ⟨"e5", "return", "idle", some "output", none⟩]
  functions := []

theorem Workspace.blames_compile_unsettled :
    let s : BehaviorPolicySettings := ⟨none, .publishQuota, .ofTexts [("maxPublishes", "ten")]⟩
    let b : Node := .known "policy" none (.behaviorPolicy s)
    (Wiring.ofWorkspace unsettled).node? "policy" = some b ∧
      b.settings? = some (.behaviorPolicy s) ∧
      ∃ c, unsettled.compile "policy" = .ok c ∧ c.findings.map Finding.blame =
        [⟨"clients", .notConfigured⟩, ⟨"policy", .notConfigured⟩, ⟨"idle", .notConfigured⟩,
          ⟨"return", .notConfigured⟩] := by
  intro s b
  have found : (Wiring.ofWorkspace unsettled).node? "policy" = some b := rfl
  obtain ⟨c, chainOf, compiled, isChain, blamed⟩ :=
    unsettled.blames_compile_of_behaviorPolicy found rfl
  obtain rfl : chainOf = fun t => Parts.chain (.ofWorkspace unsettled) t Handle.output := by
    funext t
    exact (existsUnique_isChain unsettled t _).unique (isChain t) (isChain_chain unsettled t _)
  refine ⟨found, rfl, c, compiled, blamed.trans ?_⟩
  decide +kernel

end PolicyCanvas
