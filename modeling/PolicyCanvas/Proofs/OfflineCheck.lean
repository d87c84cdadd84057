import PolicyCanvas.DryRun.Submission
import PolicyCanvas.Proofs.Requests
import PolicyCanvas.Proofs.Schedule

/-!
# What passes without a gateway

Some resources show by themselves that no gateway can use them (`Payload.IsSound`). A dry run
without a gateway finds these, at any depth, and succeeds when there are none and the policy comes
about. Only a message type that is there and blank passes for a name, and nothing else is let
through (`isSuccess_offline_iff`).
-/

namespace PolicyCanvas

/-- What the text of a JSON schema stands for. -/
def Json.IsSchema : Json → Prop
  | .object _ | .bool _ => True
  | _ => False

namespace Gateway.Schema

/-- A text is read if there is one, and a message type has to be named. -/
structure IsSound (s : Schema) : Prop where
  reads : s.type = .json → ∀ text ∈ s.definition?, ∃ j, Json.ofText text = .ok j ∧ j.IsSchema
  named : s.type = .protobuf → ∃ name ∈ s.messageType?, Text.isBlank name = false

/-- A Protobuf schema whose message type is there and names nothing. -/
def HasBlankType (s : Schema) : Prop :=
  s.type = .protobuf ∧ ∃ name ∈ s.messageType?, Text.isBlank name = true

instance : DecidablePred HasBlankType := fun _ => inferInstanceAs (Decidable (_ ∧ _))

end Gateway.Schema

namespace Payload

/-- Nothing speaks against the resource as far as it can be seen by itself. -/
def IsSound : Payload → Prop
  | schema s => s.IsSound
  | script s => Text.isBlank s.source = false
  | validator v => v.schemas ≠ []
  | _ => True

def HasBlankType : Payload → Prop
  | schema s => s.HasBlankType
  | _ => False

instance : DecidablePred HasBlankType := fun p =>
  match p with
  | schema s => inferInstanceAs (Decidable s.HasBlankType)
  | topicFilter _ | clientFilter _ | script _ | validator _ | operation _ | model _ | transition _
  | dataPolicy _ | behaviorPolicy _ => inferInstanceAs (Decidable False)

theorem HasBlankType.not_isSound {p : Payload} (blank : p.HasBlankType) : ¬ p.IsSound := by
  cases p with
  | schema s =>
    obtain ⟨isProtobuf, name, given, isBlank⟩ := blank
    rintro ⟨-, named⟩
    obtain ⟨name', given', notBlank⟩ := named isProtobuf
    obtain rfl := Option.some.inj (given.symm.trans given')
    rw [isBlank] at notBlank
    cases notBlank
  | _ => exact absurd blank id

end Payload

namespace Compilation

/-- The resources among the results, at any depth. -/
def resources (c : Compilation) : List Payload :=
  ((ResultTree.allPreorder c.results).filterMap (·.payload?)).filter (·.isResource)

/-- There is a policy, and nothing speaks against any of its resources. -/
def IsSound (c : Compilation) : Prop :=
  c.policy?.isSome = true ∧ ∀ p ∈ c.resources, p.IsSound

theorem not_isSound_of_hasBlankType {c : Compilation}
    (blank : ∃ p ∈ c.resources, p.HasBlankType) : ¬ c.IsSound := by
  obtain ⟨p, member, blank⟩ := blank
  exact fun ⟨_, sound⟩ => blank.not_isSound (sound p member)

end Compilation

namespace DryRun

namespace Offline

theorem schemaDefect?_eq_none_iff_of_json {s : Gateway.Schema} (isJson : s.type = .json) :
    schemaDefect? s = none ↔ ∀ text ∈ s.definition?,
      ∃ j, Json.ofText text = .ok j ∧ j.IsSchema := by
  cases given : s.definition? with
  | none => simp [schemaDefect?, isJson, given]
  | some text =>
    cases read : Json.ofText text with
    | error e => simp [schemaDefect?, isJson, given, read]
    | ok j => cases j <;> simp [schemaDefect?, isJson, given, read, Json.IsSchema]

theorem schemaDefect?_eq_none_iff_of_protobuf {s : Gateway.Schema}
    (isProtobuf : s.type = .protobuf) :
    schemaDefect? s = none ↔ ∃ name, name ∈ s.messageType? := by
  cases given : s.messageType? <;> simp [schemaDefect?, isProtobuf, given]

theorem schemaDefect?_eq_none_iff (s : Gateway.Schema) :
    schemaDefect? s = none ↔ s.IsSound ∨ s.HasBlankType := by
  cases kind : s.type with
  | json =>
    have sound_iff : s.IsSound ↔ ∀ text ∈ s.definition?,
        ∃ j, Json.ofText text = .ok j ∧ j.IsSchema :=
      ⟨fun sound => sound.reads kind, fun reads => ⟨fun _ => reads, by simp [kind]⟩⟩
    have noType : ¬ s.HasBlankType := by simp [Gateway.Schema.HasBlankType, kind]
    rw [schemaDefect?_eq_none_iff_of_json kind, sound_iff, or_iff_left noType]
  | protobuf =>
    rw [schemaDefect?_eq_none_iff_of_protobuf kind]
    constructor
    · rintro ⟨name, given⟩
      cases isBlank : Text.isBlank name with
      | false => exact .inl ⟨by simp [kind], fun _ => ⟨name, given, isBlank⟩⟩
      | true => exact .inr ⟨kind, name, given, isBlank⟩
    · rintro (⟨-, named⟩ | ⟨-, name, given, -⟩)
      · obtain ⟨name, given, -⟩ := named kind
        exact ⟨name, given⟩
      · exact ⟨name, given⟩

theorem defect?_eq_none_iff (p : Payload) : defect? p = none ↔ p.IsSound ∨ p.HasBlankType := by
  cases p with
  | schema s => exact schemaDefect?_eq_none_iff s
  | script s => simp [defect?, Payload.IsSound, Payload.HasBlankType]
  | validator v => simp [defect?, Payload.IsSound, Payload.HasBlankType]
  | _ => simp [defect?, Payload.IsSound]

theorem verdict_eq_accepted_iff (s : Submission) :
    verdict s = .accepted ↔ s.payload.IsSound ∨ s.payload.HasBlankType := by
  rw [← defect?_eq_none_iff, verdict]
  cases defect? s.payload <;> simp

end Offline

/-- The submissions carry the resources. -/
theorem Submission.map_payload_ofResults (c : Compilation) :
    (ofResults c.results).map payload = c.resources := by
  rw [ofResults_eq_preorder, List.map_filterMap, Compilation.resources, List.filter_filterMap]
  congr 1
  funext r
  rw [ofResult?]
  cases r.payload? with
  | none => rfl
  | some p => cases isResource : p.isResource <;> simp [Option.filter, isResource]

theorem Report.Tells.isSuccess_iff {r : Report} {c : Compilation} {verdict : Submission → Verdict}
    (tells : r.Tells c verdict) : r.isSuccess = true ↔
      c.policy?.isSome = true ∧ ∀ s ∈ Submission.ofResults c.results, verdict s = .accepted := by
  have noFailure : r.failures = [] ↔
      ∀ s ∈ Submission.ofResults c.results, verdict s = .accepted := by
    rw [tells.failures, List.filterMap_eq_nil_iff]
    refine forall₂_congr fun s _ => ?_
    rw [Failure.of?]
    cases verdict s <;> simp
  rw [← noFailure, ← tells.policy?, isSuccess, decide_eq_true_iff, tells.status]
  split
  next clean => exact iff_of_true rfl clean
  next unclean => exact iff_of_false (by simp) unclean

theorem exists_check_tells {w : Workspace} {n : Node} {c : Compilation}
    (compiled : Compilation.ofNode (.ofWorkspace w) n = .ok c) (settings : Settings)
    (verdict : Submission → Verdict) :
    ∃ report, check w n settings verdict = .ok report ∧ report.Tells c verdict := by
  have positive : 0 < settings.limit := Nat.le_max_left ..
  obtain ⟨order, reached, done⟩ := Window.reaches_drain positive
  rw [check, Run.start, compiled]
  exact ⟨_, rfl, Run.tells_report (Compilation.isSome_policy?_iff compiled)
    (Window.keeps_of_reaches reached) done⟩

theorem isSuccess_iff_of_tells_offline {r : Report} {c : Compilation}
    (tells : r.Tells c Offline.verdict) : r.isSuccess = true ↔
      c.policy?.isSome = true ∧ ∀ p ∈ c.resources, p.IsSound ∨ p.HasBlankType := by
  rw [tells.isSuccess_iff, ← Submission.map_payload_ofResults, List.forall_mem_map]
  simp only [Offline.verdict_eq_accepted_iff]

/-- A dry run without a gateway succeeds when the policy comes about and every resource is sound or
has a blank message type. So it tells whether all is sound, unless it succeeds in spite of a blank
message type. -/
theorem isSuccess_offline_iff (w : Workspace) {n : Node} (isPolicy : n.isPolicy = true)
    (settings : Settings) :
    ∃ c report, Compilation.ofNode (.ofWorkspace w) n = .ok c ∧
      check w n settings Offline.verdict = .ok report ∧
        (report.isSuccess = true ↔
          c.policy?.isSome = true ∧ ∀ p ∈ c.resources, p.IsSound ∨ p.HasBlankType) ∧
          ((report.isSuccess = true ↔ c.IsSound) ↔
            ¬ (report.isSuccess = true ∧ ∃ p ∈ c.resources, p.HasBlankType)) := by
  obtain ⟨parts, policy?, compiled, -⟩ :=
    Compilation.exists_parts_of_isPolicy (.ofWorkspace w) isPolicy
  obtain ⟨report, checked, tells⟩ := exists_check_tells compiled settings Offline.verdict
  have success_iff := isSuccess_iff_of_tells_offline tells
  refine ⟨_, report, compiled, checked, success_iff, ?_⟩
  constructor
  · rintro tells_iff ⟨success, blank⟩
    exact Compilation.not_isSound_of_hasBlankType blank (tells_iff.mp success)
  · intro noneBlank
    constructor
    · intro success
      obtain ⟨valid, passes⟩ := success_iff.mp success
      refine ⟨valid, fun p member => (passes p member).resolve_right fun blank => ?_⟩
      exact noneBlank ⟨success, p, member, blank⟩
    · rintro ⟨valid, sound⟩
      exact success_iff.mpr ⟨valid, fun p member => .inl (sound p member)⟩

end DryRun

/-- A policy whose validator refers to a Protobuf schema with this message type. -/
def Workspace.typed (messageType : String) : Workspace where
  nodes :=
    [.known "policy" none (.dataPolicy ⟨none⟩),
      .known "topic" none (.topicFilter ["plant/+"]),
      .known "check" none (.validator ⟨.schema, .allOf⟩),
      .known "limits" none (.schema ⟨"limits", "1", .json, some "\x7b\x7d", none⟩),
      .known "reading" none (.schema ⟨"reading", "1", .protobuf, none, some messageType⟩)]
  edges :=
    [⟨"e1", "topic", "policy", none, none⟩,
      ⟨"e2", "check", "policy", none, none⟩,
      ⟨"e3", "limits", "check", none, none⟩,
      ⟨"e4", "reading", "check", none, none⟩]
  functions := []

namespace DryRun

theorem isSuccess_offline_typed :
    let n : Node := .known "policy" none (.dataPolicy ⟨none⟩)
    n.isPolicy = true ∧ ∃ c report,
      Compilation.ofNode (.ofWorkspace (.typed "Reading")) n = .ok c ∧
        check (.typed "Reading") n .default Offline.verdict = .ok report ∧
          report.isSuccess = true ∧ c.IsSound := by
  intro n
  have isPolicy : n.isPolicy = true := rfl
  obtain ⟨c, report, compiled, checked, -, tells_iff⟩ :=
    isSuccess_offline_iff (.typed "Reading") isPolicy .default
  have success : report.isSuccess = true := by
    cases checked
    decide +kernel
  have noneBlank : ∀ p ∈ c.resources, ¬ p.HasBlankType := by
    cases compiled
    decide +kernel
  have tells := tells_iff.mpr fun ⟨_, p, member, blank⟩ => noneBlank p member blank
  exact ⟨isPolicy, c, report, compiled, checked, success, tells.mp success⟩

/-- A message type of one space passes. -/
theorem isSuccess_blank_typed :
    let n : Node := .known "policy" none (.dataPolicy ⟨none⟩)
    n.isPolicy = true ∧ ∃ c report,
      Compilation.ofNode (.ofWorkspace (.typed " ")) n = .ok c ∧
        check (.typed " ") n .default Offline.verdict = .ok report ∧
          report.isSuccess = true ∧ ¬ c.IsSound := by
  intro n
  have compiled : Compilation.ofNode (.ofWorkspace (.typed " ")) n = .ok _ := rfl
  have checked : check (.typed " ") n .default Offline.verdict = .ok _ := rfl
  exact ⟨rfl, _, _, compiled, checked, by decide +kernel,
    Compilation.not_isSound_of_hasBlankType (by decide +kernel)⟩

end DryRun

end PolicyCanvas
