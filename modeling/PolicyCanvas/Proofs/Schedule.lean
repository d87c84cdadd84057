import PolicyCanvas.DryRun.Report
import PolicyCanvas.Proofs.CallWindow
import PolicyCanvas.Proofs.Neighbours
import PolicyCanvas.Proofs.Validity

/-!
# What a dry run reports

A dry run comes to one report, whatever the limit of open calls is and in whatever order the calls
are answered (`exists_report_anyOrder`). The report has what the compilation has and the rejections
in the order of the submissions (`Report.Tells`).
-/

namespace PolicyCanvas

theorem Compilation.isSome_policy?_of_compile {w : Workspace} {id : String} {c : Compilation}
    (compiled : w.compile id = .ok c) : c.policy?.isSome = true ↔ c.findings = [] := by
  cases found : (Wiring.ofWorkspace w).node? id with
  | none =>
    rw [Workspace.compile, found] at compiled
    cases compiled
  | some n =>
    rw [Workspace.compile, found] at compiled
    exact isSome_policy?_iff compiled

namespace DryRun

/-- What a submission adds to the failures. -/
def Failure.of? (verdict : Submission → Verdict) (s : Submission) : Option Failure :=
  match verdict s with
  | .accepted => none
  | .rejected message => some ⟨s.nodeId, s.payload.kind.name, message⟩

/-- A report of a compilation whose submissions all got their verdicts. -/
structure Report.Tells (r : Report) (c : Compilation) (verdict : Submission → Verdict) :
    Prop where
  results : r.results = c.results
  policy? : r.policy? = c.policy?
  findings : r.findings = c.findings
  failures : r.failures = (Submission.ofResults c.results).filterMap (Failure.of? verdict)
  submitted : r.submitted = (Submission.ofResults c.results).length
  status : r.status = if r.policy?.isSome = true ∧ r.failures = [] then .success else .failure

namespace Run

/-- Takes out what can be taken out and starts what there is room for. -/
def advance (r : Run) : Run := { r with window := r.window.advance }

/-- What holds of a run at any time, if these submissions have been answered so far and `report` is
what the run comes to. -/
structure OnCourse (r : Run) (verdict : Submission → Verdict) (limit : Nat)
    (order : List Submission) (report : Report) : Prop where
  /-- The calls are started in the order of the submissions. -/
  started : r.window.started <+: r.submissions
  /-- What was called stays called. -/
  kept : ∀ more later, r.window.Reaches verdict more later → r.window.started <+: later.started
  unanswered_le : r.window.unanswered.length ≤ limit
  /-- Every call is answered at most once, and no submission is answered that was not called. -/
  once : (order ++ r.window.unanswered.map Call.submission).Perm r.window.started
  reported : ∀ r', r.report? = some r' →
    r' = report ∧ r.window.started = r.submissions ∧ order.Perm r.submissions
  ends : order.length = r.submissions.length → r.advance.report? = some report
  goesOn : order.length < r.submissions.length → r.advance.window.unanswered ≠ []

variable {r : Run} {verdict : Submission → Verdict} {limit : Nat} {order : List Submission}

theorem failures_of_isDone (k : r.window.Keeps verdict limit r.submissions order)
    (done : r.window.isDone = true) :
    r.report.failures = r.submissions.filterMap (Failure.of? verdict) := by
  simp only [report, Window.rejections, k.settled_of_isDone done, List.filterMap_map,
    List.map_filterMap]
  congr 1
  funext s
  dsimp only [Function.comp, Failure.of?]
  cases verdict s <;> rfl

theorem tells_report (valid_iff : r.compilation.policy?.isSome = true ↔
      r.compilation.findings = []) (k : r.window.Keeps verdict limit r.submissions order)
    (done : r.window.isDone = true) : r.report.Tells r.compilation verdict := by
  refine ⟨rfl, rfl, rfl, failures_of_isDone k done, rfl, ?_⟩
  have success_iff : (r.compilation.findings.isEmpty && r.report.failures.isEmpty) = true ↔
      r.report.policy?.isSome = true ∧ r.report.failures = [] := by
    rw [Bool.and_eq_true, List.isEmpty_iff, List.isEmpty_iff, ← valid_iff]
    rfl
  exact if_congr success_iff rfl rfl

end Run

theorem Report.Tells.unique {r r' : Report} {c : Compilation} {verdict : Submission → Verdict}
    (t : r.Tells c verdict) (t' : r'.Tells c verdict) : r = r' := by
  have status := t.status
  rw [t.policy?, t.failures, ← t'.policy?, ← t'.failures, ← t'.status] at status
  have same : (r.results, r.policy?, r.findings, r.failures, r.submitted) =
      (r'.results, r'.policy?, r'.findings, r'.failures, r'.submitted) := by
    rw [t.results, t.policy?, t.findings, t.failures, t.submitted, t'.results, t'.policy?,
      t'.findings, t'.failures, t'.submitted]
  cases r
  cases r'
  simp_all

namespace Run

section

variable {c : Compilation} {verdict : Submission → Verdict} {report : Report} {limit : Nat}
  {order : List Submission} {now : Window}

theorem report?_of_isDone (valid_iff : c.policy?.isSome = true ↔ c.findings = [])
    (tells : report.Tells c verdict)
    (k : now.Keeps verdict limit (Submission.ofResults c.results) order)
    (done : now.isDone = true) : report? ⟨c, now⟩ = some report := by
  rw [report?, if_pos done, (tells_report (r := ⟨c, now⟩) valid_iff k done).unique tells]

theorem onCourse (valid_iff : c.policy?.isSome = true ↔ c.findings = [])
    (tells : report.Tells c verdict) (positive : 0 < limit)
    (reached : (Window.start limit (Submission.ofResults c.results)).Reaches verdict order now) :
    OnCourse ⟨c, now⟩ verdict limit order report := by
  have keeps := Window.keeps_of_reaches reached
  have length := keeps.length_requests
  have lengthNext := keeps.advance.length_requests
  refine ⟨⟨_, keeps.total⟩, fun _ _ further => further.started_prefix,
    Nat.le_trans (List.length_filter_le ..) keeps.room, keeps.perm_started, ?_, ?_, ?_⟩
  · intro r' ended
    have done : now.isDone = true := by
      unfold report? at ended
      split at ended
      · assumption
      · cases ended
    obtain ⟨noQueue, noCalls⟩ := Window.isDone_iff.mp done
    have started : now.started = Submission.ofResults c.results := by
      rw [← keeps.total, noQueue, List.append_nil]
    have answered := keeps.perm_started
    rw [report?_of_isDone valid_iff tells keeps done] at ended
    simp only [Window.unanswered, noCalls, List.filter_nil, List.map_nil, List.append_nil,
      started] at answered
    exact ⟨(Option.some.inj ended).symm, started, answered⟩
  · intro all
    change order.length = (Submission.ofResults c.results).length at all
    have noneOpen : now.advance.unanswered = [] := List.length_eq_zero_iff.mp (by omega)
    exact report?_of_isDone valid_iff tells keeps.advance (keeps.isDone_advance positive noneOpen)
  · intro some_left noneOpen
    change order.length < (Submission.ofResults c.results).length at some_left
    change now.advance.unanswered = [] at noneOpen
    have noQueue := (Window.isDone_iff.mp (keeps.isDone_advance positive noneOpen)).1
    simp only [noneOpen, noQueue, List.length_nil] at lengthNext
    omega

end

theorem startAt_eq_map_compile {w : Workspace} (distinct : (w.nodes.map Node.id).Nodup)
    (id : String) (settings : Settings) :
    startAt w id settings = (w.compile id).map fun c =>
      ⟨c, .start settings.limit (Submission.ofResults c.results)⟩ := by
  rw [startAt, Workspace.compile, Workspace.node?_eq_lastNode? distinct, Wiring.node?_ofWorkspace]
  cases w.lastNode? id <;> rfl

end Run

/-- A dry run is refused when the compilation is, and otherwise comes to the one report that tells
of the compilation and the verdicts, for every limit of open calls and every order of answers. -/
theorem exists_report_anyOrder (w : Workspace) (distinct : (w.nodes.map Node.id).Nodup)
    (id : String) (verdict : Submission → Verdict) :
    (∀ settings e, Run.startAt w id settings = .error e ↔ w.compile id = .error e) ∧
      ∀ c, w.compile id = .ok c → ∃ report : Report, report.Tells c verdict ∧
        ∀ settings, checkAt w id settings verdict = .ok report ∧
          ∃ run, Run.startAt w id settings = .ok run ∧
            ∀ order now, run.window.Reaches verdict order now →
              Run.OnCourse { run with window := now } verdict
                (max 1 settings.maxConcurrentRequests) order report := by
  constructor
  · intro settings e
    rw [Run.startAt_eq_map_compile distinct]
    cases w.compile id <;> simp [Except.map]
  · intro c compiled
    have valid_iff := Compilation.isSome_policy?_of_compile compiled
    let failures := (Submission.ofResults c.results).filterMap (Failure.of? verdict)
    let status : Status := if c.policy?.isSome = true ∧ failures = [] then .success else .failure
    have tells : Report.Tells ⟨status, c.findings, failures, c.results, c.policy?, _⟩ c verdict :=
      ⟨rfl, rfl, rfl, rfl, rfl, rfl⟩
    refine ⟨_, tells, fun settings => ?_⟩
    have positive : 0 < settings.limit := Nat.le_max_left ..
    have started := Run.startAt_eq_map_compile distinct id settings
    rw [compiled] at started
    refine ⟨?_, _, started, fun order now => Run.onCourse valid_iff tells positive⟩
    obtain ⟨order, reached, done⟩ := Window.reaches_drain positive
    have drained := Run.report?_of_isDone valid_iff tells (Window.keeps_of_reaches reached) done
    rw [Run.report?, if_pos done] at drained
    rw [checkAt, started]
    exact congrArg Except.ok (Option.some.inj drained)

/-- With room for three calls, the third one may be answered before the first. It stays until the
second one is answered, and the fourth is called when the first is taken out. -/
theorem Window.reaches_third_first (verdict : Submission → Verdict)
    (first second third fourth : Submission) (rest : List Submission) :
    (start 3 (first :: second :: third :: fourth :: rest)).Reaches verdict [third, first]
      ⟨3, rest, [⟨second, none⟩, ⟨third, some (verdict third)⟩, ⟨fourth, none⟩],
        [(first, verdict first)]⟩ := by
  let begun : Window := ⟨3, fourth :: rest, [⟨first, none⟩, ⟨second, none⟩, ⟨third, none⟩], []⟩
  let thirdDone : Window :=
    { begun with calls := [⟨first, none⟩, ⟨second, none⟩, ⟨third, some (verdict third)⟩] }
  have afterThird : begun.Reaches verdict [third] thirdDone :=
    Reaches.start.finish (show begun.calls[2]? = some ⟨third, none⟩ from rfl)
  exact (afterThird.finish (show thirdDone.calls[0]? = some ⟨first, none⟩ from rfl)).advance

theorem exists_report_wired :
    let verdict (s : Submission) : Verdict :=
      if s.nodeId = "shape" then .rejected "unknown" else .accepted
    (Workspace.wired.nodes.map Node.id).Nodup ∧ ∃ c report,
      Workspace.wired.compile "policy" = .ok c ∧ report.Tells c verdict ∧
        (∀ settings, checkAt .wired "policy" settings verdict = .ok report) ∧
          report.failures = .replicate 3 ⟨"shape", "schema", "unknown"⟩ ∧
            report.submitted = 8 ∧ report.status = .failure ∧
              ∃ run first second third fourth rest now,
                Run.startAt .wired "policy" ⟨3⟩ = .ok run ∧
                  run.submissions = first :: second :: third :: fourth :: rest ∧
                    run.window.Reaches verdict [third, first] now ∧
                      now.started = [first, second, third, fourth] ∧
                        now.unanswered.map Call.submission = [second, fourth] ∧
                          Run.OnCourse { run with window := now } verdict 3 [third, first]
                            report := by
  intro verdict
  have distinct : (Workspace.wired.nodes.map Node.id).Nodup := by decide +kernel
  obtain ⟨-, reports⟩ := exists_report_anyOrder .wired distinct "policy" verdict
  have compiled : Workspace.wired.compile "policy" = .ok _ := rfl
  obtain ⟨report, tells, same⟩ := reports _ compiled
  have failures : report.failures = .replicate 3 ⟨"shape", "schema", "unknown"⟩ := by
    rw [tells.failures]
    decide +kernel
  have submitted : report.submitted = 8 := by
    rw [tells.submitted]
    decide +kernel
  have status : report.status = .failure := by
    rw [tells.status, failures, if_neg (by simp)]
  refine ⟨distinct, _, report, compiled, tells, fun settings => (same settings).1, failures,
    submitted, status, ?_⟩
  obtain ⟨-, run, started, course⟩ := same ⟨3⟩
  have begun := started
  rw [Run.startAt_eq_map_compile distinct, compiled] at begun
  obtain rfl := Except.ok.inj begun
  have eight := tells.submitted.symm.trans submitted
  revert course started
  dsimp only
  match split : Submission.ofResults _, eight with
  | first :: second :: third :: fourth :: rest, _ =>
    intro started course
    have reached := Window.reaches_third_first verdict first second third fourth rest
    exact ⟨_, first, second, third, fourth, rest, _, started, split, reached, rfl, rfl,
      course _ _ reached⟩

end DryRun

end PolicyCanvas
