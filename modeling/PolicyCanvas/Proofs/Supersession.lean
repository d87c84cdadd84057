import PolicyCanvas.Proofs.CheckerLog

/-!
# Which report a checker keeps

For every order in which runs are started, answered, resumed and reset, only the run that was
started last has a say, and only until the next reset: it alone gives its report back and is shown,
and a run that was superseded changes nothing when it ends (`supersession`).
-/

namespace PolicyCanvas.DryRun

namespace Usage

/-- Only the run that was started last has a say, and only until the next reset. -/
structure FollowsLatest (u : Usage) : Prop where
  /-- A run that has ended is in the log, after its start. -/
  ended : ∀ i ending, u.runs[i]? = some (.ended ending) → ∃ check later between earlier,
    u.log = later ++ .ended i check ending :: (between ++ .started i :: earlier)
  refused : ∀ i e ending, .ended i (.error e) ending ∈ u.log → ending = .refused e
  /-- A run gives its report back if nothing was started or reset between its start and its end. -/
  reported : ∀ i r ending later between earlier,
    u.log = later ++ .ended i (.ok r) ending :: (between ++ .started i :: earlier) →
      (ending = .reported r ↔ ∀ x ∈ between, x.supersedes = false) ∧
        (ending = .superseded ↔ ∃ x ∈ between, x.supersedes = true)
  running_iff : u.checker.status = .running ↔ ∃ i p later earlier,
    u.runs[i]? = some (.pending p) ∧ u.log = later ++ .started i :: earlier ∧
      ∀ x ∈ later, x.supersedes = false
  /-- Of the run that was started last the check is shown, once it has ended. -/
  shows : ∀ i check ending later earlier, u.log = later ++ .started i :: earlier →
    (∀ x ∈ later, x.supersedes = false) → .ended i check ending ∈ later →
      (u.checker.status, u.checker.session.report?) =
        match check with
        | .ok r => (r.status, some r)
        | .error _ => (.idle, none)
  idle : (∀ run ∈ u.runs, ∃ ending, run = .ended ending) → u.checker.status ≠ .running

theorem Recorded.followsLatest {u : Usage} (c : u.Recorded) : u.FollowsLatest := by
  have running_iff := c.running_iff
  simp only [latest?_eq_started_iff] at running_iff
  refine ⟨?_, ?_, fun i r ending later between earlier => c.reported, ?_, ?_, ?_⟩
  · intro i ending isEnded
    have marked : (u.runs.map mark)[i]? = some (.inr ending) := by simp [isEnded, mark]
    obtain ⟨check, member⟩ := c.recorded i ending marked
    obtain ⟨later, before, split⟩ := List.append_of_mem member
    have given := c.explained i check ending before ⟨later, split.symm⟩
    obtain ⟨between, earlier, rfl⟩ := List.append_of_mem given.1
    exact ⟨check, later, between, earlier, split⟩
  · intro i e ending member
    obtain ⟨later, before, split⟩ := List.append_of_mem member
    exact (c.explained i _ ending before ⟨later, split.symm⟩).2
  · rw [running_iff]
    constructor
    · rintro ⟨i, ⟨later, earlier, split, clean⟩, p, isPending⟩
      exact ⟨i, p, later, earlier, isPending, split, clean⟩
    · rintro ⟨i, p, later, earlier, isPending, split, clean⟩
      exact ⟨i, ⟨later, earlier, split, clean⟩, p, isPending⟩
  · intro i check ending later earlier split clean member
    have follows := latest?_eq_started_iff.mpr ⟨later, earlier, split, clean⟩
    have ended := c.once i check ending (by simp [split, member])
    rw [show (u.checker.status, u.checker.session.report?) = _ from c.standing, standing, follows]
    simp only [ended]
    cases check <;> rfl
  · intro none_pending running
    obtain ⟨i, -, p, isPending⟩ := running_iff.mp running
    obtain ⟨ending, same⟩ := none_pending _ (List.mem_of_getElem? isPending)
    cases same

/-- When an event is no more than the end of a run, the run was superseded and left the checker
alone, or it was pending and still followed. -/
theorem step_of_ended {u : Usage} {e : Event} {i : Nat} {check : Except Refusal Report}
    {ending : Ending} (ends : (u.step e).log = .ended i check ending :: u.log) :
    (ending = .superseded ∧ (u.step e).checker = u.checker) ∨
      ∃ r p, ending = .reported r ∧ u.runs[i]? = some (.pending p) ∧
        u.checker.session.generation = p.token.generation := by
  cases e with
  | start w id =>
    change (u.start w id).log = _ at ends
    rcases u.start_cases w id with ⟨e, same⟩ | ⟨r, -, same⟩ | ⟨run, same⟩
    · have longer := congrArg List.length (ends.symm.trans (congrArg log same))
      simp at longer
    · have longer := congrArg List.length (ends.symm.trans (congrArg log same))
      simp at longer
    · rw [same] at ends
      simp at ends
  | answer run position v =>
    have longer := congrArg List.length ends
    simp [step, answer] at longer
  | resume j =>
    change (u.resume j).log = _ at ends
    change (_ ∧ (u.resume j).checker = _) ∨ _
    rcases u.resume_cases j with same | ⟨p, r, isPending, -, ⟨current, same⟩ | ⟨-, same⟩⟩
    · have longer := congrArg List.length (ends.symm.trans (congrArg log same))
      simp at longer
    · rw [same] at ends
      obtain ⟨rfl, -, rfl⟩ : j = i ∧ Except.ok r = check ∧ .reported r = ending := by
        simpa using ends
      exact .inr ⟨r, p, rfl, isPending, current⟩
    · rw [same] at ends ⊢
      obtain ⟨-, -, rfl⟩ : j = i ∧ Except.ok r = check ∧ .superseded = ending := by
        simpa using ends
      exact .inl ⟨rfl, rfl⟩
  | reset => simp [step, reset] at ends

/-- In whatever order runs are started, answered, resumed and reset, the checker follows the run
that was started last. A run that was superseded changes nothing when it ends, and no run changes
what came of a newer one. -/
theorem supersession (settings : Settings) (events : List Event)
    (few : ((new settings).after events).log.countP Entry.advances < UInt64.size) :
    let u := (new settings).after events
    u.FollowsLatest ∧
      (∀ e i check, (u.step e).log = .ended i check .superseded :: u.log →
        (u.step e).checker = u.checker) ∧
      ∀ e i j check ending, i < j → .started j ∈ u.log →
        (u.step e).log = .ended i check ending :: u.log → (u.step e).checker = u.checker := by
  intro u
  have c : u.Recorded := recorded_after settings events few
  refine ⟨c.followsLatest, ?_, ?_⟩
  · intro e i check ends
    rcases step_of_ended ends with ⟨-, same⟩ | ⟨r, p, other, -⟩
    · exact same
    · cases other
  · intro e i j check ending older newer ends
    rcases step_of_ended ends with ⟨-, same⟩ | ⟨r, p, -, isPending, current⟩
    · exact same
    · have marked : (u.runs.map mark)[i]? = some (.inl p.token) := by simp [isPending, mark]
      have follows := (c.current_iff marked few).mp current
      exact absurd (c.le_of_latest? follows newer) (by omega)

/-- Two runs of a policy with one operation, of which the older one is answered last. -/
def overlapping : List Event :=
  let w : Workspace :=
    { nodes :=
        [.known "policy" none (.dataPolicy ⟨none⟩),
          .known "log" none (.operation ⟨some "System.log", ∅, none⟩)]
      edges := [⟨"e1", "policy", "log", some "onSuccess", none⟩]
      functions := [] }
  [.start w "policy", .start w "policy", .answer 1 0 .accepted, .resume 1,
    .answer 0 0 (.rejected "too late"), .resume 0]

theorem supersession_overlapping :
    let u := (new .default).after overlapping
    u.log.countP Entry.advances < UInt64.size ∧ u.FollowsLatest ∧
      u.log.map Entry.started? = [none, none, some 1, some 0] ∧
        u.checker.session.report?.map Report.failures = some [] := by
  intro u
  have few : u.log.countP Entry.advances < UInt64.size := by decide +kernel
  obtain ⟨follows, -⟩ := supersession .default overlapping few
  exact ⟨few, follows, by decide +kernel, by decide +kernel⟩

end Usage

end PolicyCanvas.DryRun
