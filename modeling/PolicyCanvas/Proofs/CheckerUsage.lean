import Mathlib.Tactic.SplitIfs
import PolicyCanvas.DryRun.Checker

/-!
# A checker in use

A checker may be used for any number of runs at a time. `Usage` numbers the runs by their starts and
writes down what becomes known of them, in whatever order they are started, answered, resumed and
reset. No run is given up before its end. `start_cases` and `resume_cases` say all that one event
can do.
-/

namespace PolicyCanvas.DryRun

/-- What becomes known of the runs of a checker. -/
inductive Entry where
  | started (run : Nat)
  /-- What the check of the run came to, and what the run gave back. -/
  | ended (run : Nat) (check : Except Refusal Report) (ending : Ending)
  | reset

namespace Entry

/-- A start or a reset; both supersede the runs before. -/
def supersedes : Entry → Bool
  | started _ | reset => true
  | ended .. => false

/-- Whether a run is begun or the session is reset, which a run that is refused does as well. -/
def advances : Entry → Bool
  | started _ | reset | ended _ (.error _) _ => true
  | ended _ (.ok _) _ => false

def started? : Entry → Option Nat
  | started run => some run
  | _ => none

/-- What the check of a run came to, if the entry is its end. -/
def check? (run : Nat) : Entry → Option (Except Refusal Report)
  | ended i check _ => if i = run then some check else none
  | _ => none

/-- The end of a run, when there is one. -/
def ofProgress (run : Nat) (check? : Option (Except Refusal Report)) : Progress → List Entry
  | .ended ending => check?.toList.map (ended run · ending)
  | .pending _ => []

end Entry

/-- A checker in use. -/
structure Usage where
  checker : Checker
  /-- The runs in the order of their starts. -/
  runs : List Progress
  /-- What has become known, the latest first. -/
  log : List Entry

namespace Usage

def new (settings : Settings) : Usage := ⟨.new settings, [], []⟩

/-- Starts the dry run of the first node with the id. -/
def start (u : Usage) (w : Workspace) (id : String) : Usage :=
  let (checker, progress) := u.checker.start w id
  let check? : Option (Except Refusal Report) :=
    match Run.startAt w id u.checker.settings with
    | .error e => some (.error e)
    | .ok run => run.report?.map .ok
  { checker
    runs := u.runs ++ [progress]
    log := Entry.ofProgress u.runs.length check? progress ++ .started u.runs.length :: u.log }

/-- Answers an open call of a run. -/
def answer (u : Usage) (run position : Nat) (v : Verdict) : Usage :=
  { u with
    runs := u.runs.modify run fun
      | .pending p => .pending { p with run := p.run.answer position v }
      | .ended e => .ended e }

/-- Goes on with a run, which ends if it awaits no more answers. -/
def resume (u : Usage) (run : Nat) : Usage :=
  match u.runs[run]? with
  | some (.pending p) =>
    let (checker, progress) := u.checker.poll p
    { checker
      runs := u.runs.set run progress
      log := Entry.ofProgress run (p.run.report?.map .ok) progress ++ u.log }
  | _ => u

def reset (u : Usage) : Usage := { u with checker := u.checker.reset, log := .reset :: u.log }

inductive Event where
  | start (w : Workspace) (id : String)
  | answer (run position : Nat) (v : Verdict)
  | resume (run : Nat)
  | reset

def step (u : Usage) : Event → Usage
  | .start w id => u.start w id
  | .answer run position v => u.answer run position v
  | .resume run => u.resume run
  | .reset => u.reset

def after (u : Usage) (events : List Event) : Usage := events.foldl step u

theorem report?_eq_some {run : Run} {r : Report} (done : run.report? = some r) :
    r.status ≠ .running := by
  unfold Run.report? at done
  split_ifs at done
  obtain rfl := Option.some.inj done
  dsimp only [Run.report]
  split_ifs <;> simp

/-- A run that is started is refused, or ends at once with its report, or is pending. -/
theorem start_cases (u : Usage) (w : Workspace) (id : String) :
    (∃ e, u.start w id =
      ⟨⟨u.checker.settings, u.checker.session.generation + 1 + 1, .idle, none⟩,
        u.runs ++ [.ended (.refused e)],
        .ended u.runs.length (.error e) (.refused e) :: .started u.runs.length :: u.log⟩) ∨
    (∃ r, r.status ≠ .running ∧ u.start w id =
      ⟨⟨u.checker.settings, u.checker.session.generation + 1, r.status, some r⟩,
        u.runs ++ [.ended (.reported r)],
        .ended u.runs.length (.ok r) (.reported r) :: .started u.runs.length :: u.log⟩) ∨
    (∃ run, u.start w id =
      ⟨⟨u.checker.settings, u.checker.session.generation + 1, .running, none⟩,
        u.runs ++ [.pending ⟨⟨u.checker.session.generation + 1⟩, run⟩],
        .started u.runs.length :: u.log⟩) := by
  unfold start Checker.start
  cases begun : Run.startAt w id u.checker.settings with
  | error e =>
    refine .inl ⟨e, ?_⟩
    simp [begun, Checker.refuse, Session.begin, Session.isCurrent, Session.reset,
      Entry.ofProgress]
  | ok run =>
    cases done : run.report? with
    | none =>
      refine .inr (.inr ⟨run, ?_⟩)
      simp [begun, Checker.poll, done, Session.begin, Entry.ofProgress]
    | some r =>
      refine .inr (.inl ⟨r, report?_eq_some done, ?_⟩)
      simp [begun, Checker.poll, done, Session.begin, Session.complete, Session.isCurrent,
        Entry.ofProgress]

/-- Going on with a run changes nothing, or it ends the run: with its report when the session still
follows it, and otherwise without a trace in the checker. -/
theorem resume_cases (u : Usage) (i : Nat) :
    u.resume i = u ∨
    ∃ p r, u.runs[i]? = some (.pending p) ∧ r.status ≠ .running ∧
      ((u.checker.session.generation = p.token.generation ∧ u.resume i =
        ⟨⟨u.checker.settings, u.checker.session.generation, r.status, some r⟩,
          u.runs.set i (.ended (.reported r)), .ended i (.ok r) (.reported r) :: u.log⟩) ∨
      (u.checker.session.generation ≠ p.token.generation ∧ u.resume i =
        ⟨u.checker, u.runs.set i (.ended .superseded),
          .ended i (.ok r) .superseded :: u.log⟩)) := by
  unfold resume
  split
  next p isPending =>
    cases done : p.run.report? with
    | none =>
      left
      have unchanged : u.runs.set i (.pending p) = u.runs := by
        obtain ⟨inside, same⟩ := List.getElem?_eq_some_iff.mp isPending
        rw [← same, List.set_getElem_self]
      simp [Checker.poll, done, Entry.ofProgress, unchanged]
    | some r =>
      refine .inr ⟨p, r, isPending, report?_eq_some done, ?_⟩
      by_cases current : u.checker.session.generation = p.token.generation
      · refine .inl ⟨current, ?_⟩
        simp [Checker.poll, done, Session.complete, Session.isCurrent, current, Entry.ofProgress]
      · refine .inr ⟨current, ?_⟩
        simp [Checker.poll, done, Session.complete, Session.isCurrent, current, Entry.ofProgress]
  next => exact .inl rfl

/-- The log only grows. -/
theorem log_suffix_step (u : Usage) (e : Event) : u.log <:+ (u.step e).log := by
  cases e with
  | start w id => exact ⟨_ ++ [.started u.runs.length], by simp [step, start]; rfl⟩
  | answer run position v => exact List.suffix_refl _
  | resume i =>
    change u.log <:+ (u.resume i).log
    unfold resume
    split
    · exact List.suffix_append ..
    · exact List.suffix_refl _
  | reset => exact List.suffix_cons ..

theorem after_concat (u : Usage) (events : List Event) (e : Event) :
    u.after (events ++ [e]) = (u.after events).step e := by
  simp [after]

end Usage

end PolicyCanvas.DryRun
