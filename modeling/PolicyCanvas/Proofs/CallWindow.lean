import Mathlib.Data.List.Perm.Basic
import PolicyCanvas.DryRun.Window

/-!
# Calls answered in any order

The calls of a window may be answered in any order, and answered calls may be taken out at any time
(`Reaches`). The submissions are called in their order all the same, and no more calls are open than
the limit (`Keeps`). In the end every submission is settled with its verdict, in its own place
(`Keeps.settled_of_isDone`).
-/

namespace PolicyCanvas.DryRun

namespace Window

/-- The open call at a position is answered and stays in the window. -/
def finish (w : Window) (position : Nat) (v : Verdict) : Window :=
  { w with calls := w.calls.modify position fun c => { c with answer? := c.answer? <|> some v } }

/-- What can come of a window when every submission gets its verdict. The list has the answered
submissions in the order of the answers. -/
inductive Reaches (verdict : Submission → Verdict) (w : Window) :
    List Submission → Window → Prop
  | start : Reaches verdict w [] w
  | finish {order : List Submission} {now : Window} {position : Nat} {s : Submission}
      (before : Reaches verdict w order now) (isOpen : now.calls[position]? = some ⟨s, none⟩) :
      Reaches verdict w (order ++ [s]) (now.finish position (verdict s))
  | advance {order : List Submission} {now : Window} (before : Reaches verdict w order now) :
      Reaches verdict w order now.advance

/-- The answers so far, also of calls that were not taken out. -/
def answers (w : Window) : List (Submission × Verdict) :=
  w.settled ++ w.calls.filterMap fun c => c.answer?.map (c.submission, ·)

theorem isDone_iff {w : Window} : w.isDone = true ↔ w.queue = [] ∧ w.calls = [] := by
  simp [isDone]

theorem calls_eq_of_splitAnswered (calls : List Call) :
    calls = (splitAnswered calls).1.map (fun (s, v) => ⟨s, some v⟩) ++ (splitAnswered calls).2 := by
  induction calls with
  | nil => rfl
  | cons c calls ih =>
    obtain ⟨s, _ | v⟩ := c
    · rfl
    · exact congrArg _ ih

theorem head?_splitAnswered (calls : List Call) :
    ∀ c ∈ (splitAnswered calls).2.head?, c.answer? = none := by
  induction calls with
  | nil => simp [splitAnswered]
  | cons c calls ih =>
    obtain ⟨s, _ | v⟩ := c
    · simp [splitAnswered]
    · exact ih

/-- Advancing settles the answered calls up to the first open one and starts the next submissions,
as many as there is room for. -/
theorem advance_cases (w : Window) : ∃ answered rest next later,
    w.calls = answered.map (fun (s, v) => ⟨s, some v⟩) ++ rest ∧
      (∀ c ∈ rest.head?, c.answer? = none) ∧ w.queue = next ++ later ∧
        next.length = min (w.limit - rest.length) w.queue.length ∧
          w.advance = ⟨w.limit, later, rest ++ next.map (⟨·, none⟩), w.settled ++ answered⟩ :=
  ⟨_, _, _, _, calls_eq_of_splitAnswered w.calls, head?_splitAnswered w.calls,
    (List.take_append_drop ..).symm, List.length_take, rfl⟩

theorem finish_cases {w : Window} {position : Nat} {s : Submission} (v : Verdict)
    (isOpen : w.calls[position]? = some ⟨s, none⟩) : ∃ before after,
      w.calls = before ++ ⟨s, none⟩ :: after ∧
        w.finish position v = { w with calls := before ++ ⟨s, some v⟩ :: after } := by
  obtain ⟨inside, same⟩ := List.getElem?_eq_some_iff.mp isOpen
  have split := List.take_append_drop position w.calls
  rw [List.drop_eq_getElem_cons inside, same] at split
  refine ⟨_, _, split.symm, ?_⟩
  rw [finish, List.modify_eq_take_cons_drop inside, same]
  rfl

/-- The first open call is answered, unless none is open. -/
theorem answerFirst_cases (verdict : Submission → Verdict) (w : Window) :
    (w.unanswered = [] ∧ w.answerFirst verdict = w) ∨
      ∃ position s, w.calls[position]? = some ⟨s, none⟩ ∧
        w.answerFirst verdict = w.answer position (verdict s) := by
  unfold answerFirst
  split
  next noneOpen =>
    refine .inl ⟨?_, rfl⟩
    simpa [unanswered, List.filter_eq_nil_iff] using noneOpen
  next c first =>
    have isOpen := List.find?_some first
    rw [List.find?_eq_getElem?_findIdx] at first
    obtain ⟨s, _ | v⟩ := c
    · exact .inr ⟨_, s, first, rfl⟩
    · simp at isOpen

theorem started_prefix_advance (w : Window) : w.started <+: w.advance.started := by
  obtain ⟨answered, rest, next, later, calls, -, -, -, same⟩ := w.advance_cases
  refine ⟨next, ?_⟩
  simp [same, started, calls, Function.comp_def]

theorem started_finish {w : Window} {position : Nat} {s : Submission} (v : Verdict)
    (isOpen : w.calls[position]? = some ⟨s, none⟩) :
    (w.finish position v).started = w.started := by
  obtain ⟨before, after, calls, same⟩ := finish_cases v isOpen
  simp [same, started, calls]

/-- To answer a call is to finish it and then to advance. -/
theorem Reaches.answer {verdict : Submission → Verdict} {w now : Window} {order : List Submission}
    {position : Nat} {s : Submission} (before : Reaches verdict w order now)
    (isOpen : now.calls[position]? = some ⟨s, none⟩) :
    Reaches verdict w (order ++ [s]) (now.answer position (verdict s)) :=
  (before.finish isOpen).advance

/-- No call that was started is taken back. -/
theorem Reaches.started_prefix {verdict : Submission → Verdict} {w now : Window}
    {order : List Submission} (reached : Reaches verdict w order now) :
    w.started <+: now.started := by
  induction reached with
  | start => exact List.prefix_refl _
  | finish before isOpen ih => rwa [started_finish _ isOpen]
  | advance before ih => exact ih.trans (started_prefix_advance _)

theorem perm_answers_unanswered (w : Window) :
    (w.answers.map Prod.fst ++ w.unanswered.map Call.submission).Perm w.started := by
  simp only [answers, unanswered, started, List.map_append, List.append_assoc]
  apply List.Perm.append_left
  induction w.calls with
  | nil => exact .refl _
  | cons c calls ih =>
    obtain ⟨s, _ | v⟩ := c
    · simpa using List.perm_middle.trans (ih.cons s)
    · simpa using ih

/-! ### What every step keeps -/

/-- What holds of a window with these requests, of which some were answered in the given order. -/
structure Keeps (verdict : Submission → Verdict) (limit : Nat) (requests order : List Submission)
    (w : Window) : Prop where
  limited : w.limit = limit
  total : w.started ++ w.queue = requests
  room : w.calls.length ≤ limit
  answers : w.answers.Perm (order.map fun s => (s, verdict s))

namespace Keeps

variable {verdict : Submission → Verdict} {limit : Nat} {requests order : List Submission}
  {w : Window}

theorem advance (k : Keeps verdict limit requests order w) :
    Keeps verdict limit requests order w.advance := by
  obtain ⟨answered, rest, next, later, calls, -, queue, room, same⟩ := w.advance_cases
  obtain ⟨limited, total, fits, answers⟩ := k
  rw [same]
  refine ⟨limited, ?_, ?_, ?_⟩
  · rw [← total, started, started, calls, queue]
    simp [Function.comp_def]
  · have shorter : rest.length ≤ w.calls.length := by simp [calls]
    simp only [List.length_append, List.length_map]
    omega
  · refine .trans ?_ answers
    simp [Window.answers, calls, List.filterMap_map]

theorem finish (k : Keeps verdict limit requests order w) {position : Nat} {s : Submission}
    (isOpen : w.calls[position]? = some ⟨s, none⟩) :
    Keeps verdict limit requests (order ++ [s]) (w.finish position (verdict s)) := by
  have sameStarted := started_finish (verdict s) isOpen
  obtain ⟨before, after, calls, same⟩ := finish_cases (verdict s) isOpen
  obtain ⟨limited, total, fits, answers⟩ := k
  rw [same] at sameStarted ⊢
  refine ⟨limited, ?_, ?_, ?_⟩
  · rw [sameStarted, total]
  · simpa [calls] using fits
  · rw [List.map_append]
    refine .trans ?_ (answers.append_right _)
    simp only [Window.answers, calls, List.filterMap_append, List.filterMap_cons, Option.map_some,
      Option.map_none, List.append_assoc, List.map_cons, List.map_nil]
    exact ((List.perm_append_singleton _ _).symm.append_left _).append_left _

theorem reaches (k : Keeps verdict limit requests order w) {more : List Submission} {now : Window}
    (reached : Reaches verdict w more now) : Keeps verdict limit requests (order ++ more) now := by
  induction reached with
  | start => rwa [List.append_nil]
  | finish before isOpen ih => rw [← List.append_assoc]; exact ih.finish isOpen
  | advance before ih => exact ih.advance

/-- The submissions that were called are those answered and those with an open call. -/
theorem perm_started (k : Keeps verdict limit requests order w) :
    (order ++ w.unanswered.map Call.submission).Perm w.started := by
  have answered : (w.answers.map Prod.fst).Perm order := by
    simpa [Function.comp_def] using k.answers.map Prod.fst
  exact (answered.symm.append_right _).trans (perm_answers_unanswered w)

theorem length_requests (k : Keeps verdict limit requests order w) :
    order.length + w.unanswered.length + w.queue.length = requests.length := by
  rw [← k.total, List.length_append, ← k.perm_started.length_eq, List.length_append,
    List.length_map]

/-- When a window that was advanced has no open call, it has nothing left to call. -/
theorem isDone_advance (k : Keeps verdict limit requests order w) (positive : 0 < limit)
    (noneOpen : w.advance.unanswered = []) : w.advance.isDone = true := by
  obtain ⟨answered, rest, next, later, -, front, queue, room, same⟩ := w.advance_cases
  rw [same] at noneOpen ⊢
  simp only [unanswered, List.filter_append, List.append_eq_nil_iff, List.filter_eq_nil_iff]
    at noneOpen
  have noRest : rest = [] := by
    cases rest with
    | nil => rfl
    | cons c rest => simpa [front c (by simp)] using noneOpen.1 c (by simp)
  have noNext : next = [] := by
    cases next with
    | nil => rfl
    | cons s next => simpa using noneOpen.2 ⟨s, none⟩ (by simp)
  have noLater : later = [] := by
    rw [queue, noRest, noNext, k.limited] at room
    simp only [List.length_nil, List.nil_append] at room
    exact List.length_eq_zero_iff.mp (by omega)
  exact isDone_iff.mpr ⟨noLater, by simp [noRest, noNext]⟩

/-- In the end every submission is settled with its verdict, in its own place. -/
theorem settled_of_isDone (k : Keeps verdict limit requests order w) (done : w.isDone = true) :
    w.settled = requests.map fun s => (s, verdict s) := by
  obtain ⟨noQueue, noCalls⟩ := isDone_iff.mp done
  have submissions : w.settled.map Prod.fst = requests := by
    simpa [started, noQueue, noCalls] using k.total
  have answers : w.settled.Perm (order.map fun s => (s, verdict s)) := by
    simpa [Window.answers, noCalls] using k.answers
  have verdicts : ∀ p ∈ w.settled, (p.1, verdict p.1) = p := by
    intro p member
    obtain ⟨s, -, rfl⟩ := List.mem_map.mp (answers.mem_iff.mp member)
    rfl
  rw [← submissions, List.map_map]
  exact ((List.map_congr_left verdicts).trans (List.map_id _)).symm

end Keeps

section

variable (verdict : Submission → Verdict) (limit : Nat) (requests : List Submission)

theorem keeps_idle : Keeps verdict limit requests [] ⟨limit, requests, [], []⟩ :=
  ⟨rfl, rfl, Nat.zero_le _, .refl _⟩

/-- A window starts as one without calls that is advanced. -/
theorem keeps_start : Keeps verdict limit requests [] (start limit requests) :=
  (keeps_idle verdict limit requests).advance

variable {verdict limit requests}

theorem keeps_of_reaches {order : List Submission} {now : Window}
    (reached : Reaches verdict (start limit requests) order now) :
    Keeps verdict limit requests order now :=
  (keeps_start verdict limit requests).reaches reached

/-- Answering the first open call as often as there are submissions left answers them all. A window
that is not done must have an open call for that, as it has after every advance. -/
theorem reaches_go (positive : 0 < limit) {order : List Submission} {now : Window}
    (reached : Reaches verdict (start limit requests) order now)
    (poised : now.unanswered = [] → now.isDone = true) (n : Nat)
    (left : order.length + n = requests.length) (d : Window) :
    ∃ order', Reaches verdict (start limit requests) order'
        ((course.go verdict n now).getLastD d) ∧
      ((course.go verdict n now).getLastD d).isDone = true := by
  induction n generalizing order now d with
  | zero =>
    have length := (keeps_of_reaches reached).length_requests
    exact ⟨order, reached, poised (List.length_eq_zero_iff.mp (by omega))⟩
  | succ n ih =>
    rw [course.go, List.getLastD_cons]
    rcases now.answerFirst_cases verdict with ⟨noneOpen, -⟩ | ⟨position, s, isOpen, same⟩
    · have length := (keeps_of_reaches reached).length_requests
      rw [noneOpen, (isDone_iff.mp (poised noneOpen)).1] at length
      simp only [List.length_nil] at length
      omega
    · have keeps := keeps_of_reaches (reached.finish isOpen)
      rw [same]
      refine ih (reached.answer isOpen) (keeps.isDone_advance positive) ?_ now
      simp only [List.length_append, List.length_singleton]
      omega

/-- Answering the first open call again and again comes to the end. -/
theorem reaches_drain (positive : 0 < limit) : ∃ order,
    Reaches verdict (start limit requests) order ((start limit requests).drain verdict) ∧
      ((start limit requests).drain verdict).isDone = true := by
  have length := (keeps_start verdict limit requests).length_requests
  have poised := (keeps_idle verdict limit requests).isDone_advance positive
  refine reaches_go positive .start poised _ ?_ _
  rw [← length]
  simp only [List.length_nil]
  omega

end

end Window

end PolicyCanvas.DryRun
