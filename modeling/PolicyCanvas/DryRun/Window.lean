import PolicyCanvas.DryRun.Submission

/-!
# Calls under way

The submissions of a run are called in their order, with no more calls open at a time than the
limit. Calls may be answered in any order, but they leave the window in the order in which they
entered it: a call is taken out once it and all before it are answered, and makes room for the next.
-/

namespace PolicyCanvas.DryRun

/-- A call that was started. -/
structure Call where
  submission : Submission
  answer? : Option Verdict

structure Window where
  limit : Nat
  /-- Not started yet. -/
  queue : List Submission
  /-- Started and not taken out. -/
  calls : List Call
  /-- Taken out, each with its answer. -/
  settled : List (Submission × Verdict)

namespace Window

/-- Starts calls as long as there is room. -/
def refill (w : Window) : Window :=
  let room := w.limit - w.calls.length
  { w with
    queue := w.queue.drop room
    calls := w.calls ++ (w.queue.take room).map fun s => ⟨s, none⟩ }

/-- Splits off the answered calls at the front. -/
def splitAnswered : List Call → List (Submission × Verdict) × List Call
  | ⟨s, some v⟩ :: calls =>
    let (answered, rest) := splitAnswered calls
    ((s, v) :: answered, rest)
  | calls => ([], calls)

/-- Takes out what can be taken out and starts what there is room for. -/
def advance (w : Window) : Window :=
  let (answered, rest) := splitAnswered w.calls
  refill { w with calls := rest, settled := w.settled ++ answered }

def start (limit : Nat) (submissions : List Submission) : Window :=
  refill ⟨limit, submissions, [], []⟩

/-- Answers the open call at a position, if there is one. -/
def answer (w : Window) (position : Nat) (v : Verdict) : Window :=
  advance { w with
    calls := w.calls.modify position fun c => { c with answer? := c.answer? <|> some v } }

/-- The calls that are not answered yet. -/
def unanswered (w : Window) : List Call := w.calls.filter (·.answer?.isNone)

/-- Whether every submission has been taken out. -/
def isDone (w : Window) : Bool := w.queue.isEmpty && w.calls.isEmpty

/-- The submissions that were called, in the order of the calls. -/
def started (w : Window) : List Submission :=
  w.settled.map Prod.fst ++ w.calls.map Call.submission

/-- Answers the first open call. -/
def answerFirst (verdict : Submission → Verdict) (w : Window) : Window :=
  match w.calls.find? (·.answer?.isNone) with
  | none => w
  | some c => w.answer (w.calls.findIdx (·.answer?.isNone)) (verdict c.submission)

/-- All windows on the way to the end when the open calls are answered one by one, in order. -/
def course (verdict : Submission → Verdict) (w : Window) : List Window :=
  go (w.queue.length + w.unanswered.length) w
where
  go : Nat → Window → List Window
    | 0, w => [w]
    | n + 1, w => w :: go n (w.answerFirst verdict)

/-- The window after all calls have been answered. -/
def drain (verdict : Submission → Verdict) (w : Window) : Window :=
  (w.course verdict).getLastD w

/-- The submissions that were rejected, with the messages. -/
def rejections (w : Window) : List (Submission × String) :=
  w.settled.filterMap fun (s, v) =>
    match v with
    | .accepted => none
    | .rejected message => some (s, message)

end Window

end PolicyCanvas.DryRun
