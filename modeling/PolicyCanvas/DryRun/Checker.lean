import PolicyCanvas.DryRun.Report

/-!
# Sessions and checkers

A session follows the latest of several runs. Every run has a token; a run that is begun, and every
reset, makes the earlier tokens stale, and a report that comes with a stale token is dropped. So a
slow run never replaces the report of a newer one. A checker runs dry runs with one set of settings
and follows them in a session.
-/

namespace PolicyCanvas.DryRun

/-- Tells which run a report belongs to. -/
structure Token where
  generation : UInt64
deriving DecidableEq, Repr

structure Session where
  /-- How many runs and resets there have been, up to whole rounds of the counter. -/
  generation : UInt64
  status : Status
  report? : Option Report

namespace Session

def new : Session := ⟨0, .idle, none⟩

/-- Begins a run; runs before it are superseded. -/
def begin (s : Session) : Session × Token :=
  (⟨s.generation + 1, .running, none⟩, ⟨s.generation + 1⟩)

def isCurrent (s : Session) (t : Token) : Bool := s.generation = t.generation

/-- Keeps the report of a run, or drops it when the run was superseded. -/
def complete (s : Session) (t : Token) (r : Report) : Session × Bool :=
  if s.isCurrent t then ({ s with status := r.status, report? := some r }, true) else (s, false)

/-- Back to idle; runs under way are superseded. -/
def reset (s : Session) : Session := ⟨s.generation + 1, .idle, none⟩

end Session

structure Checker where
  settings : Settings
  session : Session

/-- A run of a checker that awaits answers. -/
structure Pending where
  token : Token
  run : Run

/-- How a run of a checker ended. -/
inductive Ending where
  | refused (e : Refusal)
  /-- A newer run or a reset came before the end. -/
  | superseded
  | reported (r : Report)

/-- How far a run of a checker has come. -/
inductive Progress where
  | pending (p : Pending)
  | ended (e : Ending)

namespace Checker

def new (settings : Settings) : Checker := ⟨settings, .new⟩

def status (c : Checker) : Status := c.session.status

/-- Ends a run with its report when it awaits no more answers. -/
def poll (c : Checker) (p : Pending) : Checker × Progress :=
  match p.run.report? with
  | none => (c, .pending p)
  | some r =>
    let (session, kept) := c.session.complete p.token r
    ({ c with session }, .ended (if kept then .reported r else .superseded))

/-- Ends a run that comes to no report; the session is idle again if it followed this run. -/
def refuse (c : Checker) (t : Token) (e : Refusal) : Checker × Progress :=
  ({ c with session := if c.session.isCurrent t then c.session.reset else c.session },
    .ended (.refused e))

/-- Starts the dry run of the first node with the id. -/
def start (c : Checker) (w : Workspace) (id : String) : Checker × Progress :=
  let (session, token) := c.session.begin
  let c := { c with session }
  match Run.startAt w id c.settings with
  | .error e => c.refuse token e
  | .ok run => c.poll ⟨token, run⟩

def reset (c : Checker) : Checker := { c with session := c.session.reset }

end Checker

end PolicyCanvas.DryRun
