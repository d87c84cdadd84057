import PolicyCanvas.Compilation
import PolicyCanvas.DryRun.Window
import PolicyCanvas.Json.Decoder

/-!
# Dry runs

A dry run compiles a policy, submits its resources and reports what came of it. What is wrong with
the drawing and what was rejected stand apart in the report, and one rejection stops nothing.
-/

namespace PolicyCanvas.DryRun

open Json (Decoder)

structure Settings where
  /-- How many calls of one run may be open at a time; zero counts as one. -/
  maxConcurrentRequests : Nat
deriving DecidableEq, Repr

namespace Settings

def default : Settings := ⟨8⟩

def limit (s : Settings) : Nat := max 1 s.maxConcurrentRequests

def decoder : Decoder Settings :=
  .record "DryRunConfig"
    (.defaulted "maxConcurrentRequests" .size default.maxConcurrentRequests .done)
    fun (maxConcurrentRequests, _) => ⟨maxConcurrentRequests⟩

def ofText (text : String) : Except Json.DecodeError Settings := decoder.ofText text

def toJson (s : Settings) : Json :=
  .ofFields [("maxConcurrentRequests", some (.number (.integer s.maxConcurrentRequests)))]

end Settings

inductive Status where
  | idle
  | running
  | success
  | failure
deriving DecidableEq, Repr

namespace Status

def name : Status → String
  | idle => "IDLE"
  | running => "RUNNING"
  | success => "SUCCESS"
  | failure => "FAILURE"

def all : List Status := [idle, running, success, failure]

def decoder : Json.Decoder Status := .oneOf name all

end Status

/-- A resource that was rejected. -/
structure Failure where
  nodeId : String
  /-- The kind of resource. -/
  resource : String
  message : String
deriving DecidableEq, Repr

def Failure.toJson (f : Failure) : Json :=
  .ofFields
    [("message", some (.string f.message)),
      ("nodeId", some (.string f.nodeId)),
      ("resource", some (.string f.resource))]

structure Report where
  status : Status
  findings : List Finding
  failures : List Failure
  results : List ResultTree
  policy? : Option Gateway.Policy
  /-- How many resources were submitted. -/
  submitted : Nat

namespace Report

def isSuccess (r : Report) : Bool := r.status = .success

def toJson (r : Report) : Json :=
  .ofFields
    [("errors", some (.array (r.findings.map Finding.toJson))),
      ("failures", some (.array (r.failures.map Failure.toJson))),
      ("policy", some (.nullable Gateway.Policy.toJson r.policy?)),
      ("results", some (.array (ResultTree.allToJson r.results))),
      ("status", some (.string r.status.name)),
      ("submitted", some (.number (.integer r.submitted)))]

end Report

/-- A dry run under way. -/
structure Run where
  compilation : Compilation
  window : Window

namespace Run

/-- What the run submits, all in all. -/
def submissions (r : Run) : List Submission := Submission.ofResults r.compilation.results

/-- Starts the dry run of a node, as far as it goes without an answer. -/
def start (w : Workspace) (n : Node) (settings : Settings) : Except Refusal Run :=
  (Compilation.ofNode (.ofWorkspace w) n).map fun compilation =>
    ⟨compilation, .start settings.limit (Submission.ofResults compilation.results)⟩

/-- Starts the dry run of the first node with the id. -/
def startAt (w : Workspace) (id : String) (settings : Settings) : Except Refusal Run :=
  match w.node? id with
  | none => .error (.nodeNotFound id)
  | some n => start w n settings

def report (r : Run) : Report :=
  let findings := r.compilation.findings
  let failures := r.window.rejections.map fun (s, message) =>
    ⟨s.nodeId, s.payload.kind.name, message⟩
  { status := if findings.isEmpty && failures.isEmpty then .success else .failure
    findings
    failures
    results := r.compilation.results
    policy? := r.compilation.policy?
    submitted := r.submissions.length }

/-- The report, once no answer is awaited. -/
def report? (r : Run) : Option Report := if r.window.isDone then some r.report else none

def answer (r : Run) (position : Nat) (v : Verdict) : Run :=
  { r with window := r.window.answer position v }

def drain (verdict : Submission → Verdict) (r : Run) : Run :=
  { r with window := r.window.drain verdict }

end Run

/-- The dry run of a node with all calls answered. -/
def check (w : Workspace) (n : Node) (settings : Settings) (verdict : Submission → Verdict) :
    Except Refusal Report :=
  (Run.start w n settings).map fun run => (run.drain verdict).report

/-- The dry run of the first node with the id, with all calls answered. -/
def checkAt (w : Workspace) (id : String) (settings : Settings) (verdict : Submission → Verdict) :
    Except Refusal Report :=
  (Run.startAt w id settings).map fun run => (run.drain verdict).report

end PolicyCanvas.DryRun
