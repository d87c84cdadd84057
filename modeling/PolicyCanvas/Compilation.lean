import PolicyCanvas.Json.Decoder
import PolicyCanvas.Parts

/-!
# Compiling a policy

All parts of a policy are resolved, so that one pass reports everything that is wrong. When nothing
is, the parts make up the policy. The last result is that of the policy itself.
-/

namespace PolicyCanvas

/-- Why nothing can be said about a policy at all, as opposed to what is found wrong with it. -/
inductive Refusal where
  /-- The node with this tag is no policy. -/
  | unsupportedPolicyType (tag : String)
  | nodeNotFound (id : String)
  /-- The text of the workspace or of the settings cannot be read. -/
  | unreadable (e : Json.DecodeError)
deriving DecidableEq, Repr

def Refusal.message : Refusal → String
  | unsupportedPolicyType tag => "Policy Type not supported : " ++ tag
  | nodeNotFound id => "Node '" ++ id ++ "' not found in the workspace"
  | unreadable e => "Failed to parse workspace JSON: " ++ e.message

structure Compilation where
  results : List ResultTree
  policy? : Option Gateway.Policy

namespace Compilation

def findings (c : Compilation) : List Finding := ResultTree.allFindings c.results

/-- The id of a policy on the gateway: the one in its settings, or else that of its node. -/
def policyId (configured? : Option String) (n : Node) : String :=
  let id := Text.trim (configured?.getD "")
  if id = "" then n.id else id

/-- The result of the policy itself: neither a payload nor a finding when a part of it failed. -/
def policyResult (n : Node) (payload? : Option Payload) : ResultTree := ⟨n, payload?, none, none⟩

/-- A pipeline without steps is no action. -/
def action? (steps : List (Resolution Gateway.Operation)) : Option (List Gateway.Operation) :=
  match Resolution.values steps with
  | [] => none
  | pipeline => some pipeline

def ofDataPolicy (w : Wiring) (n : Node) (settings : DataPolicySettings) : Compilation :=
  let filter := Parts.topicFilter w n
  let validators := Parts.validators w n
  let onSuccess := Parts.pipeline w n Handle.onSuccess
  let onError := Parts.pipeline w n Handle.onError
  let parts := filter.toTree .topicFilter :: (validators.map (·.toTree .validator) ++
    onSuccess.map (·.toTree .operation) ++ onError.map (·.toTree .operation))
  let policy? : Option Gateway.DataPolicy :=
    match filter.value?, ResultTree.allFindings parts with
    | some topicFilter, [] =>
      some
        { id := policyId settings.policyId? n
          topicFilter
          validators := Resolution.values validators
          onSuccess? := action? onSuccess
          onError? := action? onError }
    | _, _ => none
  { results := parts ++ [policyResult n (policy?.map .dataPolicy)]
    policy? := policy?.map .data }

def ofBehaviorPolicy (w : Wiring) (n : Node) (settings : BehaviorPolicySettings) : Compilation :=
  let filter := Parts.clientFilter w n
  let model := Parts.model n settings
  let transitions := Parts.transitions w n settings
  let parts := filter.toTree .clientFilter :: model.toTree .model ::
    transitions.map (·.toTree .transition)
  let policy? : Option Gateway.BehaviorPolicy :=
    match filter.value?, model.value?, ResultTree.allFindings parts with
    | some clientIdFilter, some model, [] =>
      some
        { id := policyId settings.policyId? n
          clientIdFilter
          model
          transitions := Resolution.values transitions }
    | _, _, _ => none
  { results := parts ++ [policyResult n (policy?.map .behaviorPolicy)]
    policy? := policy?.map .behavior }

/-- Compiles a node; only policies can be compiled. -/
def ofNode (w : Wiring) (n : Node) : Except Refusal Compilation :=
  match n.settings? with
  | some (.dataPolicy settings) => .ok (ofDataPolicy w n settings)
  | some (.behaviorPolicy settings) => .ok (ofBehaviorPolicy w n settings)
  | _ => .error (.unsupportedPolicyType n.tag)

def toJson (c : Compilation) : Json :=
  .ofFields
    [("policy", some (.nullable Gateway.Policy.toJson c.policy?)),
      ("results", some (.array (ResultTree.allToJson c.results)))]

end Compilation

namespace Workspace

/-- Compiles the last node with the id. -/
def compile (w : Workspace) (id : String) : Except Refusal Compilation :=
  let wiring := Wiring.ofWorkspace w
  match wiring.node? id with
  | none => .error (.nodeNotFound id)
  | some n => Compilation.ofNode wiring n

end Workspace

end PolicyCanvas
