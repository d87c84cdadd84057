import PolicyCanvas.Behavior
import PolicyCanvas.Canvas.Wiring
import PolicyCanvas.Outcome
import PolicyCanvas.Text

/-!
# The parts of a policy

A policy has exactly one filter in front of it, whichever handle its edge enters, and a data policy
has validators, each with the schemas in front of it.

A pipeline leaves a node through a handle and goes on from operation to operation, each time to the
first one connected, until none follows or one comes again. None may follow an operation that ends
the pipeline. A transform is an operation that takes a message apart by one schema, runs scripts on
it in the order of their edges and puts it together by another schema; it needs all three, and
becomes one step for each of them.

A behavior policy has a model and transitions. Each of these is a row in the table of the model, and
a pipeline leaves it through its output.
-/

namespace PolicyCanvas.Parts

open PolicyCanvas.Behavior (Model StateMachine)

/-- The only filter in front of a policy, by its first entry. -/
def singleFilter (w : Wiring) (policy : Node) (expected : NodeKind)
    (entries? : Node → Option (List String)) : Resolution String :=
  match (w.incomers policy.id none).filterMap fun n => (entries? n).map (n, ·) with
  | [] => .failure policy (.notConnected expected.tag none)
  | [(filter, [])] => .failure filter (.noEntry expected)
  | [(filter, first :: _)] =>
    if Text.isBlank first then .failure filter (.noEntry expected) else .success filter first
  | _ :: (extra, _) :: _ => .failure extra (.surplus policy)

/-- The topics that a data policy applies to. -/
def topicFilter (w : Wiring) (policy : Node) : Resolution String :=
  singleFilter w policy .topicFilter Node.topics?

/-- The clients that a behavior policy applies to. -/
def clientFilter (w : Wiring) (policy : Node) : Resolution String :=
  singleFilter w policy .clientFilter Node.clients?

def schema (n : Node) (s : SchemaSettings) : Resolution Gateway.Schema :=
  if Text.isBlank s.id then .failure n .schemaWithoutId
  else if Text.isBlank s.version then .failure n (.schemaWithoutVersion s.id)
  else .success n ⟨s.id, s.version, s.type, s.source?, s.messageType?⟩

def validator (w : Wiring) (n : Node) : Resolution Gateway.Validator :=
  match n.validator? with
  | none => .failure n .notValidator
  | some settings =>
    match (w.incomers n.id none).filterMap fun n => n.schema?.map (n, ·) with
    | [] => .failure n (.notConnected NodeKind.schema.tag none)
    | schemas =>
      let resolved := schemas.map fun (n, s) => schema n s
      (Resolution.success n
        ⟨settings.type, (Resolution.values resolved).map Gateway.Schema.reference,
          settings.strategy⟩).withResources (resolved.map (·.toTree .schema))

/-- The validators in front of a data policy; one finding when there are none. -/
def validators (w : Wiring) (policy : Node) : List (Resolution Gateway.Validator) :=
  match (w.incomers policy.id none).filter (·.validator?.isSome) with
  | [] => [.failure policy (.notConnected NodeKind.validator.tag none)]
  | ns => ns.map (validator w)

def transformFunction : String := "DataHub.transform"
def deserializeFunction : String := "Serdes.deserialize"
def serializeFunction : String := "Serdes.serialize"

def script (n : Node) (s : FunctionSettings) : Resolution Gateway.Script :=
  if Text.isBlank s.name then .failure n .unnamedScript
  else .success n ⟨s.name, s.version?, s.language, s.source⟩

/-- A step that reads or writes messages by a schema. -/
def schemaStep (n : Node) (functionId role : String) (source : Node × SchemaSettings) :
    Resolution Gateway.Operation :=
  (Resolution.success n
    ⟨n.id ++ "-" ++ role, functionId,
      .ofTexts [("schemaId", source.2.id), ("schemaVersion", source.2.version)]⟩).withResources
    [(schema source.1 source.2).toTree .schema]

def scriptStep (n : Node) (settings : OperationSettings) (source : Node × FunctionSettings) :
    Resolution Gateway.Operation :=
  (Resolution.success n
    ⟨n.id ++ "-" ++ source.2.name, "fn:" ++ source.2.name ++ ":latest",
      settings.formData⟩).withResources
    [(script source.1 source.2).toTree .script]

/-- The first schema in front of a handle. -/
def schemaOn? (w : Wiring) (n : Node) (handle : String) : Option (Node × SchemaSettings) :=
  (w.incomers n.id (some handle)).findSome? fun n => n.schema?.map (n, ·)

/-- The scripts of a transform. -/
def scriptsOn (w : Wiring) (n : Node) : List (Node × FunctionSettings) :=
  (w.incomers n.id (some Handle.function)).filterMap fun n => n.function?.map (n, ·)

def transform (w : Wiring) (n : Node) (settings : OperationSettings) :
    List (Resolution Gateway.Operation) :=
  match schemaOn? w n Handle.deserialiser, scriptsOn w n, schemaOn? w n Handle.serialiser with
  | some reader, s :: scripts, some writer =>
    schemaStep n deserializeFunction "deserializer" reader ::
      ((s :: scripts).map (scriptStep n settings) ++
        [schemaStep n serializeFunction "serializer" writer])
  | reader?, scripts, writer? =>
    let missing (kind : NodeKind) (handle : String) (given : Bool) : List Problem :=
      if given then [] else [.notConnected kind.tag (some handle)]
    (missing .schema Handle.deserialiser reader?.isSome ++
      missing .function Handle.function (!scripts.isEmpty) ++
      missing .schema Handle.serialiser writer?.isSome).map (.failure n)

/-- The first operation connected to a handle of a node. -/
def nextOperation (w : Wiring) (id handle : String) : Option (Node × OperationSettings) :=
  (w.outgoers id (some handle)).findSome? fun n => n.operation?.map (n, ·)

theorem mem_nodes_of_nextOperation {w : Wiring} {id handle : String} {n : Node}
    {settings : OperationSettings} (next : nextOperation w id handle = some (n, settings)) :
    n ∈ w.workspace.nodes := by
  obtain ⟨other, follows, shown⟩ := List.exists_of_findSome?_eq_some next
  obtain ⟨_, -, same⟩ := Option.map_eq_some_iff.mp shown
  obtain rfl : other = n := congrArg Prod.fst same
  exact Wiring.mem_nodes_of_mem_neighbours follows

/-- Whether nothing may follow the operation: its own setting, or else that of its function. -/
def isTerminal (w : Wiring) (settings : OperationSettings) : Bool :=
  settings.isTerminal?.getD
    ((settings.functionId?.bind w.function?).elim false (·.traits.isTerminal))

/-- The steps that one operation becomes. An empty catalog offers every function. -/
def operation (w : Wiring) (n : Node) (settings : OperationSettings) :
    List (Resolution Gateway.Operation) :=
  let functionId := Text.trim (settings.functionId?.getD "")
  if functionId = "" then [.failure n .noFunction]
  else if functionId = transformFunction then transform w n settings
  else if !w.workspace.functions.isEmpty && (w.function? functionId).isNone then
    [.failure n (.unknownFunction functionId)]
  else [.success n ⟨n.id, functionId, settings.formData⟩]

/-- Adds to the results those of the operations that one comes to from a handle on. The ids of those
before are `visited`, and `terminal?` is the first of them that ends the pipeline. -/
def follow (w : Wiring) (results : List (Resolution Gateway.Operation)) (visited : List String)
    (terminal? : Option Node) (id handle : String) : List (Resolution Gateway.Operation) :=
  match _ : nextOperation w id handle with
  | none => results
  | some (n, settings) =>
    if n.id ∈ visited then results
    else
      let own :=
        match terminal? with
        | some last => [.failure n (.afterTerminal last)]
        | none => operation w n settings
      let terminal? := if terminal?.isNone && isTerminal w settings then some n else terminal?
      follow w (results ++ own) (n.id :: visited) terminal? n.id Handle.output
termination_by (w.workspace.nodes.filter (·.id ∉ visited)).length
decreasing_by
  have next : nextOperation w id handle = some (n, settings) := by assumption
  have new : n.id ∉ visited := by assumption
  exact length_filter_notMem_cons_lt Node.id (mem_nodes_of_nextOperation next) new

def pipeline (w : Wiring) (source : Node) (handle : String) : List (Resolution Gateway.Operation) :=
  follow w [] [] none source.id handle

/-- The arguments that count publishes. -/
def countArguments : Model → List String
  | .publishQuota => ["minPublishes", "maxPublishes"]
  | _ => []

def isCount : Json → Bool
  | .number n => n.IsUnsigned
  | _ => false

def model (policy : Node) (settings : BehaviorPolicySettings) : Resolution Gateway.BehaviorModel :=
  let wrong? := (countArguments settings.model).find? fun name =>
    (settings.arguments.get? name).any (!isCount ·)
  match wrong? with
  | some name => .failure policy (.argumentNotCount name settings.model)
  | none => .success policy ⟨settings.model.name, settings.arguments⟩

/-- The row of the table that a transition stands for, or what keeps it from being one. -/
def row (m : StateMachine) (settings : TransitionSettings) : Except Problem Behavior.Row :=
  match settings.event? with
  | none => .error .noEvent
  | some event =>
    if event = "" then .error .noEvent
    else if settings.model?.any (· ≠ m.model) then
      .error (.otherModel (settings.model?.getD m.model) m.model)
    else if !m.hasEvent event then .error (.unusedEvent event m.model)
    else
      match settings.source?, settings.target? with
      | some source, some target =>
        match m.find? event source target with
        | some row => .ok row
        | none => .error (.notInTable event source target m.model)
      | _, _ => .error (.noStates event)

def transition (w : Wiring) (m : StateMachine) (n : Node) (settings : TransitionSettings) :
    Resolution Gateway.Transition :=
  match row m settings with
  | .error p => .failure n p
  | .ok row =>
    let steps := pipeline w n Handle.output
    (Resolution.success n
      ⟨row.event, row.source, row.target, Resolution.values steps⟩).withResources
        (steps.map (·.toTree .operation))

/-- The transitions that a behavior policy leads to, through any handle. -/
def transitions (w : Wiring) (policy : Node) (settings : BehaviorPolicySettings) :
    List (Resolution Gateway.Transition) :=
  ((w.outgoers policy.id none).filterMap fun n => n.transition?.map (n, ·)).map
    fun (n, t) => transition w settings.model.machine n t

end PolicyCanvas.Parts
