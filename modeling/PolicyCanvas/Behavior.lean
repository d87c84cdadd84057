/-!
# Behavior models

A behavior model follows the connection of a client through the states of a machine. The gateway
accepts a transition of a behavior policy only when it is a row of the table of the model.
-/

namespace PolicyCanvas.Behavior

inductive Model where
  | mqttEvents
  | publishDuplicate
  | publishQuota
deriving DecidableEq, Repr

namespace Model

def name : Model → String
  | mqttEvents => "Mqtt.events"
  | publishDuplicate => "Publish.duplicate"
  | publishQuota => "Publish.quota"

def all : List Model := [mqttEvents, publishDuplicate, publishQuota]

end Model

inductive StateKind where
  | initial
  | intermediate
  | success
  | failed
deriving DecidableEq, Repr

def StateKind.name : StateKind → String
  | initial => "Initial"
  | intermediate => "Intermediate"
  | success => "Success"
  | failed => "Failed"

structure State where
  name : String
  kind : StateKind
deriving DecidableEq, Repr

/-- A row of a transition table: the event takes a client from one state to another. -/
structure Row where
  event : String
  source : String
  target : String
deriving DecidableEq, Repr

structure StateMachine where
  model : Model
  states : List State
  rows : List Row
deriving DecidableEq, Repr

namespace Event

def inboundConnect : String := "Mqtt.OnInboundConnect"
def inboundPublish : String := "Mqtt.OnInboundPublish"
def inboundSubscribe : String := "Mqtt.OnInboundSubscribe"
def inboundDisconnect : String := "Mqtt.OnInboundDisconnect"
def disconnect : String := "Connection.OnDisconnect"
/-- Stands for every event. -/
def any : String := "Event.OnAny"

end Event

namespace StateMachine

open Event

/-- Every model lets any event lead from any state to any state. -/
def anyRow : Row := ⟨any, "Any.*", "Any.*"⟩

def mqttEvents : StateMachine where
  model := .mqttEvents
  states :=
    [⟨"Initial", .initial⟩, ⟨"Connected", .intermediate⟩, ⟨"Disconnected", .success⟩]
  rows :=
    [⟨inboundConnect, "Initial", "Connected"⟩,
      ⟨inboundPublish, "Connected", "Connected"⟩,
      ⟨inboundSubscribe, "Connected", "Connected"⟩,
      ⟨inboundDisconnect, "Connected", "Disconnected"⟩,
      ⟨disconnect, "Connected", "Disconnected"⟩,
      anyRow]

def publishDuplicate : StateMachine where
  model := .publishDuplicate
  states :=
    [⟨"Initial", .initial⟩, ⟨"Connected", .intermediate⟩, ⟨"NotDuplicated", .intermediate⟩,
      ⟨"Duplicated", .intermediate⟩, ⟨"Violated", .failed⟩, ⟨"Disconnected", .success⟩]
  rows :=
    [⟨inboundConnect, "Initial", "Connected"⟩,
      ⟨inboundPublish, "Connected", "NotDuplicated"⟩,
      ⟨inboundPublish, "NotDuplicated", "NotDuplicated"⟩,
      ⟨inboundPublish, "NotDuplicated", "Duplicated"⟩,
      ⟨inboundPublish, "Duplicated", "NotDuplicated"⟩,
      ⟨inboundPublish, "Duplicated", "Duplicated"⟩,
      ⟨inboundDisconnect, "Connected", "Disconnected"⟩,
      ⟨inboundDisconnect, "NotDuplicated", "Disconnected"⟩,
      ⟨inboundDisconnect, "Duplicated", "Disconnected"⟩,
      ⟨disconnect, "Connected", "Violated"⟩,
      ⟨disconnect, "NotDuplicated", "Violated"⟩,
      ⟨disconnect, "Duplicated", "Violated"⟩,
      anyRow]

def publishQuota : StateMachine where
  model := .publishQuota
  states :=
    [⟨"Initial", .initial⟩, ⟨"Connected", .intermediate⟩, ⟨"Publishing", .intermediate⟩,
      ⟨"Violated", .failed⟩, ⟨"Disconnected", .success⟩]
  rows :=
    [⟨inboundConnect, "Initial", "Connected"⟩,
      ⟨inboundPublish, "Connected", "Publishing"⟩,
      ⟨inboundPublish, "Publishing", "Publishing"⟩,
      ⟨inboundPublish, "Publishing", "Violated"⟩,
      ⟨inboundDisconnect, "Connected", "Disconnected"⟩,
      ⟨inboundDisconnect, "Publishing", "Disconnected"⟩,
      ⟨disconnect, "Connected", "Violated"⟩,
      ⟨disconnect, "Publishing", "Violated"⟩,
      anyRow]

def find? (m : StateMachine) (event source target : String) : Option Row :=
  m.rows.find? (· = ⟨event, source, target⟩)

/-- Whether some row has the event. -/
def hasEvent (m : StateMachine) (event : String) : Bool := m.rows.any (·.event = event)

theorem find?_eq_some_iff {m : StateMachine} {event source target : String} {r : Row} :
    m.find? event source target = some r ↔ r ∈ m.rows ∧ r = ⟨event, source, target⟩ := by
  constructor
  · intro h
    exact ⟨List.mem_of_find?_eq_some h, by simpa using List.find?_some h⟩
  · rintro ⟨mem, rfl⟩
    cases e : m.find? event source target with
    | none =>
      simp only [find?, List.find?_eq_none, decide_eq_true_eq] at e
      exact absurd rfl (e _ mem)
    | some r => rw [show r = _ by simpa using List.find?_some e]

end StateMachine

def Model.machine : Model → StateMachine
  | mqttEvents => .mqttEvents
  | publishDuplicate => .publishDuplicate
  | publishQuota => .publishQuota

theorem Model.model_machine (m : Model) : m.machine.model = m := by cases m <;> rfl

end PolicyCanvas.Behavior
