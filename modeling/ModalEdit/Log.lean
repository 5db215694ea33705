import ModalEdit.Key
import ModalEdit.Mode
import ModalEdit.Route
import ModalEdit.Timer

/-! # The log

What the engine reports while it works, as events of the domain, and how each is rendered for
a host that shows or stores it: a level, a message, and named values.
-/

namespace ModalEdit

/-- What is worth reporting. -/
inductive Event
  /-- The mode became another one. -/
  | modeChange (before after : Mode)
  /-- A text was saved for undo; `depth` texts are kept now. -/
  | snapshot (position depth : Nat)
  /-- A saved text was taken back; `remaining` ones are left. -/
  | undone (position remaining : Nat)
  /-- A text of so many bytes was put into the register. -/
  | registerWrite (bytes : Nat) (lineWise : Bool)
  /-- A command is about to run. -/
  | dispatch (command : String) (action : Action) (count : Nat)
  /-- A field gained the focus. -/
  | focus (field : FieldId)
  /-- An input method's key was turned away. -/
  | compositionRejected (mode : Mode)
  /-- A field lost the focus before its caret could be repaired. -/
  | repairSkipped (field : FieldId)
  /-- How a key was routed, and the count pending after it. -/
  | route (key : KeyEvent) (mode : Mode) (route : Route) (pending : Option Nat)
  deriving DecidableEq

/-- How much an event matters. -/
inductive Level
  | debug
  | trace
  deriving DecidableEq

def Level.name : Level → String
  | .debug => "DEBUG"
  | .trace => "TRACE"

def FieldId.display (f : FieldId) : String := "FieldId(" ++ toString f ++ ")"

def displayPending : Option Nat → String
  | none => "None"
  | some n => "Some(" ++ toString n ++ ")"

namespace Event

def level : Event → Level
  | .repairSkipped _ | .route .. => .trace
  | _ => .debug

def message : Event → String
  | .modeChange .. => "mode change"
  | .snapshot .. => "undo snapshot"
  | .undone .. => "undo"
  | .registerWrite .. => "register write"
  | .dispatch .. => "dispatch"
  | .focus _ => "focus"
  | .compositionRejected _ => "rejected input method composition"
  | .repairSkipped _ => "skipping repair on unfocused field"
  | .route .. => "route"

def fields : Event → List (String × String)
  | .modeChange before after => [("from", before.name), ("to", after.name)]
  | .snapshot position depth => [("position", toString position), ("depth", toString depth)]
  | .undone position remaining =>
    [("position", toString position), ("remaining", toString remaining)]
  | .registerWrite bytes lineWise =>
    [("len", toString bytes), ("line_wise", toString lineWise)]
  | .dispatch command action count =>
    [("command", command), ("action", action.name), ("count", toString count)]
  | .focus field => [("field", field.display)]
  | .compositionRejected mode => [("mode", mode.name)]
  | .repairSkipped field => [("field", field.display)]
  | .route key mode found pending =>
    [("event", key.display), ("mode", mode.name), ("route", found.display),
     ("pending_count", displayPending pending)]

end Event

/-- Events in the order in which they happened. -/
abbrev Log := List Event

end ModalEdit
