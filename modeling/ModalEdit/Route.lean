import ModalEdit.Action
import ModalEdit.Text.Quoted

/-! # Routes

What a key press turns out to be: nothing of the engine's business, text, part of a count, or
a command ready to run.
-/

namespace ModalEdit

/-- A bound command ready to run. -/
structure Dispatch where
  name : String
  action : Action
  count : Nat
  recordsUndo : Bool
  deriving DecidableEq

/-- What a key press turns out to be. -/
inductive Route
  /-- A key that is never intercepted. -/
  | passthrough
  /-- Takes the place of the selected character. -/
  | replace
  /-- Text, which the host types. -/
  | text
  /-- A keystroke of an input method where keys are commands. -/
  | rejected
  /-- Leads back to normal mode. -/
  | escape
  /-- A digit of a count. -/
  | absorbed
  /-- Bound to nothing, or to nothing in this mode. -/
  | unbound
  | dispatch (d : Dispatch)
  deriving DecidableEq

namespace Route

def name : Route → String
  | .passthrough => "Passthrough"
  | .replace => "Replace"
  | .text => "Text"
  | .rejected => "Rejected"
  | .escape => "Escape"
  | .absorbed => "Absorbed"
  | .unbound => "Unbound"
  | .dispatch _ => "Dispatch"

def dispatch? : Route → Option Dispatch
  | .dispatch d => some d
  | _ => none

def display (r : Route) : String :=
  match r.dispatch? with
  | none => r.name
  | some d =>
    r.name ++ "(Dispatch \x7b name: " ++ Quoted.text d.name.toList ++ ", action: "
      ++ d.action.name ++ ", count: " ++ toString d.count ++ ", records_undo: "
      ++ toString d.recordsUndo ++ " \x7d)"

end Route

end ModalEdit
