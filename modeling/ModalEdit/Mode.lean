/-! # Modes

The mode of a field and what comes with it: the two ends of a visual selection and the flag
that the next key replaces a character.

The visual positions mean something in visual mode only, and `switchMode` drops them when it
leaves that mode.
-/

namespace ModalEdit

/-- What keys mean at the moment. -/
inductive Mode
  /-- Keys are commands. -/
  | normal
  /-- Keys are text. -/
  | insert
  /-- Keys are commands, and motions grow or shrink a selection. -/
  | visual
  /-- A command line.  No command enters it. -/
  | command
  deriving DecidableEq

namespace Mode

def all : List Mode := [.normal, .insert, .visual, .command]

/-- The name under which a mode is stored and reported. -/
def name : Mode → String
  | .normal => "Normal"
  | .insert => "Insert"
  | .visual => "Visual"
  | .command => "Command"

def ofName? (s : String) : Option Mode := all.find? (fun m => m.name == s)

/-- Whether keys are commands in a mode. -/
def isCommandMode : Mode → Bool
  | .normal | .visual => true
  | .insert | .command => false

theorem ofName?_name (m : Mode) : ofName? m.name = some m := by
  cases m <;> decide

end Mode

/-- The modal state of one field. -/
structure ModalState where
  mode : Mode := .normal
  /-- The fixed end of the visual selection. -/
  anchor : Option Nat := none
  /-- The moving end of the visual selection, from the first motion on. -/
  cursor : Option Nat := none
  /-- The next key replaces the selected character. -/
  replacing : Bool := false
  deriving DecidableEq

namespace ModalState

def withoutVisual (s : ModalState) : ModalState := { s with anchor := none, cursor := none }

/-- Changes the mode.  Only visual mode keeps the visual positions. -/
def switchMode (s : ModalState) (m : Mode) : ModalState :=
  if m = .visual then { s with mode := m } else { s with mode := m }.withoutVisual

def beginVisual (s : ModalState) (anchor : Nat) : ModalState :=
  { s.switchMode .visual with anchor := some anchor, cursor := none }

/-- Forgets all but the mode, as when a field is focused. -/
def resetTransient (s : ModalState) : ModalState := { s.withoutVisual with replacing := false }

@[simp] theorem mode_switchMode (s : ModalState) (m : Mode) : (s.switchMode m).mode = m := by
  unfold switchMode
  split <;> rfl

@[simp] theorem replacing_switchMode (s : ModalState) (m : Mode) :
    (s.switchMode m).replacing = s.replacing := by
  unfold switchMode
  split <;> rfl

theorem switchMode_of_ne_visual (s : ModalState) {m : Mode} (h : m ≠ .visual) :
    s.switchMode m = ⟨m, none, none, s.replacing⟩ := by
  simp [switchMode, h, withoutVisual]

@[simp] theorem mode_beginVisual (s : ModalState) (a : Nat) : (s.beginVisual a).mode = .visual :=
  mode_switchMode s .visual

@[simp] theorem mode_resetTransient (s : ModalState) : s.resetTransient.mode = s.mode := rfl

end ModalState

end ModalEdit
