import ModalEdit.Action
import ModalEdit.Key
import ModalEdit.Mode

/-! # Keymaps

A keymap says which trigger runs which binding, and a binding says which action it runs with
and without shift, in which mode, and whether the text is saved for undo first.

`Keymap.bind` is the only way to add a binding to a keymap, and refuses one that could never
run, one that would take the escape key away, and a second one for the same trigger; the first
of these reasons that applies is the one given.  `bind_eq_ok` reads off when it succeeds.
-/

namespace ModalEdit

/-- What a trigger does. -/
structure Binding where
  name : String
  /-- The only mode in which the binding runs; without one it runs in every command mode. -/
  mode : Option Mode := none
  /-- The text is saved for undo before the action runs. -/
  recordsUndo : Bool := false
  plain : Option Action := none
  shifted : Option Action := none
  deriving DecidableEq

namespace Binding

/-- The action for the modifiers held.  Only shift is told apart. -/
def resolve (b : Binding) (mods : Modifiers) : Option Action :=
  if mods.shift then b.shifted else b.plain

def allows (b : Binding) (m : Mode) : Bool := b.mode.all (· == m)

/-- Whether the binding has an action at all. -/
def hasAction (b : Binding) : Bool := b.plain.isSome || b.shifted.isSome

end Binding

/-- Why a binding is refused. -/
inductive BindingError
  | noAction (t : Trigger)
  | reserved (t : Trigger)
  | alreadyBound (t : Trigger)
  deriving DecidableEq

def BindingError.message : BindingError → String
  | .noAction t => "binding `" ++ t.display ++ "` has no action"
  | .reserved t => "`" ++ t.display ++ "` is reserved and cannot be bound"
  | .alreadyBound t => "`" ++ t.display ++ "` is already bound"

/-- Whether a trigger needs the escape key, which always leads back to normal mode. -/
def Trigger.isReserved (t : Trigger) : Bool := t.keys.contains .esc

/-- Bindings by trigger. -/
structure Keymap where
  entries : List (Trigger × Binding) := []
  deriving DecidableEq

namespace Keymap

def empty : Keymap := {}

def get? (m : Keymap) (t : Trigger) : Option Binding := m.entries.lookup t

def contains (m : Keymap) (t : Trigger) : Bool := (m.get? t).isSome

def size (m : Keymap) : Nat := m.entries.length

def bind (m : Keymap) (t : Trigger) (b : Binding) : Except BindingError Keymap :=
  if !b.hasAction then .error (.noAction t)
  else if t.isReserved then .error (.reserved t)
  else if m.contains t then .error (.alreadyBound t)
  else .ok ⟨m.entries ++ [(t, b)]⟩

/-- Adds bindings in order, up to the first that is refused. -/
def bindAll (m : Keymap) : List (Trigger × Binding) → Except BindingError Keymap
  | [] => .ok m
  | (t, b) :: rest =>
    match m.bind t b with
    | .error e => .error e
    | .ok m => m.bindAll rest

/-- The bindings in the order of their triggers' spellings. -/
def listing (m : Keymap) : List (Trigger × Binding) :=
  m.entries.mergeSort (fun p q => !decide (q.1.display < p.1.display))

theorem bind_eq_ok {m m' : Keymap} {t : Trigger} {b : Binding} :
    m.bind t b = .ok m' ↔
      b.hasAction = true ∧ t.isReserved = false ∧ m.contains t = false ∧
        m' = ⟨m.entries ++ [(t, b)]⟩ := by
  unfold bind
  cases b.hasAction <;> cases t.isReserved <;> cases m.contains t <;>
    simp [eq_comm]

end Keymap

end ModalEdit
