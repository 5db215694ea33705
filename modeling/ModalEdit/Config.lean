import ModalEdit.Key
import ModalEdit.Time

/-! # Settings

What a host can adjust.  A configuration can be written down freely; `check` says whether an
engine accepts it, and of two faults reports the undo limit.
-/

namespace ModalEdit

/-- The settings of an engine. -/
structure Config where
  /-- Log how each key is routed. -/
  debug : Bool := false
  /-- The keys that are never intercepted. -/
  passthrough : List KeyCode :=
    .tab :: [1, 2, 3, 4, 5, 6, 7, 8, 9, 10, 11, 12].map KeyCode.function
  /-- The longest pause between the two keys of a chord; without one any pause is accepted. -/
  chordWindow : Option Nat := some (Time.ofMillis 600)
  /-- How many texts are kept for undo in each field. -/
  undoLimit : Nat := 100
  /-- How long an insert command waits before it enters insert mode. -/
  modeSwitchDelay : Nat := Time.ofMillis 100
  /-- How long the caret is left alone after a character was replaced. -/
  replaceRepairDelay : Nat := Time.ofMillis 50
  deriving DecidableEq

/-- Why a configuration is refused. -/
inductive ConfigError
  | zeroUndoLimit
  | reservedPassthrough (key : KeyCode)
  deriving DecidableEq

def ConfigError.message : ConfigError → String
  | .zeroUndoLimit => "undo history limit must be at least 1"
  | .reservedPassthrough k =>
    k.display ++ " cannot be passed through, it is needed to leave insert mode"

namespace Config

def passesThrough (c : Config) (k : KeyCode) : Bool := c.passthrough.contains k

def fault? (c : Config) : Option ConfigError :=
  if c.undoLimit = 0 then some .zeroUndoLimit
  else if c.passesThrough .esc then some (.reservedPassthrough .esc)
  else none

def check (c : Config) : Except ConfigError Config :=
  match c.fault? with
  | some e => .error e
  | none => .ok c

/-- A configuration is acceptable if it keeps at least one text for undo and leaves the escape
    key to the engine. -/
theorem fault?_eq_none_iff {c : Config} :
    c.fault? = none ↔ 0 < c.undoLimit ∧ c.passesThrough .esc = false := by
  unfold fault?
  split
  · next h => simp [h]
  · next h => simp [Nat.pos_of_ne_zero h]

end Config

end ModalEdit
