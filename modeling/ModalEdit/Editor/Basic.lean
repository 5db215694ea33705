import ModalEdit.History
import ModalEdit.Log
import ModalEdit.Register
import ModalEdit.Text.Words
import ModalEdit.Widget

/-! # The editor

All that a command can see and change: the modal state and the undo history of one field, the
widget that shows it, the register, and the log.  A command is a function on this state.  It
never fails: what would leave the text or cross a line break leaves the state as it is.

This module holds the state, the steps that commands are made of, and the two ways to repeat
a step: `times` goes on while something changes, `collect` goes on while something is yielded
and puts the yield into the register.
-/

namespace ModalEdit

/-- The state that commands work on. -/
structure Editor where
  modal : ModalState
  widget : Widget
  register : Register
  history : History
  log : Log := []

namespace Editor

/-! ## Reading -/

/-- The characters of the text, by position. -/
def chars (e : Editor) : Text := e.widget.chars

def len (e : Editor) : Nat := e.widget.len

theorem length_chars (e : Editor) : e.chars.length = e.len := e.widget.length_chars

def charAt? (e : Editor) (p : Nat) : Option Char := e.widget.charAt? p

def charBefore? (e : Editor) : Nat → Option Char
  | 0 => none
  | p + 1 => e.charAt? p

def caret (e : Editor) : Nat := e.widget.caret

def inVisual (e : Editor) : Bool := e.modal.mode == .visual

/-- The end of the selection that motions move: the visual cursor once there is one in visual
    mode, and the caret otherwise. -/
def movingEnd (e : Editor) : Nat :=
  match e.modal.cursor with
  | some cursor => if e.inVisual then cursor else e.caret
  | none => e.caret

/-- The fixed end of the visual selection, or a stand-in. -/
def anchorOr (e : Editor) (fallback : Nat) : Nat := e.modal.anchor.getD fallback

/-! ## Steps -/

def emit (e : Editor) (event : Event) : Editor := { e with log := e.log ++ [event] }

def select (e : Editor) (a b : Nat) : Editor := { e with widget := e.widget.select a b }

def withCursor (e : Editor) (p : Nat) : Editor :=
  { e with modal := { e.modal with cursor := some p } }

def withAnchor (e : Editor) (p : Nat) : Editor :=
  { e with modal := { e.modal with anchor := some p } }

def insertText (e : Editor) (cs : Text) (p : Nat) (placement : Placement) : Editor :=
  { e with widget := e.widget.insert cs p placement }

/-- Inserts the space that makes an empty line selectable. -/
def fillLine (e : Editor) (p : Nat) : Editor := e.insertText [' '] p .whole

def cut (e : Editor) (a b : Nat) : Option Text × Editor :=
  ((e.widget.cut a b).1, { e with widget := (e.widget.cut a b).2 })

/-- Changes the mode, and reports it if it is another one. -/
def switchMode (e : Editor) (m : Mode) : Editor :=
  let e' := { e with modal := e.modal.switchMode m }
  if e.modal.mode = m then e' else e'.emit (.modeChange e.modal.mode m)

def beginVisual (e : Editor) (anchor : Nat) : Editor :=
  let e' := e.switchMode .visual
  { e' with modal := e'.modal.beginVisual anchor }

def record (e : Editor) (cs : Text) (position : Nat) : Editor :=
  let history := e.history.record cs position
  { e with history := history }.emit (.snapshot position history.size)

def write (e : Editor) (cs : Text) (lineWise : Bool) : Editor :=
  { e with register := { e.register with lineWise := lineWise }.write cs }.emit
    (.registerWrite cs.byteLength lineWise)

/-! ## Repetition -/

/-- Whether two states agree in all that a repeated command can change. -/
def unchanged (before after : Editor) : Bool :=
  decide (before.widget.selection = after.widget.selection) && before.len == after.len &&
    decide (before.modal.anchor = after.modal.anchor) &&
    decide (before.modal.cursor = after.modal.cursor) &&
    before.history.size == after.history.size

/-- Repeats a command, and stops early once it changes nothing. -/
def whileChanging (command : Editor → Editor) : Nat → Editor → Editor
  | 0, e => e
  | n + 1, e =>
    let e' := command e
    if e.unchanged e' then e' else whileChanging command n e'

/-- Runs a command with a count; a count of zero means one. -/
def times (e : Editor) (count : Nat) (command : Editor → Editor) : Editor :=
  whileChanging command (max count 1) e

/-- Repeats a step at most so many times while it yields text: all that was yielded, if
    anything was, and the last state. -/
def gather {σ : Type} (step : σ → Option Text × σ) : Nat → σ → Option Text × σ
  | 0, s => (none, s)
  | n + 1, s =>
    match step s with
    | (none, s') => (none, s')
    | (some piece, s') =>
      let (rest, s'') := gather step n s'
      (some (piece ++ rest.getD []), s'')

/-- A text without the line break that it may end in. -/
def dropFinalBreak (cs : Text) : Text :=
  if cs.getLast? = some lineBreak then cs.dropLast else cs

/-- How often a yanking step may run: as its count says, but no more than once per position
    and once more. -/
def yankLimit (e : Editor) (count : Nat) : Nat := min (max count 1) (min (e.len + 1) maxCount)

/-- Puts what was gathered into the register, without its final line break.  Nothing gathered
    leaves the register alone; an empty line is something. -/
def yank (e : Editor) (gathered : Option Text) (lineWise : Bool) : Editor :=
  match gathered with
  | none => e
  | some cs => e.write (dropFinalBreak cs) lineWise

/-- Repeats a step that changes the editor, and puts all that it yields into the register. -/
def collect (e : Editor) (count : Nat) (lineWise : Bool)
    (step : Editor → Option Text × Editor) : Editor :=
  let (gathered, e') := gather step (e.yankLimit count) e
  e'.yank gathered lineWise

end Editor

end ModalEdit
