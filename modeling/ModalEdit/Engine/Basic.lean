import ModalEdit.Editor.Run
import ModalEdit.Engine.Fields
import ModalEdit.Router

/-! # The engine

The modal layer over all fields of a host.  It owns the modal state and the undo history of
each field, the router, the register and the timers; a widget is only lent to it for the
length of a call.

* `build?` makes an engine, and refuses settings or bindings that could not work.
* `keyDown`, `click` and `pollTimers` act on the widget of the focused field; `focusChanged`
  says which field that is.

A field is created when it is first used.
-/

namespace ModalEdit

/-- The modal layer over all fields. -/
structure Engine where
  config : Config
  router : Router
  fields : FieldTable := {}
  active : FieldId := 0
  register : Register := {}
  timers : TimerQueue := {}
  log : Log := []

/-- What a host is to do with the key that it just reported. -/
structure KeyOutcome where
  /-- The widget must not act on the key itself. -/
  suppress : Bool
  /-- Something to show to the user. -/
  message : Option String := none
  deriving DecidableEq

/-- What is shown when a command is typed through an input method. -/
def compositionMessage : String :=
  "Execution failure! Please use the vim instructions in the English input method."

/-- Why an engine cannot be built. -/
inductive BuildError
  | config (e : ConfigError)
  | binding (e : BindingError)
  deriving DecidableEq

def BuildError.message : BuildError → String
  | .config e => e.message
  | .binding e => e.message

namespace Engine

/-! ## Making an engine -/

/-- An engine with given parts, all of them at rest. -/
def assemble (config : Config) (keymap : Keymap) (register : Register) : Engine where
  config := config
  router := .ofConfig keymap config
  register := register

/-- The engine that a host has when it asks for nothing. -/
def standard : Engine := assemble {} .standard {}

/-- An engine with some bindings on top of a keymap.  The settings are checked first, then the
    bindings in order. -/
def build? (config : Config) (keymap : Keymap) (extra : List (Trigger × Binding))
    (register : Register) : Except BuildError Engine :=
  match config.fault? with
  | some e => .error (.config e)
  | none =>
    match keymap.bindAll extra with
    | .error e => .error (.binding e)
    | .ok keymap => .ok (assemble config keymap register)

/-! ## Reading -/

/-- What is kept for a field, or what would be kept if it were used now. -/
def fieldOrNew (e : Engine) (f : FieldId) : Field :=
  (e.fields.get? f).getD { history := .ofLimit e.config.undoLimit }

def fieldMode (e : Engine) (f : FieldId) : Mode := (e.fieldOrNew f).modal.mode

def mode (e : Engine) : Mode := e.fieldMode e.active

def activeField (e : Engine) : Field := e.fieldOrNew e.active

def hasPendingTimers (e : Engine) : Bool := !e.timers.pending.isEmpty

/-! ## Steps -/

def emit (e : Engine) (event : Event) : Engine := { e with log := e.log ++ [event] }

/-- Creates a field if it is new. -/
def touch (e : Engine) (f : FieldId) : Engine :=
  { e with fields := e.fields.put f (e.fieldOrNew f) }

/-- The editor of a field that is shown by a widget. -/
def editor (e : Engine) (f : FieldId) (w : Widget) : Editor where
  modal := (e.fieldOrNew f).modal
  widget := w
  register := e.register
  history := (e.fieldOrNew f).history
  log := e.log

/-- The engine once an editor of a field is done. -/
def adopt (e : Engine) (f : FieldId) (d : Editor) : Engine :=
  { e with
    fields := e.fields.put f { modal := d.modal, history := d.history }
    register := d.register
    log := d.log }

/-- Runs a command on a field and on the widget that shows it. -/
def onField (e : Engine) (f : FieldId) (w : Widget) (command : Editor → Editor) :
    Engine × Widget :=
  let d := command (e.editor f w)
  (e.adopt f d, d.widget)

def defer (e : Engine) (due : Nat) (f : FieldId) (task : Task) : Engine :=
  { e with timers := e.timers.schedule ⟨due, f, task⟩ }

def writeRegister (e : Engine) (cs : Text) : Engine :=
  { e with register := e.register.write cs }.emit
    (.registerWrite cs.byteLength e.register.lineWise)

/-- Says on behalf of the host how the register is to be pasted. -/
def setLineWise (e : Engine) (lineWise : Bool) : Engine :=
  { e with register := { e.register with lineWise := lineWise } }

/-! ## What a host reports -/

/-- A field gains the focus.  It keeps its mode; a selection under way, a pending replacement,
    a count and a chord half typed are dropped. -/
def focusChanged (e : Engine) (f : FieldId) : Engine :=
  let e := e.emit (.focus f)
  let field := e.fieldOrNew f
  { e with
    active := f
    router := e.router.reset
    fields := e.fields.put f { field with modal := field.modal.resetTransient } }

/-- Runs a command that a key was bound to.  Insert mode is entered at once if there is no
    delay, and by a timer otherwise. -/
def perform (e : Engine) (w : Widget) (d : Dispatch) (now : Nat) : Engine × Widget :=
  let (e, w) := e.onField e.active w fun editor =>
    -- What is saved is the text before the command acts.
    let editor := if d.recordsUndo then editor.record w.text w.caret else editor
    (editor.emit (.dispatch d.name d.action d.count)).run d.action d.count
  if d.action.entersInsert then
    if e.config.modeSwitchDelay = 0 then e.onField e.active w (·.switchMode .insert)
    else (e.defer (now + e.config.modeSwitchDelay) e.active .enterInsert, w)
  else (e, w)

def follow (e : Engine) (w : Widget) (route : Route) (now : Nat) :
    KeyOutcome × Engine × Widget :=
  match route with
  | .passthrough => (⟨false, none⟩, e, w)
  -- The caret to return to is the one that normal mode would show.
  | .text => (⟨false, none⟩, e.onField e.active w (·.record w.text (w.caret - 1)))
  | .replace =>
    let (e, w) := e.onField e.active w fun editor =>
      { editor with modal := { editor.modal with replacing := false } }.record w.text w.caret
    (⟨false, none⟩, e.defer (now + e.config.replaceRepairDelay) e.active .repairAfterReplace, w)
  | .rejected => (⟨true, some compositionMessage⟩, e.emit (.compositionRejected e.mode), w)
  | .escape => (⟨false, none⟩, e.onField e.active w (·.toNormal))
  | .absorbed | .unbound => (⟨true, none⟩, e, w)
  | .dispatch d => (⟨true, none⟩, e.perform w d now)

/-- Routes a key that was pressed on the focused field. -/
def route (e : Engine) (event : KeyEvent) (now : Nat) : Route × Engine :=
  let state := e.activeField.modal
  let (route, router) := e.router.route event now state
  let e := { e with router := router }
  (route,
    if e.config.debug then e.emit (.route event.normalized state.mode route router.count) else e)

/-- A key is pressed on the focused field, which a widget shows. -/
def keyDown (e : Engine) (w : Widget) (event : KeyEvent) (now : Nat) :
    KeyOutcome × Engine × Widget :=
  let (route, e) := (e.touch e.active).route event now
  e.follow w route now

/-- A pointer put the caret somewhere in the focused field. -/
def click (e : Engine) (w : Widget) : Engine × Widget :=
  let e := e.touch e.active
  if e.mode.isCommandMode then e.onField e.active w (·.placeCaret) else (e, w)

/-- Runs one timer.  Only the field that is shown can have its caret repaired. -/
def fire (e : Engine) (w : Widget) (t : Timer) : Engine × Widget :=
  if (e.fields.get? t.field).isNone then (e, w)
  else
    match t.task with
    | .enterInsert => e.onField t.field w (·.switchMode .insert)
    | .repairAfterReplace =>
      if t.field = e.active then e.onField t.field w (·.prevChar)
      else (e.emit (.repairSkipped t.field), w)

def fireAll (e : Engine) (w : Widget) : List Timer → Engine × Widget
  | [] => (e, w)
  | t :: rest =>
    let (e, w) := e.fire w t
    e.fireAll w rest

/-- Runs every deferred task that is due, and says how many there were. -/
def pollTimers (e : Engine) (w : Widget) (now : Nat) : Nat × Engine × Widget :=
  let (due, timers) := e.timers.takeDue now
  (due.length, { e with timers := timers }.fireAll w due)

end Engine

end ModalEdit
