import ModalEdit.Engine.Basic

/-! # Sessions

A host at work: an engine, the widgets that the host shows, the one that is current, and a
clock.  The host reports keys, clicks and focus changes to the engine, types what the engine
leaves to the widget, and runs the timers.  Which widget shows which field is the host's
business; a session may even show one that the engine was not told about.
-/

namespace ModalEdit

/-- A host with its widgets. -/
structure Session where
  engine : Engine
  widgets : List Widget
  current : Nat := 0
  current_lt : current < widgets.length
  now : Nat := 0

namespace Session

/-- A host that shows one widget first and has others besides. -/
def start (engine : Engine) (first : Widget) (others : List Widget) : Session where
  engine := engine
  widgets := first :: others
  current_lt := Nat.zero_lt_succ _

def widget (s : Session) : Widget := s.widgets.get ⟨s.current, s.current_lt⟩

/-- The session with another engine and with another state of the current widget. -/
def withState (s : Session) (e : Engine) (w : Widget) : Session where
  engine := e
  widgets := s.widgets.set s.current w
  current := s.current
  current_lt := by rw [List.length_set]; exact s.current_lt
  now := s.now

def onWidget (s : Session) (f : Widget → Widget) : Session := s.withState s.engine (f s.widget)

/-- Makes another widget current.  An index too big means the last one. -/
def useWidget (s : Session) (i : Nat) : Session where
  engine := s.engine
  widgets := s.widgets
  current := min i (s.widgets.length - 1)
  current_lt := by have := s.current_lt; omega
  now := s.now

/-- Sets the clock, also back. -/
def setClock (s : Session) (now : Nat) : Session := { s with now := now }

def advance (s : Session) (d : Nat) : Session := s.setClock (s.now + d)

def keyDown (s : Session) (event : KeyEvent) : KeyOutcome × Session :=
  let (outcome, e, w) := s.engine.keyDown s.widget event s.now
  (outcome, s.withState e w)

/-- Types a key into the current widget, if it has a character. -/
def type (s : Session) (event : KeyEvent) : Session :=
  match event.typed? with
  | none => s
  | some c => s.onWidget (·.typeOver [c])

/-- Runs the timers that are due, and says how many there were. -/
def poll (s : Session) : Nat × Session :=
  let (fired, e, w) := s.engine.pollTimers s.widget s.now
  (fired, s.withState e w)

/-- A key press from start to end: time passes, the engine sees the key, the widget types it
    unless the engine keeps it, and the timers run. -/
def press (s : Session) (event : KeyEvent) (gap : Nat) : KeyOutcome × Nat × Session :=
  let (outcome, s) := (s.advance gap).keyDown event
  let s := if outcome.suppress then s else s.type event
  (outcome, s.poll)

def focusField (s : Session) (f : FieldId) : Session :=
  { s with engine := s.engine.focusChanged f }

def click (s : Session) : Session :=
  let (e, w) := s.engine.click s.widget
  s.withState e w

/-- Takes what was logged so far out of the engine. -/
def takeLog (s : Session) : Log × Session :=
  (s.engine.log, { s with engine := { s.engine with log := [] } })

end Session

end ModalEdit
