import ModalEdit.Session

/-! # Runs of a session

What a host does, one act after the other.  Acts come in any order: a key need not be typed
after it was reported, the timers need not be polled, the clock may go back, and the widget that
the host shows need not belong to the field that has the focus.
-/

namespace ModalEdit

/-- One thing that a host does: it reports a key, types one into the current widget, runs the
    timers that are due, reports a click or a field that gained the focus, shows another widget,
    or sets the clock. -/
inductive HostAct
  | key (event : KeyEvent)
  | type (event : KeyEvent)
  | poll
  | click
  | focus (f : FieldId)
  | useWidget (i : Nat)
  | setClock (now : Nat)

namespace Session

def act (s : Session) : HostAct → Session
  | .key event => (s.keyDown event).2
  | .type event => s.type event
  | .poll => s.poll.2
  | .click => s.click
  | .focus f => s.focusField f
  | .useWidget i => s.useWidget i
  | .setClock now => s.setClock now

/-- What the host is told to do with a key. -/
def outcome? (s : Session) : HostAct → Option KeyOutcome
  | .key event => some (s.keyDown event).1
  | _ => none

def run (s : Session) (acts : List HostAct) : Session := acts.foldl act s

@[simp] theorem run_nil (s : Session) : s.run [] = s := rfl

@[simp] theorem run_cons (s : Session) (a : HostAct) (acts : List HostAct) :
    s.run (a :: acts) = (s.act a).run acts := rfl

@[simp] theorem widget_withState (s : Session) (e : Engine) (w : Widget) :
    (s.withState e w).widget = w := by
  simp [widget, withState]

theorem withState_withState (s : Session) (e e' : Engine) (v w : Widget) :
    (s.withState e v).withState e' w = s.withState e' w := by
  simp [withState]

theorem run_append (s : Session) (acts later : List HostAct) :
    s.run (acts ++ later) = (s.run acts).run later := List.foldl_append

end Session

/-- An engine that was built is at rest, and its settings are acceptable. -/
theorem Engine.eq_assemble_of_build? {config : Config} {keymap : Keymap}
    {extra : List (Trigger × Binding)} {register : Register} {e : Engine}
    (built : Engine.build? config keymap extra register = .ok e) :
    config.fault? = none ∧ ∃ whole, e = .assemble config whole register := by
  unfold Engine.build? at built
  cases fault : config.fault? with
  | some error => simp [fault] at built
  | none =>
    rw [fault] at built
    cases bound : keymap.bindAll extra with
    | error error => simp [bound] at built
    | ok whole =>
      simp only [bound, Except.ok.injEq] at built
      exact ⟨rfl, whole, built.symm⟩

/-- The engines that a host can make: the one it has when it asks for nothing, and those that it
    builds. -/
def Engine.Built (e : Engine) : Prop :=
  e = .standard ∨
    ∃ config keymap extra register, Engine.build? config keymap extra register = .ok e

theorem Engine.Built.eq_assemble {e : Engine} (h : e.Built) :
    ∃ config keymap register, config.fault? = none ∧ e = .assemble config keymap register := by
  rcases h with rfl | ⟨config, keymap, extra, register, built⟩
  · exact ⟨{}, .standard, {}, by decide, rfl⟩
  · obtain ⟨faultless, whole, rfl⟩ := Engine.eq_assemble_of_build? built
    exact ⟨config, whole, register, faultless, rfl⟩

end ModalEdit
