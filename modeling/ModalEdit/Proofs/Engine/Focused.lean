import ModalEdit.Proofs.Editor.Resting
import ModalEdit.Proofs.Editor.Yanking
import ModalEdit.Proofs.Engine.Timers

/-! # What a host sees of one field

A host that stays on one field sees of the engine what is kept for that field, the router, the register
and the timers, and the widget that shows the field (`Focused`).  It does not see the other fields, nor the
log.  Here is what a key makes of this, with one equation for each route that some session takes, and what
a timer makes of it.
-/

namespace ModalEdit

/-- An engine as it is seen from its focused field, and the widget that shows that field. -/
structure Focused where
  config : Config
  router : Router
  timers : TimerQueue
  active : FieldId
  register : Register
  field : Field
  widget : Widget

namespace Focused

/-- The field with another history and another state of its widget. -/
def edited (x : Focused) (h : History) (w : Widget) : Focused :=
  { x with field := { x.field with history := h }, widget := w }

/-- The field in another modal state. -/
def withModal (x : Focused) (modal : ModalState) : Focused :=
  { x with field := { x.field with modal := modal } }

/-- What is seen once an editor of the field is done. -/
def withEditor (x : Focused) (d : Editor) : Focused :=
  { x with register := d.register, field := d.field, widget := d.widget }

def defer (x : Focused) (due : Nat) (task : Task) : Focused :=
  { x with timers := x.timers.schedule ⟨due, x.active, task⟩ }

end Focused

namespace Engine

def focused (e : Engine) (w : Widget) : Focused where
  config := e.config
  router := e.router
  timers := e.timers
  active := e.active
  register := e.register
  field := e.activeField
  widget := w

variable (e : Engine) (w : Widget) (now : Nat)

theorem focused_onField (command : Editor → Editor) :
    (e.onField e.active w command).1.focused (e.onField e.active w command).2 =
      (e.focused w).withEditor (command (e.editor e.active w)) := by
  have field := e.fieldOrNew_adopt_self e.active (command (e.editor e.active w))
  show Focused.mk _ _ _ _ _ ((e.adopt e.active (command (e.editor e.active w))).fieldOrNew e.active) _ = _
  rw [field]
  rfl

variable {e}

/-- All that a key changes before it is followed is the router. -/
theorem exists_keyDown_focused {event : KeyEvent} {route : Route} {r : Router}
    (routed : e.router.route event now e.activeField.modal = (route, r)) :
    ∃ e' : Engine, e.keyDown w event now = e'.follow w route now ∧
      ∀ v, e'.focused v = { e.focused v with router := r } := by
  obtain ⟨log, down⟩ := e.exists_keyDown_eq_touch w event now
  rw [routed] at down
  -- The field may come into being here, but it was seen before as it is then.
  have field := e.fieldOrNew_touch e.active e.active
  refine ⟨_, down, fun v => ?_⟩
  show Focused.mk _ _ _ _ _ ((e.touch e.active).fieldOrNew e.active) _ = _
  rw [field]
  rfl

variable (e)

/-! ## Following a route -/

theorem focused_follow_text :
    (e.follow w .text now).2.1.focused (e.follow w .text now).2.2 =
      (e.focused w).edited (e.activeField.history.record w.text (w.caret - 1)) w :=
  e.focused_onField w Editor.beforeTyping

theorem focused_follow_replace :
    (e.follow w .replace now).2.1.focused (e.follow w .replace now).2.2 =
      (((e.focused w).withModal { e.activeField.modal with replacing := false }).edited
        (e.activeField.history.record w.text w.caret) w).defer
        (now + e.config.replaceRepairDelay) .repairAfterReplace :=
  congrArg (Focused.defer · (now + e.config.replaceRepairDelay) .repairAfterReplace)
    (e.focused_onField w Editor.beforeReplacing)

/-- Where the caret comes to rest is another matter. -/
theorem exists_focused_follow_escape :
    ∃ v, (e.follow w .escape now).2.1.focused (e.follow w .escape now).2.2 =
      ((e.focused w).withModal
        (if e.activeField.modal.mode = .normal then e.activeField.modal
        else e.activeField.modal.switchMode .normal)).edited e.activeField.history v := by
  refine ⟨(e.editor e.active w).toNormal.widget, (e.focused_onField w Editor.toNormal).trans ?_⟩
  rw [Focused.withEditor, Editor.field, Editor.register_toNormal, Editor.modal_toNormal,
    Editor.history_toNormal]
  rfl

theorem focused_follow_insert (name : String) (count : Nat) (delayed : e.config.modeSwitchDelay ≠ 0) :
    (e.follow w (.dispatch ⟨name, .insert, count, false⟩) now).2.1.focused
        (e.follow w (.dispatch ⟨name, .insert, count, false⟩) now).2.2 =
      ((e.focused w).edited e.activeField.history (w.select w.caret w.caret)).defer
        (now + e.config.modeSwitchDelay) .enterInsert := by
  let done := e.onField e.active w (·.perform ⟨name, .insert, count, false⟩)
  -- Without a delay the mode would be entered at once.
  have follows : e.follow w (.dispatch ⟨name, .insert, count, false⟩) now =
      (⟨true, none⟩, done.1.defer (now + e.config.modeSwitchDelay) e.active .enterInsert, done.2) :=
    congrArg (Prod.mk _) (if_neg delayed)
  rw [follows]
  exact congrArg (Focused.defer · (now + e.config.modeSwitchDelay) .enterInsert)
    (e.focused_onField w (·.perform ⟨name, .insert, count, false⟩))

theorem focused_follow_replaceChar (name : String) (count : Nat) :
    (e.follow w (.dispatch ⟨name, .replaceChar, count, false⟩) now).2.1.focused
        (e.follow w (.dispatch ⟨name, .replaceChar, count, false⟩) now).2.2 =
      (e.focused w).withModal { e.activeField.modal with replacing := true } :=
  e.focused_onField w (·.perform ⟨name, .replaceChar, count, false⟩)

/-! ## Timers of the focused field -/

variable {e} (used : e.InUse e.active) (due : Nat)

include used

theorem focused_fire_enterInsert :
    (e.fire w ⟨due, e.active, .enterInsert⟩).1.focused (e.fire w ⟨due, e.active, .enterInsert⟩).2 =
      (e.focused w).withModal (e.activeField.modal.switchMode .insert) := by
  rw [fire, if_neg used.known]
  refine (e.focused_onField w (·.switchMode .insert)).trans ?_
  rw [Focused.withEditor, Editor.field, Editor.modal_switchMode, Editor.history_switchMode,
    Editor.widget_switchMode, Editor.register_switchMode]
  rfl

theorem focused_fire_repair (normal : e.activeField.modal.mode = .normal) :
    (e.fire w ⟨due, e.active, .repairAfterReplace⟩).1.focused
        (e.fire w ⟨due, e.active, .repairAfterReplace⟩).2 =
      (e.focused w).edited e.activeField.history (e.editor e.active w).prevChar.widget := by
  rw [fire, if_neg used.known]
  dsimp only
  rw [if_pos rfl]
  refine (e.focused_onField w Editor.prevChar).trans ?_
  rw [Focused.withEditor, Editor.field, Editor.register_prevChar, Editor.history_prevChar,
    Editor.modal_prevChar_of_normal normal]
  rfl

end Engine

end ModalEdit
