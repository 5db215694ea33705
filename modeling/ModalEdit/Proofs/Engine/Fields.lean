import ModalEdit.Engine.Basic

/-! # What the engine keeps for a field, step by step

The steps of an engine change what is kept for one field at most.  These lemmas say what each
step leaves of a field, so that later proofs need not look into the table of fields.

A key is a route and what follows it (`exists_keyDown_eq_follow`).  The three routes that save a
text do so in the editor of the focused field: `beforeTyping`, `beforeReplacing` and `perform`.
The engine adds what needs its timers (`follow_text`, `follow_replace`, `perform_eq`).  A click and
the timers change of a field no more than the commands they run (`observe_click`,
`observe_fireAll`).
-/

namespace ModalEdit

def Editor.beforeTyping (e : Editor) : Editor := e.record e.widget.text (e.caret - 1)

def Editor.beforeReplacing (e : Editor) : Editor :=
  { e with modal := { e.modal with replacing := false } }.record e.widget.text e.caret

def Editor.perform (e : Editor) (d : Dispatch) : Editor :=
  ((if d.recordsUndo then e.record e.widget.text e.caret else e).emit
    (.dispatch d.name d.action d.count)).run d.action d.count

/-- What the engine keeps of an editor for its field. -/
def Editor.field (d : Editor) : Field := { modal := d.modal, history := d.history }

namespace Engine

variable (e : Engine) (f g : FieldId)

@[simp] theorem fieldOrNew_emit (event : Event) : (e.emit event).fieldOrNew g = e.fieldOrNew g := rfl

@[simp] theorem fieldOrNew_defer (due : Nat) (task : Task) :
    (e.defer due f task).fieldOrNew g = e.fieldOrNew g := rfl

/-- A field is created with what an unused field counts as having. -/
@[simp] theorem fieldOrNew_touch : (e.touch f).fieldOrNew g = e.fieldOrNew g := by
  by_cases same : g = f
  · subst same
    simp [touch, fieldOrNew]
  · simp only [touch, fieldOrNew, FieldTable.get?_put_of_ne _ same]

@[simp] theorem fieldOrNew_adopt_self (d : Editor) :
    (e.adopt f d).fieldOrNew f = { modal := d.modal, history := d.history } := by
  simp [adopt, fieldOrNew]

/-- The engine gives back the editor that it has taken in. -/
theorem editor_adopt (d : Editor) : (e.adopt f d).editor f d.widget = d := by
  rw [editor, fieldOrNew_adopt_self]
  rfl

theorem fieldOrNew_adopt_of_ne (d : Editor) (ne : g ≠ f) :
    (e.adopt f d).fieldOrNew g = e.fieldOrNew g := by
  simp only [adopt, fieldOrNew, FieldTable.get?_put_of_ne _ ne]

theorem fieldOrNew_focusChanged_self :
    (e.focusChanged f).fieldOrNew f =
      { e.fieldOrNew f with modal := (e.fieldOrNew f).modal.resetTransient } := by
  simp [focusChanged, fieldOrNew, emit]

theorem fieldOrNew_focusChanged_of_ne (ne : g ≠ f) :
    (e.focusChanged f).fieldOrNew g = e.fieldOrNew g := by
  simp only [focusChanged, fieldOrNew, FieldTable.get?_put_of_ne _ ne, emit]

theorem route_snd (event : KeyEvent) (now : Nat) :
    ∃ router log, (e.route event now).2 = { e with router := router, log := log } := by
  unfold route
  dsimp only
  split
  · exact ⟨_, _, rfl⟩
  · exact ⟨_, _, rfl⟩

/-! ## A key from the report on -/

/-- A key is followed by the engine with the router after it, which has put the field in use. -/
theorem exists_keyDown_eq_touch (w : Widget) (event : KeyEvent) (now : Nat) :
    ∃ log, e.keyDown w event now =
      { e.touch e.active with
        router := (e.router.route event now e.activeField.modal).2, log := log }.follow w
        (e.router.route event now e.activeField.modal).1 now := by
  have field : (e.touch e.active).activeField = e.activeField := e.fieldOrNew_touch e.active _
  have router : (e.touch e.active).router = e.router := rfl
  rw [keyDown, route]
  simp only [field, router]
  split
  · exact ⟨_, rfl⟩
  · exact ⟨_, rfl⟩

/-- Of the engine that follows a key the register and what was kept for fields are as before. -/
theorem exists_keyDown_eq_follow (w : Widget) (event : KeyEvent) (now : Nat) :
    ∃ e' : Engine,
      e.keyDown w event now =
          e'.follow w (e.router.route event now e.activeField.modal).1 now ∧
        e'.router = (e.router.route event now e.activeField.modal).2 ∧ e'.active = e.active ∧
        e'.register = e.register ∧ ∀ g, e'.fieldOrNew g = e.fieldOrNew g := by
  obtain ⟨log, down⟩ := e.exists_keyDown_eq_touch w event now
  exact ⟨_, down, rfl, rfl, rfl, e.fieldOrNew_touch e.active⟩

theorem follow_text (w : Widget) (now : Nat) :
    e.follow w .text now = (⟨false, none⟩, e.onField e.active w Editor.beforeTyping) := rfl

theorem follow_replace (w : Widget) (now : Nat) :
    e.follow w .replace now =
      (⟨false, none⟩,
        (e.onField e.active w Editor.beforeReplacing).1.defer (now + e.config.replaceRepairDelay)
          e.active .repairAfterReplace,
        (e.onField e.active w Editor.beforeReplacing).2) := rfl

/-- Enters insert mode on the focused field, at once or by a timer. -/
def enterInsert (e : Engine) (w : Widget) (now : Nat) : Engine × Widget :=
  if e.config.modeSwitchDelay = 0 then e.onField e.active w (·.switchMode .insert)
  else (e.defer (now + e.config.modeSwitchDelay) e.active .enterInsert, w)

theorem perform_eq (w : Widget) (d : Dispatch) (now : Nat) :
    e.perform w d now =
      if d.action.entersInsert then
        (e.onField e.active w (·.perform d)).1.enterInsert
          (e.onField e.active w (·.perform d)).2 now
      else e.onField e.active w (·.perform d) := rfl

/-! ## Reports on another field -/

theorem fieldOrNew_onField_of_ne (w : Widget) (command : Editor → Editor) (ne : g ≠ f) :
    (e.onField f w command).1.fieldOrNew g = e.fieldOrNew g :=
  e.fieldOrNew_adopt_of_ne f g _ ne

theorem fieldOrNew_follow_of_ne (w : Widget) (route : Route) (now : Nat) (ne : g ≠ e.active) :
    (e.follow w route now).2.1.fieldOrNew g = e.fieldOrNew g := by
  cases route with
  | text => exact e.fieldOrNew_onField_of_ne _ g w _ ne
  | replace => exact e.fieldOrNew_onField_of_ne _ g w Editor.beforeReplacing ne
  | escape => exact e.fieldOrNew_onField_of_ne _ g w _ ne
  | dispatch d =>
    have performed := e.fieldOrNew_onField_of_ne _ g w (·.perform d) ne
    rw [follow, perform_eq, enterInsert]
    split
    · split
      · exact (fieldOrNew_onField_of_ne _ _ g _ _ ne).trans performed
      · exact performed
    · exact performed
  | passthrough | rejected | absorbed | unbound => rfl

theorem fieldOrNew_keyDown_of_ne (w : Widget) (event : KeyEvent) (now : Nat) (ne : g ≠ e.active) :
    (e.keyDown w event now).2.1.fieldOrNew g = e.fieldOrNew g := by
  obtain ⟨e', down, _, active, _, same⟩ := e.exists_keyDown_eq_follow w event now
  rw [down, fieldOrNew_follow_of_ne _ _ _ _ _ (active ▸ ne), same]

theorem fieldOrNew_click_of_ne (w : Widget) (ne : g ≠ e.active) :
    (e.click w).1.fieldOrNew g = e.fieldOrNew g := by
  simp only [click]
  split
  · exact ((e.touch e.active).fieldOrNew_onField_of_ne _ g w _ ne).trans (e.fieldOrNew_touch _ g)
  · exact e.fieldOrNew_touch _ g

/-! ## What the reports leave of a field -/

section Observed

variable {α : Type} (observe : Field → α) (w : Widget)

/-- What no step of a command changes about a field is not changed about any field. -/
theorem observe_onField {command : Editor → Editor}
    (kept : ∀ d : Editor, observe (command d).field = observe d.field) :
    observe ((e.onField f w command).1.fieldOrNew g) = observe (e.fieldOrNew g) := by
  by_cases same : g = f
  · subst same
    rw [onField, fieldOrNew_adopt_self]
    exact kept (e.editor g w)
  · rw [onField, fieldOrNew_adopt_of_ne _ _ _ _ same]

theorem observe_click (kept : ∀ d : Editor, observe d.placeCaret.field = observe d.field) :
    observe ((e.click w).1.fieldOrNew g) = observe (e.fieldOrNew g) := by
  simp only [click]
  split
  · rw [observe_onField _ _ _ observe w kept, fieldOrNew_touch]
  · rw [fieldOrNew_touch]

/-- The timers enter insert mode and step back. -/
theorem observe_fireAll
    (inserting : ∀ d : Editor, observe (d.switchMode .insert).field = observe d.field)
    (repairing : ∀ d : Editor, observe d.prevChar.field = observe d.field) (due : List Timer) :
    observe ((e.fireAll w due).1.fieldOrNew g) = observe (e.fieldOrNew g) := by
  have fired : ∀ (e : Engine) (w : Widget) (t : Timer),
      observe ((e.fire w t).1.fieldOrNew g) = observe (e.fieldOrNew g) := by
    intro e w t
    unfold fire
    split
    · rfl
    · cases t.task with
      | enterInsert => exact e.observe_onField _ g observe w inserting
      | repairAfterReplace =>
        dsimp only
        split
        · exact e.observe_onField _ g observe w repairing
        · rfl
  induction due generalizing e w with
  | nil => rfl
  | cons t rest ih => rw [fireAll, ih, fired]

end Observed

end Engine

end ModalEdit
