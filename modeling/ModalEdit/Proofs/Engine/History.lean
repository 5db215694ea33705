import ModalEdit.Proofs.Editor.Saved
import ModalEdit.Proofs.Engine.Fields

/-! # Histories of an engine

When the history of a field changes.  A key changes that of the focused field only, and how is
told by its route: some routes save the text of the widget, and an undo command takes back as
many entries as it has steps (`changes_keyDown`).  Nothing else that a host
reports changes any history.
-/

namespace ModalEdit

/-- Whether the text is saved before a route is acted on. -/
def Route.saves : Route → Bool
  | .text | .replace => true
  | .dispatch d => d.recordsUndo
  | .passthrough | .rejected | .escape | .absorbed | .unbound => false

/-- How many steps of undoing a route asks for. -/
def Route.undoSteps : Route → Nat
  | .dispatch d => if d.action = .undo then max d.count 1 else 0
  | _ => 0

/-- What becomes of a history where the text `cs` is saved or is not, and entries are taken back
    in so many steps. -/
structure History.Changes (saves : Bool) (steps : Nat) (cs : Text) (h h' : History) : Prop where
  limit_eq : h'.limit = h.limit
  entries_eq : ∃ p, h'.entries = (if saves then h.record cs p else h).entries.drop steps

theorem History.Changes.of_eq {cs : Text} {h h' : History} (same : h' = h) :
    History.Changes false 0 cs h h' := by
  subst same
  exact ⟨rfl, 0, rfl⟩

namespace Engine

variable (e : Engine) (f g : FieldId) (w : Widget)

def historyOf : History := (e.fieldOrNew f).history

@[simp] theorem historyOf_emit (event : Event) : (e.emit event).historyOf g = e.historyOf g := rfl

@[simp] theorem historyOf_defer (due : Nat) (task : Task) :
    (e.defer due f task).historyOf g = e.historyOf g := rfl

@[simp] theorem historyOf_touch : (e.touch f).historyOf g = e.historyOf g := by
  rw [historyOf, fieldOrNew_touch, historyOf]

@[simp] theorem historyOf_onField_self (command : Editor → Editor) :
    (e.onField f w command).1.historyOf f = (command (e.editor f w)).history := by
  rw [historyOf, onField, fieldOrNew_adopt_self]

/-- A command that leaves the history of an editor alone leaves all of them alone. -/
theorem historyOf_onField {command : Editor → Editor}
    (kept : ∀ d : Editor, (command d).history = d.history) :
    (e.onField f w command).1.historyOf g = e.historyOf g :=
  e.observe_onField f g Field.history w kept

/-! ## Reports that leave every history alone -/

theorem historyOf_focusChanged : (e.focusChanged f).historyOf g = e.historyOf g := by
  by_cases same : g = f
  · subst same
    rw [historyOf, fieldOrNew_focusChanged_self, historyOf]
  · rw [historyOf, fieldOrNew_focusChanged_of_ne _ _ _ same, historyOf]

theorem historyOf_click : (e.click w).1.historyOf g = e.historyOf g :=
  e.observe_click g Field.history w fun d => d.history_placeCaret

theorem historyOf_fireAll (due : List Timer) : (e.fireAll w due).1.historyOf g = e.historyOf g :=
  e.observe_fireAll g Field.history w (fun d => d.history_switchMode .insert)
    (fun d => d.history_prevChar) due

theorem historyOf_pollTimers (now : Nat) :
    (e.pollTimers w now).2.1.historyOf g = e.historyOf g :=
  historyOf_fireAll _ g w _

/-! ## Keys -/

theorem historyOf_enterInsert (now : Nat) : (e.enterInsert w now).1.historyOf g = e.historyOf g := by
  unfold enterInsert
  split
  · exact historyOf_onField e _ g w fun d => d.history_switchMode .insert
  · rfl

theorem historyOf_perform (d : Dispatch) (now : Nat) :
    (e.perform w d now).1.historyOf g = (e.onField e.active w (·.perform d)).1.historyOf g := by
  rw [perform_eq]
  split
  · exact historyOf_enterInsert _ g _ now
  · rfl

end Engine

/-! ## Commands -/

namespace Editor

variable (e : Editor) (d : Dispatch)

/-- The editor in which a command is run, its text saved if the command asks for that. -/
def prepared : Editor :=
  (if d.recordsUndo then e.record e.widget.text e.caret else e).emit
    (.dispatch d.name d.action d.count)

theorem perform_eq_run : e.perform d = (e.prepared d).run d.action d.count := rfl

theorem history_prepared :
    (e.prepared d).history =
      if d.recordsUndo then e.history.record e.widget.text e.caret else e.history := by
  unfold prepared
  split
  · rfl
  · rfl

theorem perform_of_undo (undoing : d.action = .undo) :
    e.perform d = Nat.repeat undo (max d.count 1) (e.prepared d) := by
  rw [perform_eq_run, undoing]
  exact times_undo _ _

theorem changes_perform :
    History.Changes d.recordsUndo (Route.dispatch d).undoSteps e.widget.text e.history
      (e.perform d).history := by
  have prepared : (e.prepared d).history.limit = e.history.limit := by
    rw [history_prepared]
    split
    · rfl
    · rfl
  -- Every other command leaves what was prepared alone.
  by_cases undoing : d.action = .undo
  · rw [perform_of_undo e d undoing]
    refine ⟨?_, e.caret, ?_⟩
    · rw [limit_repeat_undo, prepared]
    · rw [entries_repeat_undo, history_prepared, Route.undoSteps, if_pos undoing]
  · rw [perform_eq_run, history_run undoing]
    refine ⟨prepared, e.caret, ?_⟩
    rw [history_prepared, Route.undoSteps, if_neg undoing, List.drop_zero]

/-- A command that undoes, and does not save the text first, brings back the text that lies as
    deep as it has steps. -/
theorem text_perform_of_undo {entry : UndoEntry} (undoing : d.action = .undo)
    (unsaved : d.recordsUndo = false)
    (saved : e.history.entries[max d.count 1 - 1]? = some entry) :
    (e.perform d).widget.text = entry.text := by
  rw [perform_of_undo e d undoing]
  obtain ⟨n, steps⟩ : ∃ n, max d.count 1 = n + 1 := Nat.exists_eq_add_one.mpr (by omega)
  rw [steps] at saved ⊢
  apply text_repeat_undo
  rwa [history_prepared, unsaved]

end Editor

namespace Engine

variable (e : Engine) (w : Widget)

theorem changes_follow (route : Route) (now : Nat) :
    History.Changes route.saves route.undoSteps w.text (e.historyOf e.active)
      ((e.follow w route now).2.1.historyOf e.active) := by
  cases route with
  | text =>
    rw [follow_text, historyOf_onField_self]
    exact ⟨rfl, w.caret - 1, rfl⟩
  | replace =>
    rw [follow_replace, historyOf_defer, historyOf_onField_self]
    exact ⟨rfl, w.caret, rfl⟩
  | escape =>
    exact .of_eq (historyOf_onField e _ _ w fun d => d.history_toNormal)
  | dispatch d =>
    rw [follow, historyOf_perform, historyOf_onField_self]
    exact Editor.changes_perform (e.editor e.active w) d
  | passthrough | rejected | absorbed | unbound => exact .of_eq rfl

theorem text_follow_of_undo {route : Route} {entry : UndoEntry} (unsaved : route.saves = false)
    (undoing : 0 < route.undoSteps)
    (saved : (e.historyOf e.active).entries[route.undoSteps - 1]? = some entry) (now : Nat) :
    (e.follow w route now).2.2.text = entry.text := by
  cases route with
  | dispatch d =>
    by_cases action : d.action = .undo
    · have stays : d.action.entersInsert = false := by
        rw [action]
        rfl
      rw [Route.undoSteps, if_pos action] at saved
      rw [follow, perform_eq, stays]
      exact (e.editor e.active w).text_perform_of_undo d action unsaved saved
    · simp [Route.undoSteps, action] at undoing
  | passthrough | text | replace | rejected | escape | absorbed | unbound =>
    exact absurd undoing (Nat.lt_irrefl 0)

/-! ## A key from the report on -/

/-- A key is acted on by an engine with the same histories. -/
theorem exists_keyDown_eq (event : KeyEvent) (now : Nat) :
    ∃ e' : Engine, e.keyDown w event now = e'.follow w (e.route event now).1 now ∧
      e'.active = e.active ∧ ∀ g, e'.historyOf g = e.historyOf g := by
  obtain ⟨e', down, _, active, _, field⟩ := e.exists_keyDown_eq_follow w event now
  exact ⟨e', down, active, fun g => congrArg Field.history (field g)⟩

theorem changes_keyDown (event : KeyEvent) (now : Nat) :
    History.Changes (e.route event now).1.saves (e.route event now).1.undoSteps w.text
      (e.historyOf e.active) ((e.keyDown w event now).2.1.historyOf e.active) := by
  obtain ⟨e', down, active, same⟩ := e.exists_keyDown_eq w event now
  rw [down, ← same, ← active]
  exact e'.changes_follow w _ now

theorem historyOf_keyDown_of_ne {g : FieldId} (event : KeyEvent) (now : Nat) (ne : g ≠ e.active) :
    (e.keyDown w event now).2.1.historyOf g = e.historyOf g :=
  congrArg Field.history (e.fieldOrNew_keyDown_of_ne g w event now ne)

theorem text_keyDown_of_undo {event : KeyEvent} {now : Nat} {entry : UndoEntry}
    (unsaved : (e.route event now).1.saves = false)
    (undoing : 0 < (e.route event now).1.undoSteps)
    (saved : (e.historyOf e.active).entries[(e.route event now).1.undoSteps - 1]? = some entry) :
    (e.keyDown w event now).2.2.text = entry.text := by
  obtain ⟨e', down, active, same⟩ := e.exists_keyDown_eq w event now
  rw [down]
  apply e'.text_follow_of_undo w unsaved undoing
  rwa [same, active]

end Engine

end ModalEdit
