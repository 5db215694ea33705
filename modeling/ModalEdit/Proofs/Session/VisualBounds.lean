import ModalEdit.Proofs.Editor.VisualLoss
import ModalEdit.Proofs.Engine.History
import ModalEdit.Proofs.Session.Modals
import ModalEdit.Proofs.Session.Proper

/-! # The ends of a visual selection in a session

A host works on one field: it reports keys and clicks, types, and runs the timers.  In visual mode the
anchor and the cursor then lie within the text, but for one of them, which may be one past its end.  They
lie beyond that by no more than what the text has lost since visual mode was entered (`loss`): nothing
moves them when a text is undone or typed over.  In other modes there are none (`visual_bounds_law`).
-/

namespace ModalEdit

/-- An act on the focused field and on the widget that shows it. -/
def HostAct.OnField : HostAct → Prop
  | .key _ | .type _ | .poll | .click | .setClock _ => True
  | .focus _ | .useWidget _ => False

namespace Editor

variable {d d' e e' : Editor} {lost : Nat}

/-- Two editors show the same in the same modal state. -/
structure SameView (d e : Editor) : Prop where
  modal : d.modal = e.modal
  widget : d.widget = e.widget

theorem SameView.symm (same : SameView d e) : SameView e d := ⟨same.modal.symm, same.widget.symm⟩

theorem Within.of_sameView (h : Within lost e) (same : SameView d e) : Within lost d := by
  obtain ⟨modal, widget⟩ := same
  intro visual
  obtain ⟨visual, proper, ends⟩ := h (modal ▸ visual)
  refine ⟨modal ▸ visual, widget ▸ proper, ?_⟩
  rwa [modal, len, widget]

theorem Accounts.of_sameView (h : Accounts lost e d) (before : SameView e' e)
    (after : SameView d' d) : Accounts lost e' d' := by
  have loss : lossTo lost e' d' = lossTo lost e d := by
    simp only [lossTo, len, before.modal, before.widget, after.modal, after.widget]
  rw [Accounts, loss]
  exact Within.of_sameView h after

theorem sameView_prepared (e : Editor) (d : Dispatch) : SameView (e.prepared d) e := by
  unfold prepared
  split
  · exact ⟨rfl, rfl⟩
  · exact ⟨rfl, rfl⟩

theorem SameView.sameEnds (same : SameView d e) : SameEnds e d := sameEnds_of_modal same.modal

/-- The timers keep a visual selection where it is but for a step back, and never begin one. -/
structure Calms (lost : Nat) (d d' : Editor) : Prop where
  within : Within lost d → Within lost d'
  visual : d'.modal.mode = .visual → d.modal.mode = .visual

theorem calms_of_sameView (same : SameView d' d) : Calms lost d d' :=
  ⟨fun h => h.of_sameView same, fun visual => same.modal ▸ visual⟩

theorem calms_switchMode_insert (d : Editor) : Calms lost d (d.switchMode .insert) := by
  have left : (d.switchMode .insert).modal.mode ≠ .visual := by simp
  exact ⟨fun _ visual => absurd visual left, fun visual => absurd visual left⟩

theorem calms_prevChar (d : Editor) : Calms lost d d.prevChar := by
  have moved := ((moved_kept d).prevChar ⟨rfl, .refl d⟩).2
  have mode : d.prevChar.modal.mode = d.modal.mode := by rw [moved.modal_eq]
  refine ⟨fun h visual => ?_, fun visual => mode ▸ visual⟩
  exact (bounded_kept lost).toKeptByCharSteps.prevChar (h (mode ▸ visual))

theorem Calms.accounts {e d : Editor} (calms : Calms lost e d) (h : Within lost e) :
    Accounts lost e d :=
  fun visual => (calms.within h visual).accounts (calms.visual visual) visual

end Editor

namespace Engine

open Editor (SameView Within Accounts Calms calms_of_sameView)

variable {e : Engine} {w : Widget} {lost : Nat}

/-- The editor of the focused field, which a widget shows. -/
def focusedEditor (x : Engine × Widget) : Editor := x.1.editor x.1.active x.2

/-! ## Keys -/

theorem focusedEditor_onField (e : Engine) (w : Widget) (command : Editor → Editor) :
    focusedEditor (e.onField e.active w command) = command (focusedEditor (e, w)) :=
  e.editor_adopt e.active (command (focusedEditor (e, w)))

theorem accounts_enterInsert (e' : Engine) (v : Widget) (now : Nat) {d : Editor}
    (h : Accounts lost d (focusedEditor (e', v))) : Accounts lost d (focusedEditor (e'.enterInsert v now)) := by
  unfold enterInsert
  split
  · rw [focusedEditor_onField]
    exact Editor.accounts_of_left (by simp)
  · exact h.of_sameView ⟨rfl, rfl⟩ ⟨rfl, rfl⟩

theorem widget_perform (d : Dispatch) (now : Nat) :
    (e.perform w d now).2 = ((focusedEditor (e, w)).perform d).widget := by
  rw [perform_eq, enterInsert]
  split
  · split
    · exact Editor.widget_switchMode _ _
    · rfl
  · rfl

theorem accounts_perform (h : Within lost (focusedEditor (e, w))) (before : w.Proper) (d : Dispatch)
    (now : Nat) (after : (e.perform w d now).2.Proper) :
    Accounts lost (focusedEditor (e, w)) (focusedEditor (e.perform w d now)) := by
  have prepared := (focusedEditor (e, w)).sameView_prepared d
  have proper : ((focusedEditor (e, w)).prepared d).widget.Proper := prepared.widget.symm ▸ before
  have performed : Accounts lost (focusedEditor (e, w)) (focusedEditor (e.onField e.active w (·.perform d))) := by
    -- What is recorded beforehand, and the switch to insert mode afterwards, show in the same widget.
    rw [widget_perform, Editor.perform_eq_run] at after
    have ran := Editor.accounts_run (h.of_sameView prepared) proper d.action d.count after
    rw [focusedEditor_onField, Editor.perform_eq_run]
    exact ran.of_sameView prepared.symm ⟨rfl, rfl⟩
  rw [perform_eq]
  split
  · exact accounts_enterInsert _ _ now performed
  · exact performed

/-- What follows a key keeps account of what the text loses. -/
theorem accounts_follow (h : Within lost (focusedEditor (e, w))) (before : w.Proper) (route : Route)
    (now : Nat) (after : (e.follow w route now).2.2.Proper) :
    Accounts lost (focusedEditor (e, w)) (focusedEditor (e.follow w route now).2) := by
  have still : ∀ {d : Editor}, SameView d (focusedEditor (e, w)) → Accounts lost (focusedEditor (e, w)) d := by
    intro d same
    exact Editor.accounts_of_sameEnds h same.sameEnds (same.widget ▸ before)
  cases route with
  | passthrough | absorbed | unbound => exact still ⟨rfl, rfl⟩
  | rejected => exact still ⟨rfl, rfl⟩
  | text =>
    -- The host types the character itself, later.  So far only the history has changed.
    rw [follow_text, focusedEditor_onField]
    exact still ⟨rfl, rfl⟩
  | replace =>
    rw [follow_replace]
    have replaced : Accounts lost (focusedEditor (e, w)) (focusedEditor (e, w)).beforeReplacing :=
      Editor.accounts_of_sameEnds h ⟨rfl, rfl, rfl⟩ before
    rw [← focusedEditor_onField e w Editor.beforeReplacing] at replaced
    exact replaced.of_sameView ⟨rfl, rfl⟩ ⟨rfl, rfl⟩
  | escape =>
    rw [follow, focusedEditor_onField]
    exact Editor.accounts_of_left (by simp [Editor.mode_toNormal])
  | dispatch d => exact accounts_perform h before d now after

theorem accounts_keyDown (h : Within lost (focusedEditor (e, w))) (before : w.Proper) (event : KeyEvent)
    (now : Nat) (after : (e.keyDown w event now).2.2.Proper) :
    Accounts lost (focusedEditor (e, w)) (focusedEditor (e.keyDown w event now).2) := by
  obtain ⟨e', down, _, active, _, fields⟩ := e.exists_keyDown_eq_follow w event now
  have same : SameView (focusedEditor (e', w)) (focusedEditor (e, w)) := by
    refine ⟨?_, rfl⟩
    simp only [focusedEditor, editor, active, fields]
  rw [down] at after ⊢
  exact (accounts_follow (h.of_sameView same) before _ now after).of_sameView same.symm ⟨rfl, rfl⟩

/-! ## Clicks and timers -/

theorem accounts_click (h : Within lost (focusedEditor (e, w))) (before : w.Proper) :
    Accounts lost (focusedEditor (e, w)) (focusedEditor (e.click w)) := by
  have touched : SameView (focusedEditor (e.touch e.active, w)) (focusedEditor (e, w)) := by
    refine ⟨?_, rfl⟩
    show ((e.touch e.active).fieldOrNew e.active).modal = _
    rw [fieldOrNew_touch]
    rfl
  simp only [click]
  split
  · have placed := focusedEditor_onField (e.touch e.active) w Editor.placeCaret
    exact Editor.accounts_of_left (placed ▸ by simp [Editor.modal_placeCaret])
  · exact Editor.accounts_of_sameEnds h touched.sameEnds before

theorem calms_fire (e : Engine) (w : Widget) (t : Timer) :
    Calms lost (focusedEditor (e, w)) (focusedEditor (e.fire w t)) := by
  unfold fire
  split
  · exact calms_of_sameView ⟨rfl, rfl⟩
  · cases t.task with
    | enterInsert =>
      by_cases focused : t.field = e.active
      · rw [focused, focusedEditor_onField e w (·.switchMode .insert)]
        exact Editor.calms_switchMode_insert _
      · -- The field of the timer is not shown, and entering insert mode leaves the widget alone.
        refine calms_of_sameView ⟨?_, Editor.widget_switchMode _ _⟩
        exact congrArg Field.modal
          (e.fieldOrNew_onField_of_ne t.field e.active w (·.switchMode .insert) (Ne.symm focused))
    | repairAfterReplace =>
      dsimp only
      split
      · next focused =>
        rw [focused, focusedEditor_onField e w Editor.prevChar]
        exact Editor.calms_prevChar _
      · exact calms_of_sameView ⟨rfl, rfl⟩

theorem calms_fireAll (e : Engine) (w : Widget) (due : List Timer) :
    Calms lost (focusedEditor (e, w)) (focusedEditor (e.fireAll w due)) := by
  induction due generalizing e w with
  | nil => exact calms_of_sameView ⟨rfl, rfl⟩
  | cons t rest ih =>
    have first : Calms lost _ _ := calms_fire e w t
    have later := ih (e.fire w t).1 (e.fire w t).2
    exact ⟨fun h => later.within (first.within h), fun visual => first.visual (later.visual visual)⟩

theorem calms_pollTimers (e : Engine) (w : Widget) (now : Nat) :
    Calms lost (focusedEditor (e, w)) (focusedEditor (e.pollTimers w now).2) := by
  have fired : Calms lost _ _ :=
    calms_fireAll { e with timers := (e.timers.takeDue now).2 } w (e.timers.takeDue now).1
  exact ⟨fun h => fired.within (h.of_sameView ⟨rfl, rfl⟩), fired.visual⟩

end Engine

namespace Session

open Editor (Within Accounts)

/-- The editor of the focused field, which the current widget shows. -/
def editor (s : Session) : Editor := Engine.focusedEditor (s.engine, s.widget)

/-- What the text has lost in a run since visual mode was entered, `lost` of it before the run. -/
def loss (s : Session) (lost : Nat) : List HostAct → Nat
  | [] => lost
  | a :: acts => (s.act a).loss (s.editor.lossTo lost (s.act a).editor) acts

variable {s : Session} {lost : Nat}

theorem editor_withState (s : Session) (e : Engine) (w : Widget) :
    (s.withState e w).editor = Engine.focusedEditor (e, w) := by
  rw [editor, widget_withState]
  rfl

/-! ## Acts -/

/-- Each act on the field keeps account of what the text loses. -/
theorem accounts_act (h : Within lost s.editor) (before : s.widget.Proper) {a : HostAct}
    (onField : a.OnField) (after : (s.act a).widget.Proper) :
    Accounts lost s.editor (s.act a).editor := by
  cases a with
  | key event =>
    rw [act, keyDown, widget_withState] at after
    rw [act, keyDown, editor_withState]
    exact Engine.accounts_keyDown h before event s.now after
  | type event =>
    rw [act, type] at after ⊢
    cases typed : event.typed? with
    | none => exact Editor.accounts_of_sameEnds h ⟨rfl, rfl, rfl⟩ before
    | some c =>
      rw [typed] at after
      dsimp only at after ⊢
      rw [onWidget, widget_withState] at after
      rw [onWidget, editor_withState]
      exact Editor.accounts_of_sameEnds h ⟨rfl, rfl, rfl⟩ after
  | poll =>
    rw [act, poll, editor_withState]
    exact (Engine.calms_pollTimers s.engine s.widget s.now).accounts h
  | click =>
    rw [act, click, editor_withState]
    exact Engine.accounts_click h before
  | setClock now => exact Editor.accounts_of_sameEnds h ⟨rfl, rfl, rfl⟩ before
  | focus _ | useWidget _ => exact onField.elim

/-- By induction on the acts.  The widget is proper at any time of the run, so each act begins and ends
    with a proper one. -/
theorem within_run (h : Within lost s.editor) {acts : List HostAct}
    (proper : ∀ before, before <+: acts → (s.run before).widget.Proper)
    (onField : ∀ a ∈ acts, a.OnField) : Within (s.loss lost acts) (s.run acts).editor := by
  induction acts generalizing s lost with
  | nil => exact h
  | cons a acts ih =>
    have before := proper [] List.nil_prefix
    have after := proper [a] (List.prefix_append [a] acts)
    apply ih (accounts_act h before (onField a List.mem_cons_self) after)
    · intro before initial
      exact proper (a :: before) (List.cons_prefix_cons.mpr ⟨rfl, initial⟩)
    · exact fun b member => onField b (List.mem_cons_of_mem a member)

/-! ## The law -/

theorem within_start {engine : Engine} (built : engine.Built) (first : Widget)
    (others : List Widget) : Within 0 (start engine first others).editor := by
  obtain ⟨config, keymap, register, _, rfl⟩ := built.eq_assemble
  intro visual
  have normal : (start (.assemble config keymap register) first others).editor.modal.mode = .normal :=
    rfl
  cases visual.symm.trans normal

end Session

end ModalEdit
