import ModalEdit.Proofs.Editor.Saved
import ModalEdit.Proofs.Engine.Fields
import ModalEdit.Proofs.Session.Acts

/-! # Invariants of modal states

What holds of the modal state of every field, whatever a host does.  Commands change a modal
state in few ways: they move the visual positions in visual mode, change the mode, and set the
flag that a character is to be replaced.  A property that each of these ways keeps
(`ModalChanges`) is lost by no act of a host but the focus of the field (`ModalChanges.act`).  One
that the focus keeps as well (`ModalLaws`) holds throughout every run (`ModalLaws.run`).

One such property is that there are visual positions in visual mode only (`Tidy`).
-/

namespace ModalEdit

/-- All that commands, keys and timers do to a modal state keeps a property.  To gain the focus may
    not. -/
structure ModalChanges (P : ModalState → Prop) : Prop where
  withCursor : ∀ {s}, P s → s.mode = .visual → ∀ p, P { s with cursor := some p }
  withAnchor : ∀ {s}, P s → s.mode = .visual → ∀ p, P { s with anchor := some p }
  toNormal : ∀ {s}, P s → P (s.switchMode .normal)
  toInsert : ∀ {s}, P s → P (s.switchMode .insert)
  beginVisual : ∀ {s}, P s → ∀ p, P (s.beginVisual p)
  setReplacing : ∀ {s}, P s → ∀ b, P { s with replacing := b }

/-- All the ways in which a modal state changes keep a property. -/
structure ModalLaws (P : ModalState → Prop) : Prop where
  fresh : P {}
  withCursor : ∀ {s}, P s → s.mode = .visual → ∀ p, P { s with cursor := some p }
  withAnchor : ∀ {s}, P s → s.mode = .visual → ∀ p, P { s with anchor := some p }
  toNormal : ∀ {s}, P s → P (s.switchMode .normal)
  toInsert : ∀ {s}, P s → P (s.switchMode .insert)
  beginVisual : ∀ {s}, P s → ∀ p, P (s.beginVisual p)
  setReplacing : ∀ {s}, P s → ∀ b, P { s with replacing := b }
  resetTransient : ∀ {s}, P s → P s.resetTransient

/-! ## Commands -/

namespace Editor

/-- The same editor, with a modal state of the property. -/
def Keeps (P : ModalState → Prop) (d e : Editor) : Prop := d = e ∧ P d.modal

end Editor

namespace ModalChanges

variable {P : ModalState → Prop} (changes : ModalChanges P) {e : Engine} {f g : FieldId}

include changes

theorem keptByUndo : Editor.KeptByUndo (fun _ => True) (Editor.Keeps P) where
  alike same := same.1 ▸ .refl _
  select same _ _ := ⟨same.1 ▸ rfl, same.2⟩
  withCursor same visual p := ⟨same.1 ▸ rfl, changes.withCursor same.2 (eq_of_beq visual) p⟩
  withAnchor same visual p := ⟨same.1 ▸ rfl, changes.withAnchor same.2 (eq_of_beq visual) p⟩
  fillLine same _ _ := ⟨same.1 ▸ rfl, same.2⟩
  toNormalMode same := ⟨same.1 ▸ rfl, Editor.modal_switchMode _ _ ▸ changes.toNormal same.2⟩
  beginVisual {d e} same p := by
    obtain ⟨rfl, allowed⟩ := same
    refine ⟨rfl, ?_⟩
    have begun : (d.beginVisual p).modal = d.modal.beginVisual p := by
      rw [Editor.beginVisual, Editor.modal_switchMode]
      rfl
    rw [begun]
    exact changes.beginVisual allowed p
  awaitReplacement same := ⟨same.1 ▸ rfl, changes.setReplacing same.2 true⟩
  openLine same _ _ _ := ⟨same.1 ▸ rfl, same.2⟩
  slice _ _ _ := trivial
  append_of _ _ := trivial
  dropFinalBreak _ := trivial
  cut same _ _ := ⟨same.1 ▸ rfl, same.2⟩
  write same _ _ _ := ⟨same.1 ▸ rfl, same.2⟩
  paste same _ _ _ _ _ _ := ⟨same.1 ▸ rfl, same.2⟩
  undo same := ⟨same.1 ▸ rfl, (Editor.modal_undo _).symm ▸ same.2⟩

/-! ## Engines -/

theorem perform {d : Editor} (h : P d.modal) (x : Dispatch) : P (d.perform x).modal := by
  have prepared : ∀ d' : Editor, d'.modal = d.modal →
      P ((d'.emit (.dispatch x.name x.action x.count)).run x.action x.count).modal :=
    fun d' same => (changes.keptByUndo.run ⟨rfl, same ▸ h⟩ x.action x.count).2
  unfold Editor.perform
  split
  · exact prepared _ rfl
  · exact prepared _ rfl

omit changes in
theorem onField (command : Editor → Editor) (kept : ∀ d : Editor, P d.modal → P (command d).modal)
    (w : Widget) (h : P (e.fieldOrNew f).modal) : P ((e.onField g w command).1.fieldOrNew f).modal := by
  by_cases same : f = g
  · subst same
    rw [Engine.onField, Engine.fieldOrNew_adopt_self]
    exact kept (e.editor f w) h
  · rwa [Engine.fieldOrNew_onField_of_ne _ _ _ _ _ same]

theorem enterInsert (w : Widget) (now : Nat) (h : P (e.fieldOrNew f).modal) :
    P ((e.enterInsert w now).1.fieldOrNew f).modal := by
  unfold Engine.enterInsert
  split
  · exact onField _ (fun d h => Editor.modal_switchMode d .insert ▸ changes.toInsert h) w h
  · exact h

theorem follow (w : Widget) (route : Route) (now : Nat) (h : P (e.fieldOrNew f).modal) :
    P ((e.follow w route now).2.1.fieldOrNew f).modal := by
  cases route with
  | passthrough | rejected | absorbed | unbound => exact h
  | text => exact onField Editor.beforeTyping (fun _ h => h) w h
  | replace =>
    exact onField Editor.beforeReplacing (fun _ h => changes.setReplacing h false) w h
  | escape => exact onField _ (fun _ h => (changes.keptByUndo.toKeptByModes.toNormal ⟨rfl, h⟩).2) w h
  | dispatch d =>
    have performed : P ((e.onField e.active w (·.perform d)).1.fieldOrNew f).modal :=
      onField _ (fun _ h => changes.perform h d) w h
    rw [Engine.follow, Engine.perform_eq]
    split
    · exact changes.enterInsert _ now performed
    · exact performed

theorem keyDown (w : Widget) (event : KeyEvent) (now : Nat) (h : P (e.fieldOrNew f).modal) :
    P ((e.keyDown w event now).2.1.fieldOrNew f).modal := by
  obtain ⟨e', down, _, _, _, same⟩ := e.exists_keyDown_eq_follow w event now
  rw [down]
  exact changes.follow w _ now (same f ▸ h)

theorem click (w : Widget) (h : P (e.fieldOrNew f).modal) : P ((e.click w).1.fieldOrNew f).modal := by
  have touched : P ((e.touch e.active).fieldOrNew f).modal := (e.fieldOrNew_touch _ f).symm ▸ h
  simp only [Engine.click]
  split
  · exact onField _ (fun _ h => (changes.keptByUndo.toKeptByModes.placeCaret ⟨rfl, h⟩).2) w touched
  · exact touched

theorem fire (w : Widget) (t : Timer) (h : P (e.fieldOrNew f).modal) :
    P ((e.fire w t).1.fieldOrNew f).modal := by
  unfold Engine.fire
  split
  · exact h
  · cases t.task with
    | enterInsert =>
      exact onField _ (fun d h => Editor.modal_switchMode d .insert ▸ changes.toInsert h) w h
    | repairAfterReplace =>
      dsimp only
      split
      · exact onField _ (fun _ h => (changes.keptByUndo.toKeptByMotions.prevChar ⟨rfl, h⟩).2) w h
      · exact h

theorem fireAll (w : Widget) (due : List Timer) (h : P (e.fieldOrNew f).modal) :
    P ((e.fireAll w due).1.fieldOrNew f).modal := by
  induction due generalizing e w with
  | nil => exact h
  | cons t rest ih => exact ih _ (changes.fire w t h)

/-! ## Acts of a host -/

/-- Only when the field gains the focus can the property be lost. -/
theorem act {s : Session} {a : HostAct} (other : a ≠ .focus f)
    (h : P (s.engine.fieldOrNew f).modal) : P ((s.act a).engine.fieldOrNew f).modal := by
  cases a with
  | key event => exact changes.keyDown s.widget event s.now h
  | type event =>
    rw [Session.act, Session.type]
    split
    · exact h
    · exact h
  | poll =>
    exact changes.fireAll (e := { s.engine with timers := (s.engine.timers.takeDue s.now).2 }) _ _ h
  | click => exact changes.click s.widget h
  | focus g =>
    have ne : f ≠ g := fun same => other (same ▸ rfl)
    show P ((s.engine.focusChanged g).fieldOrNew f).modal
    rwa [Engine.fieldOrNew_focusChanged_of_ne _ _ _ ne]
  | useWidget _ | setClock _ => exact h

end ModalChanges

/-! ## Runs -/

namespace ModalLaws

variable {P : ModalState → Prop} (laws : ModalLaws P) {s : Session} {f : FieldId}

include laws

theorem changes : ModalChanges P where
  withCursor := laws.withCursor
  withAnchor := laws.withAnchor
  toNormal := laws.toNormal
  toInsert := laws.toInsert
  beginVisual := laws.beginVisual
  setReplacing := laws.setReplacing

theorem act (h : P (s.engine.fieldOrNew f).modal) (a : HostAct) :
    P ((s.act a).engine.fieldOrNew f).modal := by
  by_cases focused : a = .focus f
  · subst focused
    show P ((s.engine.focusChanged f).fieldOrNew f).modal
    rw [Engine.fieldOrNew_focusChanged_self]
    exact laws.resetTransient h
  · exact laws.changes.act focused h

theorem start {engine : Engine} (built : engine.Built) (first : Widget) (others : List Widget)
    (f : FieldId) : P ((Session.start engine first others).engine.fieldOrNew f).modal := by
  obtain ⟨config, keymap, register, _, rfl⟩ := built.eq_assemble
  exact laws.fresh

theorem runFrom (h : P (s.engine.fieldOrNew f).modal) (acts : List HostAct) :
    P ((s.run acts).engine.fieldOrNew f).modal := by
  induction acts generalizing s with
  | nil => exact h
  | cons a acts ih => exact ih (laws.act h a)

theorem run {engine : Engine} (built : engine.Built) (first : Widget) (others : List Widget)
    (acts : List HostAct) (f : FieldId) :
    P (((Session.start engine first others).run acts).engine.fieldOrNew f).modal :=
  laws.runFrom (laws.start built first others f) acts

end ModalLaws

/-! ## Visual positions -/

namespace ModalState

/-- There are visual positions in visual mode only, and the mode is one that commands enter. -/
structure Tidy (s : ModalState) : Prop where
  mode_ne : s.mode ≠ .command
  ends : s.mode ≠ .visual → s.anchor = none ∧ s.cursor = none

theorem tidy_laws : ModalLaws Tidy where
  fresh := ⟨by decide, fun _ => ⟨rfl, rfl⟩⟩
  withCursor tidy visual _ := ⟨tidy.mode_ne, fun other => absurd visual other⟩
  withAnchor tidy visual _ := ⟨tidy.mode_ne, fun other => absurd visual other⟩
  toNormal {s} _ := by
    rw [switchMode_of_ne_visual s (by decide)]
    exact ⟨nofun, fun _ => ⟨rfl, rfl⟩⟩
  toInsert {s} _ := by
    rw [switchMode_of_ne_visual s (by decide)]
    exact ⟨nofun, fun _ => ⟨rfl, rfl⟩⟩
  beginVisual {s} _ p := by
    have visual := s.mode_beginVisual p
    exact ⟨by rw [visual]; nofun, fun other => absurd visual other⟩
  setReplacing tidy _ := ⟨tidy.mode_ne, tidy.ends⟩
  resetTransient tidy := ⟨tidy.mode_ne, fun _ => ⟨rfl, rfl⟩⟩

end ModalState

end ModalEdit
