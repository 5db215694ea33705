import ModalEdit.Proofs.Session.Modals
import ModalEdit.Proofs.Session.Segmentations

/-! # Visual positions in visual mode only

A field has an anchor or a visual cursor in visual mode only, and no field ever shows a command
line (`visual_state_law`).  That holds whatever the host does: besides its reports to the engine it
may place carets, change texts and write to the register, and a timer may change the mode of a
field that lost the focus long ago.

Only reports change the modal state of a field, in the ways that `ModalLaws` names.  So a property
that these keep is kept by every step (`ModalLaws.step`) and in every run (`ModalLaws.after`).
-/

namespace ModalEdit

/-- The session after some steps of the host. -/
def Session.after (s : Session) (steps : List HostStep) : Session := steps.foldl step s

namespace ModalLaws

variable {P : ModalState → Prop} (laws : ModalLaws P) {s : Session} {f : FieldId}

include laws

theorem step (h : P (s.engine.fieldOrNew f).modal) (x : HostStep) :
    P ((s.step x).engine.fieldOrNew f).modal := by
  cases x with
  | act a => exact laws.act h a
  -- The others concern a widget or the register.
  | call _ | writeRegister _ | setLineWise _ => exact h

theorem after (h : P (s.engine.fieldOrNew f).modal) (steps : List HostStep) :
    P ((s.after steps).engine.fieldOrNew f).modal := by
  induction steps generalizing s with
  | nil => exact h
  | cons x steps ih => exact ih (laws.step h x)

end ModalLaws

namespace Session

/-- At any time of a session, a field that is not in visual mode has neither an anchor nor a visual
    cursor, and no field is on a command line. -/
theorem visual_state_law {engine : Engine} (built : engine.Built) (first : Widget)
    (others : List Widget) (steps : List HostStep) (f : FieldId) :
    let modal := (((start engine first others).after steps).engine.fieldOrNew f).modal
    (modal.mode ≠ .visual → modal.anchor = none ∧ modal.cursor = none) ∧
      modal.mode ≠ .command := by
  intro modal
  have tidy : modal.Tidy :=
    ModalState.tidy_laws.after (ModalState.tidy_laws.start built first others f) steps
  exact ⟨tidy.ends, tidy.mode_ne⟩

/-- In visual mode, a command to append at the end of the line moves the visual cursor there.  The
    focus leaves the field before the timer enters insert mode, so the field keeps both positions
    until then. -/
theorem visual_state_law_of_late_timer :
    let w : Widget := { Widget.ofText .scalars ['a', 'b', 'c', 'd'] with selection := ⟨0, 1⟩ }
    let steps : List HostStep :=
      [.act (.key (.plain (.char 'v'))), .act (.key (.plain (.char 'l'))),
        .act (.key (.plain (.char 'A'))), .act (.focus 1), .call (.setSelection 1 1), .act .click]
    let late : List HostStep := steps ++ [.act (.setClock (Time.ofMillis 100)), .act .poll]
    let before := (((start .standard w []).after steps).engine.fieldOrNew 0).modal
    let modal := (((start .standard w []).after late).engine.fieldOrNew 0).modal
    Engine.standard.Built ∧ before = ⟨.visual, some 0, some 4, false⟩ ∧
      modal.mode ≠ .visual ∧ modal.anchor = none ∧ modal.cursor = none := by
  intro w steps late before modal
  have left : modal.mode ≠ .visual := by decide
  have ends := (visual_state_law (.inl rfl) w [] late 0).1 left
  exact ⟨.inl rfl, by decide, left, ends⟩

end Session

end ModalEdit
