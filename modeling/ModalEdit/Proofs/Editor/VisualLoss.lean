import ModalEdit.Proofs.Editor.VisualEnds
import ModalEdit.Proofs.Editor.Yanking

/-! # Visual ends while the text changes

Motions keep the ends of a visual selection inside the text.  Other commands do not look at the ends: they
leave them where they are, or leave visual mode.  If such a command makes the text shorter and stays in
visual mode, the ends may then lie beyond the text, by no more than what the text has lost.

`lossTo` keeps account of that loss, and a command takes a selection that is within the text but for a
loss to one that is within the text but for the loss afterwards (`Accounts`, `accounts_run`).
-/

namespace ModalEdit.Editor

variable {d e : Editor} {lost : Nat} {action : Action}

/-- What the text has lost since visual mode was entered, `lost` of it before a command that leads from
    `e` to `d`. -/
def lossTo (lost : Nat) (e d : Editor) : Nat :=
  if e.modal.mode = .visual ∧ d.modal.mode = .visual then lost + (e.len - d.len) else 0

/-- If there is a visual selection, it is within the text but for a loss. -/
def Within (lost : Nat) (d : Editor) : Prop := d.modal.mode = .visual → Bounded lost d

/-- A command has led from `e` to `d` and kept account of the loss. -/
def Accounts (lost : Nat) (e d : Editor) : Prop := Within (lossTo lost e d) d

/-- The ends of the visual selection are as they were, and so is the mode. -/
structure SameEnds (e d : Editor) : Prop where
  mode : d.modal.mode = e.modal.mode
  anchor : d.modal.anchor = e.modal.anchor
  cursor : d.modal.cursor = e.modal.cursor

theorem sameEnds_of_modal (same : d.modal = e.modal) : SameEnds e d :=
  ⟨congrArg ModalState.mode same, congrArg ModalState.anchor same, congrArg ModalState.cursor same⟩

namespace Bounded

theorem mono {lost' : Nat} (h : Bounded lost d) (le : lost ≤ lost') : Bounded lost' d := by
  refine ⟨h.visual, h.proper, ?_⟩
  obtain ⟨a, anchor, ends⟩ := h.ends
  exact ⟨a, anchor, ends.mono (Nat.add_le_add_left le _)⟩

/-- With the ends where they were, they are inside what the text has now and what it has lost. -/
theorem of_sameEnds (h : Bounded lost e) (same : SameEnds e d) (proper : d.widget.Proper) :
    Bounded (lost + (e.len - d.len)) d := by
  obtain ⟨a, anchor, ends⟩ := h.ends
  refine ⟨same.mode.trans h.visual, proper, a, same.anchor.trans anchor, ?_⟩
  rw [same.cursor]
  exact ends.mono (by omega)

/-- What becomes of a visual selection without a loss is accounted for. -/
theorem accounts (h : Bounded lost d) (visual : e.modal.mode = .visual) : Accounts lost e d := by
  intro still
  rw [lossTo, if_pos ⟨visual, still⟩]
  exact h.mono (Nat.le_add_right _ _)

end Bounded

theorem accounts_of_left (left : d.modal.mode ≠ .visual) : Accounts lost e d :=
  fun visual => absurd visual left

theorem accounts_of_sameEnds (h : Within lost e) (same : SameEnds e d) (proper : d.widget.Proper) :
    Accounts lost e d := by
  intro still
  have visual : e.modal.mode = .visual := same.mode.symm.trans still
  rw [lossTo, if_pos ⟨visual, still⟩]
  exact (h visual).of_sameEnds same proper

theorem accounts_of_entersVisual (other : e.modal.mode ≠ .visual) (proper : e.widget.Proper)
    (entered : EntersVisual e d) : Accounts lost e d := by
  intro visual
  -- The account begins anew.
  rw [lossTo, if_neg fun both => other both.1]
  have inText : e.caret ≤ e.len := proper.caret_le_len
  refine ⟨visual, entered.widget_eq ▸ proper, e.caret, entered.anchor, ?_⟩
  rw [entered.cursor, len, entered.widget_eq]
  exact .resting inText

/-! ## What commands do to the modal state -/

theorem mode_toNormal (e : Editor) : e.toNormal.modal.mode = .normal := by
  rw [modal_toNormal]
  split
  · assumption
  · exact ModalState.mode_switchMode _ _

theorem modal_select_insertText (e : Editor) (cs : Text) (p : Nat) (placement : Placement)
    (a b : Nat) : ((e.insertText cs p placement).select a b).modal = e.modal := rfl

theorem modal_yank (e : Editor) (gathered : Option Text) (lineWise : Bool) :
    (e.yank gathered lineWise).modal = e.modal := by
  cases gathered with
  | none => rfl
  | some cs => rfl

theorem modal_copyWords (e : Editor) (count : Nat) : (e.copyWords count).modal = e.modal := by
  simp only [copyWords]
  split
  · rfl
  · rfl

theorem modal_cutWord (e : Editor) : e.cutWord.2.modal = e.modal := by
  simp only [cutWord]
  split
  · rfl
  · rfl

theorem modal_collect {step : Editor → Option Text × Editor}
    (kept : ∀ d, (step d).2.modal = d.modal) (e : Editor) (count : Nat) (lineWise : Bool) :
    (e.collect count lineWise step).modal = e.modal := by
  simp only [collect, modal_yank]
  exact gather_keeps (P := fun d : Editor => d.modal = e.modal) (fun same => (kept _).trans same) _ rfl

theorem modal_pasteAfter (e : Editor) : e.pasteAfter.modal = e.modal := by
  rw [pasteAfter_eq_withWidget]

theorem modal_pasteBefore (e : Editor) : e.pasteBefore.modal = e.modal := by
  rw [pasteBefore_eq_withWidget]

theorem modal_times_undo (e : Editor) (count : Nat) : (e.times count undo).modal = e.modal :=
  whileChanging_keeps (P := fun d => d.modal = e.modal) (fun same => (modal_undo _).trans same) _ rfl

theorem mode_motion (e : Editor) (motion : action ∈ Action.motions) (count : Nat) :
    (e.run action count).modal.mode = e.modal.mode := by
  have moved := ((moved_kept e).run ⟨rfl, .refl e⟩ motion count).2
  rw [moved.modal_eq]

/-! ## Every command -/

theorem Bounded.select (h : Bounded lost d) (a b : Nat) : Bounded lost (d.select a b) :=
  ⟨h.visual, .select h.proper.text_ne_nil a b, h.ends⟩

theorem accounts_motion (h : Within lost e) (motion : action ∈ Action.motions) (count : Nat) :
    Accounts lost e (e.run action count) := by
  have mode := mode_motion e motion count
  by_cases visual : e.modal.mode = .visual
  · exact ((bounded_kept lost).run (h visual) motion count).accounts visual
  · exact accounts_of_left (mode.symm ▸ visual)

/-- What the widget shows as selected has no say in where the ends are. -/
theorem Accounts.select (h : Accounts lost e d) (a b : Nat) : Accounts lost e (d.select a b) :=
  fun still => (h still).select a b

theorem accounts_toggleVisual (before : e.widget.Proper) (count : Nat) :
    Accounts lost e (e.run .toggleVisual count) := by
  by_cases visual : e.modal.mode = .visual
  · have confirmed : (e.run .toggleVisual count).modal.mode = .normal := by
      simp [run, toggleVisual, inVisual, visual, confirmVisual]
    exact accounts_of_left (by simp [confirmed])
  · exact accounts_of_entersVisual visual before (entersVisual_toggleVisual visual count)

/-- Every command keeps the ends of a visual selection within the text, but for what the text loses. -/
theorem accounts_run (h : Within lost e) (before : e.widget.Proper) (action : Action) (count : Nat)
    (after : (e.run action count).widget.Proper) : Accounts lost e (e.run action count) := by
  have still : (e.run action count).modal = e.modal → Accounts lost e (e.run action count) :=
    fun same => accounts_of_sameEnds h (sameEnds_of_modal same) after
  have left : (e.run action count).modal.mode = .normal → Accounts lost e (e.run action count) := by
    intro normal
    exact accounts_of_left (by simp [normal])
  -- A command moves the ends and keeps the text at least as long, or it leaves the ends where they are,
  -- or it leaves visual mode.
  cases action with
  | selectNextChar | selectPrevChar | selectNextLine | selectPrevLine | nextWord
  | lineHead | lineTail | firstLine | lastLine => exact accounts_motion h (by decide) count
  | appendAtLineTail =>
    have tail : .lineTail ∈ Action.motions := by decide
    exact (accounts_motion h tail count).select _ _
  | insertAtLineHead =>
    have head : .lineHead ∈ Action.motions := by decide
    exact (accounts_motion h head count).select _ _
  | toggleVisual => exact accounts_toggleVisual before count
  | replaceChar => exact accounts_of_sameEnds h ⟨rfl, rfl, rfl⟩ after
  | append | insert => exact still rfl
  | openLineBelow | openLineAbove => exact still (modal_select_insertText e _ _ _ _ _)
  | copyLine => exact still (modal_yank _ _ _)
  | copyWord => exact still (modal_copyWords _ _)
  | deleteLine => exact still (modal_collect (fun _ => rfl) _ _ _)
  | deleteWord => exact still (modal_collect modal_cutWord _ _ _)
  | pasteAfter => exact still (modal_pasteAfter _)
  | pasteBefore => exact still (modal_pasteBefore _)
  | undo => exact still (modal_times_undo _ _)
  | copySelection | deleteSelection => exact left (mode_toNormal _)
  | deleteCharOrLine =>
    apply left
    simp [run, deleteCharOrLine]

end ModalEdit.Editor
