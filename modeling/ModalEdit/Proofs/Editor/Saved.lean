import ModalEdit.Proofs.Editor.Kept

/-! # Saved texts

What commands do to the history of a field.  Only undoing takes from it (`history_run`).  One
step of undoing brings back the newest text; several steps, whether asked for one by one or by a
count, bring back the one that lies as deep (`text_repeat_undo`), and stop where the history ends
(`times_undo`).
-/

namespace ModalEdit.Editor

variable {e : Editor}

/-! ## Commands that leave the history alone -/

@[simp] theorem history_emit (e : Editor) (event : Event) : (e.emit event).history = e.history := rfl

@[simp] theorem history_switchMode (e : Editor) (m : Mode) :
    (e.switchMode m).history = e.history := by
  unfold switchMode
  split
  · rfl
  · rfl

@[simp] theorem widget_switchMode (e : Editor) (m : Mode) : (e.switchMode m).widget = e.widget := by
  unfold switchMode
  split
  · rfl
  · rfl

@[simp] theorem modal_switchMode (e : Editor) (m : Mode) :
    (e.switchMode m).modal = e.modal.switchMode m := by
  unfold switchMode
  split
  · rfl
  · rfl

/-- The same editor, with the history `h`. -/
def Saves (h : History) (d e : Editor) : Prop := d = e ∧ d.history = h

theorem saves_kept (h : History) : KeptByEdits (fun _ => True) (Saves h) where
  alike same := same.1 ▸ .refl _
  select same _ _ := ⟨same.1 ▸ rfl, same.2⟩
  withCursor same _ _ := ⟨same.1 ▸ rfl, same.2⟩
  withAnchor same _ _ := ⟨same.1 ▸ rfl, same.2⟩
  fillLine same _ _ := ⟨same.1 ▸ rfl, same.2⟩
  toNormalMode same := ⟨same.1 ▸ rfl, (history_switchMode _ _).trans same.2⟩
  beginVisual same _ := ⟨same.1 ▸ rfl, (history_switchMode _ _).trans same.2⟩
  awaitReplacement same := ⟨same.1 ▸ rfl, same.2⟩
  openLine same _ _ _ := ⟨same.1 ▸ rfl, same.2⟩
  slice _ _ _ := trivial
  append_of _ _ := trivial
  dropFinalBreak _ := trivial
  cut same _ _ := ⟨same.1 ▸ rfl, same.2⟩
  write same _ _ _ := ⟨same.1 ▸ rfl, same.2⟩
  paste same _ _ _ _ _ _ := ⟨same.1 ▸ rfl, same.2⟩

theorem history_run {action : Action} (ne : action ≠ .undo) (count : Nat) :
    (e.run action count).history = e.history :=
  ((saves_kept e.history).run ⟨rfl, rfl⟩ ne count).2

theorem history_toNormal : e.toNormal.history = e.history :=
  ((saves_kept e.history).toKeptByModes.toNormal ⟨rfl, rfl⟩).2

theorem history_placeCaret : e.placeCaret.history = e.history :=
  ((saves_kept e.history).toKeptByModes.placeCaret ⟨rfl, rfl⟩).2

theorem history_prevChar : e.prevChar.history = e.history :=
  ((saves_kept e.history).toKeptByMotions.prevChar ⟨rfl, rfl⟩).2

/-! ## Undoing once -/

theorem undo_of_nil (empty : e.history.entries = []) : e.undo = e := by
  simp [undo, History.pop?_eq_none_iff.mpr empty]

theorem undo_of_cons {entry : UndoEntry} {rest : List UndoEntry}
    (saved : e.history.entries = entry :: rest) :
    e.undo.history.entries = rest ∧ e.undo.history.limit = e.history.limit ∧
      e.undo.widget.text = entry.text := by
  cases popped : e.history.pop? with
  | none => simp [History.pop?_eq_none_iff.mp popped] at saved
  | some newest =>
    obtain ⟨newest, history⟩ := newest
    obtain ⟨entries, limit⟩ := History.pop?_eq_some_iff.mp popped
    rw [saved, List.cons.injEq] at entries
    obtain ⟨rfl, rfl⟩ := entries
    rw [undo, popped]
    exact ⟨rfl, limit.symm, rfl⟩

theorem entries_undo (e : Editor) : e.undo.history.entries = e.history.entries.drop 1 := by
  cases saved : e.history.entries with
  | nil => rw [undo_of_nil saved, saved, List.drop_nil]
  | cons entry rest => exact (undo_of_cons saved).1

@[simp] theorem modal_undo (e : Editor) : e.undo.modal = e.modal := by
  unfold undo
  split
  · rfl
  · rfl

theorem limit_undo (e : Editor) : e.undo.history.limit = e.history.limit := by
  cases saved : e.history.entries with
  | nil => rw [undo_of_nil saved]
  | cons entry rest => exact (undo_of_cons saved).2.1

/-! ## Undoing more than once -/

theorem entries_repeat_undo (n : Nat) (e : Editor) :
    (Nat.repeat undo n e).history.entries = e.history.entries.drop n := by
  induction n with
  | zero => rfl
  | succ n ih => rw [Nat.repeat, entries_undo, ih, List.drop_drop]

theorem limit_repeat_undo (n : Nat) (e : Editor) :
    (Nat.repeat undo n e).history.limit = e.history.limit := by
  induction n with
  | zero => rfl
  | succ n ih => rw [Nat.repeat, limit_undo, ih]

theorem text_repeat_undo {n : Nat} {entry : UndoEntry}
    (saved : e.history.entries[n]? = some entry) :
    (Nat.repeat undo (n + 1) e).widget.text = entry.text := by
  have top := entries_repeat_undo n e
  obtain ⟨inside, rfl⟩ := List.getElem?_eq_some_iff.mp saved
  rw [List.drop_eq_getElem_cons inside] at top
  exact (undo_of_cons top).2.2

/-- A step that changes nothing had nothing to undo. -/
theorem entries_eq_nil_of_unchanged (unchanged : e.unchanged e.undo = true) :
    e.history.entries = [] := by
  simp only [Editor.unchanged, Bool.and_eq_true, beq_iff_eq, History.size,
    entries_undo] at unchanged
  rw [List.length_drop] at unchanged
  exact List.eq_nil_of_length_eq_zero (by omega)

theorem whileChanging_undo (n : Nat) (e : Editor) :
    whileChanging undo n e = Nat.repeat undo n e := by
  apply whileChanging_repeat ⟨Eq.refl, Eq.symm, Eq.trans⟩ (congrArg undo)
  intro e unchanged
  -- The steps that are left out would find nothing either.
  exact undo_of_nil (entries_eq_nil_of_unchanged unchanged)

/-- Undoing with a count is undoing so many times, although it stops early. -/
theorem times_undo (count : Nat) (e : Editor) :
    e.times count undo = Nat.repeat undo (max count 1) e := whileChanging_undo _ e

end ModalEdit.Editor
