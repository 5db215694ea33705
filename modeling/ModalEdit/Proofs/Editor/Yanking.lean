import ModalEdit.Proofs.Editor.Saved

/-! # What commands put into the register

Seven actions put text into the register, and each of them at most once: a count repeats what is
done to the text, and all that this yields is written as one text.  With the text comes whether it
is to be pasted as whole lines, and that is up to the action, and to the mode in one case.  No other
action touches the register (`register_run`).
-/

namespace ModalEdit.Editor

variable {e : Editor}

/-- The actions that put text into the register. -/
def yanks : List Action :=
  [.copySelection, .copyLine, .copyWord, .deleteSelection, .deleteLine, .deleteWord,
    .deleteCharOrLine]

theorem copies_subset_yanks : copies ⊆ yanks := by simp [copies, yanks]

/-- Whether what an action yanks is to be pasted as whole lines. -/
def yanksLines (action : Action) (visual : Bool) : Bool :=
  action == .copyLine || action == .deleteLine || action == .deleteCharOrLine && visual

/-! ## Steps that leave the register alone -/

@[simp] theorem register_switchMode (e : Editor) (m : Mode) :
    (e.switchMode m).register = e.register := by
  unfold switchMode
  split
  · rfl
  · rfl

/-- The same editor, with the register `r`. -/
def Holds (r : Register) (d e : Editor) : Prop := d = e ∧ d.register = r

theorem holds_kept (r : Register) : KeptByModes (Holds r) where
  alike same := same.1 ▸ .refl _
  select same _ _ := ⟨same.1 ▸ rfl, same.2⟩
  withCursor same _ _ := ⟨same.1 ▸ rfl, same.2⟩
  withAnchor same _ _ := ⟨same.1 ▸ rfl, same.2⟩
  fillLine same _ _ := ⟨same.1 ▸ rfl, same.2⟩
  toNormalMode same := ⟨same.1 ▸ rfl, (register_switchMode _ _).trans same.2⟩
  beginVisual same _ := ⟨same.1 ▸ rfl, (register_switchMode _ _).trans same.2⟩
  awaitReplacement same := ⟨same.1 ▸ rfl, same.2⟩

@[simp] theorem register_toNormal (e : Editor) : e.toNormal.register = e.register :=
  ((holds_kept e.register).toNormal ⟨rfl, rfl⟩).2

theorem register_placeCaret (e : Editor) : e.placeCaret.register = e.register :=
  ((holds_kept e.register).placeCaret ⟨rfl, rfl⟩).2

theorem register_prevChar (e : Editor) : e.prevChar.register = e.register :=
  ((holds_kept e.register).toKeptByMotions.prevChar ⟨rfl, rfl⟩).2

theorem register_select_insertText (e : Editor) (cs : Text) (p : Nat) (placement : Placement)
    (a b : Nat) : ((e.insertText cs p placement).select a b).register = e.register := rfl

theorem register_openBelow (e : Editor) : e.openBelow.register = e.register :=
  e.register_select_insertText _ _ _ _ _

theorem register_openAbove (e : Editor) : e.openAbove.register = e.register :=
  e.register_select_insertText _ _ _ _ _

theorem pasteAfter_eq_withWidget (e : Editor) :
    e.pasteAfter = { e with widget := e.pasteAfter.widget } := by
  unfold pasteAfter
  split
  · rfl
  · split
    · rfl
    · rfl

theorem register_pasteAfter (e : Editor) : e.pasteAfter.register = e.register := by
  rw [pasteAfter_eq_withWidget]

theorem pasteBefore_eq_withWidget (e : Editor) :
    e.pasteBefore = { e with widget := e.pasteBefore.widget } := by
  unfold pasteBefore
  split
  · rfl
  · split
    · rfl
    · rfl

theorem register_pasteBefore (e : Editor) : e.pasteBefore.register = e.register := by
  rw [pasteBefore_eq_withWidget]

theorem register_undo (e : Editor) : e.undo.register = e.register := by
  unfold undo
  split
  · rfl
  · rfl

theorem register_cutWord (e : Editor) : e.cutWord.2.register = e.register := by
  unfold cutWord
  dsimp only
  split
  · rfl
  · rfl

/-! ## Commands that write -/

/-- The register is as it was, or with one more text. -/
def Takes (e : Editor) (lineWise : Bool) (d : Editor) : Prop :=
  d.register = e.register ∨ ∃ cs, d.register = ⟨e.register.clipboard.put cs, lineWise⟩

theorem takes_yank {d : Editor} (still : d.register = e.register) (gathered : Option Text)
    (lineWise : Bool) : e.Takes lineWise (d.yank gathered lineWise) := by
  cases gathered with
  | none => exact .inl still
  | some cs => exact .inr ⟨dropFinalBreak cs, still ▸ rfl⟩

section Collect

variable {step : Editor → Option Text × Editor} (still : ∀ e, (step e).2.register = e.register)

include still in
theorem register_gather (n : Nat) (e : Editor) : (gather step n e).2.register = e.register :=
  gather_keeps (P := fun d : Editor => d.register = e.register)
    (fun same => (still _).trans same) n rfl

include still in
theorem takes_collect (e : Editor) (count : Nat) (lineWise : Bool) :
    e.Takes lineWise (e.collect count lineWise step) :=
  takes_yank (register_gather still _ e) _ lineWise

theorem widget_collect (e : Editor) (count : Nat) (lineWise : Bool) :
    (e.collect count lineWise step).widget = (gather step (e.yankLimit count) e).2.widget := by
  simp only [collect, yank]
  split
  · rfl
  · rfl

include still in
/-- What all runs yield is put into the register, without its final line break. -/
theorem register_collect {e : Editor} {count : Nat} {cs : Text}
    (yields : (gather step (e.yankLimit count) e).1 = some cs) (lineWise : Bool) :
    (e.collect count lineWise step).register =
      ⟨e.register.clipboard.put (dropFinalBreak cs), lineWise⟩ := by
  rw [← register_gather still (e.yankLimit count) e]
  simp only [collect, yields, yank]
  rfl

end Collect

theorem takes_copySelection (e : Editor) : e.Takes false e.copySelection :=
  .inr ⟨_, register_toNormal _⟩

theorem takes_copyWords (e : Editor) (count : Nat) : e.Takes false (e.copyWords count) := by
  unfold copyWords
  dsimp only
  split
  · exact .inl rfl
  · exact .inr ⟨_, rfl⟩

theorem takes_deleteSelection (e : Editor) (count : Nat) :
    e.Takes false (e.deleteSelection count) := by
  rw [Takes, deleteSelection, register_toNormal]
  exact takes_collect (fun _ => rfl) e count false

theorem takes_deleteCharBefore (e : Editor) : e.Takes false e.deleteCharBefore := by
  unfold deleteCharBefore
  cases e.caret with
  | zero => exact .inl rfl
  | succ before =>
    dsimp only
    cases (e.cut before (before + 1)).1 with
    | none => exact .inl rfl
    | some cs => exact .inr ⟨cs, rfl⟩

theorem takes_deleteCharOrLine (e : Editor) : e.Takes e.inVisual e.deleteCharOrLine := by
  rw [Takes, deleteCharOrLine, register_switchMode]
  cases e.inVisual with
  | true => exact takes_collect (fun _ => rfl) e 1 true
  | false => exact e.takes_deleteCharBefore

/-! ## Every action -/

theorem register_run_of_not_mem_yanks {action : Action} (other : action ∉ yanks) (count : Nat)
    (e : Editor) : (e.run action count).register = e.register := by
  have kept := holds_kept e.register
  by_cases editing : action ∈ edits
  · cases action with
    | undo =>
      exact (kept.times (fun same => ⟨same.1 ▸ rfl, (register_undo _).trans same.2⟩) count
        ⟨rfl, rfl⟩).2
    | openLineBelow => exact e.register_openBelow
    | openLineAbove => exact e.register_openAbove
    | pasteAfter => exact e.register_pasteAfter
    | pasteBefore => exact e.register_pasteBefore
    | deleteSelection | deleteLine | deleteWord | deleteCharOrLine => exact absurd (by decide) other
    | _ => exact absurd editing (by decide)
  · have uncopied : action ∉ copies := fun copying => other (copies_subset_yanks copying)
    exact (kept.run ⟨rfl, rfl⟩ editing uncopied count).2

theorem takes_run {action : Action} (yanking : action ∈ yanks) (count : Nat) (e : Editor) :
    e.Takes (yanksLines action e.inVisual) (e.run action count) := by
  simp only [yanks, List.mem_cons, List.not_mem_nil, or_false] at yanking
  rcases yanking with rfl | rfl | rfl | rfl | rfl | rfl | rfl
  · exact e.takes_copySelection
  · exact takes_yank rfl _ true
  · exact e.takes_copyWords count
  · exact e.takes_deleteSelection count
  · exact takes_collect (fun _ => rfl) e count true
  · exact takes_collect register_cutWord e count false
  · exact e.takes_deleteCharOrLine

end ModalEdit.Editor
