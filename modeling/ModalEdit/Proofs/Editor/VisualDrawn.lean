import ModalEdit.Proofs.Editor.VisualEnds

/-! # What a visual selection shows

An editor keeps a visual selection twice.  Its modal state holds an anchor and a cursor, and the widget
holds the selection that is seen.  A motion reads the first, a yank or a deletion the second.

The two agree after any motions (`visual_selection_law`).  As long as no motion has moved an end, there is
no cursor, and the widget is the one that visual mode was entered with.  From then on the widget shows the
stretch between the anchor and the cursor.  The text need not have a character for that, nor need the
selection have been one of its stretches.
-/

namespace ModalEdit

/-- Both ends may lie behind the text, where the widget shows nothing. -/
theorem Selection.between_eq (a b len : Nat) :
    Selection.between a b len =
      ⟨min (min a len) (min b len), max (min a len) (min b len)⟩ := by
  simp only [Selection.between, Selection.mk.injEq]
  omega

namespace Editor

variable {e d d' : Editor} {a : Nat}

/-- What a visual selection that was begun in the editor `e` shows: nothing new as long as no end was
    moved, and afterwards what lies between its ends. -/
inductive DrawnFrom (e d : Editor) : Prop
  | untouched (entered : EntersVisual e d)
  | drawn {a k : Nat} (visual : d.modal.mode = .visual) (anchor : d.modal.anchor = some a)
      (cursor : d.modal.cursor = some k) (selection : d.widget.selection = .between a k d.len)

namespace DrawnFrom

theorem visual (h : DrawnFrom e d) : d.modal.mode = .visual := by
  cases h with
  | untouched entered => exact entered.visual
  | drawn visual anchor cursor selection => exact visual

theorem inVisual (h : DrawnFrom e d) : d.inVisual = true := by simp [Editor.inVisual, h.visual]

theorem anchored (h : DrawnFrom e d) : ∃ a, d.modal.anchor = some a := by
  cases h with
  | untouched entered => exact ⟨_, entered.anchor⟩
  | drawn visual anchor cursor selection => exact ⟨_, anchor⟩

/-- Wherever the ends are put, they are drawn. -/
theorem putEnds (visual : d.modal.mode = .visual) (a k : Nat) : DrawnFrom e (d.putEnds a k) :=
  .drawn visual rfl rfl rfl

theorem charStep (h : DrawnFrom e d) (step : CharStep a d d') : DrawnFrom e d' := by
  cases step with
  | stays => exact h
  | leavesAhead here inside => exact putEnds h.visual _ _
  | ahead away apart inside => exact putEnds h.visual _ _
  | leavesBack here => exact putEnds h.visual _ _
  | skipsBack here => exact putEnds h.visual _ _
  | redraws beyond stop => exact putEnds h.visual _ _
  | back away apart => exact putEnds h.visual _ _

/-- A space on an empty line makes the text longer, and the ends are drawn anew. -/
theorem jump {lands : Prop} (h : DrawnFrom e d) (step : Jump a lands d d') : DrawnFrom e d' := by
  cases step with
  | stays off => exact h
  | leads inText meets => exact putEnds h.visual _ _
  | fillsAhead off empty beyond => exact putEnds (d := d.fillLine _) h.visual _ _
  | fillsBefore off empty before => exact putEnds (d := d.fillLine _) h.visual _ _

theorem keptByCharSteps (e : Editor) : KeptByCharSteps (DrawnFrom e) where
  visual h := h.inVisual
  anchored h := h.anchored
  charStep h _ step := h.charStep step

theorem nextLine (h : DrawnFrom e d) : DrawnFrom e d.nextLine := by
  obtain ⟨a, anchor⟩ := h.anchored
  exact h.jump (jump_nextLine h.inVisual anchor)

theorem prevLine (h : DrawnFrom e d) : DrawnFrom e d.prevLine := by
  obtain ⟨a, anchor⟩ := h.anchored
  exact h.jump (jump_prevLine h.inVisual anchor)

theorem toNextWord (h : DrawnFrom e d) : DrawnFrom e d.toNextWord := by
  obtain ⟨a, anchor⟩ := h.anchored
  exact h.jump (jump_toNextWord h.inVisual anchor)

theorem toFirstLine (h : DrawnFrom e d) : DrawnFrom e d.toFirstLine := by
  obtain ⟨a, anchor⟩ := h.anchored
  exact h.jump (jump_toFirstLine h.inVisual anchor)

/-- This is not a jump in an empty text, where it puts the cursor behind the end. -/
theorem toLastLine (h : DrawnFrom e d) : DrawnFrom e d.toLastLine := by
  obtain ⟨a, anchor⟩ := h.anchored
  simp only [Editor.toLastLine, if_pos h.inVisual, anchorOr_of_some anchor]
  rw [← putEnds_of_anchor anchor]
  exact putEnds h.visual _ _

theorem run (h : DrawnFrom e d) {action : Action} (motion : action ∈ Action.motions) (count : Nat) :
    DrawnFrom e (d.run action count) := by
  have steps := keptByCharSteps e
  cases action with
  | selectNextChar => exact whileChanging_keeps (P := DrawnFrom e) steps.nextChar _ h
  | selectPrevChar => exact whileChanging_keeps (P := DrawnFrom e) steps.prevChar _ h
  | selectNextLine => exact whileChanging_keeps (P := DrawnFrom e) nextLine _ h
  | selectPrevLine => exact whileChanging_keeps (P := DrawnFrom e) prevLine _ h
  | nextWord => exact whileChanging_keeps (P := DrawnFrom e) toNextWord _ h
  | lineHead => exact steps.toLineHead h
  | lineTail => exact steps.toLineTail h
  | firstLine => exact h.toFirstLine
  | lastLine => exact h.toLastLine
  | _ => exact absurd motion (by decide)

theorem runAll (h : DrawnFrom e d) {motions : List (Action × Nat)}
    (only : ∀ motion ∈ motions, motion.1 ∈ Action.motions) : DrawnFrom e (d.runAll motions) := by
  induction motions generalizing d with
  | nil => exact h
  | cons motion motions ih =>
    have moved := h.run (only motion List.mem_cons_self) motion.2
    exact ih moved fun other member => only other (List.mem_cons_of_mem motion member)

end DrawnFrom

/-- From normal mode into visual mode and through any motions: there is an anchor, and there is either no
    cursor and all else as it was on entry, or the widget shows the stretch between the two, each of them
    moved into the text. -/
theorem visual_selection_law (normal : e.modal.mode = .normal) {motions : List (Action × Nat)}
    (only : ∀ motion ∈ motions, motion.1 ∈ Action.motions) (count : Nat) :
    let d := (e.run .toggleVisual count).runAll motions
    d.modal.mode = .visual ∧
      ∃ a, d.modal.anchor = some a ∧
        ((d.modal.cursor = none ∧ a = e.caret ∧ d.widget = e.widget) ∨
          ∃ k, d.modal.cursor = some k ∧
            d.widget.selection =
              ⟨min (min a d.len) (min k d.len), max (min a d.len) (min k d.len)⟩) := by
  intro d
  have entered := entersVisual_toggleVisual (e := e) (by simp [normal]) count
  have drawn : DrawnFrom e d := (DrawnFrom.untouched entered).runAll only
  refine ⟨drawn.visual, ?_⟩
  cases drawn with
  | untouched entered =>
    exact ⟨e.caret, entered.anchor, .inl ⟨entered.cursor, rfl, entered.widget_eq⟩⟩
  | @drawn a k visual anchor cursor selection =>
    refine ⟨a, anchor, .inr ⟨k, cursor, ?_⟩⟩
    rw [selection, Selection.between_eq]

/-- From the last line to the first one and one line down, onto an empty line: the anchor makes way for
    the space that is put there, and the widget shows the longer text between the two ends. -/
theorem visual_selection_of_filled_line :
    let e : Editor :=
      { modal := {}
        widget :=
          { segmentation := .scalars, text := ['a', 'b', '\n', '\n', 'c'], selection := ⟨4, 5⟩ }
        register := {}
        history := .ofLimit 1 }
    let motions := [(Action.firstLine, 1), (Action.selectNextLine, 1)]
    e.modal.mode = .normal ∧ (∀ motion ∈ motions, motion.1 ∈ Action.motions) ∧
      ((e.run .toggleVisual 1).runAll motions).modal.mode = .visual ∧
      ((e.run .toggleVisual 1).runAll motions).modal.anchor = some 5 ∧
      ((e.run .toggleVisual 1).runAll motions).modal.cursor = some 3 ∧
      ((e.run .toggleVisual 1).runAll motions).widget.selection = ⟨3, 5⟩ := by
  intro e motions
  have normal : e.modal.mode = .normal := rfl
  have only : ∀ motion ∈ motions, motion.1 ∈ Action.motions := by decide
  have pushed : ((e.run .toggleVisual 1).runAll motions).modal.anchor = some 5 := by decide
  have stopped : ((e.run .toggleVisual 1).runAll motions).modal.cursor = some 3 := by decide
  have longer : ((e.run .toggleVisual 1).runAll motions).len = 6 := by decide
  obtain ⟨visual, a, anchor, shown⟩ := visual_selection_law normal only 1
  rw [pushed, Option.some.injEq] at anchor
  subst anchor
  rw [stopped, longer] at shown
  obtain ⟨untouched, _⟩ | ⟨k, cursor, drawn⟩ := shown
  · cases untouched
  · cases cursor
    exact ⟨normal, only, visual, pushed, stopped, drawn⟩

end Editor

end ModalEdit
