import ModalEdit.Proofs.Editor.VisualEnds

/-! # Visual mode without an anchor

Entering visual mode sets the anchor.  A field that is focused again in visual mode keeps the mode and
loses the anchor (`Unanchored`).  A motion then takes a stand-in for it and selects from there to the
place where it puts the cursor (`Restart`).  It does not keep the stand-in, so the next motion begins
again, from the cursor.  Only a step back puts an anchor down.
-/

namespace ModalEdit

/-- Visual mode without the fixed end of a selection. -/
structure ModalState.Unanchored (s : ModalState) : Prop where
  visual : s.mode = .visual
  anchor : s.anchor = none

namespace Action

/-- The motions that put down an anchor where there is none: back by a character, once or up to the
    beginning of the line. -/
def stepsBack : List Action := [.selectPrevChar, .lineHead]

/-- The motions that select from the moving end on where there is no anchor. -/
def reaches : List Action := [.selectNextChar, .selectNextLine, .selectPrevLine, .nextWord]

end Action

namespace Editor

open ModalState (Unanchored)

variable {d d' e : Editor} {action : Action} {p : Nat}

/-- What a motion makes of a visual selection without an anchor, with `p` to stand in for it. -/
inductive Restart (p : Nat) (d : Editor) : Editor → Prop
  | stays : Restart p d d
  | selects (k : Nat) : Restart p d ((d.withCursor k).select p k)
  | fills (k next : Nat) : Restart p d (((d.withCursor k).fillLine next).select p k)

/-- A motion that moves an end leaves a cursor, the anchor it found, and the selection between the
    cursor and the stand-in. -/
theorem Restart.cases_eq (step : Restart p d d') :
    d' = d ∨ d'.modal.mode = d.modal.mode ∧ d'.modal.anchor = d.modal.anchor ∧
      ∃ k, d'.modal.cursor = some k ∧ d'.widget.selection = .between p k d'.len := by
  cases step with
  | stays => exact .inl rfl
  | selects k => exact .inr ⟨rfl, rfl, k, rfl, rfl⟩
  | fills k next => exact .inr ⟨rfl, rfl, k, rfl, rfl⟩

/-! ## Each motion -/

section Motions

variable (unanchored : d.modal.Unanchored)

include unanchored

theorem inVisual_of_unanchored : d.inVisual = true := by simp [inVisual, unanchored.visual]

theorem anchorOr_of_unanchored (q : Nat) : d.anchorOr q = q := by
  simp [anchorOr, unanchored.anchor]

theorem restart_nextChar : Restart d.movingEnd d d.nextChar := by
  rw [nextChar, if_pos (inVisual_of_unanchored unanchored), nextCharVisual]
  simp only [anchorOr_of_unanchored unanchored, if_true]
  split
  · exact .stays
  · exact .selects _

theorem restart_nextLine : Restart d.movingEnd d d.nextLine := by
  rw [nextLine]
  cases below : d.chars.nextLineStart? d.movingEnd with
  | none => exact .stays
  | some next =>
    have behind := Text.lt_of_nextLineStart? below
    simp only [inVisual_of_unanchored unanchored, if_true, nextLineVisual,
      anchorOr_of_unanchored unanchored]
    generalize min (d.verticalColumn d.movingEnd) (d.chars.lineLength next) = column
    -- The target lies behind the stand-in, so nothing is moved out of the way of an anchor.
    rw [if_neg (show ¬next + column < d.movingEnd by omega),
      if_neg (show ¬next + column + 1 < d.movingEnd by omega)]
    split
    · exact .stays
    · split
      · exact .fills _ _
      · exact .selects _

theorem restart_prevLine : Restart d.movingEnd d d.prevLine := by
  rw [prevLine]
  cases d.chars.prevLineStart? d.movingEnd with
  | none => exact .stays
  | some first =>
    cases d.chars.prevLineEnd? d.movingEnd with
    | none => exact .stays
    | some last =>
      simp only [inVisual_of_unanchored unanchored, if_true, prevLineVisual,
        anchorOr_of_unanchored unanchored]
      exact .selects _

theorem restart_toNextWord : Restart d.movingEnd d d.toNextWord := by
  rw [toNextWord]
  cases d.chars.nextWord? d.movingEnd with
  | none => exact .stays
  | some word =>
    simp only [inVisual_of_unanchored unanchored, if_true, anchorOr_of_unanchored unanchored]
    exact .selects _

theorem restart_toFirstLine : Restart 0 d d.toFirstLine := by
  rw [toFirstLine, if_pos (inVisual_of_unanchored unanchored), anchorOr_of_unanchored unanchored]
  exact .selects 0

theorem restart_toLastLine : Restart (d.chars.lineStart (d.len - 1)) d d.toLastLine := by
  simp only [toLastLine, if_pos (inVisual_of_unanchored unanchored),
    anchorOr_of_unanchored unanchored]
  exact .selects _

/-- A step back puts the anchor behind the character that it leaves. -/
theorem prevChar_of_unanchored :
    d.prevChar = d ∨ d.prevChar = d.putEnds (d.movingEnd + 1) (d.movingEnd - 1) := by
  rw [prevChar]
  split
  · exact .inl rfl
  · right
    simp only [inVisual_of_unanchored unanchored, if_true, prevCharVisual,
      anchorOr_of_unanchored unanchored]
    rw [if_neg (fun behind => Nat.lt_irrefl _ behind.1), select_comm]
    rfl

end Motions

/-! ## Motions with a count -/

/-- A motion has been made from `d` without an anchor, and has not put one down. -/
structure Drifts (d e : Editor) : Prop where
  unanchored : e.modal.Unanchored
  moved : e = d ∨ e.modal.cursor.isSome

theorem Drifts.restart (h : Drifts d e) {command : Editor → Editor}
    (step : ∀ {e : Editor}, e.modal.Unanchored → ∃ p, Restart p e (command e)) :
    Drifts d (command e) := by
  obtain ⟨p, restart⟩ := step h.unanchored
  rcases restart.cases_eq with same | ⟨mode, anchor, k, cursor, _⟩
  · rwa [same]
  · exact ⟨⟨mode.trans h.unanchored.visual, anchor.trans h.unanchored.anchor⟩,
      .inr (by simp [cursor])⟩

/-- A step back from `d` has put an anchor down, if it was taken. -/
def Anchors (d e : Editor) : Prop :=
  e = d ∨ e.modal.mode = .visual ∧ e.modal.anchor.isSome ∧ e.modal.cursor.isSome

theorem Anchors.prevChar (unanchored : d.modal.Unanchored) (h : Anchors d e) :
    Anchors d e.prevChar := by
  rcases h with rfl | ⟨visual, anchored, hasCursor⟩
  · rcases prevChar_of_unanchored unanchored with same | back
    · exact .inl same
    · rw [back]
      exact .inr ⟨unanchored.visual, rfl, rfl⟩
  · obtain ⟨a, anchor⟩ := Option.isSome_iff_exists.mp anchored
    have step := charStep_prevChar (by simp [inVisual, visual]) anchor
    right
    generalize e.prevChar = e' at step
    cases step with
    | stays => exact ⟨visual, anchored, hasCursor⟩
    | _ => exact ⟨visual, rfl, rfl⟩

theorem drifts_run (unanchored : d.modal.Unanchored) (motion : action ∈ Action.motions)
    (ahead : action ∉ Action.stepsBack) (count : Nat) : Drifts d (d.run action count) := by
  have here : Drifts d d := ⟨unanchored, .inl rfl⟩
  have nextChar : ∀ {e : Editor}, Drifts d e → Drifts d e.nextChar := fun h =>
    h.restart fun h => ⟨_, restart_nextChar h⟩
  cases action with
  | selectNextChar => exact whileChanging_keeps (P := Drifts d) nextChar _ here
  | selectNextLine =>
    exact whileChanging_keeps (P := Drifts d)
      (fun h => h.restart fun h => ⟨_, restart_nextLine h⟩) _ here
  | selectPrevLine =>
    exact whileChanging_keeps (P := Drifts d)
      (fun h => h.restart fun h => ⟨_, restart_prevLine h⟩) _ here
  | nextWord =>
    exact whileChanging_keeps (P := Drifts d)
      (fun h => h.restart fun h => ⟨_, restart_toNextWord h⟩) _ here
  | lineTail =>
    show Drifts d d.toLineTail
    rw [toLineTail, if_pos (inVisual_of_unanchored unanchored)]
    exact repeat_keeps (P := Drifts d) nextChar _ here
  | firstLine => exact here.restart fun h => ⟨_, restart_toFirstLine h⟩
  | lastLine => exact here.restart fun h => ⟨_, restart_toLastLine h⟩
  | selectPrevChar | lineHead => exact absurd (by decide) ahead
  | _ => exact absurd motion (by decide)

theorem anchors_run (unanchored : d.modal.Unanchored) (back : action ∈ Action.stepsBack)
    (count : Nat) : Anchors d (d.run action count) := by
  have prevChar : ∀ {e : Editor}, Anchors d e → Anchors d e.prevChar := fun h =>
    h.prevChar unanchored
  simp only [Action.stepsBack, List.mem_cons, List.not_mem_nil, or_false] at back
  rcases back with rfl | rfl
  · exact whileChanging_keeps (P := Anchors d) prevChar _ (.inl rfl)
  · show Anchors d d.toLineHead
    rw [toLineHead, if_pos (inVisual_of_unanchored unanchored)]
    exact repeat_keeps (P := Anchors d) prevChar _ (.inl rfl)

/-- Without an anchor every motion that moves leaves a cursor, and only a step back an anchor. -/
theorem run_of_unanchored (unanchored : d.modal.Unanchored) (motion : action ∈ Action.motions)
    (count : Nat) :
    d.run action count = d ∨
      (d.run action count).modal.cursor.isSome ∧
        ((d.run action count).modal.anchor.isSome ↔ action ∈ Action.stepsBack) := by
  by_cases back : action ∈ Action.stepsBack
  · rcases anchors_run unanchored back count with same | ⟨_, anchored, hasCursor⟩
    · exact .inl same
    · exact .inr ⟨hasCursor, iff_of_true anchored back⟩
  · have drifts := drifts_run unanchored motion back count
    rcases drifts.moved with same | hasCursor
    · exact .inl same
    · refine .inr ⟨hasCursor, iff_of_false ?_ back⟩
      simp [drifts.unanchored.anchor]

/-- Without an anchor a motion selects from the moving end, wherever the selection began before. -/
theorem selection_run_of_unanchored (unanchored : d.modal.Unanchored)
    (reaches : action ∈ Action.reaches) :
    d.run action 1 = d ∨
      ∃ k, (d.run action 1).modal.cursor = some k ∧
        (d.run action 1).widget.selection = .between d.movingEnd k (d.run action 1).len := by
  have restart : Restart d.movingEnd d (d.run action 1) := by
    simp only [Action.reaches, List.mem_cons, List.not_mem_nil, or_false] at reaches
    rcases reaches with rfl | rfl | rfl | rfl
    all_goals rw [run, times_one]
    · exact restart_nextChar unanchored
    · exact restart_nextLine unanchored
    · exact restart_prevLine unanchored
    · exact restart_toNextWord unanchored
  exact restart.cases_eq.imp_right fun moved => moved.2.2

end Editor

end ModalEdit
