import ModalEdit.Proofs.Editor.CharacterKept
import ModalEdit.Proofs.Editor.Conserved
import ModalEdit.Proofs.Editor.Repetition

/-! # What a deletion selects

A deletion selects the character that comes to the place where it began.  If nothing comes there, the
place is the end of the text, and nothing is selected (`SelectsEnd`), unless nothing is left before it
either: then a space stands for the text, and is selected.

All deletions leave a front part and a back part of the text, and which of the two happens is read off
these parts (`Leaves`).  A deletion with a count goes on taking from the back part until that is empty.
A deletion of words never takes all of it, nor does the deletion of the character before the caret.  So
only the other two can leave nothing selected (`reselection_law`).
-/

namespace ModalEdit.Editor

open Text (unlines terminated LineAt)

variable {d e : Editor} {front back : Text} {above below : List Text} {count n : Nat}

/-- One character of the text is selected. -/
structure SelectsOne (d : Editor) : Prop where
  single : d.widget.selection.stop = d.widget.selection.start + 1
  inside : d.widget.selection.stop ≤ d.len

/-- Nothing is selected at the end of a text. -/
structure SelectsEnd (d : Editor) : Prop where
  selection : d.widget.selection = ⟨d.len, d.len⟩
  nonempty : 0 < d.len

/-- A deletion takes all that comes to its place, and leaves something before it. -/
inductive TakesRest (e : Editor) (count : Nat) : Action → Prop
  | selection (before : 0 < e.caret) (all : e.len ≤ e.caret + e.yankLimit count) :
      TakesRest e count .deleteSelection
  | lines (before : 0 < e.chars.lineStart e.caret)
      (all : unlines (e.linesBelow.drop (e.yankLimit count - 1)) = []) :
      TakesRest e count .deleteLine

/-- The actions that delete without being told what to select. -/
def removals : List Action := [.deleteSelection, .deleteLine, .deleteWord, .deleteCharOrLine]

/-! ## What is left -/

/-- A deletion has left two parts of a text, and selected what comes to its place. -/
structure Leaves (front back : Text) (d : Editor) : Prop where
  rope : d.widget.segmentation = .scalars
  text : d.widget.text = remaining front back
  selection : d.widget.selection = .between front.length (front.length + 1) d.len

/-- Something comes to the place between the parts, if nothing is left before it or something behind. -/
theorem lt_length_remaining (something : front = [] ∨ back ≠ []) :
    front.length < (remaining front back).length := by
  rcases something with rfl | behind
  · exact List.length_pos_iff.mpr (remaining_ne_nil [] back)
  · rw [remaining_of_ne_nil (List.append_ne_nil_of_right_ne_nil front behind), List.length_append]
    exact Nat.lt_add_of_pos_right (List.length_pos_iff.mpr behind)

theorem leaves_cutAt (rope : e.widget.segmentation = .scalars) {a b : Nat} (lt : a < b)
    (inside : a ≤ e.widget.text.length) :
    Leaves (e.widget.text.take a) (e.widget.text.drop b) (e.cutAt a b).2 := by
  refine ⟨(e.segmentation_cutAt a b).trans rope, text_cutAt rope lt, ?_⟩
  rw [List.length_take_of_le inside]
  rfl

namespace Leaves

theorem of_agrees (h : Leaves front back e) (same : d.Agrees e) : Leaves front back d := by
  obtain ⟨_, _, _, rfl⟩ := same
  exact ⟨h.rope, h.text, h.selection⟩

theorem len_eq (h : Leaves front back d) : d.len = (remaining front back).length := by
  rw [← h.text]
  exact Widget.len_of_scalars h.rope

theorem front_le_len (h : Leaves front back d) : front.length ≤ d.len := by
  have length := congrArg List.length (take_remaining front back)
  rw [List.length_take, ← h.len_eq] at length
  omega

theorem caret_eq (h : Leaves front back d) : d.caret = front.length := by
  have le := h.front_le_len
  rw [caret, Widget.caret, h.selection]
  simp only [Selection.between]
  omega

theorem selectsOne (h : Leaves front back d) (something : front = [] ∨ back ≠ []) :
    d.SelectsOne := by
  have room : front.length + 1 ≤ d.len := h.len_eq ▸ lt_length_remaining something
  have selection : d.widget.selection = ⟨front.length, front.length + 1⟩ := by
    rw [h.selection, Selection.between, Selection.mk.injEq]
    omega
  exact ⟨by rw [selection], by rwa [selection]⟩

theorem selectsEnd (h : Leaves front [] d) (before : front ≠ []) : d.SelectsEnd := by
  have len : d.len = front.length := by
    rw [h.len_eq, remaining_of_ne_nil (List.append_ne_nil_of_left_ne_nil before []), List.append_nil]
  have positive := List.length_pos_iff.mpr before
  constructor
  · rw [h.selection, len, Selection.between, Selection.mk.injEq]
    omega
  · omega

end Leaves

/-! ## One more deletion -/

theorem drop_remaining (front back : Text) :
    (remaining front back).drop (front.length + 1) = back.drop 1 := by
  unfold remaining
  split
  · next empty =>
    obtain ⟨rfl, rfl⟩ := List.append_eq_nil_iff.mp (List.isEmpty_iff.mp empty)
    rfl
  · exact List.drop_length_add_append 1

theorem leaves_cutLine (rope : e.widget.segmentation = .scalars) {line : Text}
    (here : LineAt e.widget.text e.caret above line below) :
    Leaves (terminated above) (unlines below) e.cutLine.2 := by
  have lt : e.widget.text.lineStart e.caret < e.widget.text.lineEnd e.caret + 1 :=
    Nat.lt_succ_of_le (Text.lineStart_le_lineEnd _ _)
  have left := leaves_cutAt rope lt (Text.lineStart_le_length _ _)
  rw [here.take_start, here.drop_behind_stop] at left
  rwa [cutLine_of_scalars rope]

/-- Without lines to join, there is at most an empty one. -/
theorem drop_one_of_unlines_nil (none : unlines below = []) : below.drop 1 = [] := by
  cases below with
  | nil => rfl
  | cons l below =>
    apply Decidable.byContradiction
    intro (more : below ≠ [])
    rw [Text.unlines_cons l more] at none
    exact List.append_ne_nil_of_right_ne_nil l (List.cons_ne_nil _ _) none

/-- The lines of what a deletion of lines has left. -/
theorem exists_lines_remaining (whole : ∀ l ∈ above ++ below, lineBreak ∉ l) :
    ∃ line rest, (remaining (terminated above) (unlines below)).lines = above ++ line :: rest ∧
      unlines rest = unlines (below.drop 1) := by
  have wholeAbove : ∀ l ∈ above, lineBreak ∉ l := fun l member =>
    whole l (List.mem_append_left _ member)
  by_cases empty : terminated above ++ unlines below = []
  · obtain ⟨noneAbove, noneBelow⟩ := List.append_eq_nil_iff.mp empty
    have above_eq : above = [] := by
      cases above with
      | nil => rfl
      | cons l above => exact absurd noneAbove (by simp)
    refine ⟨[' '], [], ?_, by rw [drop_one_of_unlines_nil noneBelow]⟩
    rw [noneAbove, noneBelow, above_eq]
    decide
  · rw [remaining_of_ne_nil empty, Text.lines_terminated_append wholeAbove]
    cases below with
    | nil => exact ⟨[], [], rfl, rfl⟩
    | cons next below =>
      refine ⟨next, below, ?_, rfl⟩
      rw [Text.lines_unlines _ (List.cons_ne_nil next below)]
      exact fun l member => whole l (List.mem_append_right _ member)

namespace Leaves

theorem cutSelection (h : Leaves front back d) : Leaves front (back.drop 1) d.cutSelection.2 := by
  have caret : d.widget.selection.start = front.length := h.caret_eq
  have inside := h.front_le_len
  rw [len, Widget.len_of_scalars h.rope] at inside
  rw [cutSelection_eq, caret]
  by_cases something : front = [] ∨ back ≠ []
  · have left := leaves_cutAt h.rope (Nat.lt_succ_self front.length) inside
    rw [h.text, take_remaining, drop_remaining] at left
    rwa [(h.selectsOne something).single, caret]
  · obtain ⟨before, none⟩ := not_or.mp something
    obtain rfl := Classical.not_not.mp none
    have atEnd := (h.selectsEnd before).selection
    have stop : d.widget.selection.stop = front.length := by
      rw [← caret, atEnd]
    rw [stop, cutAt_self]
    exact ⟨h.rope, h.text, rfl⟩

theorem cutLine (h : Leaves (terminated above) (unlines below) d)
    (whole : ∀ l ∈ above ++ below, lineBreak ∉ l) :
    Leaves (terminated above) (unlines (below.drop 1)) d.cutLine.2 := by
  obtain ⟨line, rest, lines, same⟩ := exists_lines_remaining whole
  rw [← h.text] at lines
  rw [← same]
  apply leaves_cutLine h.rope
  rw [h.caret_eq]
  exact Text.lineAt_terminated lines

theorem repeat_cutSelection (h : Leaves front back d) (n : Nat) :
    Leaves front (back.drop n) (Nat.repeat (fun e => e.cutSelection.2) n d) := by
  induction n with
  | zero => exact h
  | succ n ih =>
    rw [← List.drop_drop]
    exact ih.cutSelection

theorem repeat_cutLine (h : Leaves (terminated above) (unlines below) d)
    (whole : ∀ l ∈ above ++ below, lineBreak ∉ l) (n : Nat) :
    Leaves (terminated above) (unlines (below.drop n))
      (Nat.repeat (fun e => e.cutLine.2) n d) := by
  induction n with
  | zero => exact h
  | succ n ih =>
    rw [← List.drop_drop]
    apply ih.cutLine
    intro l member
    apply whole
    rw [List.mem_append] at member ⊢
    exact member.imp_right List.mem_of_mem_drop

end Leaves

/-! ## With a count -/

theorem SelectsOne.caret_lt_len (one : e.SelectsOne) : e.caret < e.len := by
  have inside := one.inside
  rwa [one.single] at inside

theorem SelectsOne.selects (one : e.SelectsOne) (rope : e.widget.segmentation = .scalars) :
    e.Selects := by
  have single := one.single
  exact ⟨rope, by omega, one.inside, fun nothing => by omega⟩

/-- A selected character is what comes to its place, between two parts of a text. -/
theorem SelectsOne.leaves (one : e.SelectsOne) (rope : e.widget.segmentation = .scalars) :
    Leaves (e.widget.text.take e.caret) (e.widget.text.drop e.caret) e := by
  have inside := one.caret_lt_len
  have length : e.len = e.widget.text.length := Widget.len_of_scalars rope
  have front : (e.widget.text.take e.caret).length = e.caret :=
    List.length_take_of_le (by omega)
  have behind : e.widget.text.drop e.caret ≠ [] := by
    rw [ne_eq, List.drop_eq_nil_iff]
    omega
  refine ⟨rope, ?_, ?_⟩
  · rw [remaining_of_ne_nil (List.append_ne_nil_of_right_ne_nil _ behind), List.take_append_drop]
  · have selection : e.widget.selection = ⟨e.caret, e.caret + 1⟩ :=
      congrArg (Selection.mk e.caret) one.single
    rw [selection, front, Selection.between, Selection.mk.injEq]
    omega

theorem leaves_deleteSelection (one : e.SelectsOne) (rope : e.widget.segmentation = .scalars)
    (normal : e.modal.mode = .normal) (count : Nat) :
    Leaves (e.widget.text.take e.caret) (e.widget.text.drop (e.caret + e.yankLimit count))
      (e.deleteSelection count) := by
  have selects := one.selects rope
  have still := (modal_collect_cutSelection selects count).symm ▸ normal
  have left := (one.leaves rope).repeat_cutSelection (e.yankLimit count)
  rw [List.drop_drop] at left
  rw [deleteSelection, toNormal_of_normal still]
  exact left.of_agrees (agrees_equivalence.trans (agrees_collect e count false Editor.cutSelection)
    (cutSelection_settling.gather _ selects))

theorem leaves_deleteLines (rope : e.widget.segmentation = .scalars) {line : Text}
    (here : LineAt e.widget.text e.caret above line below) (count : Nat) :
    Leaves (terminated above) (unlines (below.drop (e.yankLimit count - 1)))
      (e.deleteLines count) := by
  have whole : ∀ l ∈ above ++ below, lineBreak ∉ l := by
    intro l member
    apply here.not_mem
    rw [List.mem_append, List.mem_cons]
    exact (List.mem_append.mp member).imp_right .inr
  have positive : 1 ≤ maxCount := by decide
  obtain ⟨n, limit⟩ : ∃ n, e.yankLimit count = n + 1 := by
    apply Nat.exists_eq_add_one.mpr
    rw [yankLimit]
    omega
  have left := (leaves_cutLine rope here).repeat_cutLine whole n
  rw [repeat_apply (fun e : Editor => e.cutLine.2) n e] at left
  rw [limit, Nat.add_sub_cancel]
  have gathered := agrees_equivalence.trans (agrees_collect e count true Editor.cutLine)
    (cutLine_settling.gather (e.yankLimit count) rope)
  rw [limit] at gathered
  exact left.of_agrees gathered

theorem SelectsOne.of_widget (one : e.SelectsOne) (same : d.widget = e.widget) : d.SelectsOne := by
  refine ⟨?_, ?_⟩
  · rw [same]
    exact one.single
  · rw [len, same]
    exact one.inside

/-- Words are deleted up to where another one begins. -/
theorem selectsOne_deleteWords (one : e.SelectsOne) (rope : e.widget.segmentation = .scalars)
    (count : Nat) : (e.deleteWords count).SelectsOne := by
  have kept : (gather Editor.cutWord (e.yankLimit count) e).2.widget.segmentation = .scalars ∧
      (gather Editor.cutWord (e.yankLimit count) e).2.SelectsOne := by
    apply gather_keeps (P := fun d : Editor => d.widget.segmentation = .scalars ∧ d.SelectsOne)
    · intro d kept
      obtain ⟨rope, one⟩ := kept
      cases word : d.chars.nextWord? d.caret with
      | none =>
        rw [cutWord_of_none word]
        exact ⟨rope, one⟩
      | some next =>
        obtain ⟨lt, last⟩ := Text.nextWord?_bounds word
        rw [chars, Widget.chars_eq_text rope] at last
        have left := leaves_cutAt rope lt (by omega)
        rw [cutWord_of_some word]
        refine ⟨left.rope, left.selectsOne (.inr ?_)⟩
        rw [ne_eq, List.drop_eq_nil_iff]
        omega
    · exact ⟨rope, one⟩
  exact kept.2.of_widget (widget_collect e count false)

/-- The selected character stays, and comes to the place of the one before it. -/
theorem selectsOne_deleteCharOrLine (one : e.SelectsOne) (rope : e.widget.segmentation = .scalars)
    (normal : e.modal.mode = .normal) : e.deleteCharOrLine.SelectsOne := by
  have inside := one.caret_lt_len
  rw [len, Widget.len_of_scalars rope] at inside
  have deleted : e.deleteCharBefore.SelectsOne := by
    rw [deleteCharBefore]
    cases caret : e.caret with
    | zero => exact one
    | succ before =>
      have left := leaves_cutAt rope (Nat.lt_succ_self before) (by omega)
      have selected : (e.cutAt before (before + 1)).2.SelectsOne := by
        apply left.selectsOne
        right
        rw [ne_eq, List.drop_eq_nil_iff]
        omega
      apply selected.of_widget
      dsimp only
      split
      · rfl
      · rfl
  apply deleted.of_widget
  rw [deleteCharOrLine, inVisual_of_normal normal, widget_switchMode]
  rfl

/-! ## The law -/

theorem Leaves.reselects (h : Leaves front back d) {rest : Prop}
    (taken : rest ↔ front ≠ [] ∧ back = []) :
    (¬rest → d.SelectsOne) ∧ (rest → d.SelectsEnd) := by
  rw [taken]
  constructor
  · intro other
    apply h.selectsOne
    by_cases before : front = []
    · exact .inl before
    · exact .inr fun nothing => other ⟨before, nothing⟩
  · rintro ⟨before, rfl⟩
    exact h.selectsEnd before

/-- From one selected character every deletion in normal mode leads to one selected character, unless
    it takes the rest of a text that has something before it.  Then nothing is selected. -/
theorem reselection_law (rope : e.widget.segmentation = .scalars) (normal : e.modal.mode = .normal)
    (one : e.SelectsOne) {action : Action} (removal : action ∈ removals) (count : Nat) :
    (¬e.TakesRest count action → (e.run action count).SelectsOne) ∧
      (e.TakesRest count action → (e.run action count).SelectsEnd) := by
  have chars_eq : e.chars = e.widget.text := Widget.chars_eq_text rope
  have length : e.len = e.widget.text.length := Widget.len_of_scalars rope
  simp only [removals, List.mem_cons, List.not_mem_nil, or_false] at removal
  rcases removal with rfl | rfl | rfl | rfl
  · apply (leaves_deleteSelection one rope normal count).reselects
    have inside := one.caret_lt_len
    rw [List.drop_eq_nil_iff, ← length, ne_eq, List.take_eq_nil_iff, not_or,
      List.eq_nil_iff_length_eq_zero, ← length]
    constructor
    · intro rest
      cases rest with
      | selection before all => exact ⟨⟨by omega, by omega⟩, all⟩
    · rintro ⟨⟨before, _⟩, all⟩
      exact .selection (Nat.pos_of_ne_zero before) all
  · obtain ⟨above, line, below, here⟩ := Text.exists_lineAt e.widget.text e.caret
    apply (leaves_deleteLines rope here count).reselects
    have start := here.start
    rw [← chars_eq] at here start
    rw [← linesBelow_eq here, ← List.length_pos_iff, ← start]
    constructor
    · intro rest
      cases rest with
      | lines before all => exact ⟨before, all⟩
    · rintro ⟨before, all⟩
      exact .lines before all
  · refine ⟨fun _ => selectsOne_deleteWords one rope count, fun rest => ?_⟩
    cases rest
  · refine ⟨fun _ => selectsOne_deleteCharOrLine one rope normal, fun rest => ?_⟩
    cases rest

/-- From the second of three lines, of which the last is empty: one line is deleted there and nothing is
    selected, one word and a character is. -/
theorem reselection_law_before_empty_line :
    let e : Editor :=
      { modal := {}
        widget := { Widget.ofText .scalars ['a', lineBreak, 'b', ' ', 'c', lineBreak] with
          selection := ⟨2, 3⟩ }
        register := {}
        history := .ofLimit 1 }
    e.widget.segmentation = .scalars ∧ e.modal.mode = .normal ∧ e.SelectsOne ∧
      .deleteLine ∈ removals ∧ .deleteWord ∈ removals ∧
      (e.run .deleteLine 1).SelectsEnd ∧ (e.run .deleteWord 9).SelectsOne := by
  intro e
  have rope : e.widget.segmentation = .scalars := rfl
  have normal : e.modal.mode = .normal := rfl
  have one : e.SelectsOne := ⟨rfl, by decide⟩
  have lines : .deleteLine ∈ removals := by decide
  have words : .deleteWord ∈ removals := by decide
  have rest : e.TakesRest 1 .deleteLine := .lines (by decide) (by decide)
  have noRest : ¬e.TakesRest 9 .deleteWord := by
    intro rest
    cases rest
  exact ⟨rope, normal, one, lines, words, (reselection_law rope normal one lines 1).2 rest,
    (reselection_law rope normal one words 9).1 noRest⟩

/-- The last of two characters is deleted, and no character is selected then. -/
theorem not_always_reselected :
    ¬∀ {e : Editor}, e.widget.segmentation = .scalars → e.modal.mode = .normal → e.SelectsOne →
      ∀ action ∈ removals, ∀ count, (e.run action count).SelectsOne := by
  intro reselects
  let e : Editor :=
    { modal := {}
      widget := { Widget.ofText .scalars ['a', 'b'] with selection := ⟨1, 2⟩ }
      register := {}
      history := .ofLimit 1 }
  have one := reselects (e := e) rfl rfl ⟨rfl, by decide⟩ .deleteSelection (by decide) 1
  exact absurd one.single (by decide)

end ModalEdit.Editor
