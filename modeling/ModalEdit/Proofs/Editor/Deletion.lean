import ModalEdit.Proofs.Editor.Settling
import ModalEdit.Proofs.Text.WordBounds
import ModalEdit.Proofs.Widget.Rope

/-! # Deletions settle

The three deletions take out what lies between two positions and select what comes to its place
(`cutAt`).  On a rope that has one of three outcomes (`CutOutcome`), and each of them is the last
that changes anything or makes the text shorter.  So all three settle before they run out of
positions (`cutLine_settling`, `cutWord_settling`, `cutSelection_settling`).

A deletion of selections settles only if it begins with a selection inside the text.  An empty one
before the end would yield nothing, and yet select the next character.
-/

namespace ModalEdit.Editor

variable {d e : Editor}

/-! ## One deletion -/

/-- Takes out what lies between two positions, and selects what comes to its place. -/
def cutAt (e : Editor) (a b : Nat) : Option Text × Editor :=
  ((e.cut a b).1, (e.cut a b).2.select a (a + 1))

theorem segmentation_cutAt (e : Editor) (a b : Nat) :
    (e.cutAt a b).2.widget.segmentation = e.widget.segmentation := e.widget.segmentation_cut a b

theorem cutLine_eq (e : Editor) :
    e.cutLine = e.cutAt (e.chars.lineStart e.caret) (e.chars.lineEnd e.caret + 1) := rfl

theorem cutSelection_eq (e : Editor) :
    e.cutSelection = e.cutAt e.widget.selection.start e.widget.selection.stop := rfl

theorem cutWord_of_none (last : e.chars.nextWord? e.caret = none) : e.cutWord = (none, e) := by
  simp [cutWord, last]

theorem cutWord_of_some {next : Nat} (word : e.chars.nextWord? e.caret = some next) :
    e.cutWord = e.cutAt e.caret next := by
  simp [cutWord, word, cutAt]

/-- What a deletion does to a rope.  Where it leaves no text there is a space instead, at the end of
    the text there is nothing to delete, and otherwise the text gets shorter. -/
inductive CutOutcome (e : Editor) (a b : Nat) (d : Editor) : Prop
  | blank (first : a = 0) (last : e.len ≤ b) (text : d.widget.text = [' '])
      (selection : d.widget.selection = ⟨0, 1⟩)
  | behind (last : a = e.len) (nonempty : 0 < e.len) (text : d.widget.text = e.widget.text)
      (selection : d.widget.selection = ⟨e.len, e.len⟩)
  | shorter (before : a < e.len) (after : a ≤ d.len) (nonempty : 0 < d.len)
      (shorter : d.len < e.len) (selection : d.widget.selection = .between a (a + 1) d.len)

theorem cutOutcome (rope : e.widget.segmentation = .scalars) {a b : Nat} (lt : a < b)
    (inside : a ≤ e.len) : CutOutcome e a b (e.cutAt a b).2 := by
  have len : e.len = e.widget.text.length := Widget.len_of_scalars rope
  have rope' : (e.cutAt a b).2.widget.segmentation = .scalars :=
    (e.segmentation_cutAt a b).trans rope
  have len' : (e.cutAt a b).2.len = (e.widget.cut a b).2.text.length := Widget.len_of_scalars rope'
  have selection : (e.cutAt a b).2.widget.selection = .between a (a + 1) (e.cutAt a b).2.len := rfl
  have text : (e.cutAt a b).2.widget.text = (e.widget.cut a b).2.text := rfl
  rw [Widget.text_cut_of_scalars rope lt] at len' text
  -- Nothing is left only if the deletion goes from the first position past the last one.
  by_cases empty : (e.widget.text.take a ++ e.widget.text.drop b).isEmpty = true
  · rw [if_pos empty] at len' text
    rw [List.isEmpty_iff, List.append_eq_nil_iff, List.take_eq_nil_iff,
      List.drop_eq_nil_iff] at empty
    have first : a = 0 := by
      cases empty.1 with
      | inl first => exact first
      | inr none =>
        rw [none, List.length_nil] at len
        omega
    subst first
    rw [len'] at selection
    exact .blank rfl (by omega) text selection
  · rw [if_neg empty] at len' text
    have some_left : 0 < (e.widget.text.take a ++ e.widget.text.drop b).length :=
      List.length_pos_iff.mpr fun none => empty (List.isEmpty_iff.mpr none)
    rw [List.length_append, List.length_take, List.length_drop] at len' some_left
    by_cases last : a = e.len
    · subst last
      have all : e.widget.text.take e.len ++ e.widget.text.drop b = e.widget.text := by
        rw [List.take_of_length_le (by omega), List.drop_eq_nil_of_le (by omega), List.append_nil]
      refine .behind rfl (by omega) (text.trans all) ?_
      rw [selection, Selection.between]
      simp only [Selection.mk.injEq]
      omega
    · exact .shorter (by omega) (by omega) (by omega) (by omega) selection

theorem agrees_cutAt (same : d.Agrees e) (a b : Nat) : (d.cutAt a b).2.Agrees (e.cutAt a b).2 := by
  obtain ⟨focusRequests, register, log, rfl⟩ := same
  simp only [cutAt, cut, Widget.cut]
  split
  · exact ⟨_, _, _, rfl⟩
  · exact ⟨_, _, _, rfl⟩

/-- A deletion that leaves the text and the selection as they were leaves everything. -/
theorem agrees_cutAt_self {a b : Nat} (text : (e.cutAt a b).2.widget.text = e.widget.text)
    (selection : (e.cutAt a b).2.widget.selection = e.widget.selection) :
    (e.cutAt a b).2.Agrees e :=
  agrees_of_widget (v := (e.cutAt a b).2.widget) (e.segmentation_cutAt a b) text selection

theorem fst_cutAt_eq_none_iff {a b : Nat} : (e.cutAt a b).1 = none ↔ a = b := by
  simp only [cutAt, cut, Widget.cut]
  split
  · next same => simp [same]
  · next other => simp [other]

/-! ## Nothing left -/

/-- A text of one space, with the space selected. -/
structure Blank (e : Editor) : Prop where
  rope : e.widget.segmentation = .scalars
  text : e.widget.text = [' ']
  selection : e.widget.selection = ⟨0, 1⟩

theorem Blank.len_eq (blank : e.Blank) : e.len = 1 := by
  rw [len, Widget.len_of_scalars blank.rope, blank.text]
  rfl

theorem Blank.agrees_cutAt (blank : e.Blank) {b : Nat} (lt : 0 < b) :
    (e.cutAt 0 b).2.Agrees e := by
  have one := blank.len_eq
  cases cutOutcome blank.rope lt (Nat.zero_le _) with
  | blank _ _ text selection =>
    exact agrees_cutAt_self (text.trans blank.text.symm) (selection.trans blank.selection.symm)
  | behind last _ _ _ => omega
  | shorter _ _ nonempty shorter _ => omega

theorem Blank.agrees_cutLine (blank : e.Blank) : e.cutLine.2.Agrees e := by
  have caret : e.caret = 0 := congrArg Selection.start blank.selection
  have first : e.chars.lineStart e.caret = 0 := by
    rw [caret]
    exact Nat.le_zero.mp (e.chars.lineStart_le 0)
  rw [cutLine_eq, first]
  exact blank.agrees_cutAt (Nat.succ_pos _)

theorem Blank.agrees_cutSelection (blank : e.Blank) : e.cutSelection.2.Agrees e := by
  rw [cutSelection_eq, blank.selection]
  exact blank.agrees_cutAt Nat.one_pos

theorem Blank.cutWord_eq (blank : e.Blank) : e.cutWord = (none, e) := by
  have caret : e.caret = 0 := congrArg Selection.start blank.selection
  apply cutWord_of_none
  rw [chars, Widget.chars_eq_text blank.rope, blank.text, caret]
  decide

/-! ## Lines -/

theorem lineStart_caret_le (e : Editor) : e.chars.lineStart e.caret ≤ e.len := by
  rw [← e.length_chars]
  exact e.chars.lineStart_le_length _

/-- At the end of the text there is no line to delete, unless it is the only one. -/
theorem agrees_cutLine_of_end (rope : e.widget.segmentation = .scalars)
    (last : e.chars.lineStart e.len = e.len) (nonempty : 0 < e.len)
    (selection : e.widget.selection = ⟨e.len, e.len⟩) : e.cutLine.2.Agrees e := by
  have caret : e.caret = e.len := congrArg Selection.start selection
  have lt : e.len < e.chars.lineEnd e.len + 1 := by
    have ordered := e.chars.lineStart_le_lineEnd e.len
    omega
  rw [cutLine_eq, caret, last]
  cases cutOutcome rope lt (Nat.le_refl _) with
  | blank first _ _ _ => omega
  | behind _ _ text selection' => exact agrees_cutAt_self text (selection'.trans selection.symm)
  | shorter before _ _ _ _ => omega

theorem cutLine_settling : Settling cutLine (fun e => e.widget.segmentation = .scalars) where
  agrees same := by
    obtain ⟨focusRequests, register, log, rfl⟩ := same
    exact Editor.agrees_cutAt ⟨focusRequests, register, log, rfl⟩ _ _
  keeps {e} rope := (e.segmentation_cutAt _ _).trans rope
  halts {e} rope nothing := by
    have ordered := e.chars.lineStart_le_lineEnd e.caret
    rw [cutLine_eq, fst_cutAt_eq_none_iff] at nothing
    omega
  settles {e} rope _ := by
    have ordered := e.chars.lineStart_le_lineEnd e.caret
    have rope' : e.cutLine.2.widget.segmentation = .scalars :=
      (e.segmentation_cutAt _ _).trans rope
    cases cutOutcome rope (Nat.lt_succ_of_le ordered) e.lineStart_caret_le with
    | blank _ _ text selection => exact .inl (Blank.agrees_cutLine ⟨rope', text, selection⟩)
    | behind last nonempty text selection =>
      -- The text is the same, so its last line begins where it ends, as before.
      have chars : e.cutLine.2.chars = e.chars := by
        rw [Editor.chars, Editor.chars, Widget.chars_eq_text rope', Widget.chars_eq_text rope,
          ← text]
        rfl
      have len : e.cutLine.2.len = e.len := by rw [← length_chars, chars, length_chars]
      have ends := Text.lineStart_length (last.trans e.length_chars.symm)
      rw [length_chars] at ends
      refine .inl (agrees_cutLine_of_end rope' ?_ (len ▸ nonempty) (len ▸ selection))
      rw [chars, len, ends]
    | shorter _ _ _ shorter _ => exact .inr shorter

/-! ## Words -/

theorem cutWord_settling : Settling cutWord (fun e => e.widget.segmentation = .scalars) where
  agrees {d e} same := by
    cases word : e.chars.nextWord? e.caret with
    | none =>
      have word' : d.chars.nextWord? d.caret = none := by rw [same.chars, same.caret, word]
      rw [cutWord_of_none word, cutWord_of_none word']
      exact same
    | some next =>
      have word' : d.chars.nextWord? d.caret = some next := by rw [same.chars, same.caret, word]
      rw [cutWord_of_some word, cutWord_of_some word', same.caret]
      exact agrees_cutAt same _ _
  keeps {e} rope := by
    cases word : e.chars.nextWord? e.caret with
    | none =>
      rw [cutWord_of_none word]
      exact rope
    | some next =>
      rw [cutWord_of_some word]
      exact (e.segmentation_cutAt _ _).trans rope
  halts {e} rope nothing := by
    cases word : e.chars.nextWord? e.caret with
    | none =>
      rw [cutWord_of_none word]
      exact agrees_equivalence.refl e
    | some next =>
      obtain ⟨lt, _⟩ := Text.nextWord?_bounds word
      rw [cutWord_of_some word, fst_cutAt_eq_none_iff] at nothing
      omega
  settles {e} rope yields := by
    cases word : e.chars.nextWord? e.caret with
    | none =>
      rw [cutWord_of_none word] at yields
      exact absurd rfl yields
    | some next =>
      obtain ⟨lt, last⟩ := Text.nextWord?_bounds word
      rw [length_chars] at last
      have inside : e.caret < e.len := Nat.lt_trans lt last
      rw [cutWord_of_some word]
      cases cutOutcome rope lt (Nat.le_of_lt inside) with
      | blank _ _ text selection =>
        have blank : Blank (e.cutAt e.caret next).2 :=
          ⟨(e.segmentation_cutAt _ _).trans rope, text, selection⟩
        rw [blank.cutWord_eq]
        exact .inl (agrees_equivalence.refl _)
      | behind last _ _ _ => omega
      | shorter _ _ _ shorter _ => exact .inr shorter

/-! ## Selections -/

/-- A selection inside the text, of something unless it is at the end of the text. -/
structure Selects (e : Editor) : Prop where
  rope : e.widget.segmentation = .scalars
  ordered : e.widget.selection.start ≤ e.widget.selection.stop
  inside : e.widget.selection.stop ≤ e.len
  something : e.widget.selection.start = e.widget.selection.stop →
    e.widget.selection.stop = e.len

theorem Selects.of_agrees (h : e.Selects) (same : d.Agrees e) : d.Selects := by
  obtain ⟨_, _, _, rfl⟩ := same
  exact ⟨h.rope, h.ordered, h.inside, h.something⟩

theorem Blank.selects (blank : e.Blank) : e.Selects := by
  have one := blank.len_eq
  refine ⟨blank.rope, ?_, ?_, ?_⟩
  · simp [blank.selection]
  · simp [blank.selection, one]
  · simp [blank.selection]

theorem cutAt_self (e : Editor) (a : Nat) : e.cutAt a a = (none, e.select a (a + 1)) := by
  simp [cutAt, cut, Widget.cut]

/-- Where nothing is selected, there is nothing that could come to its place. -/
theorem Selects.agrees_of_none (h : e.Selects) (nothing : e.cutSelection.1 = none) :
    e.cutSelection.2.Agrees e := by
  rw [cutSelection_eq, fst_cutAt_eq_none_iff] at nothing
  have last := h.something nothing
  rw [cutSelection_eq, nothing, cutAt_self]
  refine agrees_of_widget rfl rfl ?_
  show Selection.between _ _ e.len = ⟨e.widget.selection.start, e.widget.selection.stop⟩
  rw [Selection.between, Selection.mk.injEq]
  omega

theorem Selects.cut (h : e.Selects) (yields : e.cutSelection.1 ≠ none) :
    Blank e.cutSelection.2 ∨ e.cutSelection.2.len < e.len ∧ e.cutSelection.2.Selects := by
  rw [cutSelection_eq] at yields ⊢
  rw [ne_eq, fst_cutAt_eq_none_iff] at yields
  have ordered := h.ordered
  have inside := h.inside
  have rope : (e.cutAt e.widget.selection.start e.widget.selection.stop).2.widget.segmentation =
      .scalars := (e.segmentation_cutAt _ _).trans h.rope
  cases cutOutcome h.rope (Nat.lt_of_le_of_ne ordered yields) (Nat.le_trans ordered inside) with
  | blank _ _ text selection => exact .inl ⟨rope, text, selection⟩
  | behind last _ _ _ => omega
  | shorter _ after _ shorter selection =>
    refine .inr ⟨shorter, rope, ?_, ?_, ?_⟩
    · simp only [selection, Selection.between]
      omega
    · simp only [selection, Selection.between]
      omega
    · simp only [selection, Selection.between]
      omega

theorem cutSelection_settling : Settling cutSelection Selects where
  agrees same := by
    obtain ⟨focusRequests, register, log, rfl⟩ := same
    exact Editor.agrees_cutAt ⟨focusRequests, register, log, rfl⟩ _ _
  keeps {e} h := by
    by_cases nothing : e.cutSelection.1 = none
    · exact h.of_agrees (h.agrees_of_none nothing)
    · cases h.cut nothing with
      | inl blank => exact blank.selects
      | inr shorter => exact shorter.2
  halts h nothing := h.agrees_of_none nothing
  settles h yields := by
    cases h.cut yields with
    | inl blank => exact .inl blank.agrees_cutSelection
    | inr shorter => exact .inr shorter.1

end ModalEdit.Editor
