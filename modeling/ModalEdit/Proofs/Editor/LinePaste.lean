import ModalEdit.Proofs.Editor.LineYank
import ModalEdit.Proofs.Editor.Yanking

/-! # Pasting

A paste puts the text of the register between two lines if it was yanked as whole lines, and between
two characters if it was not.  It changes the widget and nothing else (`paste_law`).

Whole lines are worth pasting even where they are a single empty line.  A text without characters is
not worth pasting inside a line.
-/

namespace ModalEdit.Editor

open Text (unlines terminated preceded LineAt)

variable {e : Editor} {cs r : Text} {above below : List Text} {line : Text} {p : Nat}

/-! ## Between lines -/

theorem splice_below (here : LineAt cs p above line below) (r : Text) :
    cs.take (cs.lineEnd p) ++ lineBreak :: r ++ cs.drop (cs.lineEnd p) =
      unlines (cs.lines.take (cs.lineIndex p + 1) ++ r.lines ++
        cs.lines.drop (cs.lineIndex p + 1)) := by
  have joined : unlines (r.lines ++ below) = r ++ preceded below := by
    rw [Text.unlines_append_eq r.lines_ne_nil, Text.unlines_lines]
  have some_left : r.lines ++ below ≠ [] := List.append_ne_nil_of_left_ne_nil r.lines_ne_nil below
  rw [here.take_succ_index, here.drop_succ_index, here.take_stop, here.drop_stop, List.append_assoc,
    List.append_assoc (above ++ [line]), Text.unlines_append _ some_left, joined]
  simp

theorem splice_above (here : LineAt cs p above line below) (r : Text) :
    cs.take (cs.lineStart p) ++ (r ++ [lineBreak]) ++ cs.drop (cs.lineStart p) =
      unlines (cs.lines.take (cs.lineIndex p) ++ r.lines ++ cs.lines.drop (cs.lineIndex p)) := by
  rw [here.above_eq, here.drop_index, here.take_start, here.drop_start,
    Text.unlines_append _ (List.cons_ne_nil line below), Text.terminated_append,
    Text.terminated_eq r.lines_ne_nil, Text.unlines_lines]

/-- What pasting whole lines makes of a text, below the line of a position and above it. -/
structure PastesLines (cs : Text) (p : Nat) (r : Text) (below above : Editor) : Prop where
  textBelow : below.widget.text =
    unlines (cs.lines.take (cs.lineIndex p + 1) ++ r.lines ++ cs.lines.drop (cs.lineIndex p + 1))
  selectionBelow : 0 < cs.lineEnd p →
    below.widget.selection = (⟨cs.lineEnd p + 1, cs.lineEnd p + 2⟩ : Selection).clamp below.len
  textAbove : above.widget.text =
    unlines (cs.lines.take (cs.lineIndex p) ++ r.lines ++ cs.lines.drop (cs.lineIndex p))
  selectionAbove : above.widget.selection = ⟨cs.lineStart p, cs.lineStart p + 1⟩

theorem pastesLines (rope : e.widget.segmentation = .scalars) (text : e.register.text? = some r)
    (lineWise : e.register.lineWise = true) :
    PastesLines e.widget.text e.caret r e.pasteAfter e.pasteBefore := by
  obtain ⟨above, line, below, here⟩ := Text.exists_lineAt e.widget.text e.caret
  have worth : e.pasteable? = some r := by simp [pasteable?, text, lineWise, Option.filter]
  have len : e.widget.len = e.widget.text.length := Widget.len_of_scalars rope
  have after : e.pasteAfter.widget =
      e.widget.insert (lineBreak :: r) (e.widget.text.lineEnd e.caret) (.after true) := by
    simp only [pasteAfter, worth, lineWise, if_true, insertText, chars, Widget.chars_eq_text rope]
  have before : e.pasteBefore.widget =
      e.widget.insert (r ++ [lineBreak]) (e.widget.text.lineStart e.caret) (.before true) := by
    simp only [pasteBefore, worth, lineWise, if_true, insertText, chars, Widget.chars_eq_text rope]
  refine ⟨?_, fun behind => ?_, ?_, ?_⟩
  · rw [after, Widget.text_insert_of_scalars rope, splice_below here]
  · have stop := Text.lineEnd_le_length e.widget.text e.caret
    rw [Editor.len, after, Widget.len_insert_of_scalars rope]
    exact Widget.selection_insert_after rope (len ▸ stop) behind
  · rw [before, Widget.text_insert_of_scalars rope, splice_above here]
  · have start := Text.lineStart_le_length e.widget.text e.caret
    rw [before]
    exact Widget.selection_insert_before rope (len ▸ start) (by simp)

/-! ## Between characters -/

/-- What pasting inside a line makes of a text: the last character that was pasted is selected. -/
structure PastesInline (cs : Text) (p : Nat) (r : Text) (d : Editor) : Prop where
  text : d.widget.text = cs.take p ++ r ++ cs.drop p
  selection : d.widget.selection = ⟨p + r.length - 1, p + r.length⟩

theorem pastesInline (rope : e.widget.segmentation = .scalars) (inside : e.caret ≤ e.len)
    (text : e.register.text? = some r) (lineWise : e.register.lineWise = false)
    (nonempty : r ≠ []) :
    PastesInline e.widget.text e.caret r e.pasteAfter ∧
      PastesInline e.widget.text e.caret r e.pasteBefore := by
  have worth : e.pasteable? = some r := by
    simp [pasteable?, text, lineWise, Option.filter, nonempty]
  have after : e.pasteAfter.widget = e.widget.insert r e.caret (.after false) := by
    simp [pasteAfter, worth, lineWise, insertText]
  have before : e.pasteBefore.widget = e.widget.insert r e.caret (.before false) := by
    simp [pasteBefore, worth, lineWise, insertText]
  constructor
  · exact ⟨after ▸ Widget.text_insert_of_scalars rope _ _ _,
      after ▸ Widget.selection_insert_inline rope (.inr rfl) inside nonempty⟩
  · exact ⟨before ▸ Widget.text_insert_of_scalars rope _ _ _,
      before ▸ Widget.selection_insert_inline rope (.inl rfl) inside nonempty⟩

/-! ## The law -/

theorem paste_of_unpasteable (nothing : e.pasteable? = none) :
    e.pasteAfter = e ∧ e.pasteBefore = e := by
  rw [pasteAfter, pasteBefore, nothing]
  exact ⟨rfl, rfl⟩

/-- A line that is yanked and pasted below itself stands there twice. -/
theorem text_copyLines_pasteAfter (rope : e.widget.segmentation = .scalars)
    (keeps : e.register.clipboard ≠ .discarding) :
    (e.copyLines 1).pasteAfter.widget.text =
      unlines (e.widget.text.lines.take (e.widget.text.lineIndex e.caret + 1) ++
        e.widget.text.lines.drop (e.widget.text.lineIndex e.caret)) := by
  obtain ⟨above, line, below, here⟩ := Text.exists_lineAt e.widget.text e.caret
  have written : e.copyLines 1 = e.write line true := by
    have alone : ¬e.widget.text.TakesEmptyEnd (e.widget.text.lineIndex e.caret) 1 := by
      rintro ⟨more, reaches, _⟩
      omega
    rw [copyLines_eq rope (Nat.le_refl 1) (by decide), if_neg alone, here.drop_index,
      List.take_succ_cons, List.take_zero, Text.unlines_singleton]
  have text : (e.write line true).register.text? = some line := by
    show (e.register.clipboard.put line).get? = some line
    rw [Clipboard.get?_put, if_neg keeps]
  have whole : line.lines = [line] := Text.lines_of_not_mem (here.not_mem (by simp))
  have pasted : (e.write line true).pasteAfter.widget.text = _ :=
    (pastesLines (e := e.write line true) rope text rfl).textBelow
  rw [written, pasted, whole]
  show unlines (e.widget.text.lines.take (e.widget.text.lineIndex e.caret + 1) ++ [line] ++
    e.widget.text.lines.drop (e.widget.text.lineIndex e.caret + 1)) = _
  rw [here.drop_index, here.drop_succ_index, List.append_assoc, List.singleton_append]

/-- What a paste does, and what it leaves alone. -/
theorem paste_law (rope : e.widget.segmentation = .scalars) (inside : e.caret ≤ e.len)
    (count : Nat) :
    let cs := e.widget.text
    let p := e.caret
    let after := e.run .pasteAfter count
    let before := e.run .pasteBefore count
    (∀ r, e.register.text? = some r → e.register.lineWise = true →
      PastesLines cs p r after before) ∧
    (∀ r, e.register.text? = some r → e.register.lineWise = false → r ≠ [] →
      PastesInline cs p r after ∧ PastesInline cs p r before) ∧
    (e.register.text? = none ∨ e.register.text? = some [] ∧ e.register.lineWise = false →
      after = e ∧ before = e) ∧
    (after = { e with widget := after.widget } ∧ before = { e with widget := before.widget }) ∧
    (e.register.clipboard ≠ .discarding →
      ((e.run .copyLine 1).run .pasteAfter count).widget.text =
        unlines (cs.lines.take (cs.lineIndex p + 1) ++ cs.lines.drop (cs.lineIndex p))) := by
  intro cs p after before
  refine ⟨?_, ?_, ?_, ?_, ?_⟩
  · intro r text lineWise
    exact pastesLines rope text lineWise
  · intro r text lineWise nonempty
    exact pastesInline rope inside text lineWise nonempty
  · intro nothing
    apply paste_of_unpasteable
    rcases nothing with none | ⟨empty, lineWise⟩
    · simp [pasteable?, none]
    · simp [pasteable?, empty, lineWise]
  · exact ⟨e.pasteAfter_eq_withWidget, e.pasteBefore_eq_withWidget⟩
  · intro keeps
    exact text_copyLines_pasteAfter rope keeps

/-- An empty last line is yanked and pasted below itself, which makes the text one line longer. -/
theorem paste_law_of_empty_last_line :
    let e : Editor :=
      { modal := {}, widget := (Widget.ofText .scalars ['a', lineBreak]).select 2 2,
        register := {}, history := .ofLimit 1 }
    ((e.run .copyLine 1).run .pasteAfter 1).widget.text = ['a', lineBreak, lineBreak] ∧
      e.run .pasteBefore 1 = e := by
  intro e
  obtain ⟨_, _, nothing, _, twice⟩ := @paste_law e rfl (by decide) 1
  refine ⟨?_, (nothing (.inl rfl)).2⟩
  rw [twice (by decide)]
  decide

end ModalEdit.Editor
