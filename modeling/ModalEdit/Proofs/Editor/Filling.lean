import ModalEdit.Proofs.Editor.Saved
import ModalEdit.Proofs.Text.FilledLines
import ModalEdit.Proofs.Widget.Rope

/-! # Commands that fill empty lines at most

A command that edits nothing may still change the text: where it comes to rest on an empty line it
puts a space there.  It does nothing else to the text, however often it is repeated, and it saves
nothing (`fill_law`).

Every step of such a command leaves the text alone, but for one, and that one is taken on empty
lines only (`KeptByMotions`).
-/

namespace ModalEdit.Editor

variable {d d' e : Editor}

/-- What is left of an editor in which empty lines have been filled: its history, and its text but
    for a space on some of its empty lines. -/
structure Fills (e d : Editor) : Prop where
  rope : d.widget.segmentation = .scalars
  text : e.widget.text.Filled d.widget.text
  history : d.history = e.history

namespace Fills

theorem refl (rope : e.widget.segmentation = .scalars) : Fills e e := ⟨rope, .refl _, rfl⟩

/-- Selections, modes, visual positions, the register and the log do not matter. -/
theorem congr (fills : Fills e d) (rope : d'.widget.segmentation = d.widget.segmentation)
    (text : d'.widget.text = d.widget.text) (history : d'.history = d.history) : Fills e d' :=
  ⟨rope.trans fills.rope, text ▸ fills.text, history.trans fills.history⟩

theorem fillLine (fills : Fills e d) {p : Nat} (empty : d.chars.EmptyLine p) :
    Fills e (d.fillLine p) := by
  have inside : p ≤ d.widget.len := by
    rw [← Widget.length_chars]
    exact empty.le_length
  rw [chars, Widget.chars_eq_text fills.rope] at empty
  have filled : (d.fillLine p).widget.text =
      d.widget.text.take p ++ ' ' :: d.widget.text.drop p := by
    rw [Editor.fillLine, insertText, Widget.text_fill inside, Widget.slice_of_scalars fills.rope,
      Widget.slice_of_scalars fills.rope, List.drop_zero, Widget.len_of_scalars fills.rope,
      List.take_length]
  exact ⟨(Widget.segmentation_insert _ _ _ _).trans fills.rope,
    filled ▸ fills.text.trans (Text.filled_of_emptyLine empty), fills.history⟩

end Fills

theorem fills_kept (e : Editor) : KeptByYanks (fun _ => True) fun d d' => d = d' ∧ Fills e d where
  alike same := same.1 ▸ .refl _
  select same _ _ := ⟨same.1 ▸ rfl, same.2.congr rfl rfl rfl⟩
  withCursor same _ _ := ⟨same.1 ▸ rfl, same.2.congr rfl rfl rfl⟩
  withAnchor same _ _ := ⟨same.1 ▸ rfl, same.2.congr rfl rfl rfl⟩
  fillLine same _ empty := ⟨same.1 ▸ rfl, same.2.fillLine (same.1 ▸ empty)⟩
  toNormalMode same := ⟨same.1 ▸ rfl, same.2.congr (by simp) (by simp) (by simp)⟩
  beginVisual same _ :=
    ⟨same.1 ▸ rfl, same.2.congr (by simp [beginVisual]) (by simp [beginVisual])
      (by simp [beginVisual])⟩
  awaitReplacement same := ⟨same.1 ▸ rfl, same.2.congr rfl rfl rfl⟩
  slice _ _ _ := trivial
  append_of _ _ := trivial
  dropFinalBreak _ := trivial
  write same _ _ _ := ⟨same.1 ▸ rfl, same.2.congr rfl rfl rfl⟩

/-- Nothing but an edit does more to the text than to fill empty lines, and to the history it does
    nothing. -/
theorem fill_law (rope : e.widget.segmentation = .scalars) :
    (∀ action ∉ edits, ∀ count, Fills e (e.run action count)) ∧
      Fills e e.toNormal ∧ Fills e e.placeCaret := by
  have kept := fills_kept e
  refine ⟨?_, ?_, ?_⟩
  · intro action quiet count
    exact (kept.run ⟨rfl, .refl rope⟩ quiet count).2
  · exact (kept.toNormal ⟨rfl, .refl rope⟩).2
  · exact (kept.placeCaret ⟨rfl, .refl rope⟩).2

/-- On the way over two empty lines both are filled, and the line between them is left alone. -/
theorem fill_law_over_empty_lines :
    let e : Editor :=
      { modal := {},
        widget := .ofText .scalars ['a', lineBreak, lineBreak, 'b', lineBreak, lineBreak],
        register := {}, history := .ofLimit 1 }
    Fills e (e.run .selectNextLine 3) ∧
      (e.run .selectNextLine 3).widget.text =
        ['a', lineBreak, ' ', lineBreak, 'b', lineBreak, ' ', lineBreak] := by
  intro e
  exact ⟨(@fill_law e rfl).1 .selectNextLine (by decide) 3, by decide⟩

end ModalEdit.Editor
