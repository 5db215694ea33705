import ModalEdit.Proofs.Text.Seams
import ModalEdit.Widget

/-! # Proper widgets

A widget is proper if it has a text and its selection lies in order inside that text.  Selecting
and editing keep a widget proper, whatever positions they are given.

Typing is the edit where this takes an argument: the typed character may join the clusters
around it, so that the text gets fewer positions than were kept.  The positions before the
selection stay (`le_len_withText`), and the caret never comes to stand before them.
-/

namespace ModalEdit.Widget

/-- There is a text, and the selection lies inside it and in order. -/
structure Proper (w : Widget) : Prop where
  text_ne_nil : w.text ≠ []
  ordered : w.selection.start ≤ w.selection.stop
  stop_le : w.selection.stop ≤ w.len

@[simp] theorem len_withText (w : Widget) (cs : Text) :
    (w.withText cs).len = (w.segmentation.split cs).length := rfl

@[simp] theorem selection_withText (w : Widget) (cs : Text) :
    (w.withText cs).selection = w.selection.clamp (w.withText cs).len := rfl

/-- What stands before a position is cut in the same way when it stands alone. -/
theorem split_slice_zero (w : Widget) (p : Nat) :
    w.segmentation.split (w.slice 0 p) = w.units.take p := by
  rw [slice, List.drop_zero, w.units_eq, Segmentation.split_joined_take]

/-- And so is what stands from there on. -/
theorem split_slice_len (w : Widget) (p : Nat) :
    w.segmentation.split (w.slice p w.len) = w.units.drop p := by
  rw [slice, len, List.take_length, w.units_eq, Segmentation.split_joined_drop]

theorem length_split_slice_zero {w : Widget} {p : Nat} (hp : p ≤ w.len) :
    (w.segmentation.split (w.slice 0 p)).length = p := by
  rw [split_slice_zero, List.length_take]
  exact Nat.min_eq_left hp

/-- The positions before an edit are not lost. -/
theorem le_len_withText {w : Widget} {p : Nat} (hp : p ≤ w.len) (cs : Text) :
    p ≤ (w.withText (w.slice 0 p ++ cs)).len := by
  calc p = (w.segmentation.split (w.slice 0 p)).length := (length_split_slice_zero hp).symm
    _ ≤ (w.segmentation.split (w.slice 0 p ++ cs)).length :=
      Segmentation.length_split_le_append _ _ _

theorem slice_append_slice_len {w : Widget} {p : Nat} (hp : p ≤ w.len) :
    w.slice 0 p ++ w.slice p w.len = w.text := by
  rw [slice_append_slice (Nat.zero_le p) hp, slice_zero_len]

theorem text_ne_nil_of_len_pos {w : Widget} (pos : 0 < w.len) : w.text ≠ [] := by
  intro empty
  have none : w.units = [] := by
    rw [w.units_eq, empty]
    cases w.segmentation with
    | scalars => rfl
    | clusters => rfl
  rw [len, none] at pos
  exact Nat.lt_irrefl 0 pos

namespace Proper

variable {w : Widget}

theorem len_pos (h : w.Proper) : 0 < w.len := by
  apply Nat.pos_of_ne_zero
  intro none
  have whole := w.slice_zero_len
  rw [none, slice_of_le (Nat.le_refl 0)] at whole
  exact h.text_ne_nil whole.symm

theorem caret_le_len (h : w.Proper) : w.caret ≤ w.len := Nat.le_trans h.ordered h.stop_le

theorem select (h : w.text ≠ []) (a b : Nat) : (w.select a b).Proper := by
  refine ⟨h, ?_, ?_⟩
  · simp only [selection_select, Selection.between]
    omega
  · simp only [selection_select, Selection.between, len_select]
    omega

theorem focus (h : w.Proper) : w.focus.Proper := ⟨h.text_ne_nil, h.ordered, h.stop_le⟩

theorem withText (h : w.Proper) {cs : Text} (hcs : cs ≠ []) : (w.withText cs).Proper := by
  have ordered := h.ordered
  refine ⟨hcs, ?_, ?_⟩
  · simp only [selection_withText, Selection.clamp]
    omega
  · simp only [selection_withText, Selection.clamp]
    omega

theorem cut (h : w.Proper) (a b : Nat) : (w.cut a b).2.Proper := by
  unfold Widget.cut
  split
  · exact h
  · apply h.withText
    split
    · simp
    · next rest => simpa using rest

theorem insert (h : w.text ≠ []) (cs : Text) (p : Nat) (placement : Placement) :
    (w.insert cs p placement).Proper := by
  -- What was there before the insertion is still there after it.
  have text : (w.withText (w.slice 0 (min p w.len) ++ cs ++ w.slice (min p w.len) w.len)).text ≠
      [] := by
    have whole := slice_append_slice_len (Nat.min_le_right p w.len)
    rw [text_withText]
    intro empty
    simp only [List.append_eq_nil_iff] at empty
    rw [empty.1.1, empty.2] at whole
    exact h whole.symm
  simp only [Widget.insert]
  apply focus
  cases placement with
  | whole => exact select text _ _
  | before lineWise =>
    cases lineWise with
    | true => exact select text _ _
    | false => exact select text _ _
  | after lineWise =>
    cases lineWise with
    | true =>
      dsimp only
      split
      · exact select text _ _
      · exact select text _ _
    | false => exact select text _ _

theorem typeOver (h : w.Proper) {cs : Text} (hcs : cs ≠ []) : (w.typeOver cs).Proper := by
  obtain ⟨_, ordered, stop_le⟩ := h
  -- In a proper widget typing takes both ends of the selection as they are.
  have start_min : min w.selection.start w.len = w.selection.start := by omega
  have stop_max : max w.selection.start (min w.selection.stop w.len) = w.selection.stop := by omega
  simp only [Widget.typeOver, start_min, stop_max, List.append_assoc]
  have kept := le_len_withText (w := w) (p := w.selection.start) (by omega)
    (cs ++ w.slice w.selection.stop w.len)
  refine ⟨?_, ?_, ?_⟩
  · simp [hcs]
  · exact Nat.le_refl _
  · rw [selection_setSelection, len_setSelection]
    dsimp only
    omega

end Proper

end ModalEdit.Widget
