import ModalEdit.Widget

/-! # Widgets cut into characters

Where every character is a position of its own, the positions add nothing to the text: lengths,
slices and edits are those of the list of characters.  What holds however the text is cut comes first.
-/

namespace ModalEdit.Widget

variable {w : Widget}

/-! ## However the text is cut -/

@[simp] theorem segmentation_select (w : Widget) (a b : Nat) :
    (w.select a b).segmentation = w.segmentation := rfl

theorem slice_single {p : Nat} {k : Cluster} (here : w.units[p]? = some k) :
    w.slice p (p + 1) = k.chars := by
  obtain ⟨inside, rfl⟩ := List.getElem?_eq_some_iff.mp here
  rw [slice, List.take_succ_eq_append_getElem inside, List.drop_append_of_le_length
    (by rw [List.length_take]; omega), List.drop_eq_nil_of_le (List.length_take_le _ _)]
  simp [Cluster.joined]

theorem slice_ne_nil {a b : Nat} (lt : a < b) (le : b ≤ w.len) : w.slice a b ≠ [] := by
  rw [len] at le
  cases between : (w.units.take b).drop a with
  | nil =>
    have short := congrArg List.length between
    rw [List.length_drop, List.length_take_of_le le, List.length_nil] at short
    omega
  | cons k ks =>
    rw [slice, between, Cluster.joined_cons]
    exact List.cons_ne_nil _ _

/-- An insertion is an edit of the text, whatever it selects afterwards. -/
theorem exists_insert_eq (w : Widget) (cs : Text) (p : Nat) (placement : Placement) :
    ∃ selection focusRequests, w.insert cs p placement =
      { w.withText (w.slice 0 (min p w.len) ++ cs ++ w.slice (min p w.len) w.len) with
        selection := selection, focusRequests := focusRequests } := by
  unfold insert
  cases placement with
  | whole => exact ⟨_, _, rfl⟩
  | before lineWise =>
    cases lineWise with
    | false => exact ⟨_, _, rfl⟩
    | true => exact ⟨_, _, rfl⟩
  | after lineWise =>
    cases lineWise with
    | false => exact ⟨_, _, rfl⟩
    | true =>
      dsimp only
      split
      · exact ⟨_, _, rfl⟩
      · exact ⟨_, _, rfl⟩

@[simp] theorem segmentation_insert (w : Widget) (cs : Text) (p : Nat) (placement : Placement) :
    (w.insert cs p placement).segmentation = w.segmentation := by
  obtain ⟨selection, focusRequests, inserted⟩ := w.exists_insert_eq cs p placement
  rw [inserted]
  rfl

theorem text_insert_of_le {p : Nat} (hp : p ≤ w.len) (cs : Text) (placement : Placement) :
    (w.insert cs p placement).text = w.slice 0 p ++ cs ++ w.slice p w.len := by
  obtain ⟨selection, focusRequests, inserted⟩ := w.exists_insert_eq cs p placement
  rw [inserted, Nat.min_eq_left hp]
  rfl

@[simp] theorem segmentation_cut (w : Widget) (a b : Nat) :
    (w.cut a b).2.segmentation = w.segmentation := by
  unfold cut
  split
  · rfl
  · rfl

/-! ## Characters as positions -/

variable (rope : w.segmentation = .scalars)

include rope

theorem units_of_scalars : w.units = w.text.map Cluster.single := by
  rw [w.units_eq, rope]
  rfl

theorem len_of_scalars : w.len = w.text.length := by
  rw [len, units_of_scalars rope, List.length_map]

theorem charAt?_of_scalars (p : Nat) : w.charAt? p = w.text[p]? := by
  rw [charAt?_eq, chars_eq_text rope]

theorem slice_of_scalars (a b : Nat) : w.slice a b = (w.text.take b).drop a := by
  rw [slice, units_of_scalars rope, ← List.map_take, ← List.map_drop, Cluster.joined_map_single]

theorem len_insert_of_scalars (cs : Text) (p : Nat) (placement : Placement) :
    (w.insert cs p placement).len = w.len + cs.length := by
  have rope' : (w.insert cs p placement).segmentation = .scalars := by
    rw [segmentation_insert, rope]
  obtain ⟨selection, focusRequests, inserted⟩ := w.exists_insert_eq cs p placement
  rw [len_of_scalars rope', inserted]
  simp only [text_withText, slice_of_scalars rope, len_of_scalars rope, List.length_append,
    List.length_drop, List.length_take]
  omega

theorem text_insert_of_scalars (cs : Text) (p : Nat) (placement : Placement) :
    (w.insert cs p placement).text = w.text.take p ++ cs ++ w.text.drop p := by
  obtain ⟨selection, focusRequests, inserted⟩ := w.exists_insert_eq cs p placement
  have front : w.text.take (min p w.len) = w.text.take p := by
    rw [len_of_scalars rope, ← List.take_eq_take_min]
  have back : w.text.drop (min p w.len) = w.text.drop p := by
    rw [len_of_scalars rope, ← List.drop_eq_drop_min]
  have all : w.text.take w.len = w.text := by rw [len_of_scalars rope, List.take_length]
  rw [inserted]
  simp only [text_withText, slice_of_scalars rope, List.drop_zero, front, back, all]

/-- What is inserted is as many positions as it has characters. -/
theorem len_splice_of_scalars (cs : Text) (p : Nat) :
    (w.withText (w.slice 0 (min p w.len) ++ cs ++ w.slice (min p w.len) w.len)).len =
      w.len + cs.length := by
  obtain ⟨selection, focusRequests, inserted⟩ := w.exists_insert_eq cs p .whole
  rw [← len_insert_of_scalars rope cs p .whole, inserted]
  rfl

/-- What is typed takes the place of what was selected, and the caret comes to stand behind it. -/
theorem typeOver_of_scalars {p q : Nat} (selected : w.selection = ⟨p, q⟩) (le : p ≤ q)
    (inside : q ≤ w.len) (cs : Text) :
    (w.typeOver cs).segmentation = .scalars ∧
      (w.typeOver cs).text = w.text.take p ++ cs ++ w.text.drop q ∧
      (w.typeOver cs).selection = ⟨p + cs.length, p + cs.length⟩ := by
  have start : min p w.len = p := by omega
  have stop : max p (min q w.len) = q := by omega
  have all : w.text.take w.len = w.text := by rw [len_of_scalars rope, List.take_length]
  have text : w.slice 0 p ++ cs ++ w.slice q w.len = w.text.take p ++ cs ++ w.text.drop q := by
    rw [slice_of_scalars rope, slice_of_scalars rope, List.drop_zero, all]
  have longer : (w.withText (w.text.take p ++ cs ++ w.text.drop q)).len =
      p + cs.length + (w.len - q) := by
    rw [len_of_scalars (by rw [segmentation_withText, rope]), len_of_scalars rope]
    rw [len_of_scalars rope] at inside
    simp only [text_withText, List.length_append, List.length_take, List.length_drop]
    omega
  rw [typeOver, selected]
  dsimp only
  rw [start, stop, text, longer]
  refine ⟨rope, rfl, ?_⟩
  rw [selection_setSelection, Selection.mk.injEq]
  omega

/-- Lines pasted above a line are selected at their beginning. -/
theorem selection_insert_before {cs : Text} {p : Nat} (inside : p ≤ w.len) (nonempty : cs ≠ []) :
    (w.insert cs p (.before true)).selection = ⟨p, p + 1⟩ := by
  have positive := List.length_pos_iff.mpr nonempty
  have len := len_splice_of_scalars rope cs p
  rw [Nat.min_eq_left inside] at len
  simp only [insert, Nat.min_eq_left inside, selection_focus, selection_select, len,
    Selection.between, Selection.mk.injEq]
  omega

/-- Lines pasted below a line are selected behind the line break that comes with them. -/
theorem selection_insert_after {cs : Text} {p : Nat} (inside : p ≤ w.len) (behind : 0 < p) :
    (w.insert cs p (.after true)).selection =
      (⟨p + 1, p + 2⟩ : Selection).clamp (w.len + cs.length) := by
  have len := len_splice_of_scalars rope cs p
  rw [Nat.min_eq_left inside] at len
  simp only [insert, Nat.min_eq_left inside, if_pos behind, selection_focus, selection_select, len,
    Selection.between, Selection.clamp, Selection.mk.injEq]
  omega

/-- A text pasted inside a line is selected at its end. -/
theorem selection_insert_inline {cs : Text} {p : Nat} {placement : Placement}
    (inline : placement = .before false ∨ placement = .after false) (inside : p ≤ w.len)
    (nonempty : cs ≠ []) :
    (w.insert cs p placement).selection = ⟨p + cs.length - 1, p + cs.length⟩ := by
  have positive := List.length_pos_iff.mpr nonempty
  have len := len_splice_of_scalars rope cs p
  rw [Nat.min_eq_left inside] at len
  rcases inline with rfl | rfl
  all_goals
    simp only [insert, Nat.min_eq_left inside, selection_focus, selection_select, len,
      Selection.between, Selection.mk.injEq]
    omega

theorem text_cut_of_scalars {a b : Nat} (lt : a < b) :
    (w.cut a b).2.text =
      if (w.text.take a ++ w.text.drop b).isEmpty then [' ']
      else w.text.take a ++ w.text.drop b := by
  have before : w.slice 0 (min (min a b) w.len) = w.text.take a := by
    rw [slice_of_scalars rope, len_of_scalars rope, List.drop_zero,
      Nat.min_eq_left (Nat.le_of_lt lt)]
    exact List.take_eq_take_min.symm
  have behind : w.slice (min (max a b) w.len) w.len = w.text.drop b := by
    rw [slice_of_scalars rope, len_of_scalars rope, List.take_length,
      Nat.max_eq_right (Nat.le_of_lt lt)]
    exact List.drop_eq_drop_min.symm
  rw [cut, if_neg (Nat.ne_of_lt lt)]
  dsimp only
  rw [before, behind]
  rfl

end ModalEdit.Widget
