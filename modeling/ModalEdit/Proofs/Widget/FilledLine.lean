import ModalEdit.Proofs.Text.LineBounds
import ModalEdit.Proofs.Text.Seams
import ModalEdit.Proofs.Widget.Proper

/-! # Filling an empty line

An empty line is bounded by line breaks, or by the bounds of the text.  A space that is inserted
there joins neither of them, so it becomes a position of its own and leaves the others as they
were, also where a position may hold more than one character.
-/

namespace ModalEdit

/-! ## Empty lines -/

/-- A position begins a line without characters. -/
def Text.EmptyLine (cs : Text) (p : Nat) : Prop := cs.lineStart p = p ∧ cs.lineLength p = 0

instance (cs : Text) (p : Nat) : Decidable (cs.EmptyLine p) := inferInstanceAs (Decidable (_ ∧ _))

namespace Text.EmptyLine

variable {cs : Text} {p : Nat}

theorem le_length (h : cs.EmptyLine p) : p ≤ cs.length := h.1 ▸ cs.lineStart_le_length p

theorem before_eq (h : cs.EmptyLine p) {c : Char} (before : cs.before? p = some c) :
    c = lineBreak := by
  cases p with
  | zero => cases before
  | succ p =>
    have pos : 0 < cs.lineStart (p + 1) := by
      rw [h.1]
      omega
    have behind := getElem?_before_lineStart pos
    rw [h.1] at behind
    exact Option.some.inj (before.symm.trans behind)

theorem eq_of_getElem? (h : cs.EmptyLine p) {c : Char} (here : cs[p]? = some c) :
    c = lineBreak := by
  have inside : p < cs.length := (List.getElem?_eq_some_iff.mp here).1
  have first := le_lineEnd (Nat.le_of_lt inside)
  have last : cs.lineEnd p = p := by
    have empty := h.2
    rw [lineLength, h.1] at empty
    omega
  have stop := getElem?_lineEnd (Nat.le_of_lt inside) (by rwa [last])
  rw [last] at stop
  exact Option.some.inj (here.symm.trans stop)

end Text.EmptyLine

/-- A line that begins with a line break is empty. -/
theorem Text.emptyLine_of_getElem? {cs : Text} {p : Nat} (first : cs.lineStart p = p)
    (atBreak : cs[p]? = some lineBreak) : cs.EmptyLine p := by
  have inside : p < cs.length := (List.getElem?_eq_some_iff.mp atBreak).1
  have last : ¬p < cs.lineEnd p := fun before =>
    getElem?_ne_lineBreak_of_lt_lineEnd (Nat.le_of_lt inside) (Nat.le_refl p) before atBreak
  refine ⟨first, ?_⟩
  rw [lineLength, first]
  omega

namespace Widget

variable {w : Widget} {p : Nat}

theorem chars_of_lead_lineBreak {k : Cluster} (here : w.units[p]? = some k)
    (lead : k.lead = lineBreak) : k.chars = [lineBreak] ∨ k.chars = ['\r', lineBreak] := by
  have member : k ∈ w.segmentation.split w.text := by
    rw [← w.units_eq]
    exact List.mem_of_getElem? here
  exact Segmentation.chars_of_lead_lineBreak member lead

theorem getElem?_chars {k : Cluster} (here : w.units[p]? = some k) :
    w.chars[p]? = some k.lead := by
  rw [← charAt?_eq, charAt?, here]
  rfl

/-- The text before an empty line ends in a line break. -/
theorem eq_of_getLast?_slice (empty : w.chars.EmptyLine p) (hp : p ≤ w.len) {c : Char}
    (final : c ∈ (w.slice 0 p).getLast?) : c = lineBreak := by
  cases p with
  | zero =>
    rw [slice_of_le (Nat.le_refl 0)] at final
    cases final
  | succ q =>
    have here : w.units[q]? = some w.units[q] := List.getElem?_eq_getElem hp
    -- The position before the line reads as a break, and is one of the two that do.
    have lead := empty.before_eq (getElem?_chars here)
    rw [slice, List.drop_zero, List.take_succ_eq_append_getElem hp, Cluster.joined_append] at final
    rcases chars_of_lead_lineBreak here lead with alone | crossing
    · simpa [Cluster.joined, alone, eq_comm] using final
    · simpa [Cluster.joined, crossing, eq_comm] using final

/-- The text behind an empty line begins with a line break. -/
theorem eq_of_head?_slice (empty : w.chars.EmptyLine p) {c : Char}
    (first : c ∈ (w.slice p w.len).head?) : c = lineBreak ∨ c = '\r' := by
  rw [slice, len, List.take_length] at first
  by_cases inside : p < w.units.length
  · have here : w.units[p]? = some w.units[p] := List.getElem?_eq_getElem inside
    have lead := empty.eq_of_getElem? (getElem?_chars here)
    rw [List.drop_eq_getElem_cons inside, Cluster.joined_cons] at first
    obtain rfl := Option.some.inj first
    rcases chars_of_lead_lineBreak here lead with alone | crossing
    · exact .inl (List.cons.inj alone).1
    · exact .inr (List.cons.inj crossing).1
  · rw [List.drop_eq_nil_of_le (Nat.le_of_not_lt inside)] at first
    cases first

/-- A space on an empty line is a position of its own, and the others stay as they were. -/
theorem split_filled (empty : w.chars.EmptyLine p) (hp : p ≤ w.len) :
    w.segmentation.split (w.slice 0 p ++ [' '] ++ w.slice p w.len) =
      w.units.take p ++ .single ' ' :: w.units.drop p := by
  have space : w.segmentation.split [' '] = [.single ' '] := by
    cases w.segmentation with
    | scalars => rfl
    | clusters => rfl
  have before : ∀ c ∈ (w.slice 0 p).getLast?, ∀ d ∈ [' '].head?, Apart c d := by
    intro c final d _
    rw [eq_of_getLast?_slice empty hp final]
    exact apart_lineBreak d
  have behind : ∀ c ∈ (w.slice 0 p ++ [' ']).getLast?, ∀ d ∈ (w.slice p w.len).head?, Apart c d := by
    intro c final d first
    obtain rfl : ' ' = c := by simpa using final
    rcases eq_of_head?_slice empty first with rfl | rfl
    · exact apart_space_lineBreak
    · exact apart_space_carriageReturn
  rw [Segmentation.split_append _ behind, Segmentation.split_append _ before, space,
    split_slice_zero, split_slice_len]
  simp

/-! ## The widget with the space -/

theorem units_fill (empty : w.chars.EmptyLine p) (hp : p ≤ w.len) :
    (w.insert [' '] p .whole).units = w.units.take p ++ .single ' ' :: w.units.drop p := by
  simp only [insert, Nat.min_eq_left hp]
  exact split_filled empty hp

theorem chars_fill (empty : w.chars.EmptyLine p) (hp : p ≤ w.len) :
    (w.insert [' '] p .whole).chars = w.chars.take p ++ ' ' :: w.chars.drop p := by
  rw [chars, units_fill empty hp, List.map_append, List.map_cons, List.map_take, List.map_drop,
    Cluster.lead_single, chars]

theorem text_fill (hp : p ≤ w.len) :
    (w.insert [' '] p .whole).text = w.slice 0 p ++ ' ' :: w.slice p w.len := by
  simp [insert, Nat.min_eq_left hp]

/-- The space is selected. -/
theorem selection_fill (empty : w.chars.EmptyLine p) (hp : p ≤ w.len) :
    (w.insert [' '] p .whole).selection = ⟨p, p + 1⟩ := by
  have longer : (w.segmentation.split (w.slice 0 p ++ [' '] ++ w.slice p w.len)).length =
      w.len + 1 := by
    rw [split_filled empty hp, List.length_append, List.length_take, List.length_cons,
      List.length_drop]
    simp only [len] at hp ⊢
    omega
  simp only [insert, Nat.min_eq_left hp, selection_focus, selection_select, len_withText, longer,
    Selection.between, Selection.mk.injEq]
  omega

end Widget

end ModalEdit
