import ModalEdit.Proofs.Text.LineList
import ModalEdit.Proofs.Widget.FilledLine
import ModalEdit.Proofs.Widget.Rope

/-! # Lines and what ends them

The line of a position and what ends it, as texts.  Where a position may hold more than one character,
a line is ended by a line feed or by a carriage return with one; the scan for the end of the line does
not tell them apart.  The last line is ended by the end of the text.
-/

namespace ModalEdit

/-- What can end a line. -/
inductive LineEnding : Text → Prop
  | textEnd : LineEnding []
  | lineFeed : LineEnding [lineBreak]
  | crossing : LineEnding ['\r', lineBreak]

namespace Widget

variable {w : Widget} {p : Nat}

/-- The line of a position. -/
def line (w : Widget) (p : Nat) : Text := w.slice (w.chars.lineStart p) (w.chars.lineEnd p)

/-- What ends the line of a position. -/
def lineEnding (w : Widget) (p : Nat) : Text := w.slice (w.chars.lineEnd p) (w.chars.lineEnd p + 1)

theorem line_append_lineEnding (w : Widget) (p : Nat) :
    w.line p ++ w.lineEnding p = w.slice (w.chars.lineStart p) (w.chars.lineEnd p + 1) :=
  slice_append_slice (Text.lineStart_le_lineEnd _ _) (Nat.le_succ _)

/-- A slice holds a line break if and only if one of its positions is read as a line break. -/
theorem lineBreak_mem_slice_iff {a b : Nat} :
    lineBreak ∈ w.slice a b ↔ lineBreak ∈ (w.chars.take b).drop a := by
  have units : ∀ {k}, k ∈ (w.units.take b).drop a → k ∈ w.segmentation.split w.text := by
    intro k member
    rw [← w.units_eq]
    exact List.mem_of_mem_take (List.mem_of_mem_drop member)
  rw [slice, Cluster.joined, List.mem_flatMap, chars, ← List.map_take, ← List.map_drop, List.mem_map]
  constructor
  · rintro ⟨k, member, inside⟩
    exact ⟨k, member, Segmentation.lead_of_mem_chars (units member) inside⟩
  · rintro ⟨k, member, lead⟩
    refine ⟨k, member, ?_⟩
    rcases Segmentation.chars_of_lead_lineBreak (units member) lead with alone | crossing
    · simp [alone]
    · simp [crossing]

theorem not_mem_line (hp : p ≤ w.len) : lineBreak ∉ w.line p := by
  rw [line, lineBreak_mem_slice_iff]
  exact Text.not_mem_drop_take (Text.getElem?_ne_lineBreak_on_line (by rwa [length_chars]))

theorem lineEnding_cases (hp : p ≤ w.len) : LineEnding (w.lineEnding p) := by
  rw [← length_chars] at hp
  by_cases inside : w.chars.lineEnd p < w.chars.length
  · -- The line ends at a position that is read as a line break.
    obtain ⟨k, here⟩ : ∃ k, w.units[w.chars.lineEnd p]? = some k :=
      ⟨_, List.getElem?_eq_getElem (by rwa [length_chars] at inside)⟩
    have lead := (getElem?_chars here).symm.trans (Text.getElem?_lineEnd hp inside)
    rw [lineEnding, slice_single here]
    rcases chars_of_lead_lineBreak here (Option.some.inj lead) with alone | crossing
    · rw [alone]
      exact .lineFeed
    · rw [crossing]
      exact .crossing
  · -- There is no line break left, so the line ends with the text.
    have nothing : (w.units.take (w.chars.lineEnd p + 1)).drop (w.chars.lineEnd p) = [] := by
      apply List.drop_eq_nil_of_le
      rw [length_chars, len] at inside
      rw [List.length_take]
      omega
    rw [lineEnding, slice, nothing]
    exact .textEnd

end Widget

end ModalEdit
