import Mathlib.Data.List.Forall2
import ModalEdit.Proofs.Widget.FilledLine

/-! # Texts with some empty lines filled

A space that is put on an empty line changes that line and no other, so a text that is changed in no
other way keeps its lines, but for empty ones that have become a single space.

A text is split at its line breaks.  What comes behind a line break is split on its own
(`lines_append_lineBreak`), and an empty line has line breaks or the bounds of the text on both
sides: nothing else is needed to see which line a space is put on.
-/

namespace ModalEdit.Text

variable {cs ds es : Text} {p : Nat}

/-- The lines of a text, without their line breaks. -/
def lines (cs : Text) : List Text := cs.splitOn lineBreak

/-- A line as it was, or a single space where it was empty. -/
def FilledLine (line line' : Text) : Prop := line' = line ∨ line = [] ∧ line' = [' ']

/-- A text as it was, but for a space on some of its empty lines. -/
def Filled (cs ds : Text) : Prop := List.Forall₂ FilledLine cs.lines ds.lines

theorem lines_append_lineBreak (cs ds : Text) :
    (cs ++ lineBreak :: ds).lines = cs.lines ++ ds.lines :=
  List.splitOnP_append_cons cs ds (beq_self_eq_true lineBreak)

theorem lines_lineBreak_cons (cs : Text) : lines (lineBreak :: cs) = [] :: cs.lines :=
  lines_append_lineBreak [] cs

theorem lines_space_lineBreak_cons (cs : Text) :
    lines (' ' :: lineBreak :: cs) = [' '] :: cs.lines :=
  lines_append_lineBreak [' '] cs

/-! ## Filling over and over -/

theorem FilledLine.trans {line line' line'' : Text} (first : FilledLine line line')
    (second : FilledLine line' line'') : FilledLine line line'' := by
  cases first with
  | inl same => exact same ▸ second
  | inr filled =>
    obtain ⟨empty, rfl⟩ := filled
    cases second with
    | inl same => exact .inr ⟨empty, same⟩
    | inr again => cases again.1

namespace Filled

theorem refl (cs : Text) : Filled cs cs := List.forall₂_same.mpr fun _ _ => .inl rfl

theorem trans (first : Filled cs ds) (second : Filled ds es) : Filled cs es := by
  unfold Filled at first second ⊢
  generalize cs.lines = before, ds.lines = between at first second ⊢
  generalize es.lines = behind at second ⊢
  induction first generalizing behind with
  | nil => exact second
  | cons line _ ih =>
    cases second with
    | cons line' rest => exact .cons (line.trans line') (ih _ rest)

/-- What begins a line may be filled on its own. -/
theorem append_left (ends : ∀ c ∈ cs.getLast?, c = lineBreak) (filled : Filled ds es) :
    Filled (cs ++ ds) (cs ++ es) := by
  cases List.eq_nil_or_concat cs with
  | inl nil => rwa [nil]
  | inr concat =>
    obtain ⟨front, c, rfl⟩ := concat
    obtain rfl := ends c (by simp)
    rw [List.concat_eq_append, ← List.append_cons, ← List.append_cons, Filled,
      lines_append_lineBreak, lines_append_lineBreak]
    exact List.rel_append (refl front) filled

end Filled

/-! ## Filling once -/

/-- A space before what is empty, or begins with a line break, is on a line that was empty. -/
theorem filled_space_cons (first : ∀ c ∈ cs.head?, c = lineBreak) : Filled cs (' ' :: cs) := by
  cases cs with
  | nil => exact .cons (.inr ⟨rfl, rfl⟩) .nil
  | cons c cs =>
    obtain rfl := first c rfl
    rw [Filled, lines_lineBreak_cons, lines_space_lineBreak_cons]
    exact .cons (.inr ⟨rfl, rfl⟩) (Filled.refl cs)

theorem filled_of_emptyLine (empty : cs.EmptyLine p) :
    Filled cs (cs.take p ++ ' ' :: cs.drop p) := by
  have first : ∀ c ∈ (cs.drop p).head?, c = lineBreak := by
    intro c first
    rw [List.head?_drop] at first
    exact empty.eq_of_getElem? first
  have ends : ∀ c ∈ (cs.take p).getLast?, c = lineBreak := by
    intro c final
    cases p with
    | zero => cases final
    | succ q =>
      have inside : q + 1 ≤ cs.length := empty.1 ▸ cs.lineStart_le_length (q + 1)
      rw [List.take_succ_eq_append_getElem inside, List.getLast?_concat] at final
      cases final
      exact empty.before_eq (List.getElem?_eq_getElem inside)
  have filled := (filled_space_cons first).append_left ends
  rwa [List.take_append_drop] at filled

end ModalEdit.Text
