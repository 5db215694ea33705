import ModalEdit.Editor.Run
import ModalEdit.Proofs.Editor.Repeated
import ModalEdit.Proofs.Text.LineList
import ModalEdit.Proofs.Widget.Rope

/-! # Yanking lines

A yank of lines takes the line of the caret and those below it, as many as it is asked for or as
there are.  It takes each with its line break, and leaves out the one that ends the last
(`line_yank_law`).

The last line of a text has no line break that could be left out.  If it is empty, what is taken ends
in a line break all the same, which is that of the line above it.  That one is left out instead, and
with it the empty line (`not_all_yanked_to_empty_line`).
-/

namespace ModalEdit

namespace Text

variable {cs l : Text} {ls : List Text} {n : Nat}

/-- The first of some lines that end a text, each with its line break.  The last has none. -/
def leading (n : Nat) (ls : List Text) : Text :=
  if n < ls.length then terminated (ls.take n) else unlines ls

theorem leading_zero (some_left : ls ≠ []) : leading 0 ls = [] :=
  if_pos (List.length_pos_iff.mpr some_left)

theorem leading_last (n : Nat) (l : Text) : leading (n + 1) [l] = l := by
  rw [leading, if_neg (by simp), unlines_singleton]

theorem leading_succ (n : Nat) (l l' : Text) (ls : List Text) :
    leading (n + 1) (l :: l' :: ls) = l ++ [lineBreak] ++ leading n (l' :: ls) := by
  unfold leading
  simp only [List.length_cons, Nat.add_lt_add_iff_right, List.take_succ_cons, terminated_cons]
  split
  · simp
  · rw [unlines_cons l (List.cons_ne_nil l' ls)]
    simp

theorem leading_of_le (le : ls.length ≤ n) : leading n ls = unlines ls :=
  if_neg (Nat.not_lt_of_le le)

theorem leading_min (n : Nat) {m : Nat} (le : ls.length ≤ m) :
    leading (min n m) ls = leading n ls := by
  unfold leading
  split
  · next short => rw [if_pos (by omega), Nat.min_eq_left (by omega)]
  · rw [if_neg (by omega)]

/-- So many lines from line `i` on go to the end of a text that ends in a line break: to the empty
    line behind it, and from a line above that one. -/
def TakesEmptyEnd (cs : Text) (i n : Nat) : Prop :=
  i + 1 < cs.lines.length ∧ cs.lines.length ≤ i + n ∧ cs.lines.getLast? = some []

instance (cs : Text) (i n : Nat) : Decidable (cs.TakesEmptyEnd i n) :=
  inferInstanceAs (Decidable (_ ∧ _ ∧ _))

end Text

namespace Editor

open Text (leading unlines terminated LineAt)

variable {e : Editor} {ls : List Text} {n : Nat}

/-! ## Without the final line break -/

theorem dropFinalBreak_concat (cs : Text) : dropFinalBreak (cs ++ [lineBreak]) = cs := by
  rw [dropFinalBreak, if_pos List.getLast?_concat, List.dropLast_concat]

theorem dropFinalBreak_of_not_mem {cs : Text} (whole : lineBreak ∉ cs) : dropFinalBreak cs = cs :=
  if_neg fun last => whole (List.mem_of_getLast? last)

theorem dropFinalBreak_append_of_not_mem (cs : Text) {l : Text} (whole : lineBreak ∉ l)
    (nonempty : l ≠ []) : dropFinalBreak (cs ++ l) = cs ++ l := by
  rw [dropFinalBreak, List.getLast?_append_of_ne_nil _ nonempty, if_neg]
  exact fun last => whole (List.mem_of_getLast? last)

theorem dropFinalBreak_terminated (some_left : ls ≠ []) :
    dropFinalBreak (terminated ls) = unlines ls := by
  rw [Text.terminated_eq some_left, dropFinalBreak_concat]

/-- Of joined lines the last is left out if it is empty, and not the only one. -/
theorem dropFinalBreak_unlines (whole : ∀ l ∈ ls, lineBreak ∉ l) (some_left : ls ≠ []) :
    dropFinalBreak (unlines ls) =
      unlines (if 1 < ls.length ∧ ls.getLast? = some [] then ls.dropLast else ls) := by
  obtain ⟨front, last, rfl⟩ := (List.eq_nil_or_concat ls).resolve_left some_left
  rw [List.concat_eq_append] at whole ⊢
  have wholeLast : lineBreak ∉ last := whole last (by simp)
  rw [List.getLast?_concat, List.dropLast_concat, Text.unlines_append front (List.cons_ne_nil _ _),
    Text.unlines_singleton]
  by_cases only : front = []
  · rw [if_neg (by simp [only]), only, List.nil_append, Text.unlines_singleton]
    exact dropFinalBreak_of_not_mem wholeLast
  · have more : 1 < (front ++ [last]).length := by
      have := List.length_pos_iff.mpr only
      rw [List.length_append, List.length_singleton]
      omega
    by_cases empty : last = []
    · rw [if_pos ⟨more, congrArg some empty⟩, empty, List.append_nil,
        dropFinalBreak_terminated only]
    · rw [if_neg fun both => empty (Option.some.inj both.2),
        dropFinalBreak_append_of_not_mem _ wholeLast empty,
        Text.unlines_append front (List.cons_ne_nil _ _), Text.unlines_singleton]

/-! ## Line after line -/

section

variable {w : Widget} {p : Nat} {above below : List Text} {line next : Text}

theorem takeLine_of_last (rope : w.segmentation = .scalars) (here : LineAt w.text p above line []) :
    takeLine w (some p) = (some line, none) := by
  rw [takeLine, Widget.chars_eq_text rope, Widget.slice_of_scalars rope, here.slice_of_last,
    here.nextLineStart?_of_last]

theorem takeLine_of_next (rope : w.segmentation = .scalars)
    (here : LineAt w.text p above line (next :: below)) :
    takeLine w (some p) = (some (line ++ [lineBreak]), some (terminated (above ++ [line])).length) := by
  rw [takeLine, Widget.chars_eq_text rope, Widget.slice_of_scalars rope, here.slice_of_next,
    here.nextLineStart?_of_next]

theorem fst_gather_takeLine_none (w : Widget) (n : Nat) :
    (gather (takeLine w) n none).1 = none := by
  cases n with
  | zero => rfl
  | succ n => rw [gather_succ_of_none rfl]

theorem getD_gather_takeLine (rope : w.segmentation = .scalars)
    (here : LineAt w.text p above line below) (n : Nat) :
    (gather (takeLine w) n (some p)).1.getD [] = leading n (line :: below) := by
  induction n generalizing p above line below with
  | zero => exact (Text.leading_zero (List.cons_ne_nil line below)).symm
  | succ n ih =>
    cases below with
    | nil =>
      have taken := takeLine_of_last rope here
      rw [gather_succ_of_some (congrArg Prod.fst taken), taken, fst_gather_takeLine_none,
        Text.leading_last, Option.getD_some, Option.getD_none, List.append_nil]
    | cons next below =>
      have taken := takeLine_of_next rope here
      have there : LineAt w.text (terminated (above ++ [line])).length (above ++ [line]) next below :=
        Text.lineAt_terminated (by rw [here.lines, List.append_cons])
      rw [gather_succ_of_some (congrArg Prod.fst taken), taken, Option.getD_some, ih there,
        Text.leading_succ]

theorem fst_gather_takeLine (rope : w.segmentation = .scalars)
    (here : LineAt w.text p above line below) (n : Nat) :
    (gather (takeLine w) (n + 1) (some p)).1 = some (leading (n + 1) (line :: below)) := by
  have yields : (takeLine w (some p)).1 = some _ := rfl
  rw [fst_gather_eq_some yields, getD_gather_takeLine rope here]

end

/-! ## The law -/

theorem dropFinalBreak_leading (whole : ∀ l ∈ ls, lineBreak ∉ l) (some_left : ls ≠ [])
    (positive : 1 ≤ n) :
    dropFinalBreak (leading n ls) =
      unlines (if 1 < ls.length ∧ ls.length ≤ n ∧ ls.getLast? = some [] then (ls.take n).dropLast
        else ls.take n) := by
  by_cases all : ls.length ≤ n
  · rw [Text.leading_of_le all, dropFinalBreak_unlines whole some_left, List.take_of_length_le all]
    simp only [all, true_and]
  · have taken : ls.take n ≠ [] := by
      rw [ne_eq, List.take_eq_nil_iff, not_or]
      exact ⟨by omega, some_left⟩
    rw [leading, if_pos (by omega), dropFinalBreak_terminated taken, if_neg fun h => all h.2.1]

theorem gather_takeLine_of_count (rope : e.widget.segmentation = .scalars) (positive : 1 ≤ n)
    (bounded : n ≤ maxCount) :
    (gather (takeLine e.widget) (e.yankLimit n) (some e.caret)).1 =
      some (leading n (e.widget.text.lines.drop (e.widget.text.lineIndex e.caret))) := by
  obtain ⟨above, line, below, here⟩ := Text.exists_lineAt e.widget.text e.caret
  -- A text has no more lines than positions and one, so the limit takes away nothing.
  have few : (line :: below).length ≤ e.len + 1 := by
    have length := Text.length_lines_le e.widget.text
    rw [here.lines, List.length_append] at length
    rw [len, Widget.len_of_scalars rope]
    omega
  obtain ⟨m, limit⟩ : ∃ m, min n (e.len + 1) = m + 1 := Nat.exists_eq_add_one.mpr (by omega)
  have runs : e.yankLimit n = m + 1 := by
    unfold yankLimit
    omega
  rw [runs, fst_gather_takeLine rope here, ← limit, Text.leading_min n few, here.drop_index]

theorem copyLines_eq (rope : e.widget.segmentation = .scalars) (positive : 1 ≤ n)
    (bounded : n ≤ maxCount) :
    let cs := e.widget.text
    let i := cs.lineIndex e.caret
    let yanked := (cs.lines.drop i).take n
    e.copyLines n =
      e.write (unlines (if cs.TakesEmptyEnd i n then yanked.dropLast else yanked)) true := by
  intro cs i yanked
  obtain ⟨above, line, below, here⟩ := Text.exists_lineAt cs e.caret
  have some_left : cs.lines.drop i ≠ [] := by
    rw [here.drop_index]
    exact List.cons_ne_nil line below
  have whole : ∀ l ∈ cs.lines.drop i, lineBreak ∉ l := fun l member =>
    Text.not_mem_of_mem_lines (List.mem_of_mem_drop member)
  have ends : (1 < (cs.lines.drop i).length ∧ (cs.lines.drop i).length ≤ n ∧
      (cs.lines.drop i).getLast? = some []) ↔ cs.TakesEmptyEnd i n := by
    have inside : i < cs.lines.length := here.index_lt
    rw [Text.TakesEmptyEnd, List.length_drop, List.getLast?_drop, if_neg (Nat.not_le_of_lt inside)]
    exact and_congr (by omega) (and_congr_left' (by omega))
  rw [copyLines, gather_takeLine_of_count rope positive bounded, yank,
    dropFinalBreak_leading whole some_left positive]
  simp only [ends]
  rfl

/-- A yank of lines takes as many as it is asked for, from the line of the caret on, and puts them
    into the register, joined with line breaks.  It loses the empty line behind a final line break,
    unless it takes that line alone. -/
theorem line_yank_law (rope : e.widget.segmentation = .scalars) (positive : 1 ≤ n)
    (bounded : n ≤ maxCount) :
    let cs := e.widget.text
    let i := cs.lineIndex e.caret
    let yanked := (cs.lines.drop i).take n
    let d := e.run .copyLine n
    d.widget = e.widget ∧ d.modal = e.modal ∧ d.history = e.history ∧
      d.register =
        ⟨e.register.clipboard.put
          (unlines (if cs.TakesEmptyEnd i n then yanked.dropLast else yanked)), true⟩ := by
  intro cs i yanked d
  have written : d = e.write _ true := copyLines_eq rope positive bounded
  rw [written]
  exact ⟨rfl, rfl, rfl, rfl⟩

/-- Of three lines the last two are yanked, the first of them empty. -/
theorem line_yank_law_of_empty_line :
    let e : Editor :=
      { modal := {},
        widget := (Widget.ofText .scalars ['a', lineBreak, lineBreak, 'b']).select 2 3,
        register := {}, history := .ofLimit 1 }
    (e.run .copyLine 5).widget = e.widget ∧
      (e.run .copyLine 5).register.text? = some [lineBreak, 'b'] := by
  intro e
  obtain ⟨widget, _, _, register⟩ := @line_yank_law e 5 rfl (by decide) (by decide)
  refine ⟨widget, ?_⟩
  rw [register]
  decide

/-- Two lines are yanked where a line is followed by an empty one, and only the first is put into the
    register. -/
theorem not_all_yanked_to_empty_line :
    let e : Editor :=
      { modal := {}, widget := (Widget.ofText .scalars ['a', lineBreak]).select 0 1,
        register := {}, history := .ofLimit 1 }
    let yanked := (e.widget.text.lines.drop (e.widget.text.lineIndex e.caret)).take 2
    yanked = [['a'], []] ∧ (e.run .copyLine 2).register.text? ≠ some (unlines yanked) := by
  decide

end Editor

end ModalEdit
