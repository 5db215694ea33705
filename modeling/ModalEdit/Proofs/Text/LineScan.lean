import ModalEdit.Proofs.Text.LineList
import ModalEdit.Widget

/-! # Scanning for lines

The questions about lines are answered by two searches for a line break, one back and one forward,
and by steps over the break that was found.  The answers are those that can be read off the list of
lines (`scan_law`): where each line begins follows from the lengths of the lines before it, and a
position is on the line whose number is the number of line breaks before the position.

The previous line is looked up from the line break that ends it.  This position is on that line like
any other, so it is enough to know what holds at the positions of a line (`LineAt`).
-/

namespace ModalEdit.Text

variable {cs : Text} {above below : List Text} {line : Text} {p q j : Nat}

/-- The number of characters on the line of a number. -/
def lineWidth (cs : Text) (j : Nat) : Nat := (cs.lines.getD j []).length

/-! ## Offsets and widths -/

theorem lineOffset_of_lines (lines : cs.lines = above ++ below) :
    cs.lineOffset above.length = (terminated above).length := by
  rw [lineOffset, lines, List.take_left]

theorem lineWidth_of_lines (lines : cs.lines = above ++ line :: below) :
    cs.lineWidth above.length = line.length := by
  simp [lineWidth, lines]

theorem lineOffset_zero (cs : Text) : cs.lineOffset 0 = 0 := rfl

/-- A line begins behind the line before it and the line break that ends that one. -/
theorem lineOffset_succ (inside : j < cs.lines.length) :
    cs.lineOffset (j + 1) = cs.lineOffset j + cs.lineWidth j + 1 := by
  have width : cs.lineWidth j = cs.lines[j].length := by simp [lineWidth, inside]
  rw [lineOffset, List.take_succ_eq_append_getElem inside, terminated_append, width]
  simp [lineOffset, Nat.add_assoc]

/-! ## What a line shows -/

theorem getElem?_line {l : Text} (lines : cs.lines = above ++ l :: below) (inside : q < l.length) :
    cs[(terminated above).length + q]? = l[q]? := by
  rw [text_eq_of_lines lines, List.getElem?_append_right (Nat.le_add_right _ _),
    Nat.add_sub_cancel_left, List.getElem?_append_left inside]

/-- A line that is not the last one ends at a line break. -/
theorem getElem?_stop {next : Text} (lines : cs.lines = above ++ line :: next :: below) :
    cs[(terminated above).length + line.length]? = some lineBreak := by
  rw [text_eq_of_lines lines, List.getElem?_append_right (Nat.le_add_right _ _),
    Nat.add_sub_cancel_left, List.getElem?_append_right (Nat.le_refl _), Nat.sub_self]
  rfl

theorem line_le_length (lines : cs.lines = above ++ line :: below) :
    (terminated above).length + line.length ≤ cs.length := by
  rw [text_eq_of_lines lines, List.length_append, List.length_append]
  omega

theorem length_of_last (lines : cs.lines = above ++ [line]) :
    cs.length = (terminated above).length + line.length := by
  rw [text_eq_of_lines lines]
  simp [preceded]

/-- A line may be exchanged for another. -/
theorem lines_exchange {line' : Text} (lines : cs.lines = above ++ line :: below)
    (whole : lineBreak ∉ line') :
    Text.lines (terminated above ++ (line' ++ preceded below)) = above ++ line' :: below := by
  rw [← unlines_cons_eq, ← unlines_append above (List.cons_ne_nil line' below)]
  apply lines_unlines _ (List.append_ne_nil_of_right_ne_nil above (List.cons_ne_nil line' below))
  intro l member
  rw [List.mem_append, List.mem_cons] at member
  rcases member with before | rfl | behind
  · exact not_mem_of_mem_lines (lines ▸ List.mem_append_left _ before)
  · exact whole
  · exact not_mem_of_mem_lines
      (lines ▸ List.mem_append_right _ (List.mem_cons_of_mem line behind))

/-! ## The line of a position and those beside it -/

/-- What the scans find out about a position on the line of a number. -/
structure ScansLine (cs : Text) (p i : Nat) : Prop where
  index_lt : i < cs.lines.length
  offset_le : cs.lineOffset i ≤ p
  le_stop : p ≤ cs.lineOffset i + cs.lineWidth i
  start : cs.lineStart p = cs.lineOffset i
  stop : cs.lineEnd p = cs.lineOffset i + cs.lineWidth i
  length : cs.lineLength p = cs.lineWidth i
  column : cs.column p = p - cs.lineOffset i + 1
  nextStart : cs.nextLineStart? p =
    if i + 1 < cs.lines.length then some (cs.lineOffset (i + 1)) else none
  nextStop : cs.nextLineEnd? p =
    if i + 1 < cs.lines.length then some (cs.lineOffset (i + 1) + cs.lineWidth (i + 1)) else none
  prevStart : cs.prevLineStart? p = if 0 < i then some (cs.lineOffset (i - 1)) else none
  prevStop : cs.prevLineEnd? p =
    if 0 < i then some (cs.lineOffset (i - 1) + cs.lineWidth (i - 1)) else none

namespace LineAt

theorem lineStart_eq (here : LineAt cs p above line below) :
    cs.lineStart p = cs.lineOffset (cs.lineIndex p) := by
  rw [here.index, lineOffset_of_lines here.lines, here.start]

theorem lineEnd_eq (here : LineAt cs p above line below) :
    cs.lineEnd p = cs.lineOffset (cs.lineIndex p) + cs.lineWidth (cs.lineIndex p) := by
  rw [here.index, lineOffset_of_lines here.lines, lineWidth_of_lines here.lines, here.stop]

theorem lineLength_eq (here : LineAt cs p above line below) : cs.lineLength p = line.length := by
  rw [lineLength, here.start, here.stop, Nat.add_sub_cancel_left]

end LineAt

/-- The next line, by the number of a line and its place in the list. -/
theorem nextLine_of_lineAt (here : LineAt cs p above line below) :
    cs.nextLineStart? p =
        (if above.length + 1 < cs.lines.length then some (cs.lineOffset (above.length + 1)) else none) ∧
      cs.nextLineEnd? p =
        if above.length + 1 < cs.lines.length then
          some (cs.lineOffset (above.length + 1) + cs.lineWidth (above.length + 1))
        else none := by
  cases below with
  | nil =>
    have last : ¬above.length + 1 < cs.lines.length := by simp [here.lines]
    rw [nextLineEnd?, here.nextLineStart?_of_last, if_neg last, if_neg last]
    exact ⟨rfl, rfl⟩
  | cons next below =>
    have more : above.length + 1 < cs.lines.length := by simp [here.lines]
    have lines : cs.lines = (above ++ [line]) ++ next :: below := by simp [here.lines]
    have offset := lineOffset_of_lines lines
    have width := lineWidth_of_lines lines
    rw [List.length_append, List.length_singleton] at offset width
    rw [nextLineEnd?, here.nextLineStart?_of_next, if_pos more, if_pos more, offset, width,
      Option.map_some, (lineAt_terminated lines).stop]
    exact ⟨rfl, rfl⟩

/-- The previous line ends one position before the line begins. -/
theorem prevLine_of_lineAt {prev : Text} (here : LineAt cs p (above ++ [prev]) line below) :
    cs.prevLineStart? p = some (terminated above).length ∧
      cs.prevLineEnd? p = some ((terminated above).length + prev.length) := by
  have lines : cs.lines = above ++ prev :: line :: below := by simp [here.lines]
  have first : cs.lineStart p = (terminated above).length + prev.length + 1 := by
    rw [here.start]
    simp [Nat.add_assoc]
  have stop : cs.prevLineEnd? p = some ((terminated above).length + prev.length) := by
    rw [prevLineEnd?, first]
  have there := lineAt_add lines (Nat.le_refl prev.length)
  rw [prevLineStart?, stop, Option.map_some, there.start]
  exact ⟨rfl, rfl⟩

theorem prevLine_of_first (here : LineAt cs p [] line below) :
    cs.prevLineStart? p = none ∧ cs.prevLineEnd? p = none := by
  have stop : cs.prevLineEnd? p = none := by
    rw [prevLineEnd?, here.start]
    rfl
  rw [prevLineStart?, stop]
  exact ⟨rfl, rfl⟩

theorem scansLine (inside : p ≤ cs.length) : cs.ScansLine p (cs.lineIndex p) := by
  obtain ⟨above, line, below, here⟩ := exists_lineAt cs p
  have start := here.lineStart_eq
  have stop := here.lineEnd_eq
  obtain ⟨nextStart, nextStop⟩ := nextLine_of_lineAt here
  rw [← here.index] at nextStart nextStop
  have prev : cs.prevLineStart? p =
        (if 0 < cs.lineIndex p then some (cs.lineOffset (cs.lineIndex p - 1)) else none) ∧
      cs.prevLineEnd? p =
        if 0 < cs.lineIndex p then
          some (cs.lineOffset (cs.lineIndex p - 1) + cs.lineWidth (cs.lineIndex p - 1))
        else none := by
    cases List.eq_nil_or_concat above with
    | inl nil =>
      subst nil
      rw [here.index]
      exact prevLine_of_first here
    | inr concat =>
      obtain ⟨above, prev, rfl⟩ := concat
      rw [List.concat_eq_append] at here
      have lines : cs.lines = above ++ prev :: line :: below := by simp [here.lines]
      have index : cs.lineIndex p = above.length + 1 := by simp [here.index]
      rw [index, if_pos (Nat.succ_pos _), if_pos (Nat.succ_pos _), Nat.add_sub_cancel,
        lineOffset_of_lines lines, lineWidth_of_lines lines]
      exact prevLine_of_lineAt here
  refine ⟨here.index_lt, start ▸ cs.lineStart_le p, stop ▸ le_lineEnd inside, start, stop, ?_, ?_,
    nextStart, nextStop, prev.1, prev.2⟩
  · rw [here.lineLength_eq, here.index, lineWidth_of_lines here.lines]
  · rw [column, start]

/-- The scans for lines agree with the list of lines, for whatever a widget shows. -/
theorem scan_law (w : Widget) (inside : p ≤ w.len) :
    w.chars.ScansLine p (w.chars.lineIndex p) ∧ w.chars.lineOffset 0 = 0 ∧
      ∀ j < w.chars.lines.length,
        w.chars.lineOffset (j + 1) = w.chars.lineOffset j + w.chars.lineWidth j + 1 :=
  ⟨scansLine (w.length_chars.symm ▸ inside), lineOffset_zero _, fun _ => lineOffset_succ⟩

/-- The second of three lines is empty, and the text before it ends in a line break of two
    characters. -/
theorem scan_law_on_empty_line :
    let w := Widget.ofText .clusters ['a', '\r', lineBreak, '\r', lineBreak, 'b']
    2 ≤ w.len ∧ w.chars.ScansLine 2 1 ∧ w.chars.nextLineStart? 2 = some 3 ∧
      w.chars.prevLineEnd? 2 = some 1 := by
  intro w
  have inside : 2 ≤ w.len := by decide
  have scans : w.chars.ScansLine 2 1 := (scan_law w inside).1
  exact ⟨inside, scans, scans.nextStart, scans.prevStop⟩

end ModalEdit.Text
