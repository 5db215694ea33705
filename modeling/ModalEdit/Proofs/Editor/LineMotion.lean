import ModalEdit.Proofs.Editor.Filling
import ModalEdit.Proofs.Editor.Resting
import ModalEdit.Proofs.Text.LineScan
import ModalEdit.Proofs.Widget.Rope

/-! # Moving by lines

In normal mode a motion by a line keeps the column as far as the line that it leads to goes, and
selects one character there (`line_motion_law`).  Both directions do the same once they have found
that line (`land`).  They work with columns counted from one and with the position behind the
character that they select.

An empty line has no character.  It is known by the line break that it begins with, and gets a space,
which is selected.  The last line has no line break, so an empty last line goes unnoticed, and what is
selected is the line break before it (`nextLine_onto_empty_end`).
-/

namespace ModalEdit

/-- A line as it is when the caret rests on it: an empty one has a space. -/
def Text.restingLine (line : Text) : Text := if line = [] then [' '] else line

namespace Editor

open Text (LineAt terminated preceded unlines)

variable {d e : Editor} {above below : List Text} {line : Text} {c j : Nat}

/-- One character of the line of a number is selected, at the column or at the end of the line.  The
    text is as it was, but for a space on that line if it was empty. -/
structure LandsOn (cs ds : Text) (selection : Selection) (j c : Nat) : Prop where
  lines : ds.lines = cs.lines.modify j Text.restingLine
  index : ds.lineIndex selection.start = j
  start : selection.start = ds.lineOffset j + min c (cs.lineWidth j - 1)
  stop : selection.stop = selection.start + 1
  within : selection.stop ≤ ds.lineOffset j + ds.lineWidth j

/-- The end of a motion by lines in normal mode: where the line begins, how wide it is, and the
    column, counted from one. -/
def land (e : Editor) (first width column : Nat) : Editor :=
  let target := first + min column width
  let e' := e.select (target - 1) target
  if e.charAt? first = some lineBreak then e'.fillLine first else e'

/-! ## Both directions -/

section Normal

variable (normal : e.modal.mode = .normal)

include normal

theorem verticalColumn_of_normal (p : Nat) : e.verticalColumn p = e.chars.column p := by
  have behind : e.growsForward = false := by
    cases anchor : e.modal.anchor with
    | none => simp [growsForward, anchor]
    | some a =>
      cases cursor : e.modal.cursor with
      | none => simp [growsForward, anchor, cursor]
      | some b => simp [growsForward, anchor, cursor, inVisual_of_normal normal]
  simp [verticalColumn, behind]

theorem nextLine_of_last (here : LineAt e.chars e.caret above line []) : e.nextLine = e := by
  rw [nextLine, movingEnd_of_normal normal, here.nextLineStart?_of_last]

theorem nextLine_of_next {next : Text} (here : LineAt e.chars e.caret above line (next :: below)) :
    e.nextLine =
      e.land (terminated (above ++ [line])).length next.length (e.chars.column e.caret) := by
  have lines : e.chars.lines = (above ++ [line]) ++ next :: below := by simp [here.lines]
  -- A line does not go beyond the text, so the check of the target never stops the motion.
  have fits := Text.line_le_length lines
  rw [length_chars] at fits
  have inText : ¬e.len < (terminated (above ++ [line])).length +
      min (e.chars.column e.caret) next.length := by omega
  rw [nextLine, movingEnd_of_normal normal, here.nextLineStart?_of_next]
  dsimp only
  rw [verticalColumn_of_normal normal, (Text.lineAt_terminated lines).lineLength_eq, if_neg inText,
    inVisual_of_normal normal]
  rfl

theorem prevLine_of_first (here : LineAt e.chars e.caret [] line below) : e.prevLine = e := by
  rw [prevLine, movingEnd_of_normal normal, (Text.prevLine_of_first here).1]

theorem prevLine_of_prev {prev : Text}
    (here : LineAt e.chars e.caret (above ++ [prev]) line below) :
    e.prevLine = e.land (terminated above).length prev.length (e.chars.column e.caret) := by
  obtain ⟨first, last⟩ := Text.prevLine_of_lineAt here
  rw [prevLine, movingEnd_of_normal normal, first, last]
  dsimp only
  rw [verticalColumn_of_normal normal, Nat.add_sub_cancel_left, inVisual_of_normal normal]
  rfl

end Normal

/-! ## On the line that was found -/

theorem modal_land (e : Editor) (first width column : Nat) :
    (e.land first width column).modal = e.modal := by
  unfold land
  dsimp only
  split
  · rfl
  · rfl

theorem lt_length_restingLine (line : Text) (c : Nat) :
    min c (line.length - 1) < line.restingLine.length := by
  cases line with
  | nil => simp [Text.restingLine]
  | cons l line =>
    simp only [Text.restingLine, reduceCtorEq, if_false, List.length_cons]
    omega

/-- What is selected on a line of the new text lands on the line of the same number. -/
theorem landsOn_of_lines {cs ds : Text} (lines : cs.lines = above ++ line :: below)
    (lines' : ds.lines = above ++ line.restingLine :: below) (c : Nat) :
    LandsOn cs ds
      ⟨(terminated above).length + min c (line.length - 1),
        (terminated above).length + min c (line.length - 1) + 1⟩
      above.length c := by
  have shown := lt_length_restingLine line c
  refine ⟨?_, ?_, ?_, rfl, ?_⟩
  · rw [lines', lines, List.modify_eq_take_cons_drop (by simp)]
    simp
  · exact (Text.lineAt_add lines' (Nat.le_of_lt shown)).index
  · rw [Text.lineOffset_of_lines lines', Text.lineWidth_of_lines lines]
  · rw [Text.lineOffset_of_lines lines', Text.lineWidth_of_lines lines']
    dsimp only
    omega

/-- On a line with characters one of them is selected. -/
theorem land_of_ne_nil (lines : e.chars.lines = above ++ line :: below) (nonempty : line ≠ [])
    (c : Nat) :
    e.land (terminated above).length line.length (c + 1) =
      e.select ((terminated above).length + min c (line.length - 1))
        ((terminated above).length + min c (line.length - 1) + 1) := by
  have positive := List.length_pos_iff.mpr nonempty
  have character : e.charAt? (terminated above).length ≠ some lineBreak := by
    intro atBreak
    rw [charAt?_eq, ← Nat.add_zero (terminated above).length,
      Text.getElem?_line lines positive] at atBreak
    exact Text.not_mem_of_mem_lines (lines ▸ List.mem_append_right _ List.mem_cons_self)
      (List.mem_of_getElem? atBreak)
  have target : (terminated above).length + min (c + 1) line.length =
      (terminated above).length + min c (line.length - 1) + 1 := by omega
  rw [land, if_neg character, target, Nat.add_sub_cancel]

/-- An empty line that is not the last one gets a space. -/
theorem land_of_nil {next : Text} (lines : e.chars.lines = above ++ [] :: next :: below)
    (column : Nat) :
    e.land (terminated above).length 0 column =
      (e.select ((terminated above).length - 1) (terminated above).length).fillLine
        (terminated above).length := by
  have atBreak : e.charAt? (terminated above).length = some lineBreak := by
    rw [charAt?_eq]
    exact Text.getElem?_stop lines
  rw [land, if_pos atBreak, Nat.min_zero, Nat.add_zero]

theorem landsOn_land_of_ne_nil (lines : e.chars.lines = above ++ line :: below)
    (nonempty : line ≠ []) (c : Nat) :
    LandsOn e.chars (e.land (terminated above).length line.length (c + 1)).chars
      (e.land (terminated above).length line.length (c + 1)).widget.selection above.length c := by
  have fits := Text.line_le_length lines
  rw [length_chars] at fits
  have positive := List.length_pos_iff.mpr nonempty
  rw [land_of_ne_nil lines nonempty c, selection_select_of_le (Nat.le_succ _) (by omega)]
  apply landsOn_of_lines lines
  rw [Text.restingLine, if_neg nonempty]
  exact lines

theorem landsOn_land_of_nil {next : Text} (lines : e.chars.lines = above ++ [] :: next :: below)
    (c : Nat) :
    LandsOn e.chars (e.land (terminated above).length 0 (c + 1)).chars
      (e.land (terminated above).length 0 (c + 1)).widget.selection above.length c := by
  have here := Text.lineAt_terminated lines
  have empty : e.chars.EmptyLine (terminated above).length :=
    Text.emptyLine_of_getElem? here.start (Text.getElem?_stop lines)
  have front := here.take_start
  have back := here.drop_start
  rw [here.start] at front back
  rw [Text.unlines_cons_eq] at back
  rw [land_of_nil lines]
  -- What is selected at first does not matter, the space is selected in its place.
  generalize selected : e.select ((terminated above).length - 1) (terminated above).length = d
  have chars : d.chars = e.chars := selected ▸ rfl
  have space : lineBreak ∉ Text.restingLine [] := by decide
  rw [← chars] at empty
  have lines' : (d.fillLine (terminated above).length).chars.lines =
      above ++ Text.restingLine [] :: next :: below := by
    rw [chars_fillLine empty, chars, front, back]
    exact Text.lines_exchange lines space
  have landed := landsOn_of_lines lines lines' c
  rw [List.length_nil, Nat.zero_sub, Nat.min_zero, Nat.add_zero] at landed
  rwa [selection_fillLine empty]

/-- An empty last line gets no space, and the line break before it is selected. -/
theorem nextLine_onto_empty_end (normal : e.modal.mode = .normal)
    (here : LineAt e.chars e.caret above line [[]]) :
    e.nextLine = e.select (e.len - 1) e.len := by
  have lines : e.chars.lines = (above ++ [line]) ++ [[]] := by simp [here.lines]
  have length : e.len = (terminated (above ++ [line])).length := by
    rw [← length_chars, Text.length_of_last lines, List.length_nil, Nat.add_zero]
  have nothing : e.charAt? e.len ≠ some lineBreak := by
    intro atBreak
    rw [charAt?_eq, ← length_chars, List.getElem?_length] at atBreak
    cases atBreak
  rw [nextLine_of_next normal here, ← length, land, if_neg nothing, List.length_nil, Nat.min_zero,
    Nat.add_zero]

/-! ## The law -/

section Law

variable (normal : e.modal.mode = .normal)

include normal

theorem landsOn_nextLine {next : Text} (here : LineAt e.chars e.caret above line (next :: below))
    (seen : next ≠ [] ∨ below ≠ []) :
    LandsOn e.chars e.nextLine.chars e.nextLine.widget.selection (above.length + 1)
      (e.caret - (terminated above).length) := by
  have lines : e.chars.lines = (above ++ [line]) ++ next :: below := by simp [here.lines]
  have index : (above ++ [line]).length = above.length + 1 := by simp
  rw [nextLine_of_next normal here, Text.column, here.start, ← index]
  cases next with
  | cons l next => exact landsOn_land_of_ne_nil lines (List.cons_ne_nil l next) _
  | nil =>
    cases below with
    | nil => simp at seen
    | cons second below => exact landsOn_land_of_nil lines _

theorem landsOn_prevLine {prev : Text}
    (here : LineAt e.chars e.caret (above ++ [prev]) line below) :
    LandsOn e.chars e.prevLine.chars e.prevLine.widget.selection above.length
      (e.caret - (terminated (above ++ [prev])).length) := by
  have lines : e.chars.lines = above ++ prev :: line :: below := by simp [here.lines]
  rw [prevLine_of_prev normal here, Text.column, here.start]
  cases prev with
  | cons l prev => exact landsOn_land_of_ne_nil lines (List.cons_ne_nil l prev) _
  | nil => exact landsOn_land_of_nil lines _

end Law

/-- In normal mode a motion by a line ends on the line below or above, at the column of the caret or
    at the end of that line, unless there is no such line.  Of an empty last line nothing is said
    here, since the motion down does not get onto it (`nextLine_onto_empty_end`). -/
theorem line_motion_law (rope : e.widget.segmentation = .scalars)
    (normal : e.modal.mode = .normal) :
    let cs := e.widget.text
    let i := cs.lineIndex e.caret
    let c := e.caret - cs.lineOffset i
    let down := (e.run .selectNextLine 1).widget
    let up := (e.run .selectPrevLine 1).widget
    (i + 1 < cs.lines.length → cs.lineWidth (i + 1) ≠ 0 ∨ i + 2 < cs.lines.length →
      LandsOn cs down.text down.selection (i + 1) c) ∧
    (0 < i → LandsOn cs up.text up.selection (i - 1) c) ∧
    (i + 1 = cs.lines.length → ∀ count, e.run .selectNextLine count = e) ∧
    (i = 0 → ∀ count, e.run .selectPrevLine count = e) := by
  intro cs i c down up
  obtain ⟨above, line, below, here⟩ := Text.exists_lineAt e.chars e.caret
  have start : cs = e.chars := (Widget.chars_eq_text rope).symm
  have index : i = above.length := here.index ▸ start ▸ rfl
  have offset : cs.lineOffset i = (terminated above).length := by
    rw [index, start, Text.lineOffset_of_lines here.lines]
  have kept := (fills_kept e).toKeptByMotions
  -- The widgets that the motions lead to are ropes too, and show their text as it is.
  have shown : ∀ {d : Editor}, Fills e d → d.widget.text = d.chars :=
    fun fills => (Widget.chars_eq_text fills.rope).symm
  have downWidget : down = e.nextLine.widget := congrArg Editor.widget (times_one e nextLine)
  have upWidget : up = e.prevLine.widget := congrArg Editor.widget (times_one e prevLine)
  have column : c = e.caret - (terminated above).length := congrArg (e.caret - ·) offset
  have count : cs.lines.length = above.length + (below.length + 1) := by
    rw [start, here.lines, List.length_append, List.length_cons]
  refine ⟨?below, ?above, ?last, ?first⟩
  case below =>
    intro next seen
    cases below with
    | nil =>
      rw [count, index] at next
      simp at next
    | cons target below =>
      have width : cs.lineWidth (i + 1) = target.length := by
        have lines : cs.lines = (above ++ [line]) ++ target :: below := by simp [start, here.lines]
        rw [index, ← Text.lineWidth_of_lines lines, List.length_append, List.length_singleton]
      have seen : target ≠ [] ∨ below ≠ [] := by
        rw [width, count, index, List.length_cons] at seen
        cases seen with
        | inl wide => exact .inl (List.ne_nil_of_length_pos (Nat.pos_of_ne_zero wide))
        | inr more => exact .inr (List.ne_nil_of_length_pos (by omega))
      rw [downWidget, shown (kept.nextLine ⟨rfl, .refl rope⟩).2, index, column, start]
      exact landsOn_nextLine normal here seen
  case above =>
    intro inside
    cases List.eq_nil_or_concat above with
    | inl none => simp [index, none] at inside
    | inr some =>
      obtain ⟨before, prev, rfl⟩ := some
      rw [List.concat_eq_append] at here index offset column
      have target : i - 1 = before.length := by
        rw [index, List.length_append, List.length_singleton, Nat.add_sub_cancel]
      rw [upWidget, shown (kept.prevLine ⟨rfl, .refl rope⟩).2, target, column, start]
      exact landsOn_prevLine normal here
  case last =>
    intro last n
    cases below with
    | nil => exact times_of_steady (nextLine_of_last normal here) n
    | cons target below =>
      rw [count, index] at last
      simp at last
  case first =>
    intro first n
    cases above with
    | nil => exact times_of_steady (prevLine_of_first normal here) n
    | cons l above => simp [index] at first

/-- From the end of the first of three lines down to the second one, which is empty. -/
theorem line_motion_law_onto_empty_line :
    let e : Editor :=
      { modal := {}
        widget := { Widget.ofText .scalars ['a', 'b', lineBreak, lineBreak, 'c'] with
          selection := ⟨1, 2⟩ }
        register := {}
        history := .ofLimit 1 }
    let down := (e.run .selectNextLine 1).widget
    e.widget.segmentation = .scalars ∧ e.modal.mode = .normal ∧
      LandsOn e.widget.text down.text down.selection 1 1 ∧
      e.widget.text.lines.modify 1 Text.restingLine = [['a', 'b'], [' '], ['c']] := by
  intro e down
  have rope : e.widget.segmentation = .scalars := rfl
  have normal : e.modal.mode = .normal := rfl
  have landed := (line_motion_law rope normal).1 (by decide) (.inr (by decide))
  exact ⟨rope, normal, landed, by decide⟩

end Editor

end ModalEdit
