import ModalEdit.Proofs.Editor.Conserved
import ModalEdit.Proofs.Editor.LinePaste

/-! # Deleting lines

A deletion of lines with a count takes the line of the caret and those below it out of the list of
lines, and joins them into the register.  The caret stays where the first of them began, which is
where the line now begins that comes to its place, so that pasting above the caret puts back what was
deleted (`line_deletion_law`).

Each run deletes one line (`StandsOn.cutLine`), as long as there is another below it and some text is
left.  Where no text is left a space stands for it, and where no line is left below, the line above
keeps its line break.
-/

namespace ModalEdit.Editor

open Text (unlines terminated LineAt)

variable {e : Editor} {above below taken : List Text} {line next : Text} {n : Nat}

/-! ## Line after line -/

/-- The caret stands on a line of a rope, with others above and below. -/
structure StandsOn (e : Editor) (above : List Text) (line : Text) (below : List Text) : Prop where
  rope : e.widget.segmentation = .scalars
  here : LineAt e.widget.text e.caret above line below

/-- The caret stands where the first of the lines below others begins. -/
structure Heads (e : Editor) (above below : List Text) : Prop where
  rope : e.widget.segmentation = .scalars
  lines : e.widget.text.lines = above ++ below
  caret : e.caret = (terminated above).length

theorem Heads.standsOn (heads : e.Heads above (line :: below)) : e.StandsOn above line below :=
  ⟨heads.rope, heads.caret ▸ Text.lineAt_terminated heads.lines⟩

/-- If some text is left in the end, some is left before. -/
theorem unlines_ne_nil_of_append (taken : List Text)
    (some_left : unlines (above ++ next :: below) ≠ []) :
    unlines (above ++ (taken ++ next :: below)) ≠ [] := by
  intro none
  rw [← List.append_assoc, Text.unlines_append _ (List.cons_ne_nil next below),
    Text.terminated_append] at none
  simp only [List.append_eq_nil_iff] at none
  obtain ⟨⟨noneAbove, _⟩, noneBelow⟩ := none
  rw [Text.unlines_append _ (List.cons_ne_nil next below), noneAbove, noneBelow] at some_left
  exact some_left rfl

theorem StandsOn.cutLine (stands : e.StandsOn above line (next :: below))
    (some_left : unlines (above ++ next :: below) ≠ []) :
    e.cutLine.1 = some (line ++ [lineBreak]) ∧ e.cutLine.2.Heads above (next :: below) := by
  obtain ⟨rope, here⟩ := stands
  have nonempty : e.widget.text ≠ [] := by
    intro none
    have behind := here.drop_stop
    rw [none, List.drop_nil] at behind
    cases behind
  have start := Text.lineStart_le_length e.widget.text e.caret
  have lt : e.widget.text.lineStart e.caret < e.widget.text.lineEnd e.caret + 1 :=
    Nat.lt_succ_of_le (Text.lineStart_le_lineEnd _ _)
  obtain ⟨place, _, caret, _⟩ := Place.cutAt ⟨rope, nonempty, start⟩ lt
  have text := text_cutAt rope lt
  rw [Text.unlines_append _ (List.cons_ne_nil next below)] at some_left
  rw [here.take_start, here.drop_succ_stop, remaining_of_ne_nil some_left,
    ← Text.unlines_append _ (List.cons_ne_nil next below)] at text
  have whole : ∀ l ∈ above ++ next :: below, lineBreak ∉ l := by
    intro l member
    apply here.not_mem
    rw [List.mem_append, List.mem_cons (b := line)]
    exact (List.mem_append.mp member).imp_right .inr
  rw [cutLine_of_scalars rope]
  refine ⟨?_, place.rope, ?_, caret.trans here.start⟩
  · rw [fst_cutAt rope lt start, here.slice_of_next]
  · rw [text, Text.lines_unlines whole (List.append_ne_nil_of_right_ne_nil _ (List.cons_ne_nil _ _))]

theorem StandsOn.gather_cutLine (stands : e.StandsOn above line (taken ++ next :: below))
    (some_left : unlines (above ++ next :: below) ≠ []) :
    (gather Editor.cutLine (taken.length + 1) e).1 = some (terminated (line :: taken)) ∧
      (gather Editor.cutLine (taken.length + 1) e).2.Heads above (next :: below) := by
  induction taken generalizing e line with
  | nil =>
    obtain ⟨yields, heads⟩ := stands.cutLine some_left
    rw [List.length_nil, gather_succ_of_some yields, gather, Option.getD_none, List.append_nil,
      Text.terminated_cons, Text.terminated_nil]
    exact ⟨rfl, heads⟩
  | cons line' taken ih =>
    -- The next run finds the caret on `line'`, which has come to the place of `line`.
    obtain ⟨yields, heads⟩ := stands.cutLine (unlines_ne_nil_of_append (line' :: taken) some_left)
    obtain ⟨gathered, heads'⟩ := ih heads.standsOn
    rw [List.length_cons, gather_succ_of_some yields, gathered, Option.getD_some, List.append_assoc,
      Text.terminated_cons line]
    exact ⟨rfl, heads'⟩

/-! ## With a count -/

theorem StandsOn.deleteLines (stands : e.StandsOn above line (taken ++ next :: below))
    (some_left : unlines (above ++ next :: below) ≠ []) (bounded : taken.length + 1 ≤ maxCount) :
    (e.deleteLines (taken.length + 1)).Heads above (next :: below) ∧
      (e.deleteLines (taken.length + 1)).register =
        ⟨e.register.clipboard.put (unlines (line :: taken)), true⟩ := by
  have few : taken.length + 1 ≤ e.len + 1 := by
    have lines := Text.length_lines_le e.widget.text
    rw [stands.here.lines, List.length_append, List.length_cons, List.length_append] at lines
    rw [len, Widget.len_of_scalars stands.rope]
    omega
  have gathered := stands.gather_cutLine some_left
  rw [← yankLimit_of_le_len (Nat.le_add_left 1 _) bounded few] at gathered
  obtain ⟨yields, heads⟩ := gathered
  constructor
  · have widget : (e.deleteLines (taken.length + 1)).widget =
        (gather Editor.cutLine (e.yankLimit (taken.length + 1)) e).2.widget :=
      widget_collect e _ true
    exact ⟨widget ▸ heads.rope, widget ▸ heads.lines,
      (congrArg Widget.caret widget).trans heads.caret⟩
  · rw [Editor.deleteLines, register_collect (fun _ => rfl) yields,
      dropFinalBreak_terminated (List.cons_ne_nil line taken)]

/-- Lines that are pasted above the first of the lines below others come between them. -/
theorem Heads.pasteBefore (heads : e.Heads above (next :: below)) {ls : List Text}
    (text : e.register.text? = some (unlines ls)) (lineWise : e.register.lineWise = true)
    (whole : ∀ l ∈ ls, lineBreak ∉ l) (nonempty : ls ≠ []) :
    e.pasteBefore.widget.text = unlines (above ++ ls ++ next :: below) := by
  obtain ⟨rope, here⟩ := heads.standsOn
  rw [(pastesLines rope text lineWise).textAbove, here.above_eq, here.drop_index,
    Text.lines_unlines whole nonempty]

theorem StandsOn.deleteLines_pasteBefore (stands : e.StandsOn above line (taken ++ next :: below))
    (some_left : unlines (above ++ next :: below) ≠ []) (bounded : taken.length + 1 ≤ maxCount)
    (keeps : e.register.clipboard ≠ .discarding) :
    (e.deleteLines (taken.length + 1)).pasteBefore.widget.text = e.widget.text := by
  obtain ⟨heads, register⟩ := stands.deleteLines some_left bounded
  have text : (e.deleteLines (taken.length + 1)).register.text? = some (unlines (line :: taken)) := by
    rw [register, Register.text?, Clipboard.get?_put, if_neg keeps]
  have lineWise : (e.deleteLines (taken.length + 1)).register.lineWise = true := by rw [register]
  have whole : ∀ l ∈ line :: taken, lineBreak ∉ l := by
    intro l member
    apply stands.here.not_mem
    rw [← List.cons_append, ← List.append_assoc]
    exact List.mem_append_left _ (List.mem_append_right _ member)
  rw [heads.pasteBefore text lineWise whole (List.cons_ne_nil line taken), List.append_assoc,
    List.cons_append, ← stands.here.lines, Text.unlines_lines]

/-! ## The law -/

/-- Of more lines than are to be deleted, one comes to the place of those that are. -/
theorem exists_taken {rest : List Text} (positive : 1 ≤ n) (short : n ≤ rest.length) :
    ∃ taken next below, rest = taken ++ next :: below ∧ n = List.length taken + 1 := by
  obtain ⟨m, rfl⟩ := Nat.exists_eq_add_one.mpr positive
  refine ⟨rest.take m, rest[m], rest.drop (m + 1), ?_, ?_⟩
  · rw [← List.drop_eq_getElem_cons short, List.take_append_drop]
  · rw [List.length_take_of_le (Nat.le_of_succ_le short)]

/-- A deletion of lines takes them out of the list of lines, and pasting them above the caret puts
    them back. -/
theorem line_deletion_law (rope : e.widget.segmentation = .scalars)
    (keeps : e.register.clipboard ≠ .discarding) (positive : 1 ≤ n) (bounded : n ≤ maxCount)
    (inside : e.widget.text.lineIndex e.caret + n < e.widget.text.lines.length)
    (some_left : unlines (e.widget.text.lines.take (e.widget.text.lineIndex e.caret) ++
      e.widget.text.lines.drop (e.widget.text.lineIndex e.caret + n)) ≠ []) :
    let cs := e.widget.text
    let i := cs.lineIndex e.caret
    let d := e.run .deleteLine n
    d.widget.text = unlines (cs.lines.take i ++ cs.lines.drop (i + n)) ∧
      d.register.text? = some (unlines ((cs.lines.drop i).take n)) ∧
      d.register.lineWise = true ∧
      d.caret = d.widget.text.lineOffset i ∧
      ∀ count, (d.run .pasteBefore count).widget.text = cs := by
  intro cs i d
  obtain ⟨above, line, rest, here⟩ := Text.exists_lineAt e.widget.text e.caret
  have index : i = above.length := here.index
  have from_line : cs.lines.drop i = line :: rest := here.drop_index
  have short : n ≤ rest.length := by
    rw [here.index, here.lines, List.length_append, List.length_cons] at inside
    omega
  -- The lines to be deleted are that of the caret and `taken`, and `next` comes to their place.
  obtain ⟨taken, next, below, rfl, rfl⟩ := exists_taken positive short
  have deleted : (cs.lines.drop i).take (taken.length + 1) = line :: taken := by
    rw [from_line, List.take_succ_cons, List.take_left]
  have stays : cs.lines.drop (i + (taken.length + 1)) = next :: below := by
    rw [← List.drop_drop, from_line, List.drop_succ_cons, List.drop_left]
  have before : cs.lines.take i = above := here.above_eq
  rw [here.above_eq, stays] at some_left
  have stands : e.StandsOn above line (taken ++ next :: below) := ⟨rope, here⟩
  obtain ⟨heads, register⟩ : d.Heads above (next :: below) ∧
      d.register = ⟨e.register.clipboard.put (unlines (line :: taken)), true⟩ :=
    stands.deleteLines some_left bounded
  rw [before, stays, deleted]
  refine ⟨?_, ?_, ?_, ?_, fun _ => ?_⟩
  · rw [← heads.lines, Text.unlines_lines]
  · rw [register, Register.text?, Clipboard.get?_put, if_neg keeps]
  · rw [register]
  · rw [Text.lineOffset, index, heads.lines, List.take_left, heads.caret]
  · exact stands.deleteLines_pasteBefore some_left bounded keeps

/-- Two lines are deleted, the second of them empty, so that the empty line behind the final line
    break comes to their place. -/
theorem line_deletion_law_of_empty_lines :
    let e : Editor :=
      { modal := {},
        widget := (Widget.ofText .scalars ['a', lineBreak, 'b', lineBreak, lineBreak]).select 2 3,
        register := {}, history := .ofLimit 1 }
    (e.run .deleteLine 2).widget.text = ['a', lineBreak] ∧
      (e.run .deleteLine 2).register.text? = some ['b', lineBreak] ∧
      (e.run .deleteLine 2).caret = 2 ∧
      ((e.run .deleteLine 2).run .pasteBefore 1).widget.text = e.widget.text := by
  intro e
  obtain ⟨text, register, _, _, back⟩ :=
    @line_deletion_law e 2 rfl (by decide) (by decide) (by decide) (by decide) (by decide)
  exact ⟨text.trans (by decide), register.trans (by decide), by decide, back 1⟩

end ModalEdit.Editor
