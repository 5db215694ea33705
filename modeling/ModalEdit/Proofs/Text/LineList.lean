import ModalEdit.Proofs.Text.FilledLines

/-! # A text as the list of its lines

A text is its lines, joined with line breaks (`unlines_lines`).  A position is on the line whose
number is the number of line breaks before it, and the scans for the bounds of its line find where
that line begins in the text and where it ends (`exists_lineAt`).  So what stands before a line are
the lines above it, each with a line break behind it, and what stands after a line are the lines
below it, each with a line break before it.

With this, an edit at the bounds of a line is an edit of the list of lines, by what `LineAt` says of
the text before and behind them.
-/

namespace ModalEdit.Text

variable {cs ds l : Text} {ls above below : List Text} {p : Nat}

/-! ## Lines put together -/

/-- Lines, joined with line breaks. -/
def unlines (ls : List Text) : Text := [lineBreak].intercalate ls

/-- Lines, each with a line break behind it. -/
def terminated (ls : List Text) : Text := ls.flatMap (· ++ [lineBreak])

/-- Lines, each with a line break before it. -/
def preceded (ls : List Text) : Text := ls.flatMap (lineBreak :: ·)

@[simp] theorem terminated_nil : terminated [] = [] := rfl

@[simp] theorem terminated_cons (l : Text) (ls : List Text) :
    terminated (l :: ls) = l ++ lineBreak :: terminated ls := by
  simp [terminated]

@[simp] theorem terminated_append (ls ls' : List Text) :
    terminated (ls ++ ls') = terminated ls ++ terminated ls' :=
  List.flatMap_append

@[simp] theorem unlines_singleton (l : Text) : unlines [l] = l := List.intercalate_singleton

theorem unlines_cons (l : Text) (some_left : ls ≠ []) :
    unlines (l :: ls) = l ++ lineBreak :: unlines ls := by
  rw [unlines, List.intercalate_cons_of_ne_nil some_left, List.append_assoc]
  rfl

theorem unlines_cons_eq (l : Text) (ls : List Text) : unlines (l :: ls) = l ++ preceded ls := by
  induction ls generalizing l with
  | nil => rw [unlines_singleton, preceded, List.flatMap_nil, List.append_nil]
  | cons l' ls ih => rw [unlines_cons l (List.cons_ne_nil l' ls), ih]; rfl

theorem unlines_append (ls : List Text) {ls' : List Text} (some_left : ls' ≠ []) :
    unlines (ls ++ ls') = terminated ls ++ unlines ls' := by
  induction ls with
  | nil => rfl
  | cons l ls ih =>
    rw [List.cons_append, unlines_cons l (List.append_ne_nil_of_right_ne_nil ls some_left), ih,
      terminated_cons, List.append_assoc, List.cons_append]

theorem unlines_append_eq (some_left : ls ≠ []) (ls' : List Text) :
    unlines (ls ++ ls') = unlines ls ++ preceded ls' := by
  obtain ⟨l, rest, rfl⟩ := List.exists_cons_of_ne_nil some_left
  rw [List.cons_append, unlines_cons_eq, unlines_cons_eq, preceded, preceded, preceded,
    List.flatMap_append, List.append_assoc]

/-- The last line break of all is what joining leaves out. -/
theorem terminated_eq (some_left : ls ≠ []) : terminated ls = unlines ls ++ [lineBreak] := by
  induction ls with
  | nil => exact absurd rfl some_left
  | cons l ls ih =>
    by_cases last : ls = []
    · rw [last, terminated_cons, terminated_nil, unlines_singleton]
    · rw [terminated_cons, ih last, unlines_cons l last, List.append_assoc, List.cons_append]

/-! ## The lines of a text -/

theorem unlines_lines (cs : Text) : unlines cs.lines = cs := List.intercalate_splitOn lineBreak

theorem lines_ne_nil (cs : Text) : cs.lines ≠ [] := List.splitOn_ne_nil lineBreak cs

theorem lines_of_not_mem (whole : lineBreak ∉ l) : l.lines = [l] := List.splitOn_eq_singleton whole

theorem lines_cons (c : Char) (cs : Text) :
    lines (c :: cs) = if c = lineBreak then [] :: cs.lines else cs.lines.modifyHead (c :: ·) := by
  simp [lines, List.splitOn_cons_eq_if_modifyHead]

theorem not_mem_of_mem_lines (member : l ∈ cs.lines) : lineBreak ∉ l := by
  induction cs generalizing l with
  | nil =>
    rw [lines_of_not_mem List.not_mem_nil, List.mem_singleton] at member
    rw [member]
    exact List.not_mem_nil
  | cons c cs ih =>
    obtain ⟨first, rest, split⟩ := List.exists_cons_of_ne_nil (lines_ne_nil cs)
    rw [lines_cons, split] at member
    rw [split] at ih
    split at member
    · cases List.mem_cons.mp member with
      | inl empty =>
        rw [empty]
        exact List.not_mem_nil
      | inr later => exact ih later
    · next other =>
      cases List.mem_cons.mp member with
      | inl longer =>
        rw [longer, List.mem_cons, not_or]
        exact ⟨fun same => other same.symm, ih List.mem_cons_self⟩
      | inr later => exact ih (List.mem_cons_of_mem first later)

theorem lines_unlines (whole : ∀ l ∈ ls, lineBreak ∉ l) (some_left : ls ≠ []) :
    (unlines ls).lines = ls :=
  List.splitOn_intercalate lineBreak whole some_left

theorem length_lines (cs : Text) : cs.lines.length = cs.count lineBreak + 1 := by
  induction cs with
  | nil => rfl
  | cons c cs ih =>
    rw [lines_cons, List.count_cons]
    split
    · next same => simp [same, ih]
    · next other => simp [other, ih]

theorem length_lines_le (cs : Text) : cs.lines.length ≤ cs.length + 1 := by
  rw [length_lines]
  exact Nat.succ_le_succ List.count_le_length

/-- What begins a line is split on its own. -/
theorem lines_terminated_append (whole : ∀ l ∈ above, lineBreak ∉ l) (cs : Text) :
    (terminated above ++ cs).lines = above ++ cs.lines := by
  induction above with
  | nil => rfl
  | cons l above ih =>
    obtain ⟨first, rest⟩ := List.forall_mem_cons.mp whole
    rw [terminated_cons, List.append_assoc, List.cons_append, lines_append_lineBreak,
      lines_of_not_mem first, ih rest, List.singleton_append, List.cons_append]

theorem text_eq_of_lines {line : Text} (lines : cs.lines = above ++ line :: below) :
    cs = terminated above ++ (line ++ preceded below) := by
  rw [← unlines_lines cs, lines, unlines_append above (List.cons_ne_nil line below),
    unlines_cons_eq]

theorem count_terminated (whole : ∀ l ∈ above, lineBreak ∉ l) :
    (terminated above).count lineBreak = above.length := by
  have split := lines_terminated_append whole []
  have length := length_lines (terminated above)
  rw [List.append_nil] at split
  rw [split, List.length_append] at length
  exact (Nat.add_right_cancel length).symm

/-! ## The line of a position -/

/-- The number of the line that a position is on. -/
def lineIndex (cs : Text) (p : Nat) : Nat := (cs.take p).count lineBreak

/-- Where the line of a number begins. -/
def lineOffset (cs : Text) (i : Nat) : Nat := (terminated (cs.lines.take i)).length

/-- A position is on a line with others above and below, and its line is found where it is. -/
structure LineAt (cs : Text) (p : Nat) (above : List Text) (line : Text) (below : List Text) :
    Prop where
  lines : cs.lines = above ++ line :: below
  index : cs.lineIndex p = above.length
  start : cs.lineStart p = (terminated above).length
  stop : cs.lineEnd p = (terminated above).length + line.length

/-- What begins the text, or stands behind a line break, has only whole lines before it. -/
theorem exists_above (ends : ∀ c ∈ cs.getLast?, c = lineBreak) :
    ∃ above, terminated above = cs ∧ ∀ ds, lines (cs ++ ds) = above ++ lines ds := by
  cases List.eq_nil_or_concat cs with
  | inl nil =>
    subst nil
    exact ⟨[], rfl, fun _ => rfl⟩
  | inr concat =>
    obtain ⟨front, c, rfl⟩ := concat
    obtain rfl := ends c (by simp)
    refine ⟨lines front, ?_, fun ds => ?_⟩
    · rw [terminated_eq (lines_ne_nil front), unlines_lines, List.concat_eq_append]
    · rw [List.concat_eq_append, ← List.append_cons, lines_append_lineBreak]

/-- What ends the text, or stands before a line break, has only whole lines behind it. -/
theorem exists_below (first : ∀ c ∈ cs.head?, c = lineBreak) :
    ∃ below, preceded below = cs ∧ ∀ ds, lines (ds ++ cs) = lines ds ++ below := by
  cases cs with
  | nil => exact ⟨[], rfl, fun ds => by rw [List.append_nil, List.append_nil]⟩
  | cons c cs =>
    obtain rfl := first c rfl
    refine ⟨lines cs, ?_, fun ds => lines_append_lineBreak ds cs⟩
    obtain ⟨line, rest, split⟩ := List.exists_cons_of_ne_nil (lines_ne_nil cs)
    have joined := unlines_cons_eq line rest
    rw [← split, unlines_lines] at joined
    rw [split, joined]
    rfl

theorem eq_of_getLast?_take_lineStart (cs : Text) (p : Nat) :
    ∀ c ∈ (cs.take (cs.lineStart p)).getLast?, c = lineBreak := by
  intro c final
  by_cases first : cs.lineStart p = 0
  · rw [first] at final
    cases final
  · have behind := getElem?_before_lineStart (Nat.pos_of_ne_zero first)
    rw [List.getLast?_take, if_neg first, behind] at final
    exact (Option.some.inj final).symm

theorem eq_of_head?_drop_lineEnd (inside : p ≤ cs.length) :
    ∀ c ∈ (cs.drop (cs.lineEnd p)).head?, c = lineBreak := by
  intro c first
  rw [List.head?_drop] at first
  have stops := getElem?_lineEnd inside (List.getElem?_eq_some_iff.mp first).1
  exact Option.some.inj (first.symm.trans stops)

theorem not_mem_drop_take {a b : Nat}
    (other : ∀ {q}, a ≤ q → q < b → cs[q]? ≠ some lineBreak) :
    lineBreak ∉ (cs.take b).drop a := by
  intro member
  obtain ⟨q, here⟩ := List.getElem?_of_mem member
  rw [List.getElem?_drop, List.getElem?_take] at here
  split at here
  · next before => exact other (Nat.le_add_right a q) before here
  · cases here

theorem lineIndex_eq (cs : Text) (p : Nat) :
    cs.lineIndex p = (cs.take (cs.lineStart p)).count lineBreak := by
  have none : lineBreak ∉ (cs.take p).drop (cs.lineStart p) :=
    not_mem_drop_take getElem?_ne_lineBreak_of_lineStart_le
  have front : (cs.take p).take (cs.lineStart p) = cs.take (cs.lineStart p) := by
    rw [List.take_take, Nat.min_eq_left (cs.lineStart_le p)]
  rw [lineIndex, ← List.take_append_drop (cs.lineStart p) (cs.take p), List.count_append, front,
    List.count_eq_zero_of_not_mem none, Nat.add_zero]

/-- A position past the end stands behind the last character. -/
theorem LineAt.of_min {line : Text} (last : LineAt cs (min p cs.length) above line below) :
    LineAt cs p above line below := by
  by_cases inside : p ≤ cs.length
  · rwa [Nat.min_eq_left inside] at last
  · have past := Nat.le_of_not_le inside
    have all : cs.take cs.length = cs.take p := by
      rw [List.take_of_length_le past, List.take_length]
    have stop : cs.lineEnd cs.length = cs.lineEnd p := by
      rw [lineEnd, lineEnd, seek_of_length_le past, seek_of_length_le (Nat.le_refl _)]
    rw [Nat.min_eq_right past] at last
    refine ⟨last.lines, ?_, ?_, stop ▸ last.stop⟩
    · rw [lineIndex, ← all]
      exact last.index
    · rw [lineStart, ← all]
      exact last.start

theorem exists_lineAt (cs : Text) (p : Nat) : ∃ above line below, LineAt cs p above line below := by
  -- It is enough to look at the positions inside the text.
  suffices inside : ∀ p ≤ cs.length, ∃ above line below, LineAt cs p above line below by
    obtain ⟨above, line, below, last⟩ := inside (min p cs.length) (Nat.min_le_right _ _)
    exact ⟨above, line, below, last.of_min⟩
  intro p inside
  obtain ⟨above, before, splitAbove⟩ := exists_above (eq_of_getLast?_take_lineStart cs p)
  obtain ⟨below, _, splitBelow⟩ := exists_below (eq_of_head?_drop_lineEnd inside)
  have start : cs.lineStart p = (terminated above).length := by
    rw [before, List.length_take_of_le (cs.lineStart_le_length p)]
  have ordered := cs.lineStart_le_lineEnd p
  have split : cs.lines = above ++ (cs.take (cs.lineEnd p)).drop (cs.lineStart p) :: below := by
    have front : (cs.take (cs.lineEnd p)).take (cs.lineStart p) = cs.take (cs.lineStart p) := by
      rw [List.take_take, Nat.min_eq_left ordered]
    conv_lhs =>
      rw [← List.take_append_drop (cs.lineEnd p) cs, splitBelow,
        ← List.take_append_drop (cs.lineStart p) (cs.take (cs.lineEnd p)), front, splitAbove,
        lines_of_not_mem (not_mem_drop_take (getElem?_ne_lineBreak_on_line inside))]
    rw [List.append_assoc, List.singleton_append]
  refine ⟨above, _, below, ⟨split, ?_, start, ?_⟩⟩
  · rw [lineIndex_eq, ← before]
    exact count_terminated fun l member =>
      not_mem_of_mem_lines (split ▸ List.mem_append_left _ member)
  · rw [← start, List.length_drop, List.length_take_of_le (cs.lineEnd_le_length p)]
    omega

namespace LineAt

variable {line : Text}

/-- A line has no line break in it, nor have the others. -/
theorem not_mem (h : LineAt cs p above line below) {l : Text} (member : l ∈ above ++ line :: below) :
    lineBreak ∉ l :=
  not_mem_of_mem_lines (h.lines ▸ member)

theorem index_lt (h : LineAt cs p above line below) : cs.lineIndex p < cs.lines.length := by
  rw [h.lines, h.index, List.length_append, List.length_cons]
  omega

theorem text_eq (h : LineAt cs p above line below) :
    cs = terminated above ++ (line ++ preceded below) :=
  text_eq_of_lines h.lines

theorem take_start (h : LineAt cs p above line below) :
    cs.take (cs.lineStart p) = terminated above := by
  rw [h.start]
  conv_lhs => rw [h.text_eq]
  exact List.take_left

theorem drop_start (h : LineAt cs p above line below) :
    cs.drop (cs.lineStart p) = unlines (line :: below) := by
  rw [h.start, unlines_cons_eq]
  conv_lhs => rw [h.text_eq]
  exact List.drop_left

theorem take_stop (h : LineAt cs p above line below) :
    cs.take (cs.lineEnd p) = terminated above ++ line := by
  rw [h.stop, ← List.length_append]
  conv_lhs => rw [h.text_eq, ← List.append_assoc]
  exact List.take_left

theorem drop_stop (h : LineAt cs p above line below) :
    cs.drop (cs.lineEnd p) = preceded below := by
  rw [h.stop, ← List.length_append]
  conv_lhs => rw [h.text_eq, ← List.append_assoc]
  exact List.drop_left

/-- The lines above, the line and the lines below are told by the number of the line. -/
theorem above_eq (h : LineAt cs p above line below) : cs.lines.take (cs.lineIndex p) = above := by
  rw [h.lines, h.index, List.take_left]

theorem drop_index (h : LineAt cs p above line below) :
    cs.lines.drop (cs.lineIndex p) = line :: below := by
  rw [h.lines, h.index, List.drop_left]

theorem take_succ_index (h : LineAt cs p above line below) :
    cs.lines.take (cs.lineIndex p + 1) = above ++ [line] := by
  rw [List.take_add, h.above_eq, h.drop_index]
  rfl

theorem drop_succ_index (h : LineAt cs p above line below) :
    cs.lines.drop (cs.lineIndex p + 1) = below := by
  rw [← List.drop_drop, h.drop_index]
  rfl

/-- The last line goes to the end of the text. -/
theorem lineEnd_of_last (h : LineAt cs p above line []) : cs.lineEnd p = cs.length := by
  rw [h.stop]
  conv_rhs => rw [h.text_eq]
  simp [preceded]

theorem slice_of_last (h : LineAt cs p above line []) :
    (cs.take (cs.lineEnd p + 1)).drop (cs.lineStart p) = line := by
  rw [h.lineEnd_of_last, List.take_of_length_le (Nat.le_succ _), h.drop_start, unlines_singleton]

theorem take_succ_stop {next : Text} (h : LineAt cs p above line (next :: below)) :
    cs.take (cs.lineEnd p + 1) = terminated (above ++ [line]) := by
  have first : (cs.drop (cs.lineEnd p)).take 1 = [lineBreak] := by
    rw [h.drop_stop]
    rfl
  rw [List.take_add, h.take_stop, first]
  simp

theorem drop_succ_stop {next : Text} (h : LineAt cs p above line (next :: below)) :
    cs.drop (cs.lineEnd p + 1) = unlines (next :: below) := by
  rw [← List.drop_drop, h.drop_stop, unlines_cons_eq]
  rfl

/-- Behind the line break of a line the lines below begin.  Behind the last line there is nothing. -/
theorem drop_behind_stop (h : LineAt cs p above line below) :
    cs.drop (cs.lineEnd p + 1) = unlines below := by
  cases below with
  | nil =>
    rw [h.lineEnd_of_last]
    exact List.drop_eq_nil_of_le (Nat.le_succ _)
  | cons next below => exact h.drop_succ_stop

theorem slice_of_next {next : Text} (h : LineAt cs p above line (next :: below)) :
    (cs.take (cs.lineEnd p + 1)).drop (cs.lineStart p) = line ++ [lineBreak] := by
  rw [h.take_succ_stop, h.start, terminated_append, List.drop_left, terminated_cons, terminated_nil]

theorem nextLineStart?_of_last (h : LineAt cs p above line []) : cs.nextLineStart? p = none := by
  rw [nextLineStart?, if_neg (Nat.not_lt_of_le (Nat.le_of_eq h.lineEnd_of_last.symm))]

theorem nextLineStart?_of_next {next : Text} (h : LineAt cs p above line (next :: below)) :
    cs.nextLineStart? p = some (terminated (above ++ [line])).length := by
  have inside : cs.lineEnd p < cs.length := by
    apply Nat.lt_of_not_le
    intro past
    have none := h.drop_stop
    rw [List.drop_eq_nil_of_le past] at none
    cases none
  rw [nextLineStart?, if_pos inside, h.stop]
  simp
  omega

end LineAt

/-- A position is on the line that its place in the list of lines says. -/
theorem lineAt_add {line : Text} {q : Nat} (lines : cs.lines = above ++ line :: below)
    (fits : q ≤ line.length) : LineAt cs ((terminated above).length + q) above line below := by
  obtain ⟨above', line', below', there⟩ := exists_lineAt cs ((terminated above).length + q)
  have whole : ∀ {l}, l ∈ above ++ line :: below → lineBreak ∉ l :=
    fun member => not_mem_of_mem_lines (lines ▸ member)
  have before : lineBreak ∉ line.take q := fun member =>
    whole (by simp) (List.mem_of_mem_take member)
  have index : cs.lineIndex ((terminated above).length + q) = above.length := by
    rw [lineIndex, text_eq_of_lines lines, List.take_length_add_append,
      List.take_append_of_le_length fits, List.count_append, List.count_eq_zero_of_not_mem before]
    exact count_terminated fun l member => whole (List.mem_append_left _ member)
  have same := there.lines.symm.trans lines
  obtain ⟨rfl, rest⟩ := List.append_inj same (there.index.symm.trans index)
  obtain ⟨rfl, rfl⟩ := List.cons.inj rest
  exact there

/-- All positions between the bounds of a line are on that line. -/
theorem LineAt.of_between {line : Text} {q : Nat} (here : LineAt cs p above line below)
    (first : cs.lineStart p ≤ q) (last : q ≤ cs.lineEnd p) : LineAt cs q above line below := by
  rw [here.start] at first
  rw [here.stop] at last
  obtain ⟨k, rfl⟩ := Nat.exists_eq_add_of_le first
  exact lineAt_add here.lines (Nat.le_of_add_le_add_left last)

/-- Where a line begins in the list of lines, there it begins in the text. -/
theorem lineAt_terminated {line : Text} (lines : cs.lines = above ++ line :: below) :
    LineAt cs (terminated above).length above line below :=
  lineAt_add lines (Nat.zero_le _)

end ModalEdit.Text
