import ModalEdit.Proofs.Editor.LineMotion
import ModalEdit.Proofs.Text.TokenStart

/-! # Motions keep a character selected

Where one character is selected in normal mode, every motion selects one character again.  Most of
them never select a line break: they stop at it, or pass it over, or find a line empty and put a
space there.  Three do not look for an empty line everywhere (`MissesSpace`), and it is only there
that a line break gets selected (`character_law`).

A motion down comes to an empty last line only at the end of its way, and stays there.  So what it
does is seen from the lines below the caret, of which each step leaves one less (`linesBelow`).
-/

namespace ModalEdit.Editor

open Text (LineAt terminated)

variable {d e : Editor} {above below : List Text} {line : Text} {c : Char} {s j k : Nat}

/-- One character is selected in normal mode. -/
structure SelectsChar (d : Editor) (c : Char) : Prop where
  normal : d.modal.mode = .normal
  single : d.widget.selection.stop = d.widget.selection.start + 1
  shown : d.charAt? d.caret = some c

/-- One character is selected in normal mode, and it is no line break. -/
def OnCharacter (d : Editor) : Prop := ∃ c, c ≠ lineBreak ∧ d.SelectsChar c

/-- One character is selected, and it is a line break only if something is missed. -/
structure OnCharacterUnless (missed : Prop) (d : Editor) : Prop where
  onCharacter : ¬missed → d.OnCharacter
  onLineBreak : missed → d.SelectsChar lineBreak

/-- The lines below the line of the caret. -/
def linesBelow (e : Editor) : List Text := e.chars.lines.drop (e.chars.lineIndex e.caret + 1)

/-- So many steps down lead to the last line, and that one is empty. -/
def ReachesEmptyEnd (below : List Text) (n : Nat) : Prop :=
  below.getLast? = some [] ∧ below.length ≤ n

/-- A motion leads to an empty line that does not get a space.  A line break that ends the text has
    a line behind it, but the motion to the last line goes to the line that this line break ends. -/
inductive MissesSpace (e : Editor) (count : Nat) : Action → Prop
  | nextLine (reached : ReachesEmptyEnd e.linesBelow (max count 1)) :
      MissesSpace e count .selectNextLine
  | firstLine (empty : e.chars.EmptyLine 0) : MissesSpace e count .firstLine
  | lastLine (empty : e.chars.EmptyLine (e.len - 1)) : MissesSpace e count .lastLine

/-! ## Selecting one character -/

theorem exists_charAt? (inside : s < d.len) : ∃ c, d.charAt? s = some c := by
  rw [← length_chars] at inside
  exact ⟨_, (d.charAt?_eq s).trans (List.getElem?_eq_getElem inside)⟩

theorem selectsChar_select (normal : d.modal.mode = .normal) (shown : d.charAt? s = some c) :
    (d.select s (s + 1)).SelectsChar c := by
  have selection := selection_select_of_le (Nat.le_succ s) (lt_len_of_charAt? shown)
  refine ⟨normal, by rw [selection], ?_⟩
  rw [caret_of_selection selection]
  exact shown

theorem onCharacter_select (normal : d.modal.mode = .normal) (inside : s < d.len)
    (character : d.charAt? s ≠ some lineBreak) : (d.select s (s + 1)).OnCharacter := by
  obtain ⟨c, shown⟩ := exists_charAt? inside
  refine ⟨c, ?_, selectsChar_select normal shown⟩
  rintro rfl
  exact character shown

namespace OnCharacter

variable (on : e.OnCharacter)

include on

theorem normal : e.modal.mode = .normal := by
  obtain ⟨_, _, selects⟩ := on
  exact selects.normal

theorem caret_lt_len : e.caret < e.len := by
  obtain ⟨_, _, selects⟩ := on
  exact lt_len_of_charAt? selects.shown

theorem selection_eq : e.widget.selection = ⟨e.caret, e.caret + 1⟩ := by
  obtain ⟨_, _, selects⟩ := on
  exact congrArg (Selection.mk e.caret) selects.single

theorem charAt?_caret_ne : e.charAt? e.caret ≠ some lineBreak := by
  obtain ⟨c, character, selects⟩ := on
  rw [selects.shown, ne_eq, Option.some_inj]
  exact character

theorem caret_lt_lineEnd : e.caret < e.chars.lineEnd e.caret := by
  obtain ⟨c, character, selects⟩ := on
  have inside := lt_len_of_charAt? selects.shown
  rw [← length_chars] at inside
  apply Nat.lt_of_le_of_ne (Text.le_lineEnd (Nat.le_of_lt inside))
  intro last
  have stop := Text.getElem?_lineEnd (Nat.le_of_lt inside) (last ▸ inside)
  rw [← last, ← charAt?_eq, selects.shown] at stop
  exact character (Option.some.inj stop)

/-- The line of the selected character holds no other line break either. -/
theorem select_on_line (first : e.chars.lineStart e.caret ≤ s) (last : s < e.chars.lineEnd e.caret) :
    (e.select s (s + 1)).OnCharacter := by
  have inside := on.caret_lt_len
  rw [← length_chars] at inside
  have inText := e.chars.lineEnd_le_length e.caret
  rw [length_chars] at inText
  apply onCharacter_select on.normal (by omega)
  rw [charAt?_eq]
  exact Text.getElem?_ne_lineBreak_on_line (Nat.le_of_lt inside) first last

/-! ## Motions that always find a character -/

theorem nextChar : e.nextChar.OnCharacter := by
  cases nextChar_cases on.normal with
  | inl stays => rwa [stays.1]
  | inr moves =>
    rw [moves.1]
    exact onCharacter_select on.normal moves.2.1 moves.2.2

theorem prevChar : e.prevChar.OnCharacter := by
  have inside := on.caret_lt_len
  rw [prevChar_of_normal on.normal]
  split
  · exact on
  · next behind =>
    split
    · next pos =>
      obtain ⟨q, caret⟩ := Nat.exists_eq_add_one.mpr pos
      rw [caret] at behind inside ⊢
      exact onCharacter_select on.normal (Nat.lt_of_succ_lt inside) behind
    · exact on

theorem toNextWord : e.toNextWord.OnCharacter := by
  rw [Editor.toNextWord, movingEnd_of_normal on.normal]
  cases word : e.chars.nextWord? e.caret with
  | none => exact on
  | some q =>
    obtain ⟨c, shown, visible⟩ := (Text.isLeast_of_nextWord? word).1.1.visible
    rw [← charAt?_eq] at shown
    simp only [inVisual_of_normal on.normal, Bool.false_eq_true, if_false]
    refine ⟨c, ?_, selectsChar_select on.normal shown⟩
    -- A word begins at a visible character, and a line break is white space.
    rintro rfl
    cases visible

theorem toLineHead : e.toLineHead.OnCharacter := by
  rw [toLineHead_of_normal on.normal]
  have start := e.chars.lineStart_le e.caret
  exact on.select_on_line (Nat.le_refl _) (Nat.lt_of_le_of_lt start on.caret_lt_lineEnd)

theorem toLineTail : e.toLineTail.OnCharacter := by
  rw [toLineTail_of_normal on.normal]
  have start := e.chars.lineStart_le e.caret
  have before := on.caret_lt_lineEnd
  obtain ⟨q, tail⟩ := Nat.exists_eq_add_one.mpr (Nat.zero_lt_of_lt before)
  rw [tail, Nat.add_sub_cancel, Nat.max_eq_left (by omega)]
  exact on.select_on_line (by omega) (by omega)

end OnCharacter

/-- What a motion by a line lands on is a character of that line. -/
theorem LandsOn.onCharacter {cs : Text} (normal : d.modal.mode = .normal)
    (landed : LandsOn cs d.chars d.widget.selection j k) : d.OnCharacter := by
  obtain ⟨above, line, below, here⟩ := Text.exists_lineAt d.chars d.widget.selection.start
  have stop := here.lineEnd_eq
  have first := d.chars.lineStart_le d.widget.selection.start
  have last := landed.within
  have inText := d.chars.lineEnd_le_length d.widget.selection.start
  rw [landed.index] at stop
  rw [landed.stop] at last
  have inside : d.widget.selection.start < d.len := by
    rw [← length_chars]
    omega
  obtain ⟨c, shown⟩ := exists_charAt? inside
  refine ⟨c, ?_, normal, landed.stop, shown⟩
  rintro rfl
  rw [charAt?_eq] at shown
  rw [← length_chars] at inside
  exact Text.getElem?_ne_lineBreak_on_line (Nat.le_of_lt inside) first (by omega) shown

theorem OnCharacter.prevLine (on : e.OnCharacter) : e.prevLine.OnCharacter := by
  obtain ⟨above, line, below, here⟩ := Text.exists_lineAt e.chars e.caret
  cases List.eq_nil_or_concat above with
  | inl first =>
    subst first
    rwa [prevLine_of_first on.normal here]
  | inr concat =>
    obtain ⟨above, prev, rfl⟩ := concat
    rw [List.concat_eq_append] at here
    apply (landsOn_prevLine on.normal here).onCharacter
    rw [prevLine_of_prev on.normal here, modal_land]
    exact on.normal

/-! ## Down -/

theorem linesBelow_eq (here : LineAt e.chars e.caret above line below) : e.linesBelow = below := by
  rw [linesBelow, here.lines, here.index, List.drop_append]
  simp

theorem LandsOn.lineOffset_eq {cs ds : Text} {selection : Selection}
    (landed : LandsOn cs ds selection j k) : ds.lineOffset j = cs.lineOffset j := by
  have before : (cs.lines.take j).length ≤ j := List.length_take_le j cs.lines
  rw [Text.lineOffset, landed.lines, List.take_modify, List.modify_eq_self before, Text.lineOffset]

/-- Landing on the next line leaves one line less below. -/
theorem LandsOn.linesBelow_eq
    (landed : LandsOn e.chars d.chars d.widget.selection (e.chars.lineIndex e.caret + 1) k) :
    d.linesBelow = e.linesBelow.tail := by
  have index : d.chars.lineIndex d.caret = e.chars.lineIndex e.caret + 1 := landed.index
  rw [linesBelow, index, landed.lines, List.drop_modify_of_lt _ _ _ _ (Nat.lt_add_one _),
    linesBelow, List.tail_drop]

/-- A step down onto a line with characters, or onto an empty one that a line break ends. -/
theorem OnCharacter.nextLine {next : Text} (on : e.OnCharacter)
    (here : LineAt e.chars e.caret above line (next :: below)) (seen : next ≠ [] ∨ below ≠ []) :
    e.nextLine.OnCharacter ∧ e.nextLine.linesBelow = below ∧ e.caret < e.nextLine.caret := by
  have landed := landsOn_nextLine on.normal here seen
  rw [← here.index] at landed
  have normal : e.nextLine.modal.mode = .normal := by
    rw [nextLine_of_next on.normal here, modal_land]
    exact on.normal
  refine ⟨landed.onCharacter normal, ?_, ?_⟩
  · rw [landed.linesBelow_eq, Editor.linesBelow_eq here, List.tail_cons]
  · -- The next line begins behind the line break that ends the line of the caret.
    have start : e.nextLine.caret = _ := landed.start
    have before := on.caret_lt_lineEnd
    rw [here.lineEnd_eq] at before
    rw [start, landed.lineOffset_eq, Text.lineOffset_succ here.index_lt]
    omega

/-- An empty last line goes unnoticed: the motion down stops at the line break before it, and stays
    there. -/
theorem nextLine_to_final_break (normal : e.modal.mode = .normal) (below : e.linesBelow = [[]]) :
    e.nextLine.SelectsChar lineBreak ∧ e.nextLine.linesBelow = [[]] := by
  obtain ⟨above, line, below', here⟩ := Text.exists_lineAt e.chars e.caret
  obtain rfl : below' = [[]] := (linesBelow_eq here).symm.trans below
  have length : e.len = (terminated above).length + line.length + 1 := by
    have lines : e.chars.lines = (above ++ [line]) ++ [[]] := by simp [here.lines]
    rw [← length_chars, Text.length_of_last lines]
    simp [Nat.add_assoc]
  have shown : e.charAt? (e.len - 1) = some lineBreak := by
    rw [charAt?_eq, length, Nat.add_sub_cancel]
    exact Text.getElem?_stop here.lines
  have there : LineAt e.chars (e.len - 1) above line [[]] := by
    rw [length, Nat.add_sub_cancel]
    exact Text.lineAt_add here.lines (Nat.le_refl _)
  have selection := selection_select_of_le (Nat.le_succ _) (lt_len_of_charAt? shown)
  have last : e.select (e.len - 1) e.len = e.select (e.len - 1) (e.len - 1 + 1) :=
    congrArg (e.select (e.len - 1)) (by omega)
  rw [nextLine_onto_empty_end normal here, last]
  refine ⟨selectsChar_select normal shown, ?_⟩
  apply linesBelow_eq
  rw [caret_of_selection selection]
  exact there

theorem caret_eq_of_unchanged (same : e.unchanged d = true) : e.caret = d.caret := by
  simp only [unchanged, Bool.and_eq_true, decide_eq_true_eq] at same
  exact congrArg Selection.start same.1.1.1.1

theorem whileChanging_to_final_break (normal : e.modal.mode = .normal)
    (below : e.linesBelow = [[]]) (n : Nat) :
    (whileChanging nextLine (n + 1) e).SelectsChar lineBreak := by
  have arrived := nextLine_to_final_break normal below
  rw [whileChanging]
  split
  · exact arrived.1
  · exact (whileChanging_keeps (P := fun d => d.SelectsChar lineBreak ∧ d.linesBelow = [[]])
      (fun h => nextLine_to_final_break h.1.normal h.2) n arrived).1

theorem reachesEmptyEnd_cons {next : Text} (seen : next ≠ [] ∨ below ≠ []) (n : Nat) :
    ReachesEmptyEnd (next :: below) (n + 1) ↔ ReachesEmptyEnd below n := by
  cases below with
  | nil =>
    have character : next ≠ [] := by simpa using seen
    simp [ReachesEmptyEnd, character]
  | cons l below => simp [ReachesEmptyEnd]

/-- By induction on the count.  Each step down takes one of the lines below, and the count one less,
    until no line or only an empty one is left. -/
theorem OnCharacter.whileChanging_nextLine (on : e.OnCharacter) (n : Nat) :
    OnCharacterUnless (ReachesEmptyEnd e.linesBelow n) (whileChanging Editor.nextLine n e) := by
  induction n generalizing e with
  | zero =>
    refine ⟨fun _ => on, fun reached => ?_⟩
    have none_below := List.eq_nil_of_length_eq_zero (Nat.le_zero.mp reached.2)
    have some_below := reached.1
    rw [none_below] at some_below
    cases some_below
  | succ n ih =>
    obtain ⟨above, line, below, here⟩ := Text.exists_lineAt e.chars e.caret
    cases below with
    | nil =>
      rw [Editor.linesBelow_eq here, whileChanging_of_steady (nextLine_of_last on.normal here)]
      refine ⟨fun _ => on, fun reached => ?_⟩
      cases reached.1
    | cons next below =>
      by_cases final : next = [] ∧ below = []
      · obtain ⟨rfl, rfl⟩ := final
        have reached : ReachesEmptyEnd [[]] (n + 1) := ⟨rfl, Nat.succ_le_succ (Nat.zero_le n)⟩
        have last := Editor.linesBelow_eq here
        rw [last]
        exact ⟨fun missed => absurd reached missed,
          fun _ => whileChanging_to_final_break on.normal last n⟩
      · have seen : next ≠ [] ∨ below ≠ [] := not_and_or.mp final
        obtain ⟨onNext, rest, moved⟩ := on.nextLine here seen
        -- The caret has moved, so the repetition does not end here.
        have changed : ¬e.unchanged e.nextLine = true := fun same =>
          Nat.ne_of_lt moved (caret_eq_of_unchanged same)
        rw [whileChanging, if_neg changed, Editor.linesBelow_eq here, reachesEmptyEnd_cons seen,
          ← rest]
        exact ih onNext

/-! ## To the first and to the last line -/

/-- Where a line begins, its first character is selected, or its line break if it has none. -/
theorem onCharacterUnless_head (normal : e.modal.mode = .normal) (inside : s < e.len)
    (head : e.chars.lineStart s = s) :
    OnCharacterUnless (e.chars.EmptyLine s) (e.select s (s + 1)) := by
  obtain ⟨c, shown⟩ := exists_charAt? inside
  refine ⟨fun nonempty => ?_, fun empty => ?_⟩
  · apply onCharacter_select normal inside
    intro atBreak
    exact nonempty (emptyLine_of_charAt? head atBreak)
  · obtain rfl : c = lineBreak := empty.eq_of_getElem? ((e.charAt?_eq s).symm.trans shown)
    exact selectsChar_select normal shown

theorem OnCharacter.toFirstLine (on : e.OnCharacter) :
    OnCharacterUnless (e.chars.EmptyLine 0) e.toFirstLine := by
  have selected : e.toFirstLine = e.select 0 (0 + 1) := by
    rw [Editor.toFirstLine, inVisual_of_normal on.normal, if_neg Bool.false_ne_true]
  rw [selected]
  exact onCharacterUnless_head on.normal (Nat.zero_lt_of_lt on.caret_lt_len)
    (Nat.le_zero.mp (e.chars.lineStart_le 0))

theorem OnCharacter.toLastLine (on : e.OnCharacter) :
    OnCharacterUnless (e.chars.EmptyLine (e.len - 1)) e.toLastLine := by
  have inside := on.caret_lt_len
  have selected : e.toLastLine =
      e.select (e.chars.lineStart (e.len - 1)) (e.chars.lineStart (e.len - 1) + 1) := by
    simp [Editor.toLastLine, inVisual_of_normal on.normal]
  rw [selected]
  rcases Nat.lt_or_eq_of_le (e.chars.lineStart_le (e.len - 1)) with before | last
  · -- The last position has others of its line before it.
    refine ⟨fun _ => ?_, fun empty => absurd empty.1 (Nat.ne_of_lt before)⟩
    apply onCharacter_select on.normal (by omega)
    rw [charAt?_eq]
    exact Text.getElem?_ne_lineBreak_of_lineStart_le (Nat.le_refl _) before
  · have final : e.len - 1 < e.len := by omega
    rw [last]
    exact onCharacterUnless_head on.normal final last

/-! ## The law -/

/-- A motion puts spaces on empty lines and changes nothing else that is shown. -/
theorem filled_kept (e : Editor) : KeptByMotions fun d d' => d = d' ∧ e.chars.Filled d.chars where
  alike same := same.1 ▸ .refl _
  select same _ _ := ⟨same.1 ▸ rfl, same.2⟩
  withCursor same _ _ := ⟨same.1 ▸ rfl, same.2⟩
  withAnchor same _ _ := ⟨same.1 ▸ rfl, same.2⟩
  fillLine same _ empty := by
    obtain ⟨rfl, filled⟩ := same
    rw [chars_fillLine empty]
    exact ⟨rfl, filled.trans (Text.filled_of_emptyLine empty)⟩

/-- From a selected character every motion leads to a selected character.  Only where it comes to an
    empty line without putting a space there, a line break is selected instead. -/
theorem character_law (on : e.OnCharacter) {action : Action} (motion : action ∈ Action.motions)
    (count : Nat) :
    OnCharacterUnless (e.MissesSpace count action) (e.run action count) ∧
      e.chars.Filled (e.run action count).chars := by
  have filled := ((filled_kept e).run ⟨rfl, .refl _⟩ motion count).2
  refine ⟨⟨?_, ?_⟩, filled⟩
  · intro noticed
    cases action with
    | selectNextChar => exact whileChanging_keeps (P := OnCharacter) (fun on => on.nextChar) _ on
    | selectPrevChar => exact whileChanging_keeps (P := OnCharacter) (fun on => on.prevChar) _ on
    | selectPrevLine => exact whileChanging_keeps (P := OnCharacter) (fun on => on.prevLine) _ on
    | nextWord => exact whileChanging_keeps (P := OnCharacter) (fun on => on.toNextWord) _ on
    | lineHead => exact on.toLineHead
    | lineTail => exact on.toLineTail
    | selectNextLine =>
      exact (on.whileChanging_nextLine _).onCharacter fun reached => noticed (.nextLine reached)
    | firstLine => exact on.toFirstLine.onCharacter fun empty => noticed (.firstLine empty)
    | lastLine => exact on.toLastLine.onCharacter fun empty => noticed (.lastLine empty)
    | _ => exact absurd motion (by decide)
  · intro missed
    cases missed with
    | nextLine reached => exact (on.whileChanging_nextLine _).onLineBreak reached
    | firstLine empty => exact on.toFirstLine.onLineBreak empty
    | lastLine empty => exact on.toLastLine.onLineBreak empty

/-- Down from a text with two empty lines behind it: the first of them gets a space, and the second,
    which is the last line, does not. -/
theorem character_law_down_to_empty_end :
    let e : Editor :=
      { modal := {}
        widget := { Widget.ofText .scalars ['a', lineBreak, lineBreak] with selection := ⟨0, 1⟩ }
        register := {}
        history := .ofLimit 1 }
    e.OnCharacter ∧ .selectNextLine ∈ Action.motions ∧
      (e.run .selectNextLine 1).OnCharacter ∧ (e.run .selectNextLine 2).SelectsChar lineBreak := by
  intro e
  have on : e.OnCharacter := ⟨'a', by decide, rfl, rfl, rfl⟩
  have motion : .selectNextLine ∈ Action.motions := by decide
  refine ⟨on, motion, (character_law on motion 1).1.onCharacter ?_,
    (character_law on motion 2).1.onLineBreak ?_⟩
  · intro missed
    cases missed with
    | nextLine reached => exact absurd reached.2 (by decide)
  · exact .nextLine ⟨by decide, by decide⟩

/-- The text ends in an empty line, and the motion that leads there selects the line break before
    it. -/
theorem not_always_on_character :
    ¬∀ {e : Editor}, e.OnCharacter → ∀ action ∈ Action.motions, ∀ count,
      (e.run action count).OnCharacter := by
  intro kept
  let e : Editor :=
    { modal := {}
      widget := { Widget.ofText .scalars ['a', lineBreak] with selection := ⟨0, 1⟩ }
      register := {}
      history := .ofLimit 1 }
  have on : e.OnCharacter := ⟨'a', by decide, rfl, rfl, rfl⟩
  obtain ⟨c, character, selects⟩ := kept on .selectNextLine (by decide) 1
  have shown : (e.run .selectNextLine 1).charAt? (e.run .selectNextLine 1).caret = some lineBreak :=
    by decide
  rw [selects.shown, Option.some_inj] at shown
  exact character shown

end ModalEdit.Editor
