import ModalEdit.Proofs.Editor.CharWalk
import ModalEdit.Proofs.Editor.Resting
import ModalEdit.Proofs.Text.LineScan
import ModalEdit.Proofs.Widget.Rope

/-! # Where typing begins

Four actions put the caret on its line for typing: before or behind the character under it, at the head
of the line or at its tail.  They only select, so the text and the register stay as they are, and what is
typed next comes into the line at that place (`Typing`).

The place behind the character under the caret is on another line if that character is a line break.
This happens to two of the actions, since the caret can be on a line break (`PassesBreak`).  It is on one
in an empty line, where the motion to the tail leaves it there, and a deletion can leave it on the line
break of another line.  What is typed then comes to the head of the next line (`typing_law`).
-/

namespace ModalEdit

open Text (terminated preceded LineAt)

/-- A text without line breaks that is typed into a line changes that line only. -/
theorem Text.lines_typed {cs ds line : Text} {above below : List Text} {k : Nat}
    (lines : cs.lines = above ++ line :: below) (fits : k ≤ line.length) (whole : lineBreak ∉ ds) :
    Text.lines (cs.take ((terminated above).length + k) ++ ds ++
        cs.drop ((terminated above).length + k)) =
      above ++ (line.take k ++ ds ++ line.drop k) :: below := by
  have unbroken : lineBreak ∉ line :=
    not_mem_of_mem_lines (lines ▸ List.mem_append_right above List.mem_cons_self)
  have whole' : lineBreak ∉ line.take k ++ ds ++ line.drop k := by
    rw [List.mem_append, List.mem_append, not_or, not_or]
    exact ⟨⟨fun member => unbroken (List.mem_of_mem_take member), whole⟩,
      fun member => unbroken (List.mem_of_mem_drop member)⟩
  rw [← lines_exchange lines whole']
  conv_lhs => rw [text_eq_of_lines lines]
  rw [List.take_length_add_append, List.drop_length_add_append, List.take_append_of_le_length fits,
    List.drop_append_of_le_length fits]
  simp only [List.append_assoc]

namespace Editor

variable {d e : Editor} {above below : List Text} {line : Text} {i q : Nat}

/-- Where on the line of a position the actions are to put the caret for typing. -/
inductive TypesAt (cs : Text) (p : Nat) : Action → Nat → Prop
  | insert : TypesAt cs p .insert p
  | insertAtLineHead : TypesAt cs p .insertAtLineHead (cs.lineStart p)
  | append : TypesAt cs p .append (min (p + 1) (cs.lineEnd p))
  | appendAtLineTail : TypesAt cs p .appendAtLineTail (cs.lineEnd p)

/-- The caret is on a line break and moves behind it. -/
inductive PassesBreak (e : Editor) : Action → Prop
  | append (onBreak : e.charAt? e.caret = some lineBreak) : PassesBreak e .append
  | appendAtLineTail (empty : e.chars.EmptyLine e.caret)
      (onBreak : e.charAt? e.caret = some lineBreak) : PassesBreak e .appendAtLineTail

/-- What is left alone where something else is selected. -/
structure Unedited (e d : Editor) : Prop where
  segmentation_eq : d.widget.segmentation = e.widget.segmentation
  text_eq : d.widget.text = e.widget.text
  register_eq : d.register = e.register

/-- The caret is at a place of a line, and what is typed next changes that line there. -/
structure Typing (e d : Editor) (i q : Nat) : Prop extends Unedited e d where
  selection : d.widget.selection = ⟨q, q⟩
  typed : ∀ cs, lineBreak ∉ cs →
    (d.widget.typeOver cs).text.lines = e.widget.text.lines.modify i fun l =>
      l.take (q - e.widget.text.lineOffset i) ++ cs ++ l.drop (q - e.widget.text.lineOffset i)

/-- To select a place of a line is to type there. -/
theorem typing_select (rope : e.widget.segmentation = .scalars) (same : Unedited e d)
    (lines : e.widget.text.lines = above ++ line :: below)
    (first : (terminated above).length ≤ q) (last : q ≤ (terminated above).length + line.length) :
    Typing e (d.select q q) above.length q := by
  have inText := Text.line_le_length lines
  have rope' : d.widget.segmentation = .scalars := same.segmentation_eq.trans rope
  have length : d.len = e.widget.text.length := by
    rw [← same.text_eq]
    exact Widget.len_of_scalars rope'
  have inside : q ≤ d.len := by omega
  have selection : (d.select q q).widget.selection = ⟨q, q⟩ :=
    selection_select_of_le (Nat.le_refl q) inside
  refine ⟨⟨same.segmentation_eq, same.text_eq, same.register_eq⟩, selection, fun cs whole => ?_⟩
  have inserted : ((d.select q q).widget.typeOver cs).text =
      d.widget.text.take q ++ cs ++ d.widget.text.drop q :=
    (Widget.typeOver_of_scalars (w := (d.select q q).widget) rope' selection (Nat.le_refl q) inside cs).2.1
  obtain ⟨k, rfl⟩ := Nat.exists_eq_add_of_le first
  rw [inserted, same.text_eq, Text.lines_typed lines (Nat.le_of_add_le_add_left last) whole,
    Text.lineOffset_of_lines lines, Nat.add_sub_cancel_left, lines,
    List.modify_eq_take_cons_drop (by simp)]
  simp

/-- A place beyond the end of the text is its end. -/
theorem select_min (d : Editor) (a : Nat) : d.select a a = d.select (min a d.len) (min a d.len) := by
  have selection : Selection.between a a d.len =
      Selection.between (min a d.len) (min a d.len) d.len := by
    simp only [Selection.between, Selection.mk.injEq]
    omega
  exact congrArg (fun s => { d with widget := { d.widget with selection := s }.focus }) selection

/-! ## The four actions -/

section Actions

variable (rope : e.widget.segmentation = .scalars) (inside : e.caret ≤ e.len)
  (here : LineAt e.widget.text e.caret above line below)

include rope inside here

theorem bounds_caret :
    (terminated above).length ≤ e.caret ∧
      e.caret ≤ (terminated above).length + line.length ∧
      (terminated above).length + line.length ≤ e.len := by
  have length : e.len = e.widget.text.length := Widget.len_of_scalars rope
  rw [length] at inside ⊢
  rw [← here.stop, ← here.start]
  exact ⟨Text.lineStart_le _ _, Text.le_lineEnd inside, Text.lineEnd_le_length _ _⟩

/-- The caret is on a line break if it is at the end of a line that is not the last one. -/
theorem charAt?_caret_iff :
    e.charAt? e.caret = some lineBreak ↔
      e.caret = (terminated above).length + line.length ∧ e.caret < e.len := by
  have length : e.len = e.widget.text.length := Widget.len_of_scalars rope
  rw [length] at inside ⊢
  rw [charAt?, Widget.charAt?_of_scalars rope, ← here.stop]
  constructor
  · intro onBreak
    refine ⟨?_, (List.getElem?_eq_some_iff.mp onBreak).1⟩
    exact (Text.stops_iff_eq_lineEnd inside (Text.lineStart_le _ _) (Text.le_lineEnd inside)).mp
      (.inl onBreak)
  · rintro ⟨last, before⟩
    have stop := Text.getElem?_lineEnd inside (last ▸ before)
    rwa [← last] at stop

/-- Behind a line break under the caret the next line begins. -/
theorem typing_behind_break (onBreak : e.charAt? e.caret = some lineBreak) (same : Unedited e d) :
    Typing e (d.select (e.caret + 1) (e.caret + 1)) (above.length + 1)
      (e.widget.text.lineOffset (above.length + 1)) := by
  obtain ⟨last, before⟩ := (charAt?_caret_iff rope inside here).mp onBreak
  cases below with
  | nil =>
    have stop := here.lineEnd_of_last
    rw [here.stop, ← last, ← Widget.len_of_scalars rope] at stop
    exact absurd stop (Nat.ne_of_lt before)
  | cons next below =>
    have lines : e.widget.text.lines = (above ++ [line]) ++ next :: below := by simp [here.lines]
    have start : (terminated (above ++ [line])).length = e.caret + 1 := by
      rw [last]
      simp [Nat.add_assoc]
    have index : (above ++ [line]).length = above.length + 1 := by simp
    have offset := Text.lineOffset_of_lines lines
    rw [index, start] at offset
    rw [offset, ← index]
    exact typing_select rope same lines (Nat.le_of_eq start) (start ▸ Nat.le_add_right _ _)

/-- Behind a character under the caret, or at the end of the text. -/
theorem typing_behind_caret (other : e.charAt? e.caret ≠ some lineBreak) :
    Typing e e.append above.length (min (e.caret + 1) (e.widget.text.lineEnd e.caret)) := by
  obtain ⟨first, last, fits⟩ := bounds_caret rope inside here
  rw [ne_eq, charAt?_caret_iff rope inside here, not_and] at other
  have place : min (e.caret + 1) e.len =
      min (e.caret + 1) ((terminated above).length + line.length) := by omega
  rw [append, select_min, place, here.stop]
  exact typing_select rope ⟨rfl, rfl, rfl⟩ here.lines (by omega) (Nat.min_le_right _ _)

theorem emptyLine_caret_iff : e.chars.EmptyLine e.caret ↔ line = [] := by
  obtain ⟨first, last, fits⟩ := bounds_caret rope inside here
  rw [chars, Widget.chars_eq_text rope, Text.EmptyLine, here.lineLength_eq, here.start,
    List.length_eq_zero_iff]
  constructor
  · exact fun empty => empty.2
  · rintro rfl
    rw [List.length_nil] at last
    exact ⟨by omega, rfl⟩

variable (normal : e.modal.mode = .normal)

include normal

theorem typing_at_head :
    Typing e e.toLineHead.insert above.length (e.widget.text.lineStart e.caret) := by
  obtain ⟨first, last, fits⟩ := bounds_caret rope inside here
  rw [toLineHead_of_normal normal, chars, Widget.chars_eq_text rope, here.start, insert,
    caret_select (Nat.le_succ _) (by omega)]
  exact typing_select rope ⟨rfl, rfl, rfl⟩ here.lines (Nat.le_refl _) (Nat.le_add_right _ _)

/-- The motion to the tail of a line stays on its last character, or in an empty line. -/
theorem caret_toLineTail :
    e.toLineTail.caret =
      max ((terminated above).length + line.length - 1) (terminated above).length := by
  obtain ⟨first, last, fits⟩ := bounds_caret rope inside here
  rw [toLineTail_of_normal normal, chars, Widget.chars_eq_text rope, here.start, here.stop]
  exact caret_select (by omega) (by omega)

/-- Behind the last character, or at the end of the text. -/
theorem typing_at_tail (other : e.chars.EmptyLine e.caret → e.charAt? e.caret ≠ some lineBreak) :
    Typing e e.toLineTail.append above.length (e.widget.text.lineEnd e.caret) := by
  obtain ⟨first, last, fits⟩ := bounds_caret rope inside here
  rw [emptyLine_caret_iff rope inside here, ne_eq, charAt?_caret_iff rope inside here,
    ← List.length_eq_zero_iff] at other
  have place : min (max ((terminated above).length + line.length - 1) (terminated above).length + 1)
      e.len = (terminated above).length + line.length := by omega
  have len : e.toLineTail.len = e.len := by
    rw [toLineTail_of_normal normal]
    rfl
  rw [append, caret_toLineTail rope inside here normal, select_min, len, place, here.stop,
    toLineTail_of_normal normal]
  exact typing_select rope ⟨rfl, rfl, rfl⟩ here.lines (Nat.le_add_right _ _) (Nat.le_refl _)

/-- The motion to the tail of an empty line leaves the caret on its line break. -/
theorem typing_from_empty_line (empty : e.chars.EmptyLine e.caret)
    (onBreak : e.charAt? e.caret = some lineBreak) :
    Typing e e.toLineTail.append (above.length + 1)
      (e.widget.text.lineOffset (above.length + 1)) := by
  have last := ((charAt?_caret_iff rope inside here).mp onBreak).1
  have tail := caret_toLineTail rope inside here normal
  rw [(emptyLine_caret_iff rope inside here).mp empty, List.length_nil, Nat.add_zero] at last tail
  rw [Nat.max_eq_right (Nat.sub_le _ _), ← last] at tail
  rw [append, tail, toLineTail_of_normal normal]
  exact typing_behind_break rope inside here onBreak ⟨rfl, rfl, rfl⟩

end Actions

/-! ## The law -/

/-- Typing begins at the place that the action stands for, on the line of the caret, unless the caret
    passes a line break.  Then it begins at the head of the next line. -/
theorem typing_law (rope : e.widget.segmentation = .scalars) (normal : e.modal.mode = .normal)
    (inside : e.caret ≤ e.len) {action : Action}
    (place : TypesAt e.widget.text e.caret action q) (count : Nat) :
    let i := e.widget.text.lineIndex e.caret
    (¬e.PassesBreak action → Typing e (e.run action count) i q) ∧
      (e.PassesBreak action →
        Typing e (e.run action count) (i + 1) (e.widget.text.lineOffset (i + 1))) := by
  intro i
  obtain ⟨above, line, below, here⟩ := Text.exists_lineAt e.widget.text e.caret
  obtain ⟨first, last, fits⟩ := bounds_caret rope inside here
  have chars_eq : e.chars = e.widget.text := Widget.chars_eq_text rope
  have onBreak_iff := charAt?_caret_iff rope inside here
  have index : i = above.length := here.index
  rw [index]
  cases place with
  | insert =>
    refine ⟨fun _ => typing_select rope ⟨rfl, rfl, rfl⟩ here.lines first last, fun passes => ?_⟩
    cases passes
  | insertAtLineHead =>
    refine ⟨fun _ => typing_at_head rope inside here normal, fun passes => ?_⟩
    cases passes
  | append =>
    refine ⟨fun stays => ?_, fun passes => ?_⟩
    · exact typing_behind_caret rope inside here fun onBreak => stays (.append onBreak)
    · cases passes with
      | append onBreak => exact typing_behind_break rope inside here onBreak ⟨rfl, rfl, rfl⟩
  | appendAtLineTail =>
    refine ⟨fun stays => ?_, fun passes => ?_⟩
    · exact typing_at_tail rope inside here normal
        fun empty onBreak => stays (.appendAtLineTail empty onBreak)
    · cases passes with
      | appendAtLineTail empty onBreak =>
        exact typing_from_empty_line rope inside here normal empty onBreak

/-- On the second of three lines, which is empty: inserting types there, and appending types at the head
    of the third. -/
theorem typing_law_on_empty_line :
    let e : Editor :=
      { modal := {}
        widget := { Widget.ofText .scalars ['a', lineBreak, lineBreak, 'b'] with
          selection := ⟨2, 3⟩ }
        register := {}
        history := .ofLimit 1 }
    e.widget.segmentation = .scalars ∧ e.modal.mode = .normal ∧ e.caret ≤ e.len ∧
      TypesAt e.widget.text e.caret .insert 2 ∧
      TypesAt e.widget.text e.caret .appendAtLineTail 2 ∧
      ((e.run .insert 1).widget.typeOver ['x', 'y']).text.lines = [['a'], ['x', 'y'], ['b']] ∧
      ((e.run .appendAtLineTail 1).widget.typeOver ['x', 'y']).text.lines =
        [['a'], [], ['x', 'y', 'b']] := by
  intro e
  have rope : e.widget.segmentation = .scalars := rfl
  have normal : e.modal.mode = .normal := rfl
  have inside : e.caret ≤ e.len := by decide
  have before : TypesAt e.widget.text e.caret .insert 2 := .insert
  have behind : TypesAt e.widget.text e.caret .appendAtLineTail 2 := .appendAtLineTail
  have stays : ¬e.PassesBreak .insert := by
    intro passes
    cases passes
  have passes : e.PassesBreak .appendAtLineTail := .appendAtLineTail (by decide) (by decide)
  have inserted := (typing_law rope normal inside before 1).1 stays
  have appended := (typing_law rope normal inside behind 1).2 passes
  exact ⟨rope, normal, inside, before, behind,
    (inserted.typed ['x', 'y'] (by decide)).trans (by decide),
    (appended.typed ['x', 'y'] (by decide)).trans (by decide)⟩

/-- In an empty line, appending puts the caret behind the line break. -/
theorem not_always_typing_on_line :
    ¬∀ {e : Editor} {action : Action} {q : Nat}, e.widget.segmentation = .scalars →
      e.modal.mode = .normal → e.caret ≤ e.len → TypesAt e.widget.text e.caret action q →
      (e.run action 1).widget.selection = ⟨q, q⟩ := by
  intro typing
  let e : Editor :=
    { modal := {}
      widget := { Widget.ofText .scalars ['a', lineBreak, lineBreak, 'b'] with
        selection := ⟨2, 3⟩ }
      register := {}
      history := .ofLimit 1 }
  have place : TypesAt e.widget.text e.caret .appendAtLineTail 2 := .appendAtLineTail
  have selected := typing (e := e) rfl rfl (by decide) place
  exact absurd selected (by decide)

end Editor

end ModalEdit
