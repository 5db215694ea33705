import ModalEdit.Proofs.Editor.CharWalk
import ModalEdit.Proofs.Editor.Saved
import ModalEdit.Proofs.Widget.FilledLine

/-! # The resting caret

Normal mode shows its caret as one selected character, which is no line break.  Both ways of
coming to rest in it lead to such a state from wherever the caret is (`rest_law`): the return from
another mode, which steps forward and back to find a character, and the placing of the caret by a
pointer.  Only an empty line has no character to rest on, and gets a space.
-/

namespace ModalEdit

/-- Normal mode without remains of a visual selection. -/
structure ModalState.Idle (s : ModalState) : Prop where
  mode_eq : s.mode = .normal
  anchor_eq : s.anchor = none
  cursor_eq : s.cursor = none

theorem ModalState.idle_switchMode (s : ModalState) : (s.switchMode .normal).Idle := by
  rw [switchMode_of_ne_visual s (by decide)]
  exact ⟨rfl, rfl, rfl⟩

namespace Editor

/-- The editor shows a text in normal mode with one character selected, which is no line break. -/
structure RestsOn (cs : Text) (d : Editor) : Prop where
  idle : d.modal.Idle
  text_eq : d.widget.text = cs
  selected : ∃ s, d.widget.selection = ⟨s, s + 1⟩ ∧ s < d.len ∧ d.charAt? s ≠ some lineBreak

/-- The text in which a caret comes to rest: an empty line at the caret gets a space. -/
def restingText (e : Editor) : Text :=
  if e.chars.EmptyLine e.caret then e.widget.slice 0 e.caret ++ ' ' :: e.widget.slice e.caret e.len
  else e.widget.text

variable {e d : Editor}

/-! ## Motions in normal mode -/

theorem charAt?_eq (d : Editor) (p : Nat) : d.charAt? p = d.chars[p]? := Widget.charAt?_eq _ _

theorem lt_len_of_charAt? {p : Nat} {c : Char} (shown : d.charAt? p = some c) : p < d.len := by
  rw [charAt?_eq] at shown
  rw [← length_chars]
  exact (List.getElem?_eq_some_iff.mp shown).1

theorem charBefore?_eq (d : Editor) (p : Nat) : d.charBefore? p = d.chars.before? p := by
  cases p with
  | zero => rfl
  | succ p => exact d.charAt?_eq p

theorem caret_select {a b : Nat} (hab : a ≤ b) (ha : a ≤ d.len) : (d.select a b).caret = a := by
  show min (min a b) d.len = a
  rw [Nat.min_eq_left hab, Nat.min_eq_left ha]

theorem charBefore?_caret_iff (hp : d.caret ≤ d.len) :
    d.charBefore? d.caret = some lineBreak ↔
      d.caret = d.chars.lineStart d.caret ∧ 0 < d.caret := by
  rw [← length_chars] at hp
  rw [charBefore?_eq]
  exact Text.before?_eq_lineBreak_iff hp (Text.lineStart_le _ _) (Text.le_lineEnd hp)

theorem eq_lineEnd_of_stop {q : Nat} (hp : d.caret ≤ d.len)
    (first : d.chars.lineStart d.caret ≤ q) (last : q ≤ d.chars.lineEnd d.caret)
    (stop : ∀ c, d.charAt? q = some c → c = lineBreak) : q = d.chars.lineEnd d.caret := by
  rw [← length_chars] at hp
  rw [← Text.stops_iff_eq_lineEnd hp first last]
  cases here : d.chars[q]? with
  | none => exact .inr (Nat.lt_succ_of_le (List.getElem?_eq_none_iff.mp here))
  | some c => exact .inl (by rw [stop c ((d.charAt?_eq q).trans here)])

section Normal

variable (normal : d.modal.mode = .normal)

include normal

theorem inVisual_of_normal : d.inVisual = false := by simp [inVisual, normal]

theorem movingEnd_of_normal : d.movingEnd = d.caret := by
  cases cursor : d.modal.cursor with
  | none => exact movingEnd_of_none cursor
  | some p => simp [movingEnd, cursor, inVisual_of_normal normal]

theorem prevChar_of_normal :
    d.prevChar =
      if d.charBefore? d.caret = some lineBreak then d
      else if 0 < d.caret then d.select (d.caret - 1) d.caret else d := by
  simp [prevChar, inVisual_of_normal normal, movingEnd_of_normal normal]

theorem modal_prevChar_of_normal : d.prevChar.modal = d.modal := by
  rw [prevChar_of_normal normal]
  split
  · rfl
  · split
    · rfl
    · rfl

theorem toLineHead_of_normal :
    d.toLineHead = d.select (d.chars.lineStart d.caret) (d.chars.lineStart d.caret + 1) := by
  rw [toLineHead, inVisual_of_normal normal, if_neg Bool.false_ne_true]

theorem toLineTail_of_normal :
    d.toLineTail =
      d.select (max (d.chars.lineEnd d.caret - 1) (d.chars.lineStart d.caret))
        (d.chars.lineEnd d.caret) := by
  rw [toLineTail, inVisual_of_normal normal, if_neg Bool.false_ne_true]

/-- A step forward either stays, because there is no other character behind on the line, or
    selects the next one. -/
theorem nextChar_cases :
    (d.nextChar = d ∧ ∀ c, d.charAt? (d.caret + 1) = some c → c = lineBreak) ∨
      (d.nextChar = d.select (d.caret + 1) (d.caret + 2) ∧ d.caret + 1 < d.len ∧
        d.charAt? (d.caret + 1) ≠ some lineBreak) := by
  rw [nextChar, inVisual_of_normal normal, if_neg Bool.false_ne_true, nextCharNormal,
    movingEnd_of_normal normal]
  cases following : d.charAt? (d.caret + 1) with
  | none =>
    refine .inl ⟨rfl, fun c same => ?_⟩
    cases same
  | some c =>
    by_cases hbreak : c = lineBreak
    · subst hbreak
      exact .inl ⟨rfl, fun c same => (Option.some.inj same).symm⟩
    · refine .inr ⟨if_neg hbreak, lt_len_of_charAt? following, ?_⟩
      rw [ne_eq, Option.some_inj]
      exact hbreak

end Normal

section Idle

variable (idle : d.modal.Idle)

include idle

theorem prevChar_of_head (hp : d.caret ≤ d.len) (head : d.chars.lineStart d.caret = d.caret) :
    d.prevChar = d := by
  rw [prevChar_of_normal idle.mode_eq]
  split
  · rfl
  · next behind =>
    rw [charBefore?_caret_iff hp] at behind
    rw [if_neg (by omega)]

/-- From the next character a step back returns, but not over a line break. -/
theorem prevChar_select_next (next : d.caret + 1 < d.len) :
    (d.select (d.caret + 1) (d.caret + 2)).prevChar =
      if d.charAt? d.caret = some lineBreak then d.select (d.caret + 1) (d.caret + 2)
      else (d.select (d.caret + 1) (d.caret + 2)).select d.caret (d.caret + 1) := by
  have idle' : (d.select (d.caret + 1) (d.caret + 2)).modal.Idle := idle
  rw [prevChar_of_normal idle'.mode_eq, caret_select (Nat.le_succ _) (Nat.le_of_lt next),
    if_pos (Nat.succ_pos _)]
  rfl

theorem modal_nextChar_of_idle : d.nextChar.modal = d.modal := by
  rcases nextChar_cases idle.mode_eq with ⟨stays, _⟩ | ⟨moves, _⟩
  · rw [stays]
  · rw [moves]
    rfl

theorem modal_prevChar_of_idle : d.prevChar.modal = d.modal :=
  modal_prevChar_of_normal idle.mode_eq

theorem modal_nextChar_prevChar_of_idle : d.nextChar.prevChar.modal = d.modal := by
  have moved := modal_nextChar_of_idle idle
  rw [modal_prevChar_of_idle (moved ▸ idle), moved]

/-! ## Coming to rest -/

theorem rests_select {s : Nat} (inside : s < d.len) (character : d.charAt? s ≠ some lineBreak) :
    RestsOn d.widget.text (d.select s (s + 1)) :=
  ⟨idle, rfl, s, selection_select_of_le (Nat.le_succ s) inside, inside, character⟩

/-- Behind another character of the line a step back comes to rest on that one. -/
theorem rests_prevChar (hp : d.caret ≤ d.len) (behind : d.charBefore? d.caret ≠ some lineBreak)
    (pos : 0 < d.caret) : RestsOn d.widget.text d.prevChar := by
  rw [prevChar_of_normal idle.mode_eq, if_neg behind, if_pos pos]
  obtain ⟨q, caret⟩ := Nat.exists_eq_add_one.mpr pos
  rw [caret] at hp behind ⊢
  exact rests_select idle hp behind

/-- Inside a line a step forward and a step back come to rest on the character under the caret or
    on one beside it. -/
theorem rests_nextChar_prevChar (hp : d.caret ≤ d.len)
    (behind : d.charBefore? d.caret ≠ some lineBreak) (pos : 0 < d.caret) :
    RestsOn d.widget.text d.nextChar.prevChar := by
  rcases nextChar_cases idle.mode_eq with ⟨stays, _⟩ | ⟨moves, inside, character⟩
  · rw [stays]
    exact rests_prevChar idle hp behind pos
  · rw [moves, prevChar_select_next idle inside]
    split
    · exact rests_select idle inside character
    · next onCharacter =>
      exact rests_select (d := d.select _ _) idle (Nat.lt_of_succ_lt inside) onCharacter

/-- From the first character of a line a step forward and a step back lead to it again, unless it
    is the only one; then neither is taken. -/
theorem rests_from_head (inside : d.caret < d.chars.lineEnd d.caret)
    (head : d.chars.lineStart d.caret = d.caret) :
    RestsOn d.widget.text
      (if d.nextChar.prevChar.chars.lineLength d.caret = 1 then
        d.nextChar.prevChar.select d.caret (d.caret + 1)
      else d.nextChar.prevChar) := by
  have inText := d.chars.lineEnd_le_length d.caret
  have hp : d.caret ≤ d.chars.length := by omega
  have room : d.caret < d.len := by
    rw [← length_chars]
    omega
  have character : d.charAt? d.caret ≠ some lineBreak := by
    rw [charAt?_eq]
    exact Text.getElem?_ne_lineBreak_on_line hp (Nat.le_of_eq head) inside
  rcases nextChar_cases idle.mode_eq with ⟨stays, stop⟩ | ⟨moves, next, _⟩
  · have last := eq_lineEnd_of_stop (Nat.le_of_lt room) (by omega) inside stop
    have alone : d.chars.lineLength d.caret = 1 := by
      rw [Text.lineLength, head]
      omega
    rw [stays, prevChar_of_head idle (Nat.le_of_lt room) head, if_pos alone]
    exact rests_select idle room character
  · rw [moves, prevChar_select_next idle next, if_neg character]
    split
    · exact rests_select (d := (d.select _ _).select _ _) idle room character
    · exact rests_select (d := d.select _ _) idle room character

/-- Behind the last character of a line the caret rests on that one. -/
theorem rests_at_end (hp : d.caret ≤ d.len) (nonempty : ¬d.chars.EmptyLine d.caret)
    (stop : ∀ c, d.charAt? d.caret = some c → c = lineBreak) :
    RestsOn d.widget.text (d.select (d.caret - 1) d.caret) := by
  have first := d.chars.lineStart_le d.caret
  have last := eq_lineEnd_of_stop hp first (Text.le_lineEnd (by rwa [length_chars])) stop
  have behind : d.chars.lineStart d.caret < d.caret := by
    apply Nat.lt_of_le_of_ne first
    intro head
    exact nonempty ⟨head, by rw [Text.lineLength, head]; omega⟩
  obtain ⟨q, caret⟩ := Nat.exists_eq_add_one.mpr (Nat.lt_of_le_of_lt (Nat.zero_le _) behind)
  rw [caret] at hp behind ⊢
  apply rests_select idle hp
  rw [charAt?_eq]
  exact Text.getElem?_ne_lineBreak_of_lineStart_le (Nat.le_of_lt_succ behind) (Nat.lt_succ_self q)

end Idle

/-! ## Filling an empty line -/

section Fill

variable {p : Nat} (empty : d.chars.EmptyLine p)

include empty

theorem le_len_of_emptyLine : p ≤ d.len := d.length_chars ▸ empty.le_length

theorem length_take_of_emptyLine : (d.chars.take p).length = p := by
  rw [List.length_take, Nat.min_eq_left empty.le_length]

theorem chars_fillLine : (d.fillLine p).chars = d.chars.take p ++ ' ' :: d.chars.drop p :=
  Widget.chars_fill empty (le_len_of_emptyLine empty)

theorem len_fillLine : (d.fillLine p).len = d.len + 1 := by
  have inside := empty.le_length
  rw [← length_chars, ← length_chars, chars_fillLine empty, List.length_append, List.length_take,
    List.length_cons, List.length_drop]
  omega

theorem selection_fillLine : (d.fillLine p).widget.selection = ⟨p, p + 1⟩ :=
  Widget.selection_fill empty (le_len_of_emptyLine empty)

end Fill

section FillAtCaret

variable (idle : d.modal.Idle) (empty : d.chars.EmptyLine d.caret)

include empty

theorem caret_fillLine : (d.fillLine d.caret).caret = d.caret :=
  caret_of_selection (selection_fillLine empty)

theorem space_of_fillLine :
    d.caret < (d.fillLine d.caret).len ∧ (d.fillLine d.caret).charAt? d.caret = some ' ' := by
  have taken := length_take_of_emptyLine empty
  have there : (d.fillLine d.caret).chars[d.caret]? = some ' ' := by
    rw [chars_fillLine empty, List.getElem?_append_right (Nat.le_of_eq taken), taken,
      Nat.sub_self]
    rfl
  rw [charAt?_eq, ← length_chars]
  exact ⟨(List.getElem?_eq_some_iff.mp there).1, there⟩

/-- The space stands where the break of the empty line stood, and the break behind it. -/
theorem charAt?_succ_fillLine :
    (d.fillLine d.caret).charAt? (d.caret + 1) = d.charAt? d.caret := by
  have taken := length_take_of_emptyLine empty
  rw [charAt?_eq, charAt?_eq, chars_fillLine empty,
    List.getElem?_append_right (by omega), taken, Nat.add_sub_cancel_left,
    List.getElem?_cons_succ, List.getElem?_drop, Nat.add_zero]

theorem charBefore?_fillLine :
    (d.fillLine d.caret).charBefore? d.caret = d.charBefore? d.caret := by
  have taken := length_take_of_emptyLine empty
  rw [charBefore?_eq, charBefore?_eq, chars_fillLine empty]
  generalize d.caret = p at taken
  cases p with
  | zero => rfl
  | succ q =>
    rw [Text.before?, Text.before?, List.getElem?_append_left (by omega),
      List.getElem?_take_of_lt (Nat.lt_succ_self q)]

include idle

theorem rests_fillLine : RestsOn d.restingText (d.fillLine d.caret) := by
  obtain ⟨inside, space⟩ := space_of_fillLine empty
  refine ⟨idle, ?_, d.caret, selection_fillLine empty, inside, ?_⟩
  · rw [restingText, if_pos empty]
    exact Widget.text_fill (le_len_of_emptyLine empty)
  · rw [space]
    decide

theorem rests_select_fillLine :
    RestsOn d.restingText ((d.fillLine d.caret).select d.caret (d.caret + 1)) := by
  have filled := rests_fillLine idle empty
  obtain ⟨inside, space⟩ := space_of_fillLine empty
  rw [← filled.text_eq]
  apply rests_select filled.idle inside
  rw [space]
  decide

/-- On a line that was empty neither step is taken: the space has a break on either side, or an
    end of the text. -/
theorem nextChar_prevChar_fillLine :
    (d.fillLine d.caret).nextChar.prevChar = d.fillLine d.caret := by
  have idle' : (d.fillLine d.caret).modal.Idle := idle
  have caret := caret_fillLine empty
  rcases nextChar_cases idle'.mode_eq with ⟨stays, _⟩ | ⟨_, next, character⟩
  · rw [stays, prevChar_of_normal idle'.mode_eq, caret]
    split
    · rfl
    · next unbroken =>
      rw [charBefore?_fillLine empty,
        charBefore?_caret_iff (le_len_of_emptyLine empty)] at unbroken
      exact if_neg fun pos => unbroken ⟨empty.1.symm, pos⟩
  · have following : (d.fillLine d.caret).charAt? (d.caret + 1) = d.chars[d.caret]? := by
      rw [charAt?_succ_fillLine empty, charAt?_eq]
    rw [caret, following] at character
    rw [caret, ← length_chars] at next
    have here : d.chars[d.caret]? = some (d.fillLine d.caret).chars[d.caret + 1] := by
      rw [← following, charAt?_eq]
      exact List.getElem?_eq_getElem next
    rw [here, empty.eq_of_getElem? here] at character
    exact absurd rfl character

end FillAtCaret

/-! ## The law -/

theorem restingText_switchMode (e : Editor) (m : Mode) :
    (e.switchMode m).restingText = e.restingText := by
  unfold restingText chars caret len
  rw [widget_switchMode]

theorem idle_switchMode (e : Editor) : (e.switchMode .normal).modal.Idle := by
  rw [modal_switchMode]
  exact e.modal.idle_switchMode

theorem caret_le_len_switchMode (hp : e.caret ≤ e.len) (m : Mode) :
    (e.switchMode m).caret ≤ (e.switchMode m).len := by
  simpa only [caret, len, widget_switchMode] using hp

theorem restingText_of_not_emptyLine (nonempty : ¬e.chars.EmptyLine e.caret) :
    e.restingText = e.widget.text := by
  rw [restingText, if_neg nonempty]

/-- The return from another mode comes to rest. -/
theorem rests_toNormal (ne : e.modal.mode ≠ .normal) (hp : e.caret ≤ e.len) :
    RestsOn e.restingText e.toNormal := by
  have idle := e.idle_switchMode
  have hp := caret_le_len_switchMode hp .normal
  rw [← restingText_switchMode e .normal, toNormal, if_neg ne]
  dsimp only
  generalize e.switchMode .normal = d at idle hp
  have inText : d.caret ≤ d.chars.length := by rwa [length_chars]
  have first := d.chars.lineStart_le d.caret
  have last := Text.le_lineEnd inText
  -- Only a caret that is first on its line can stand on an empty one.
  by_cases head : d.caret = d.chars.lineStart d.caret
  · rw [if_neg (not_not_intro head)]
    by_cases length : d.chars.lineLength d.caret = 0
    · have empty : d.chars.EmptyLine d.caret := ⟨head.symm, length⟩
      rw [if_pos length, nextChar_prevChar_fillLine idle empty]
      split
      · exact rests_select_fillLine idle empty
      · exact rests_fillLine idle empty
    · rw [if_neg length, restingText_of_not_emptyLine (fun empty => length empty.2)]
      rw [Text.lineLength] at length
      exact rests_from_head idle (by omega) head.symm
  · have behind : d.charBefore? d.caret ≠ some lineBreak := by
      rw [ne_eq, charBefore?_caret_iff hp]
      rintro ⟨same, _⟩
      exact head same
    have pos : 0 < d.caret := by omega
    rw [if_pos head, restingText_of_not_emptyLine (fun empty => head empty.1.symm)]
    split
    · exact rests_nextChar_prevChar idle hp behind pos
    · exact rests_prevChar idle hp behind pos

/-- A caret that is placed comes to rest, in whatever mode the editor was. -/
theorem rests_placeCaret (hp : e.caret ≤ e.len) : RestsOn e.restingText e.placeCaret := by
  have idle := e.idle_switchMode
  have hp := caret_le_len_switchMode hp .normal
  rw [← restingText_switchMode e .normal, placeCaret]
  generalize e.switchMode .normal = d at idle hp
  by_cases empty : d.chars.EmptyLine d.caret
  · rw [if_pos ⟨empty.1.symm, empty.2⟩]
    exact rests_select_fillLine idle empty
  · rw [if_neg (fun same => empty ⟨same.1.symm, same.2⟩), restingText_of_not_emptyLine empty]
    cases here : d.charAt? d.caret with
    | none =>
      apply rests_at_end idle hp empty
      rintro c same
      cases here.symm.trans same
    | some c =>
      dsimp only
      split
      · next hbreak =>
        apply rests_at_end idle hp empty
        rintro c' same
        rw [← Option.some.inj (here.symm.trans same), hbreak]
      · next character =>
        apply rests_select idle (lt_len_of_charAt? here)
        rw [here, ne_eq, Option.some_inj]
        exact character

/-- Coming to rest takes nothing from a modal state but what changing the mode takes. -/
theorem modal_toNormal (e : Editor) :
    e.toNormal.modal =
      if e.modal.mode = .normal then e.modal else e.modal.switchMode .normal := by
  have idle := e.idle_switchMode
  rw [toNormal]
  split
  · rfl
  · rw [← modal_switchMode]
    dsimp only
    generalize e.switchMode .normal = d at idle
    split
    · split
      · exact modal_nextChar_prevChar_of_idle idle
      · exact modal_prevChar_of_idle idle
    · have filled : (if d.chars.lineLength d.caret = 0 then d.fillLine d.caret else d).modal =
          d.modal := by
        split
        · rfl
        · rfl
      generalize (if d.chars.lineLength d.caret = 0 then d.fillLine d.caret else d) = f at filled
      have idle' : f.modal.Idle := by rwa [filled]
      rw [← filled]
      split
      · exact modal_nextChar_prevChar_of_idle idle'
      · exact modal_nextChar_prevChar_of_idle idle'

theorem modal_placeCaret (e : Editor) : e.placeCaret.modal = e.modal.switchMode .normal := by
  rw [← modal_switchMode, placeCaret]
  split
  · rfl
  · split
    · rfl
    · split
      · rfl
      · rfl

/-- With the caret anywhere in the text, leaving another mode for normal mode comes to rest on a
    character, and so does placing the caret.  The text stays as it is, but for a space on an empty
    line.  In normal mode there is nothing to leave, and nothing changes. -/
theorem rest_law (hp : e.caret ≤ e.len) :
    (e.modal.mode ≠ .normal → RestsOn e.restingText e.toNormal) ∧
      RestsOn e.restingText e.placeCaret ∧ (e.modal.mode = .normal → e.toNormal = e) := by
  refine ⟨fun ne => rests_toNormal ne hp, rests_placeCaret hp, fun normal => ?_⟩
  rw [toNormal, if_pos normal]

/-- Visual mode is left on an empty line between two line breaks of two characters each. -/
theorem rest_law_on_empty_line :
    let e : Editor :=
      { modal := { mode := .visual, anchor := some 1, cursor := some 2 }
        widget :=
          { segmentation := .clusters
            text := ['a', '\r', '\n', '\r', '\n', 'b']
            selection := ⟨2, 2⟩ }
        register := {}
        history := .ofLimit 1 }
    e.caret ≤ e.len ∧ e.modal.mode ≠ .normal ∧
      RestsOn ['a', '\r', '\n', ' ', '\r', '\n', 'b'] e.toNormal := by
  intro e
  have inText : e.caret ≤ e.len := by decide
  have ne : e.modal.mode ≠ .normal := by decide
  have filled : e.restingText = ['a', '\r', '\n', ' ', '\r', '\n', 'b'] := by decide
  have rests := (rest_law inText).1 ne
  rw [filled] at rests
  exact ⟨inText, ne, rests⟩

end Editor

end ModalEdit
