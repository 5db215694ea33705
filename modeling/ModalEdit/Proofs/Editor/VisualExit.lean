import ModalEdit.Proofs.Editor.VisualSpan

/-! # Leaving visual mode

There are two ways back to normal mode.  Confirming selects the character of the moving end, if there is
one.  There is none where the moving end is left at the end of the text without a character to stand for
(`AtTextEnd`), and nothing is selected then (`confirm_law`).

The other way leads back to the caret, by a step forward and a step back.  Right after visual mode was
entered both ways should change nothing.  Confirming does not.  The other way takes the step back even if
there was none to take forward, so from the last character of a line it comes to the one before
(`visual_exit_law`).
-/

namespace ModalEdit.Editor

variable {d d' e : Editor} {a k p : Nat}

/-! ## Confirming -/

/-- The character that is selected when the visual selection is confirmed. -/
def confirmedAt (d : Editor) : Nat :=
  match d.modal.cursor with
  | none => d.caret
  | some cursor =>
    if d.modal.anchor.any (fun a => decide (a < cursor)) ∧ d.charBefore? cursor ≠ some lineBreak then
      cursor - 1
    else cursor

/-- The moving end is at the end of the text, and stands for no character there: it is beyond the end, or
    on an empty line, or not behind the anchor. -/
inductive AtTextEnd (d : Editor) : Prop
  | beyond (cursor : d.modal.cursor = some (d.len + 1))
  | emptyLine (cursor : d.modal.cursor = some d.len) (behind : d.charBefore? d.len = some lineBreak)
  | beforeAnchor {a : Nat} (anchor : d.modal.anchor = some a) (cursor : d.modal.cursor = some d.len)
      (order : d.len ≤ a)

/-- A visual selection within the text, of one character as long as there is no cursor. -/
structure Confirmable (d : Editor) : Prop extends Bounded 0 d where
  resting : d.modal.cursor = none → d.SelectsOne

theorem confirmable_kept : KeptByEnds Confirmable where
  visual h := h.inVisual
  nonempty h := h.proper.len_pos
  anchored h := h.ends.imp fun _ ends => ends.1
  charStep h anchor step := by
    refine ⟨h.toBounded.charStep anchor step, fun none => ?_⟩
    rcases step.eq_or_cursor with rfl | ⟨k, cursor⟩
    · exact h.resting none
    · cases none.symm.trans cursor
  jump h anchor step := by
    refine ⟨h.toBounded.jump anchor step, fun none => ?_⟩
    rcases step.eq_or_cursor with rfl | ⟨k, cursor⟩
    · exact h.resting none
    · cases none.symm.trans cursor

theorem SelectsOne.proper (one : e.SelectsOne) : e.widget.Proper := by
  have single := one.single
  exact ⟨Widget.text_ne_nil_of_len_pos (Nat.zero_lt_of_lt one.caret_lt_len), by omega, one.inside⟩

theorem confirmable_toggleVisual (normal : e.modal.mode = .normal) (one : e.SelectsOne)
    (count : Nat) : Confirmable (e.run .toggleVisual count) := by
  have entered := entersVisual_toggleVisual (e := e) (by simp [normal]) count
  have inside := one.caret_lt_len
  refine ⟨⟨entered.visual, ?_, e.caret, entered.anchor, ?_⟩, fun _ => one.of_widget entered.widget_eq⟩
  · rw [entered.widget_eq]
    exact one.proper
  · rw [entered.cursor, len, entered.widget_eq]
    exact .resting (Nat.le_of_lt inside)

/-- Only an end that is behind the anchor, and so not at the beginning of the text, stands for the
    character before it. -/
theorem confirmVisual_eq (d : Editor) :
    d.confirmVisual = (d.select d.confirmedAt (d.confirmedAt + 1)).switchMode .normal := by
  rw [confirmVisual, confirmedAt]
  cases cursor : d.modal.cursor with
  | none => rfl
  | some k =>
    dsimp only
    split
    · next forward =>
      obtain ⟨a, _, before⟩ := (Option.any_eq_true _ _).mp forward.1
      have positive : 1 ≤ k := Nat.zero_lt_of_lt (of_decide_eq_true before)
      rw [Nat.sub_add_cancel positive]
    · rfl

theorem AtTextEnd.exists_cursor (h : d.AtTextEnd) : ∃ k, d.modal.cursor = some k ∧ d.len ≤ k := by
  cases h with
  | beyond cursor => exact ⟨_, cursor, Nat.le_succ _⟩
  | emptyLine cursor _ => exact ⟨_, cursor, Nat.le_refl _⟩
  | beforeAnchor _ cursor _ => exact ⟨_, cursor, Nat.le_refl _⟩

/-- Confirming finds no character if and only if the moving end is left at the end of the text. -/
theorem Confirmable.atTextEnd_iff (h : Confirmable d) : d.AtTextEnd ↔ d.len ≤ d.confirmedAt := by
  obtain ⟨a, anchor, ends⟩ := h.ends
  have any_iff : ∀ k, d.modal.anchor.any (fun a => decide (a < k)) = true ↔ a < k := by
    intro k
    rw [anchor, Option.any_some, decide_eq_true_eq]
  rw [confirmedAt]
  cases cursor : d.modal.cursor with
  | none =>
    have inside := (h.resting cursor).caret_lt_len
    refine ⟨fun atEnd => ?_, fun past => absurd past (Nat.not_le_of_lt inside)⟩
    obtain ⟨_, other, _⟩ := atEnd.exists_cursor
    cases cursor.symm.trans other
  | some k =>
    rw [cursor, endsWithin_some_iff] at ends
    simp only [any_iff]
    constructor
    · intro atEnd
      cases atEnd with
      | beyond other =>
        cases cursor.symm.trans other
        split
        · exact Nat.le_refl _
        · exact Nat.le_succ _
      | emptyLine other behind =>
        cases cursor.symm.trans other
        rw [if_neg fun forward => forward.2 behind]
      | beforeAnchor there other order =>
        cases cursor.symm.trans other
        cases anchor.symm.trans there
        rw [if_neg fun forward => Nat.not_lt_of_le order forward.1]
    · split
      · intro past
        have last : k = d.len + 1 := by omega
        exact .beyond (last ▸ cursor)
      · next still =>
        intro past
        by_cases last : k = d.len + 1
        · exact .beyond (last ▸ cursor)
        · -- At the end itself the moving end stands for the character before, but for two reasons.
          obtain rfl : k = d.len := by omega
          by_cases behind : d.charBefore? d.len = some lineBreak
          · exact .emptyLine cursor behind
          · exact .beforeAnchor anchor cursor (Nat.le_of_not_lt fun before => still ⟨before, behind⟩)

theorem selectsOne_select (inside : p < d.len) : (d.select p (p + 1)).SelectsOne := by
  have selected := selection_select_of_le (Nat.le_succ p) inside
  exact ⟨by rw [selected], by rwa [selected]⟩

theorem selectsEnd_select (past : d.len ≤ p) (nonempty : 0 < d.len) :
    (d.select p (p + 1)).SelectsEnd := by
  refine ⟨?_, nonempty⟩
  show Selection.between p (p + 1) d.len = ⟨d.len, d.len⟩
  rw [Selection.between, Selection.mk.injEq]
  omega

/-- From one selected character, visual mode with any motions, and confirmed, leads back to normal mode
    with one character selected, unless the moving end is left at the end of the text.  Then nothing is
    selected there. -/
theorem confirm_law (normal : e.modal.mode = .normal) (one : e.SelectsOne)
    {motions : List (Action × Nat)} (only : ∀ motion ∈ motions, motion.1 ∈ Action.motions)
    (count : Nat) :
    let d := (e.run .toggleVisual 1).runAll motions
    let d' := d.run .toggleVisual count
    d'.modal.mode = .normal ∧ d'.widget.text = d.widget.text ∧
      (¬d.AtTextEnd → d'.SelectsOne) ∧ (d.AtTextEnd → d'.SelectsEnd) := by
  intro d d'
  have ready : Confirmable d := confirmable_kept.runAll (confirmable_toggleVisual normal one 1) only
  have confirmed : d' = (d.select d.confirmedAt (d.confirmedAt + 1)).switchMode .normal := by
    rw [← confirmVisual_eq]
    exact if_pos ready.inVisual
  have widget : d'.widget = (d.select d.confirmedAt (d.confirmedAt + 1)).widget := by
    rw [confirmed, widget_switchMode]
  refine ⟨?_, ?_, ?_, ?_⟩
  · rw [confirmed, modal_switchMode]
    exact ModalState.mode_switchMode _ _
  · rw [widget]
    rfl
  · intro inside
    rw [ready.atTextEnd_iff, Nat.not_le] at inside
    exact (selectsOne_select inside).of_widget widget
  · intro atEnd
    have ended := selectsEnd_select (ready.atTextEnd_iff.mp atEnd) ready.proper.len_pos
    refine ⟨?_, ?_⟩
    · rw [len, widget]
      exact ended.selection
    · rw [len, widget]
      exact ended.nonempty

/-- Forward by one, and confirmed, that character is selected.  Down to the empty last line there is
    none. -/
theorem confirm_law_forward_and_down :
    let e : Editor :=
      { modal := {}
        widget := { Widget.ofText .scalars ['a', 'b', lineBreak] with selection := ⟨0, 1⟩ }
        register := {}
        history := .ofLimit 1 }
    let v := e.run .toggleVisual 1
    e.modal.mode = .normal ∧ e.SelectsOne ∧
      (∀ motion ∈ [(Action.selectNextChar, 1), (.selectNextLine, 1)], motion.1 ∈ Action.motions) ∧
      ((v.runAll [(.selectNextChar, 1)]).run .toggleVisual 1).SelectsOne ∧
      ((v.runAll [(.selectNextLine, 1)]).run .toggleVisual 1).SelectsEnd := by
  intro e v
  have normal : e.modal.mode = .normal := rfl
  have one : e.SelectsOne := ⟨rfl, by decide⟩
  have inside : ¬(v.runAll [(.selectNextChar, 1)]).AtTextEnd := by
    have cursor : (v.runAll [(.selectNextChar, 1)]).modal.cursor = some 2 := by decide
    have len : (v.runAll [(.selectNextChar, 1)]).len = 3 := by decide
    intro atEnd
    obtain ⟨_, other, past⟩ := atEnd.exists_cursor
    cases cursor.symm.trans other
    rw [len] at past
    exact absurd past (by decide)
  have atEnd : (v.runAll [(.selectNextLine, 1)]).AtTextEnd := .emptyLine (by decide) (by decide)
  refine ⟨normal, one, by decide, ?_, ?_⟩
  · exact (confirm_law normal one (by decide) 1).2.2.1 inside
  · exact (confirm_law normal one (by decide) 1).2.2.2 atEnd

/-- From the last character of the text a step forward puts the cursor beyond the end. -/
theorem not_always_confirms_one :
    ¬∀ {e : Editor}, e.modal.mode = .normal → e.SelectsOne →
      ∀ motions : List (Action × Nat), (∀ motion ∈ motions, motion.1 ∈ Action.motions) →
        (((e.run .toggleVisual 1).runAll motions).run .toggleVisual 1).SelectsOne := by
  intro confirms
  let e : Editor :=
    { modal := {}
      widget := { Widget.ofText .scalars ['a'] with selection := ⟨0, 1⟩ }
      register := {}
      history := .ofLimit 1 }
  have one := @confirms e rfl ⟨rfl, by decide⟩ [(.selectNextChar, 1)] (by decide)
  exact absurd one.single (by decide)

/-! ## Back without a motion -/

/-- The character under the caret is the last one of its line, and not the first. -/
structure EndsLine (e : Editor) : Prop where
  inner : e.chars.lineStart e.caret < e.caret
  last : e.caret + 1 = e.chars.lineEnd e.caret

/-- In normal mode again, with the same text. -/
structure Returns (e : Editor) (selection : Selection) (d : Editor) : Prop where
  normal : d.modal.mode = .normal
  text_eq : d.widget.text = e.widget.text
  selection_eq : d.widget.selection = selection

/-- The last character of a line has no other behind it, and the character that has none is the last. -/
theorem OnCharacter.last_iff (on : d.OnCharacter) :
    d.caret + 1 = d.chars.lineEnd d.caret ↔ d.nextChar = d := by
  have before := on.caret_lt_lineEnd
  have first := d.chars.lineStart_le d.caret
  have inside := on.caret_lt_len
  rcases nextChar_cases on.normal with ⟨stays, stop⟩ | ⟨moves, inText, character⟩
  · have last := eq_lineEnd_of_stop (Nat.le_of_lt inside) (by omega) before stop
    exact ⟨fun _ => stays, fun _ => last⟩
  · constructor
    · intro last
      rw [last, charAt?_eq] at character
      rw [last, ← length_chars] at inText
      rw [← length_chars] at inside
      exact absurd (Text.getElem?_lineEnd (Nat.le_of_lt inside) inText) character
    · intro stays
      have caret := congrArg Editor.caret (stays.symm.trans moves)
      rw [caret_select (Nat.le_succ _) (Nat.le_of_lt inText)] at caret
      exact absurd caret (Nat.ne_of_lt (Nat.lt_succ_self _))

/-- Forward and back leads to the same character if there is a next one. -/
theorem OnCharacter.forward_back (on : d.OnCharacter) (idle : d.modal.Idle)
    (more : d.caret + 1 ≠ d.chars.lineEnd d.caret) :
    d.nextChar.prevChar =
      (d.select (d.caret + 1) (d.caret + 2)).select d.caret (d.caret + 1) := by
  rcases nextChar_cases on.normal with ⟨stays, _⟩ | ⟨moves, inText, _⟩
  · exact absurd (on.last_iff.mpr stays) more
  · rw [moves, prevChar_select_next idle inText, if_neg on.charAt?_caret_ne]

/-- From the last character there is only the step back, unless it is the first one too. -/
theorem OnCharacter.selection_back (on : d.OnCharacter) (ends : d.EndsLine) :
    d.nextChar.prevChar.widget.selection = ⟨d.caret - 1, d.caret⟩ := by
  have inside := on.caret_lt_len
  have inner := ends.inner
  have behind : d.charBefore? d.caret ≠ some lineBreak := by
    rw [ne_eq, charBefore?_caret_iff (Nat.le_of_lt inside)]
    omega
  rw [on.last_iff.mp ends.last, prevChar_of_normal on.normal, if_neg behind, if_pos (by omega)]
  exact selection_select_of_le (Nat.sub_le _ _) (Nat.le_of_lt inside)

/-- The way back to normal mode, once the mode is that. -/
theorem toNormal_of_visual (visual : e.modal.mode = .visual) (switched : e.switchMode .normal = d)
    (on : d.OnCharacter) :
    e.toNormal =
      if d.caret ≠ d.chars.lineStart d.caret then d.nextChar.prevChar
      else if d.nextChar.prevChar.chars.lineLength d.caret = 1 then
        d.nextChar.prevChar.select d.caret (d.caret + 1)
      else d.nextChar.prevChar := by
  have before := on.caret_lt_lineEnd
  have first := d.chars.lineStart_le d.caret
  have nonempty : d.chars.lineLength d.caret ≠ 0 := by
    rw [Text.lineLength]
    omega
  rw [toNormal, switched]
  simp [visual, nonempty]

theorem selection_toNormal_of_visual (visual : e.modal.mode = .visual)
    (switched : e.switchMode .normal = d) (on : d.OnCharacter) (idle : d.modal.Idle) :
    (¬d.EndsLine → e.toNormal.widget.selection = ⟨d.caret, d.caret + 1⟩) ∧
      (d.EndsLine → e.toNormal.widget.selection = ⟨d.caret - 1, d.caret⟩) := by
  have inside := on.caret_lt_len
  have first := d.chars.lineStart_le d.caret
  rw [toNormal_of_visual visual switched on]
  by_cases inner : d.chars.lineStart d.caret < d.caret
  · rw [if_pos (Nat.ne_of_gt inner)]
    refine ⟨fun more => ?_, on.selection_back⟩
    rw [on.forward_back idle fun last => more ⟨inner, last⟩]
    exact selection_select_of_le (Nat.le_succ _) inside
  · have head : d.caret = d.chars.lineStart d.caret := by omega
    refine ⟨fun _ => ?_, fun ends => absurd ends.inner inner⟩
    rw [if_neg (not_not_intro head)]
    by_cases last : d.caret + 1 = d.chars.lineEnd d.caret
    · -- The only character of its line: no step is taken, and it is selected in the end.
      rw [on.last_iff.mp last, prevChar_of_head idle (Nat.le_of_lt inside) head.symm]
      split
      · exact selection_select_of_le (Nat.le_succ _) inside
      · exact on.selection_eq
    · rw [on.forward_back idle last]
      split
      · exact selection_select_of_le (Nat.le_succ _) inside
      · exact selection_select_of_le (Nat.le_succ _) inside

theorem OnCharacter.of_widget (on : e.OnCharacter) (normal : d.modal.mode = .normal)
    (same : d.widget = e.widget) : d.OnCharacter := by
  obtain ⟨c, character, selects⟩ := on
  refine ⟨c, character, normal, ?_, ?_⟩
  · rw [same]
    exact selects.single
  · rw [charAt?, caret, same]
    exact selects.shown

theorem endsLine_of_widget (same : d.widget = e.widget) : d.EndsLine ↔ e.EndsLine := by
  have caret : d.caret = e.caret := congrArg Widget.caret same
  have chars : d.chars = e.chars := congrArg Widget.chars same
  constructor
  · rintro ⟨inner, last⟩
    rw [caret, chars] at inner last
    exact ⟨inner, last⟩
  · rintro ⟨inner, last⟩
    rw [← caret, ← chars] at inner last
    exact ⟨inner, last⟩

theorem OnCharacter.returns_confirmVisual (on : e.OnCharacter) (entered : EntersVisual e d) :
    Returns e e.widget.selection d.confirmVisual := by
  have inside : e.caret < d.len := by
    rw [len, entered.widget_eq]
    exact on.caret_lt_len
  have here : d.confirmedAt = e.caret := by
    rw [confirmedAt, entered.cursor]
    exact congrArg Widget.caret entered.widget_eq
  rw [confirmVisual_eq, here]
  refine ⟨?_, ?_, ?_⟩
  · rw [modal_switchMode]
    exact ModalState.mode_switchMode _ _
  · rw [widget_switchMode]
    show d.widget.text = e.widget.text
    rw [entered.widget_eq]
  · rw [widget_switchMode, selection_select_of_le (Nat.le_succ _) inside, on.selection_eq]

theorem OnCharacter.returns_toNormal (on : e.OnCharacter) (entered : EntersVisual e d)
    {selection : Selection} (selected : d.toNormal.widget.selection = selection) :
    Returns e selection d.toNormal := by
  have other : d.modal.mode ≠ .normal := by
    rw [entered.visual]
    decide
  have caret : d.caret = e.caret := congrArg Widget.caret entered.widget_eq
  have chars : d.chars = e.chars := congrArg Widget.chars entered.widget_eq
  have len : d.len = e.len := congrArg Widget.len entered.widget_eq
  have inText : d.caret ≤ d.len := by
    rw [caret, len]
    exact Nat.le_of_lt on.caret_lt_len
  have nonempty : ¬d.chars.EmptyLine d.caret := by
    rw [caret, chars]
    intro empty
    have before := on.caret_lt_lineEnd
    have length := empty.2
    rw [Text.lineLength, empty.1] at length
    omega
  have rests := rests_toNormal other inText
  rw [restingText_of_not_emptyLine nonempty, entered.widget_eq] at rests
  exact ⟨rests.idle.mode_eq, rests.text_eq, selected⟩

/-- Visual mode that is entered on a character and left again without a motion leads back to it if it is
    confirmed.  The other way leads back too, but from the last character of a line to the one before. -/
theorem visual_exit_law (on : e.OnCharacter) (count : Nat) :
    let v := e.run .toggleVisual 1
    Returns e e.widget.selection (v.run .toggleVisual count) ∧
      (¬e.EndsLine → Returns e e.widget.selection v.toNormal) ∧
      (e.EndsLine → Returns e ⟨e.caret - 1, e.caret⟩ v.toNormal) := by
  intro v
  have entered : EntersVisual e v := entersVisual_toggleVisual (by simp [on.normal]) 1
  have visual : v.inVisual = true := by simp [inVisual, entered.visual]
  have widget : (v.switchMode .normal).widget = e.widget := by
    rw [widget_switchMode, entered.widget_eq]
  have idle := v.idle_switchMode
  have caret : (v.switchMode .normal).caret = e.caret := congrArg Widget.caret widget
  obtain ⟨back, before⟩ := selection_toNormal_of_visual entered.visual rfl
    (on.of_widget idle.mode_eq widget) idle
  rw [endsLine_of_widget widget, caret] at back before
  refine ⟨?_, fun other => ?_, fun ends => ?_⟩
  · have confirmed : v.run .toggleVisual count = v.confirmVisual := if_pos visual
    rw [confirmed]
    exact on.returns_confirmVisual entered
  · rw [on.selection_eq]
    exact on.returns_toNormal entered (back other)
  · exact on.returns_toNormal entered (before ends)

/-- On the first of two characters both ways lead back, and on the second only confirming does. -/
theorem visual_exit_law_of_two_characters :
    let e : Editor :=
      { modal := {}
        widget := { Widget.ofText .scalars ['a', 'b'] with selection := ⟨0, 1⟩ }
        register := {}
        history := .ofLimit 1 }
    let e' := { e with widget := e.widget.setSelection 1 2 }
    e.OnCharacter ∧ e'.OnCharacter ∧ Returns e ⟨0, 1⟩ (e.run .toggleVisual 1).toNormal ∧
      Returns e' ⟨1, 2⟩ ((e'.run .toggleVisual 1).run .toggleVisual 1) ∧
      Returns e' ⟨0, 1⟩ (e'.run .toggleVisual 1).toNormal := by
  intro e e'
  have on : e.OnCharacter := ⟨'a', by decide, rfl, rfl, rfl⟩
  have on' : e'.OnCharacter := ⟨'b', by decide, rfl, rfl, rfl⟩
  have inner : ¬e.EndsLine := fun ends => absurd ends.inner (by decide)
  have ends : e'.EndsLine := ⟨by decide, by decide⟩
  exact ⟨on, on', (visual_exit_law on 1).2.1 inner, (visual_exit_law on' 1).1,
    (visual_exit_law on' 1).2.2 ends⟩

/-- On the second of two characters, the return to normal mode selects the first. -/
theorem not_always_returns :
    ¬∀ {e : Editor}, e.OnCharacter →
      Returns e e.widget.selection ((e.run .toggleVisual 1).run .toggleVisual 1) ∧
        Returns e e.widget.selection (e.run .toggleVisual 1).toNormal := by
  intro returns
  let e : Editor :=
    { modal := {}
      widget := { Widget.ofText .scalars ['a', 'b'] with selection := ⟨1, 2⟩ }
      register := {}
      history := .ofLimit 1 }
  have on : e.OnCharacter := ⟨'b', by decide, rfl, rfl, rfl⟩
  have back := (@returns e on).2.selection_eq
  exact absurd back (by decide)

end ModalEdit.Editor
