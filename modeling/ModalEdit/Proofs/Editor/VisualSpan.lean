import ModalEdit.Proofs.Editor.Reselection
import ModalEdit.Proofs.Editor.VisualEnds

/-! # A visual selection is not empty

A visual selection begins with one character.  A motion that puts its cursor elsewhere than on the anchor
leaves something selected (`Spanning`).  The steps by a character take care of that: where the cursor
would come to the anchor, the anchor moves by one.  The jumps do not, and one that leads to the place of
the anchor leaves nothing selected.

So the first step that lands on the anchor is the first that empties the selection
(`visual_span_law`).  A motion with a count is that many steps.
-/

namespace ModalEdit.Editor

/-- At least one character of the text is selected. -/
structure SelectsSome (d : Editor) : Prop where
  nonempty : d.widget.selection.start < d.widget.selection.stop
  inside : d.widget.selection.stop ≤ d.len

def SelectsNothing (d : Editor) : Prop := ∃ p, d.widget.selection = ⟨p, p⟩

/-- One of the steps leads to the place where the anchor is then. -/
def Lands (d : Editor) (steps : List Action) : Prop :=
  ∃ before action after, steps = before ++ action :: after ∧
    (d.runEach before).LandsOnAnchor action

/-- How the ends of a visual selection lie if they are apart. -/
inductive EndsApart (a : Nat) (d : Editor) : Option Nat → Prop
  | resting (selected : d.widget.selection = ⟨a, a + 1⟩) (inside : a < d.len) : EndsApart a d none
  | apart {k : Nat} (selected : d.widget.selection = .between a k d.len) (ne : k ≠ a)
      (anchor : a ≤ d.len) (cursor : k ≤ d.len) : EndsApart a d (some k)
  | beyond {k : Nat} (selected : d.widget.selection = .between a k d.len) (anchor : a + 1 = d.len)
      (cursor : k = d.len + 1) : EndsApart a d (some k)

/-- A visual selection with its ends apart. -/
structure Spanning (d : Editor) : Prop where
  visual : d.modal.mode = .visual
  ends : ∃ a, d.modal.anchor = some a ∧ EndsApart a d d.modal.cursor

variable {d d' e : Editor} {a k p : Nat} {action : Action} {steps : List Action}

/-! ## One step -/

namespace Spanning

theorem inVisual (h : Spanning d) : d.inVisual = true := by simp [Editor.inVisual, h.visual]

theorem endsApart (h : Spanning d) (anchor : d.modal.anchor = some a) :
    EndsApart a d d.modal.cursor := by
  obtain ⟨_, same, ends⟩ := h.ends
  cases anchor.symm.trans same
  exact ends

/-- Where the moving end is, and what the selection begins and ends with. -/
theorem movingEnd_cases (h : Spanning d) (anchor : d.modal.anchor = some a) :
    (d.movingEnd = a ∧ d.caret = a ∧ d.widget.selection.stop = a + 1 ∧ a < d.len) ∨
      (d.movingEnd ≠ a ∧ d.caret = min a d.movingEnd ∧
        d.widget.selection.stop = max a d.movingEnd ∧ a ≤ d.len ∧ d.movingEnd ≤ d.len) ∨
      (d.movingEnd = a + 2 ∧ d.caret = a ∧ d.widget.selection.stop = a + 1 ∧ a + 1 = d.len) := by
  have ends := h.endsApart anchor
  cases cursor : d.modal.cursor with
  | none =>
    rw [cursor] at ends
    cases ends with
    | resting selected inside =>
      have caret := caret_of_selection selected
      exact .inl ⟨(movingEnd_of_none cursor).trans caret, caret, by rw [selected], inside⟩
  | some k =>
    have pos := movingEnd_of_some h.inVisual cursor
    rw [cursor] at ends
    rw [pos]
    cases ends with
    | apart selected ne anchor cursor =>
      refine .inr (.inl ⟨ne, ?_, ?_, anchor, cursor⟩)
      · rw [caret, Widget.caret, selected]
        exact Nat.min_eq_left (by omega)
      · rw [selected]
        exact Nat.min_eq_left (by omega)
    | beyond selected anchor cursor =>
      -- The widget cuts the selection off at its end, so one character is left of the two.
      refine .inr (.inr ⟨by omega, ?_, ?_, anchor⟩)
      · rw [caret, Widget.caret, selected]
        simp only [Selection.between]
        omega
      · rw [selected]
        simp only [Selection.between]
        omega

theorem selectsSome (h : Spanning d) : d.SelectsSome := by
  obtain ⟨a, anchor, _⟩ := h.ends
  have ends := h.movingEnd_cases anchor
  have start : d.widget.selection.start = d.caret := rfl
  constructor
  · omega
  · omega

theorem putEnds (visual : d.modal.mode = .visual) (ne : k ≠ a)
    (ends : a ≤ d.len ∧ k ≤ d.len ∨ a + 1 = d.len ∧ k = d.len + 1) : Spanning (d.putEnds a k) := by
  refine ⟨visual, a, rfl, ?_⟩
  rcases ends with ⟨anchor, cursor⟩ | ⟨anchor, cursor⟩
  · exact .apart rfl ne anchor cursor
  · exact .beyond rfl anchor cursor

/-- The steps by a character keep the ends apart. -/
theorem charStep (h : Spanning d) (anchor : d.modal.anchor = some a) (step : CharStep a d d') :
    Spanning d' := by
  have ends := h.movingEnd_cases anchor
  cases step with
  | stays => exact h
  | leavesAhead here inside => exact putEnds h.visual (by omega) (by omega)
  | ahead away apart inside => exact putEnds h.visual (by omega) (by omega)
  | leavesBack here => exact putEnds h.visual (by omega) (by omega)
  | skipsBack here => exact putEnds h.visual (by omega) (by omega)
  | redraws beyond stop => exact putEnds h.visual (by omega) (by omega)
  | back away apart => exact putEnds h.visual (by omega) (by omega)

theorem kept : KeptByCharSteps Spanning where
  visual h := h.inVisual
  anchored h := h.ends.imp fun _ ends => ends.1
  charStep h anchor step := h.charStep anchor step

/-- A jump keeps the ends apart, unless it lands on the anchor. -/
theorem jump {lands : Prop} (h : Spanning d) (anchor : d.modal.anchor = some a)
    (step : Jump a lands d d') :
    (¬lands → Spanning d') ∧ (lands → d'.SelectsNothing) := by
  have ends := h.movingEnd_cases anchor
  cases step with
  | stays off => exact ⟨fun _ => h, fun landed => absurd landed off⟩
  | @leads k inText meets =>
    constructor
    · intro off
      exact putEnds h.visual (mt meets.mp off) (by omega)
    · intro landed
      refine ⟨min a d.len, ?_⟩
      show Selection.between a k d.len = _
      rw [meets.mpr landed, Selection.between, Nat.min_self, Nat.max_self]
  | fillsAhead off empty beyond =>
    have longer := len_fillLine empty
    have inText := le_len_of_emptyLine empty
    refine ⟨fun _ => ?_, fun landed => absurd landed off⟩
    exact putEnds (d := d.fillLine _) h.visual (by omega) (by omega)
  | fillsBefore off empty before =>
    have longer := len_fillLine empty
    have inText := le_len_of_emptyLine empty
    refine ⟨fun _ => ?_, fun landed => absurd landed off⟩
    exact putEnds (d := d.fillLine _) h.visual (by omega) (by omega)

/-- A step that is no jump never lands. -/
theorem of_kept {lands : Prop} (still : Spanning d') (off : ¬lands) :
    (¬lands → Spanning d') ∧ (lands → d'.SelectsNothing) :=
  ⟨fun _ => still, fun landed => absurd landed off⟩

theorem run (h : Spanning d) (motion : action ∈ Action.motions) :
    (¬d.LandsOnAnchor action → Spanning (d.run action 1)) ∧
      (d.LandsOnAnchor action → (d.run action 1).SelectsNothing) := by
  obtain ⟨a, anchor, _⟩ := h.ends
  have visual := h.inVisual
  have nonempty : 0 < d.len := by
    have some_selected := h.selectsSome
    exact Nat.lt_of_lt_of_le (Nat.zero_lt_of_lt some_selected.nonempty) some_selected.inside
  cases action with
  | selectNextChar =>
    rw [Editor.run, times_one]
    exact of_kept (kept.nextChar h) (by rintro ⟨⟩)
  | selectPrevChar =>
    rw [Editor.run, times_one]
    exact of_kept (kept.prevChar h) (by rintro ⟨⟩)
  | lineHead => exact of_kept (kept.toLineHead h) (by rintro ⟨⟩)
  | lineTail => exact of_kept (kept.toLineTail h) (by rintro ⟨⟩)
  | selectNextLine =>
    rw [Editor.run, times_one]
    exact h.jump anchor (jump_nextLine visual anchor)
  | selectPrevLine =>
    rw [Editor.run, times_one]
    exact h.jump anchor (jump_prevLine visual anchor)
  | nextWord =>
    rw [Editor.run, times_one]
    exact h.jump anchor (jump_toNextWord visual anchor)
  | firstLine => exact h.jump anchor (jump_toFirstLine visual anchor)
  | lastLine => exact h.jump anchor (jump_toLastLine visual anchor nonempty)
  | _ => exact absurd motion (by decide)

end Spanning

/-! ## All steps -/

theorem not_lands_nil : ¬d.Lands [] := by
  rintro ⟨before, action, after, split, _⟩
  simp at split

theorem lands_cons :
    d.Lands (action :: steps) ↔ d.LandsOnAnchor action ∨ (d.run action 1).Lands steps := by
  constructor
  · rintro ⟨before, landing, after, split, lands⟩
    cases before with
    | nil =>
      obtain ⟨rfl, _⟩ := List.cons.inj split
      exact .inl lands
    | cons first before =>
      obtain ⟨rfl, rest⟩ := List.cons.inj split
      exact .inr ⟨before, landing, after, rest, lands⟩
  · rintro (lands | ⟨before, landing, after, rfl, lands⟩)
    · exact ⟨[], action, steps, rfl, lands⟩
    · exact ⟨action :: before, landing, after, rfl, lands⟩

/-- By induction on the steps: up to the first landing the ends stay apart. -/
theorem Spanning.runEach (h : Spanning d) (motions : ∀ action ∈ steps, action ∈ Action.motions) :
    (¬d.Lands steps → Spanning (d.runEach steps)) ∧
      (d.Lands steps → ∃ before, before <+: steps ∧ (d.runEach before).SelectsNothing) := by
  induction steps generalizing d with
  | nil => exact ⟨fun _ => h, fun landed => absurd landed not_lands_nil⟩
  | cons action steps ih =>
    obtain ⟨apart, empties⟩ := h.run (motions action List.mem_cons_self)
    rw [lands_cons]
    by_cases lands : d.LandsOnAnchor action
    · refine ⟨fun off => absurd (.inl lands) off, fun _ => ⟨[action], ?_, empties lands⟩⟩
      exact List.prefix_append [action] steps
    · obtain ⟨spans, nothing⟩ := ih (apart lands) fun other member =>
        motions other (List.mem_cons_of_mem action member)
      refine ⟨fun off => spans (mt .inr off), fun landed => ?_⟩
      obtain ⟨before, initial, empty⟩ := nothing (landed.resolve_left lands)
      exact ⟨action :: before, List.cons_prefix_cons.mpr ⟨rfl, initial⟩, empty⟩

/-! ## The law -/

theorem SelectsSome.of_refocused (h : d'.SelectsSome) (same : d.Refocused d') : d.SelectsSome := by
  obtain ⟨_, rfl⟩ := same
  exact ⟨h.nonempty, h.inside⟩

theorem spanning_toggleVisual (normal : e.modal.mode = .normal) (one : e.SelectsOne) (count : Nat) :
    Spanning (e.run .toggleVisual count) := by
  have entered := entersVisual_toggleVisual (e := e) (by simp [normal]) count
  refine ⟨entered.visual, e.caret, entered.anchor, ?_⟩
  rw [entered.cursor]
  refine .resting ?_ ?_
  · rw [entered.widget_eq]
    exact congrArg (Selection.mk e.caret) one.single
  · rw [len, entered.widget_eq]
    exact one.caret_lt_len

/-- From one selected character, visual mode and any motions leave something selected, unless one of
    their steps lands on the anchor.  Behind such a step, at the latest, nothing is selected. -/
theorem visual_span_law (normal : e.modal.mode = .normal) (one : e.SelectsOne)
    {motions : List (Action × Nat)} (only : ∀ motion ∈ motions, motion.1 ∈ Action.motions) :
    let v := e.run .toggleVisual 1
    let steps := Action.steps motions
    (¬v.Lands steps → (v.runAll motions).SelectsSome) ∧
      (v.Lands steps → ∃ before, before <+: steps ∧ (v.runEach before).SelectsNothing) := by
  intro v steps
  have spanning := spanning_toggleVisual normal one 1
  obtain ⟨apart, empties⟩ := spanning.runEach fun _ member => mem_motions_of_mem_steps only member
  refine ⟨fun off => ?_, empties⟩
  exact (apart off).selectsSome.of_refocused (refocused_runAll only v)

/-- Down from the second character, and forward: something is selected.  Down, back and up again: the
    cursor is where the anchor is. -/
theorem visual_span_law_down_and_up :
    let e : Editor :=
      { modal := {}
        widget := { Widget.ofText .scalars ['a', 'b', lineBreak, 'c', 'd'] with selection := ⟨1, 2⟩ }
        register := {}
        history := .ofLimit 1 }
    let down := [(Action.selectNextLine, 1), (.selectNextChar, 2)]
    let downAndUp := [(Action.selectNextLine, 1), (.selectPrevChar, 1), (.selectPrevLine, 1)]
    e.modal.mode = .normal ∧ e.SelectsOne ∧ (∀ motion ∈ down ++ downAndUp, motion.1 ∈ Action.motions) ∧
      ((e.run .toggleVisual 1).runAll down).SelectsSome ∧
      ∃ before, before <+: [Action.selectNextLine, .selectPrevChar, .selectPrevLine] ∧
        ((e.run .toggleVisual 1).runEach before).SelectsNothing := by
  intro e down downAndUp
  have normal : e.modal.mode = .normal := rfl
  have one : e.SelectsOne := ⟨rfl, by decide⟩
  have only : ∀ motion ∈ down ++ downAndUp, motion.1 ∈ Action.motions := by decide
  have below : (e.run .toggleVisual 1).chars.nextLineStart? (e.run .toggleVisual 1).movingEnd =
      some 3 := by decide
  have off : ¬(e.run .toggleVisual 1).Lands [.selectNextLine, .selectNextChar, .selectNextChar] := by
    intro landed
    rcases lands_cons.mp landed with first | later
    · cases first with
      | nextLine there _ anchor =>
        cases below.symm.trans there
        have same : 1 = 3 + _ := Option.some.inj anchor
        omega
    · have last := (lands_cons.mp later).resolve_left (by rintro ⟨⟩)
      exact not_lands_nil ((lands_cons.mp last).resolve_left (by rintro ⟨⟩))
  have lands : (e.run .toggleVisual 1).Lands (Action.steps downAndUp) := by
    refine ⟨[.selectNextLine, .selectPrevChar], .selectPrevLine, [], rfl, ?_⟩
    exact @LandsOnAnchor.prevLine _ 0 2 (by decide) (by decide) (by decide)
  refine ⟨normal, one, only, ?_, ?_⟩
  · exact (visual_span_law normal one (by decide)).1 off
  · exact (visual_span_law normal one (by decide)).2 lands

/-- From the first character of the text, the motion to the first line leaves nothing selected. -/
theorem not_always_selects_some :
    ¬∀ {e : Editor}, e.modal.mode = .normal → e.SelectsOne →
      ∀ motions : List (Action × Nat), (∀ motion ∈ motions, motion.1 ∈ Action.motions) →
        ((e.run .toggleVisual 1).runAll motions).SelectsSome := by
  intro selects
  let e : Editor :=
    { modal := {}
      widget := { Widget.ofText .scalars ['a', 'b', 'c'] with selection := ⟨0, 1⟩ }
      register := {}
      history := .ofLimit 1 }
  have some_selected := @selects e rfl ⟨rfl, by decide⟩ [(.firstLine, 1)] (by decide)
  exact absurd some_selected.nonempty (by decide)

end ModalEdit.Editor
