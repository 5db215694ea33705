import ModalEdit.Proofs.Editor.CharacterKept
import ModalEdit.Proofs.Editor.LineReach
import ModalEdit.Proofs.Widget.LineEnding

/-! # Crossing a line break in visual mode

A walk by characters in visual mode stays on its line, but for one step.  From the character where
visual mode was entered, with the cursor not yet beyond the anchor, a step forward moves the cursor over
two positions.  It looks at the first of them only.  If the second one is a line break, that is selected,
and from then on every step keeps it selected.  So a line break is selected if and only if a step forward
is taken at the character before it, where the walk began (`line_crossing_law`).

Where the text ends behind that character, the cursor is put beyond the end, and the next step back
brings it inside again (`PastEnd`).
-/

namespace ModalEdit

namespace CharMotion

variable {cs : Text} {c m : Nat} {motion : CharMotion} {motions : List CharMotion}

/-- A walk from the character `m` takes a step forward at the character `c`. -/
def LeavesForward (cs : Text) (c m : Nat) (motions : List CharMotion) : Prop :=
  ∃ before after, motions = before ++ .next :: after ∧ before.foldl (target cs c) m = c

/-- A walk from the character `c` takes a step forward there, and a line break comes next. -/
structure Crosses (cs : Text) (c : Nat) (motions : List CharMotion) : Prop where
  atBreak : cs[c + 1]? = some lineBreak
  forward : LeavesForward cs c c motions

theorem not_leavesForward_nil : ¬LeavesForward cs c m [] := by
  rintro ⟨before, after, split, _⟩
  simp at split

theorem leavesForward_here : LeavesForward cs c c (.next :: motions) := ⟨[], motions, rfl, rfl⟩

theorem leavesForward_cons (other : motion = .next → m ≠ c) :
    LeavesForward cs c m (motion :: motions) ↔
      LeavesForward cs c (motion.target cs c m) motions := by
  constructor
  · rintro ⟨before, after, split, here⟩
    cases before with
    | nil => exact absurd here (other (List.cons.inj split).1)
    | cons first before =>
      obtain ⟨rfl, rest⟩ := List.cons.inj split
      exact ⟨before, after, rest, here⟩
  · rintro ⟨before, after, rfl, here⟩
    exact ⟨motion :: before, after, rfl, here⟩

end CharMotion

namespace Editor

variable {e d : Editor} {c k m : Nat} {side : Side}

/-! ## What is selected -/

/-- What is selected on a line holds no line break. -/
theorem Shows.not_mem_selectedText (h : Shows e d) (inside : c < e.chars.lineEnd c) {a b : Nat}
    (selected : d.widget.selection = ⟨a, b⟩) (first : e.chars.lineStart c ≤ a)
    (last : b ≤ e.chars.lineEnd c) : lineBreak ∉ d.widget.selectedText := by
  have inText : c ≤ e.chars.length := Nat.le_trans (Nat.le_of_lt inside) (Text.lineEnd_le_length _ _)
  rw [Widget.selectedText, selected, Widget.lineBreak_mem_slice_iff, ← chars, h.chars_eq]
  apply Text.not_mem_drop_take
  intro q lower upper
  exact Text.getElem?_ne_lineBreak_on_line inText (Nat.le_trans first lower)
    (Nat.lt_of_lt_of_le upper last)

theorem Walking.not_mem_selectedText (h : Walking e c m side d) (inside : c < e.chars.lineEnd c) :
    lineBreak ∉ d.widget.selectedText := by
  have start := e.chars.lineStart_le c
  have first := h.lineStart_le
  have last := h.lt_lineEnd
  exact h.toShows.not_mem_selectedText inside h.ends.selection_eq (by omega) (by omega)

/-- The cursor has been moved over the line break behind the character `c`. -/
structure Crossed (e : Editor) (c k : Nat) (d : Editor) : Prop extends Shows e d where
  anchor : d.modal.anchor = some c
  cursor : d.modal.cursor = some k
  selected : d.widget.selection = ⟨c, k⟩
  beyond : c + 2 ≤ k
  inText : k ≤ e.chars.length

/-- The cursor has been moved beyond the end of the text, from its last character. -/
structure PastEnd (e : Editor) (c : Nat) (d : Editor) : Prop extends Shows e d where
  anchor : d.modal.anchor = some c
  cursor : d.modal.cursor = some (c + 2)
  selected : d.widget.selection = ⟨c, c + 1⟩
  final : c + 1 = e.chars.length

theorem Crossed.mem_selectedText (h : Crossed e c k d) (atBreak : e.chars[c + 1]? = some lineBreak) :
    lineBreak ∈ d.widget.selectedText := by
  have beyond := h.beyond
  rw [Widget.selectedText, h.selected, Widget.lineBreak_mem_slice_iff, ← chars, h.chars_eq]
  apply List.mem_of_getElem?
  rw [List.getElem?_drop, List.getElem?_take_of_lt (show c + 1 < k by omega)]
  exact atBreak

/-! ## Single steps -/

/-- Over a line break, it is selected too. -/
theorem Walking.crossed (h : Walking e c c side d) (inside : c < e.chars.lineEnd c)
    (close : side ≠ .ahead) (atBreak : e.chars[c + 1]? = some lineBreak) :
    Crossed e c (c + 2) d.nextChar := by
  obtain ⟨d', step, shows, anchor⟩ := h.nextChar_here inside close
  have room : c + 2 ≤ e.chars.length := (List.getElem?_eq_some_iff.mp atBreak).1
  rw [step]
  refine ⟨⟨shows.visual, shows.units_eq⟩, anchor, rfl, ?_, Nat.le_refl _, room⟩
  exact selection_select_of_le (Nat.le_add_right c 2) (shows.len_eq ▸ room)

/-- At the end of the text there is nothing more to select. -/
theorem Walking.pastEnd (h : Walking e c c side d) (inside : c < e.chars.lineEnd c)
    (close : side ≠ .ahead) (final : c + 1 = e.chars.length) : PastEnd e c d.nextChar := by
  obtain ⟨d', step, shows, anchor⟩ := h.nextChar_here inside close
  have len : d'.len = c + 1 := shows.len_eq.trans final.symm
  rw [step]
  refine ⟨⟨shows.visual, shows.units_eq⟩, anchor, rfl, ?_, final⟩
  show Selection.between c (c + 2) d'.len = _
  rw [len, Selection.between, Selection.mk.injEq]
  omega

namespace Crossed

theorem nextChar (h : Crossed e c k d) : ∃ k', Crossed e c k' d.nextChar := by
  have beyond := h.beyond
  rw [Editor.nextChar, if_pos h.inVisual, nextCharVisual, movingEnd_of_some h.inVisual h.cursor,
    anchorOr_of_some h.anchor]
  split
  · exact ⟨k, h⟩
  · next go =>
    have room : k + 1 ≤ e.chars.length := by
      rw [h.len_eq] at go
      omega
    rw [if_neg (by omega), if_neg (by omega)]
    refine ⟨k + 1, ⟨h.visual, h.units_eq⟩, h.anchor, rfl, ?_, by omega, room⟩
    exact selection_select_of_le (by omega) (h.len_eq ▸ room)

/-- The two steps back that would pass the line break find it, and are refused. -/
theorem prevChar (h : Crossed e c k d) (atBreak : e.chars[c + 1]? = some lineBreak) :
    ∃ k', Crossed e c k' d.prevChar := by
  have beyond := h.beyond
  have inText := h.inText
  have here : d.charAt? (c + 1) = some lineBreak := (h.charAt?_eq _).trans atBreak
  rw [Editor.prevChar, if_pos h.inVisual, prevCharVisual, movingEnd_of_some h.inVisual h.cursor,
    anchorOr_of_some h.anchor]
  split
  · exact ⟨k, h⟩
  · next other =>
    split
    · exact ⟨k, h⟩
    · next other' =>
      have far : c + 4 ≤ k := by
        apply Decidable.byContradiction
        intro near
        obtain rfl | rfl : k = c + 2 ∨ k = c + 3 := by omega
        · exact other here
        · exact other' ⟨by omega, by omega, here⟩
      have narrow : ¬(c < k ∧ k + 1 = d.widget.selection.stop) := by
        rw [h.selected]
        dsimp only
        omega
      rw [if_neg (by omega), if_neg (by omega), if_neg (by omega), if_neg narrow]
      refine ⟨k - 1, ⟨h.visual, h.units_eq⟩, h.anchor, rfl, ?_, by omega, by omega⟩
      exact selection_select_of_le (by omega) (h.len_eq ▸ (by omega : k - 1 ≤ e.chars.length))

theorem walk (h : Crossed e c k d) (atBreak : e.chars[c + 1]? = some lineBreak)
    (motions : List CharMotion) : ∃ k', Crossed e c k' (d.walk motions) := by
  apply walk_keeps (P := fun d => ∃ k, Crossed e c k d) _ ⟨k, h⟩
  intro d motion crossed
  obtain ⟨k, h⟩ := crossed
  cases motion with
  | next => exact h.nextChar
  | prev => exact h.prevChar atBreak

end Crossed

namespace PastEnd

theorem nextChar (h : PastEnd e c d) : d.nextChar = d := by
  have refused : d.len < c + 2 + 1 := by
    rw [h.len_eq, ← h.final]
    omega
  rw [Editor.nextChar, if_pos h.inVisual, nextCharVisual, movingEnd_of_some h.inVisual h.cursor,
    if_pos (.inr refused)]

/-- A step back brings the cursor inside the text again. -/
theorem prevChar (h : PastEnd e c d) (inside : c < e.chars.lineEnd c) :
    Walking e c c .ahead d.prevChar := by
  have inText : c ≤ e.chars.length := h.final ▸ Nat.le_succ c
  have nothing : d.charBefore? (c + 2) ≠ some lineBreak := by
    intro atBreak
    have there : e.chars[c + 1]? = some lineBreak := (h.charAt?_eq _).symm.trans atBreak
    rw [h.final, List.getElem?_length] at there
    cases there
  have here : d.charAt? (c + 2 - 2) ≠ some lineBreak := by
    rw [h.charAt?_eq]
    exact Text.getElem?_ne_lineBreak_of_lt_lineEnd inText (Nat.le_refl c) inside
  have narrow : ¬(c < c + 2 ∧ c + 2 + 1 = d.widget.selection.stop) := by
    rw [h.selected]
    dsimp only
    omega
  rw [Editor.prevChar, if_pos h.inVisual, prevCharVisual, movingEnd_of_some h.inVisual h.cursor,
    anchorOr_of_some h.anchor, if_neg nothing, if_neg fun stops => here stops.2.2,
    if_neg (by omega), if_neg (by omega), if_neg (by omega), if_neg narrow]
  exact h.putAhead h.anchor (Nat.le_refl c) inside

end PastEnd

/-! ## Walks that cannot cross -/

/-- A walk is on its line, or has just been moved beyond the end of the text. -/
inductive StaysOnLine (e : Editor) (c : Nat) (d : Editor) : Prop
  | walking {m : Nat} {side : Side} (h : Walking e c m side d) : StaysOnLine e c d
  | pastEnd (h : PastEnd e c d) : StaysOnLine e c d

namespace StaysOnLine

theorem not_mem_selectedText (h : StaysOnLine e c d) (inside : c < e.chars.lineEnd c) :
    lineBreak ∉ d.widget.selectedText := by
  cases h with
  | walking h => exact h.not_mem_selectedText inside
  | pastEnd h =>
    exact h.toShows.not_mem_selectedText inside h.selected (e.chars.lineStart_le c) inside

theorem step (h : StaysOnLine e c d) (inside : c < e.chars.lineEnd c)
    (noBreak : e.chars[c + 1]? ≠ some lineBreak) (motion : CharMotion) :
    StaysOnLine e c (motion.step d) := by
  cases motion with
  | next =>
    cases h with
    | @walking m side h =>
      by_cases leaving : m = c ∧ side ≠ .ahead ∧ c + 1 = e.chars.lineEnd c
      · obtain ⟨rfl, close, last⟩ := leaving
        have final : m + 1 = e.chars.length := by
          have inText := e.chars.lineEnd_le_length m
          apply Decidable.byContradiction
          intro more
          apply noBreak
          rw [last]
          exact Text.getElem?_lineEnd (by omega) (by omega)
        exact .pastEnd (h.pastEnd inside close final)
      · refine .walking (h.nextChar inside fun here close => ?_)
        exact Nat.lt_of_le_of_ne inside fun last => leaving ⟨here, close, last⟩
    | pastEnd h =>
      have still : CharMotion.next.step d = d := h.nextChar
      rw [still]
      exact .pastEnd h
  | prev =>
    cases h with
    | walking h => exact .walking (h.prevChar inside)
    | pastEnd h => exact .walking (h.prevChar inside)

theorem walk (h : StaysOnLine e c d) (inside : c < e.chars.lineEnd c)
    (noBreak : e.chars[c + 1]? ≠ some lineBreak) (motions : List CharMotion) :
    StaysOnLine e c (d.walk motions) :=
  walk_keeps (fun _ motion h => h.step inside noBreak motion) h motions

end StaysOnLine

/-! ## Walks that can -/

/-- As long as the cursor is not beyond the anchor, the walk is not beyond its beginning. -/
theorem Ends.le_of_close (h : Ends c m d side) (close : side ≠ .ahead) : m ≤ c := by
  cases h with
  | resting _ _ _ here => exact Nat.le_of_eq here
  | ahead => exact absurd rfl close
  | behind _ _ _ before => exact before

/-- A step that does not leave the first character forward keeps the cursor before the anchor. -/
theorem Walking.step_close (h : Walking e c m side d) (inside : c < e.chars.lineEnd c)
    (close : side ≠ .ahead) {motion : CharMotion} (other : motion = .next → m ≠ c) :
    ∃ side', side' ≠ .ahead ∧
      Walking e c (motion.target e.chars c m) side' (motion.step d) := by
  have le := h.ends.le_of_close close
  cases motion with
  | next =>
    have away := other rfl
    have lt : m < c := Nat.lt_of_le_of_ne le away
    have moved := h.nextChar inside fun here => absurd here away
    rw [CharMotion.turn_next_of_lt lt] at moved
    exact ⟨side, close, moved⟩
  | prev =>
    refine ⟨CharMotion.prev.turn e.chars c m side, ?_, h.prevChar inside⟩
    rw [CharMotion.turn]
    split
    · exact close
    · decide

/-- Where a line break comes next, the first step forward at the character where the walk began crosses
    it, and no walk without such a step does. -/
theorem Walking.walk_at_break (h : Walking e c m side d) (inside : c < e.chars.lineEnd c)
    (close : side ≠ .ahead) (atBreak : e.chars[c + 1]? = some lineBreak)
    (motions : List CharMotion) :
    (CharMotion.LeavesForward e.chars c m motions → ∃ k, Crossed e c k (d.walk motions)) ∧
      (¬CharMotion.LeavesForward e.chars c m motions → StaysOnLine e c (d.walk motions)) := by
  induction motions generalizing m side d with
  | nil => exact ⟨fun leaves => absurd leaves CharMotion.not_leavesForward_nil, fun _ => .walking h⟩
  | cons motion motions ih =>
    rw [walk_cons]
    by_cases forward : motion = .next ∧ m = c
    · obtain ⟨rfl, rfl⟩ := forward
      exact ⟨fun _ => (h.crossed inside close atBreak).walk atBreak motions,
        fun stays => absurd CharMotion.leavesForward_here stays⟩
    · have other : motion = .next → m ≠ c := fun next here => forward ⟨next, here⟩
      obtain ⟨side', close', h'⟩ := h.step_close inside close other
      rw [CharMotion.leavesForward_cons other]
      exact ih h' close'

/-! ## The law -/

/-- A walk by characters selects a line break if and only if it takes a step forward at the character
    where it began, and a line break comes next there. -/
theorem line_crossing_law (on : e.OnCharacter) (motions : List (CharMotion × Nat)) :
    let d := (e.run .toggleVisual 1).travel motions
    lineBreak ∈ d.widget.selectedText ↔
      CharMotion.Crosses e.chars e.caret (CharMotion.steps motions) := by
  intro d
  have inside := on.caret_lt_lineEnd
  have begun := walking_toggleVisual on.normal on.selection_eq inside
  have selected : d.widget.selectedText =
      ((e.run .toggleVisual 1).walk (CharMotion.steps motions)).widget.selectedText := by
    obtain ⟨_, same⟩ := refocused_travel (e.run .toggleVisual 1) motions
    rw [show d = _ from same]
    rfl
  rw [selected]
  by_cases atBreak : e.chars[e.caret + 1]? = some lineBreak
  · obtain ⟨crosses, stays⟩ :=
      begun.walk_at_break inside (by decide) atBreak (CharMotion.steps motions)
    constructor
    · intro member
      refine ⟨atBreak, Classical.byContradiction fun other => ?_⟩
      exact (stays other).not_mem_selectedText inside member
    · intro leaves
      obtain ⟨k, crossed⟩ := crosses leaves.forward
      exact crossed.mem_selectedText atBreak
  · have stays := StaysOnLine.walk (.walking begun) inside atBreak (CharMotion.steps motions)
    constructor
    · exact fun member => absurd member (stays.not_mem_selectedText inside)
    · exact fun crosses => absurd crosses.atBreak atBreak

/-- Back by one from the end of the line `ab`, forward again, and once more: the last step takes in the
    line break behind `b`, which is of two characters.  Steps back do not. -/
theorem line_crossing_law_from_line_end :
    let e : Editor :=
      { modal := {}
        widget :=
          { segmentation := .clusters
            text := ['x', lineBreak, 'a', 'b', '\r', lineBreak, 'c']
            selection := ⟨3, 4⟩ }
        register := {}
        history := .ofLimit 1 }
    e.OnCharacter ∧
      lineBreak ∈ ((e.run .toggleVisual 1).travel [(.prev, 1), (.next, 2)]).widget.selectedText ∧
      lineBreak ∉ ((e.run .toggleVisual 1).travel [(.prev, 5)]).widget.selectedText := by
  intro e
  have on : e.OnCharacter := ⟨'b', by decide, rfl, rfl, rfl⟩
  have forward : CharMotion.LeavesForward e.chars e.caret e.caret
      (CharMotion.steps [(.prev, 1), (.next, 2)]) := ⟨[.prev, .next], [], rfl, by decide⟩
  have back : ¬CharMotion.Crosses e.chars e.caret (CharMotion.steps [(.prev, 5)]) := by
    intro crosses
    obtain ⟨before, after, split, _⟩ := crosses.forward
    have member : CharMotion.next ∈ CharMotion.steps [(.prev, 5)] :=
      split ▸ List.mem_append_right before List.mem_cons_self
    exact absurd member (by decide)
  exact ⟨on, (line_crossing_law on _).mpr ⟨by decide, forward⟩,
    fun member => back ((line_crossing_law on _).mp member)⟩

/-- From the last character of a line a single step forward selects the line break. -/
theorem not_always_within_line :
    ¬∀ {e : Editor}, e.OnCharacter → ∀ motions : List (CharMotion × Nat),
      lineBreak ∉ ((e.run .toggleVisual 1).travel motions).widget.selectedText := by
  intro within
  let e : Editor :=
    { modal := {}
      widget := { Widget.ofText .scalars ['a', lineBreak, 'b'] with selection := ⟨0, 1⟩ }
      register := {}
      history := .ofLimit 1 }
  have on : e.OnCharacter := ⟨'a', by decide, rfl, rfl, rfl⟩
  exact within on [(.next, 1)] (by decide)

end Editor

end ModalEdit
