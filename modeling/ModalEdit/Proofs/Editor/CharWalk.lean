import ModalEdit.Editor.Run
import ModalEdit.Proofs.Editor.Repeated
import ModalEdit.Proofs.Text.LineBounds

/-! # Walking by characters in visual mode

The visual selection of a walk by characters is the one that spans the character where visual
mode was entered and the character that the walk has come to, both of them included.  The walk
stays on its line.

An editor does not keep these two characters.  It keeps an anchor and a cursor, and which
character either of them stands for depends on the side on which the cursor lies: the anchor
moves by one position when the walk crosses it, and both ends lie behind their character or on
it.  `Ends` lists the three ways in which they can lie.  A step forward and a step back lead
from each of them to the one that `CharMotion.turn` says (`Walking.nextChar`, `Walking.prevChar`).

Only one step is not like this.  From the last character of a line, with the cursor not yet
beyond the anchor, a step forward takes in what stands behind the line.
-/

namespace ModalEdit

/-- How the ends of a visual selection lie. -/
inductive Side
  /-- There was no step yet, or none that led away. -/
  | resting
  /-- The anchor is on its character, the cursor behind its own. -/
  | ahead
  /-- The anchor is behind its character, the cursor on its own. -/
  | behind
  deriving DecidableEq

inductive CharMotion
  | next
  | prev
  deriving DecidableEq

namespace CharMotion

def action : CharMotion → Action
  | .next => .selectNextChar
  | .prev => .selectPrevChar

def step : CharMotion → Editor → Editor
  | .next => Editor.nextChar
  | .prev => Editor.prevChar

theorem run_action (d : Editor) (motion : CharMotion) (count : Nat) :
    d.run motion.action count = d.times count motion.step := by
  cases motion with
  | next => rfl
  | prev => rfl

/-- Where a motion leads from the character `m` on the line of `c`. -/
def target (cs : Text) (c m : Nat) : CharMotion → Nat
  | .next => min (m + 1) (cs.lineEnd c - 1)
  | .prev => max (m - 1) (cs.lineStart c)

def reached (cs : Text) (c : Nat) (motions : List CharMotion) : Nat :=
  motions.foldl (target cs c) c

/-- How the ends lie after a motion from the character `m`.  They change sides at the character
    where the walk began, and not if there is no character to go back to. -/
def turn (cs : Text) (c m : Nat) (side : Side) : CharMotion → Side
  | .next => if m < c then side else .ahead
  | .prev => if c < m ∨ (m = cs.lineStart c ∧ 0 < m) then side else .behind

section Turn

variable {cs : Text} {c m : Nat} {side : Side}

theorem turn_next_of_le (le : c ≤ m) : next.turn cs c m side = .ahead :=
  if_neg (Nat.not_lt_of_le le)

theorem turn_next_of_lt (lt : m < c) : next.turn cs c m side = side := if_pos lt

theorem turn_prev_of_lt (lt : c < m) : prev.turn cs c m side = side := if_pos (.inl lt)

theorem turn_prev_of_first (first : m = cs.lineStart c ∧ 0 < m) : prev.turn cs c m side = side :=
  if_pos (.inr first)

theorem turn_prev_of_le (le : m ≤ c) (inner : ¬(m = cs.lineStart c ∧ 0 < m)) :
    prev.turn cs c m side = .behind :=
  if_neg (not_or_intro (Nat.not_lt_of_le le) inner)

end Turn

/-- Where a motion leads, and how the ends lie then. -/
def move (cs : Text) (c : Nat) (place : Nat × Side) (motion : CharMotion) : Nat × Side :=
  (target cs c place.1 motion, turn cs c place.1 place.2 motion)

/-- How the ends lie after a walk. -/
def side (cs : Text) (c : Nat) (motions : List CharMotion) : Side :=
  (motions.foldl (move cs c) (c, .resting)).2

end CharMotion

namespace Editor

def walk (e : Editor) (motions : List CharMotion) : Editor :=
  motions.foldl (fun d motion => d.run motion.action 1) e

theorem walk_cons (d : Editor) (motion : CharMotion) (motions : List CharMotion) :
    d.walk (motion :: motions) = (motion.step d).walk motions := by
  show (d.run motion.action 1).walk motions = _
  rw [CharMotion.run_action, times_one]

theorem walk_replicate (d : Editor) (motion : CharMotion) (n : Nat) :
    d.walk (List.replicate n motion) = Nat.repeat motion.step n d := by
  have step : (fun d : Editor => d.run motion.action 1) = motion.step := by
    funext d
    rw [CharMotion.run_action, times_one]
  rw [walk, foldl_replicate, step]

/-- What every motion keeps, a walk keeps. -/
theorem walk_keeps {P : Editor → Prop} (kept : ∀ d motion, P d → P (CharMotion.step motion d))
    {d : Editor} (h : P d) (motions : List CharMotion) : P (d.walk motions) := by
  induction motions generalizing d with
  | nil => exact h
  | cons motion motions ih =>
    rw [walk_cons]
    exact ih (kept d motion h)

/-- How the ends of a visual selection stand for the character `m`, on a walk from `c`. -/
inductive Ends (c m : Nat) (d : Editor) : Side → Prop
  | resting (anchor : d.modal.anchor = some c) (cursor : d.modal.cursor = none)
      (selected : d.widget.selection = ⟨c, c + 1⟩) (here : m = c) : Ends c m d .resting
  | ahead (anchor : d.modal.anchor = some c) (cursor : d.modal.cursor = some (m + 1))
      (selected : d.widget.selection = ⟨c, m + 1⟩) (beyond : c ≤ m) : Ends c m d .ahead
  | behind (anchor : d.modal.anchor = some (c + 1)) (cursor : d.modal.cursor = some m)
      (selected : d.widget.selection = ⟨m, c + 1⟩) (before : m ≤ c) : Ends c m d .behind

/-- Visual mode on the positions of `e`. -/
structure Shows (e d : Editor) : Prop where
  visual : d.modal.mode = .visual
  units_eq : d.widget.units = e.widget.units

/-- A visual walk that began at `c` in `e` has come to `m`, on the same line. -/
structure Walking (e : Editor) (c m : Nat) (side : Side) (d : Editor) : Prop extends Shows e d where
  lineStart_le : e.chars.lineStart c ≤ m
  lt_lineEnd : m < e.chars.lineEnd c
  ends : Ends c m d side

theorem Ends.selection_eq {c m : Nat} {d : Editor} {side : Side} (h : Ends c m d side) :
    d.widget.selection = ⟨min c m, max c m + 1⟩ := by
  cases h with
  | resting _ _ selected here => rw [selected, here, Nat.min_self, Nat.max_self]
  | ahead _ _ selected beyond => rw [selected, Nat.min_eq_left beyond, Nat.max_eq_right beyond]
  | behind _ _ selected before => rw [selected, Nat.min_eq_right before, Nat.max_eq_left before]

variable {e d : Editor} {c m : Nat} {side : Side}

/-! ## What a walk reads -/

namespace Shows

theorem inVisual (h : Shows e d) : d.inVisual = true := by simp [Editor.inVisual, h.visual]

theorem chars_eq (h : Shows e d) : d.chars = e.chars := by
  simp only [chars, Widget.chars, h.units_eq]

theorem text_eq (h : Shows e d) : d.widget.text = e.widget.text := by
  rw [← d.widget.slice_zero_len, ← e.widget.slice_zero_len]
  simp only [Widget.slice, Widget.len, h.units_eq]

theorem charAt?_eq (h : Shows e d) (p : Nat) : d.charAt? p = e.chars[p]? := by
  rw [charAt?, Widget.charAt?_eq, ← h.chars_eq, chars]

theorem charBefore?_eq (h : Shows e d) (p : Nat) : d.charBefore? p = e.chars.before? p := by
  cases p with
  | zero => rfl
  | succ p => exact h.charAt?_eq p

theorem len_eq (h : Shows e d) : d.len = e.chars.length := by
  rw [← h.chars_eq, length_chars]

theorem withAnchor (h : Shows e d) (p : Nat) : Shows e (d.withAnchor p) := ⟨h.visual, h.units_eq⟩

theorem stops_iff (h : Shows e d) (inside : c < e.chars.lineEnd c) {p : Nat}
    (first : e.chars.lineStart c ≤ p) (last : p ≤ e.chars.lineEnd c) :
    (d.charAt? p = some lineBreak ∨ d.len < p + 1) ↔ p = e.chars.lineEnd c := by
  rw [h.charAt?_eq, h.len_eq]
  have inText := e.chars.lineEnd_le_length c
  exact Text.stops_iff_eq_lineEnd (by omega) first last

theorem not_stops (h : Shows e d) (inside : c < e.chars.lineEnd c) {p : Nat}
    (first : e.chars.lineStart c ≤ p) (last : p < e.chars.lineEnd c) :
    ¬(d.charAt? p = some lineBreak ∨ d.len < p + 1) := by
  rw [h.stops_iff inside first (Nat.le_of_lt last)]
  exact Nat.ne_of_lt last

theorem charBefore?_iff (h : Shows e d) (inside : c < e.chars.lineEnd c) {p : Nat}
    (first : e.chars.lineStart c ≤ p) (last : p ≤ e.chars.lineEnd c) :
    d.charBefore? p = some lineBreak ↔ p = e.chars.lineStart c ∧ 0 < p := by
  rw [h.charBefore?_eq]
  have inText := e.chars.lineEnd_le_length c
  exact Text.before?_eq_lineBreak_iff (by omega) first last

end Shows

theorem movingEnd_of_none (cursor : d.modal.cursor = none) : d.movingEnd = d.caret := by
  simp [movingEnd, cursor]

theorem movingEnd_of_some {p : Nat} (visual : d.inVisual = true)
    (cursor : d.modal.cursor = some p) : d.movingEnd = p := by
  simp [movingEnd, cursor, visual]

theorem anchorOr_of_some {p : Nat} (anchor : d.modal.anchor = some p) (q : Nat) :
    d.anchorOr q = p := by
  simp [anchorOr, anchor]

theorem caret_of_selection {a b : Nat} (selected : d.widget.selection = ⟨a, b⟩) : d.caret = a := by
  rw [caret, Widget.caret, selected]

/-! ## Where the ends are put -/

theorem select_comm (d : Editor) (a b : Nat) : d.select a b = d.select b a := by
  simp only [select, Widget.select, Selection.between, Nat.min_comm a b, Nat.max_comm a b]

theorem selection_select_of_le {a b : Nat} (hab : a ≤ b) (hb : b ≤ d.len) :
    (d.select a b).widget.selection = ⟨a, b⟩ := by
  have inText : b ≤ d.widget.len := hb
  simp only [select, Widget.selection_select, Selection.between]
  rw [Nat.min_eq_left hab, Nat.max_eq_right hab, Nat.min_eq_left (Nat.le_trans hab inText),
    Nat.min_eq_left inText]

namespace Shows

theorem putAhead (h : Shows e d) (anchor : d.modal.anchor = some c) (beyond : c ≤ m)
    (last : m < e.chars.lineEnd c) :
    Walking e c m .ahead ((d.withCursor (m + 1)).select c (m + 1)) := by
  have inText := e.chars.lineEnd_le_length c
  have room : m + 1 ≤ (d.withCursor (m + 1)).len := by
    rw [show (d.withCursor (m + 1)).len = d.len from rfl, h.len_eq]
    omega
  refine ⟨⟨h.visual, h.units_eq⟩, ?_, last, ?_⟩
  · exact Nat.le_trans (e.chars.lineStart_le c) beyond
  · exact .ahead anchor rfl (selection_select_of_le (by omega) room) beyond

theorem putBehind (h : Shows e d) (anchor : d.modal.anchor = some (c + 1)) (before : m ≤ c)
    (first : e.chars.lineStart c ≤ m) (inside : c < e.chars.lineEnd c) :
    Walking e c m .behind ((d.withCursor m).select m (c + 1)) := by
  have inText := e.chars.lineEnd_le_length c
  have room : c + 1 ≤ (d.withCursor m).len := by
    rw [show (d.withCursor m).len = d.len from rfl, h.len_eq]
    omega
  refine ⟨⟨h.visual, h.units_eq⟩, first, by omega, ?_⟩
  exact .behind anchor rfl (selection_select_of_le (by omega) room) before

end Shows

/-! ## One step -/

namespace Walking

/-- At the character where the walk began, with the cursor not yet beyond the anchor, a step forward
    takes two positions, with the anchor on its character. -/
theorem nextChar_here (h : Walking e c c side d) (inside : c < e.chars.lineEnd c)
    (close : side ≠ .ahead) :
    ∃ d', d.nextChar = (d'.withCursor (c + 2)).select c (c + 2) ∧ Shows e d' ∧
      d'.modal.anchor = some c := by
  have go := h.not_stops inside (e.chars.lineStart_le c) inside
  rw [Editor.nextChar, if_pos h.inVisual, nextCharVisual]
  cases h.ends with
  | resting anchor cursor selected _ =>
    have pos : d.movingEnd = c := (movingEnd_of_none cursor).trans (caret_of_selection selected)
    rw [pos, anchorOr_of_some anchor, if_neg go, if_pos rfl]
    exact ⟨d, rfl, h.toShows, anchor⟩
  | ahead => exact absurd rfl close
  | behind anchor cursor selected _ =>
    have pos := movingEnd_of_some h.inVisual cursor
    have caret := caret_of_selection selected
    -- The anchor was behind its character, and moves back on it.
    rw [pos, anchorOr_of_some anchor, caret, if_neg go, if_neg (by omega), if_pos ⟨rfl, rfl⟩]
    exact ⟨d.withAnchor c, rfl, h.withAnchor c, rfl⟩

/-- A step forward leads to the next character, or stays on the last one of the line. -/
theorem nextChar (h : Walking e c m side d) (inside : c < e.chars.lineEnd c)
    (room : m = c → side ≠ .ahead → c + 1 < e.chars.lineEnd c) :
    Walking e c (CharMotion.next.target e.chars c m) (CharMotion.next.turn e.chars c m side)
      d.nextChar := by
  have first := h.lineStart_le
  have last := h.lt_lineEnd
  rw [CharMotion.target]
  by_cases turning : m = c ∧ side ≠ .ahead
  · obtain ⟨rfl, close⟩ := turning
    have inner := room rfl close
    obtain ⟨d', step, shows, anchor⟩ := h.nextChar_here inside close
    rw [step, CharMotion.turn_next_of_le (Nat.le_refl m), Nat.min_eq_left (by omega)]
    exact shows.putAhead anchor (by omega) (by omega)
  · rw [Editor.nextChar, if_pos h.inVisual, nextCharVisual]
    cases h.ends with
    | resting _ _ _ here => exact absurd ⟨here, by decide⟩ turning
    | ahead anchor cursor selected beyond =>
      have pos := movingEnd_of_some h.inVisual cursor
      rw [pos, anchorOr_of_some anchor, CharMotion.turn_next_of_le beyond]
      by_cases atEnd : m + 1 = e.chars.lineEnd c
      · have stop := (h.stops_iff (by omega) (by omega) (by omega)).mpr atEnd
        rw [if_pos stop, Nat.min_eq_right (by omega), ← atEnd, Nat.add_sub_cancel]
        exact h
      · have go := h.not_stops inside (show e.chars.lineStart c ≤ m + 1 by omega) (by omega)
        rw [if_neg go, if_neg (by omega), if_neg (by omega), Nat.min_eq_left (by omega)]
        exact h.putAhead anchor (by omega) (by omega)
    | behind anchor cursor selected before =>
      have away : m ≠ c := fun here => turning ⟨here, by decide⟩
      have pos := movingEnd_of_some h.inVisual cursor
      have caret := caret_of_selection selected
      rw [pos, anchorOr_of_some anchor, caret, if_neg (h.not_stops inside first last),
        if_neg (by omega), if_neg (by omega), CharMotion.turn_next_of_lt (by omega), select_comm,
        Nat.min_eq_left (by omega)]
      exact h.putBehind anchor (by omega) (by omega) (by omega)

/-- A step back leads to the character before, or stays on the first one of the line. -/
theorem prevChar (h : Walking e c m side d) (inside : c < e.chars.lineEnd c) :
    Walking e c (CharMotion.prev.target e.chars c m) (CharMotion.prev.turn e.chars c m side)
      d.prevChar := by
  have first := h.lineStart_le
  have last := h.lt_lineEnd
  have stop_iff := h.charBefore?_iff inside first (by omega)
  rw [Editor.prevChar, if_pos h.inVisual, prevCharVisual, CharMotion.target]
  cases h.ends with
  | resting anchor cursor selected here =>
    subst here
    have pos : d.movingEnd = m := (movingEnd_of_none cursor).trans (caret_of_selection selected)
    have start := anchorOr_of_some anchor m
    rw [pos, start]
    by_cases atStart : m = e.chars.lineStart m ∧ 0 < m
    · rw [if_pos (stop_iff.mpr atStart), CharMotion.turn_prev_of_first atStart,
        Nat.max_eq_right (by omega), ← atStart.1]
      exact h
    · rw [if_neg (mt stop_iff.mp atStart), if_neg (by omega), if_pos rfl,
        CharMotion.turn_prev_of_le (Nat.le_refl m) atStart, Nat.max_eq_left (by omega)]
      exact (h.withAnchor (m + 1)).putBehind rfl (by omega) (by omega) inside
  | ahead anchor cursor selected beyond =>
    have pos := movingEnd_of_some h.inVisual cursor
    have start := anchorOr_of_some anchor (m + 1)
    have lineStart_le := e.chars.lineStart_le c
    have go : d.charBefore? (m + 1) ≠ some lineBreak := by
      intro hbreak
      have := (h.charBefore?_iff inside (p := m + 1) (by omega) (by omega)).mp hbreak
      omega
    rw [pos, start, if_neg go]
    -- The character under the walk is the one before the moving end, so two have to be passed.
    have stop_iff' : (c < m + 1 ∧ 2 ≤ m + 1 ∧ d.charAt? (m + 1 - 2) = some lineBreak) ↔
        m = e.chars.lineStart c ∧ 0 < m := by
      rw [← stop_iff]
      cases m with
      | zero => simp [charBefore?]
      | succ k => exact ⟨fun ⟨_, _, hbreak⟩ => hbreak, fun hbreak => ⟨by omega, by omega, hbreak⟩⟩
    by_cases atStart : m = e.chars.lineStart c ∧ 0 < m
    · rw [if_pos (stop_iff'.mpr atStart), CharMotion.turn_prev_of_first atStart,
        Nat.max_eq_right (by omega), ← atStart.1]
      exact h
    · rw [if_neg (mt stop_iff'.mp atStart), if_neg (by omega), Nat.max_eq_left (by omega)]
      -- On the anchored character again the anchor moves behind it.
      by_cases back : m = c
      · subst back
        rw [if_pos rfl, CharMotion.turn_prev_of_le (Nat.le_refl m) atStart, select_comm]
        exact (h.withAnchor (m + 1)).putBehind rfl (by omega) (by omega) inside
      · have narrow : ¬(c < m + 1 ∧ m + 1 + 1 = d.widget.selection.stop) := by
          rw [selected]
          dsimp only
          omega
        rw [if_neg (by omega), if_neg (by omega), if_neg narrow,
          CharMotion.turn_prev_of_lt (by omega)]
        obtain ⟨k, rfl⟩ : ∃ k, m = k + 1 := Nat.exists_eq_add_one.mpr (by omega)
        exact h.putAhead anchor (by omega) (by omega)
  | behind anchor cursor selected before =>
    have pos := movingEnd_of_some h.inVisual cursor
    have start := anchorOr_of_some anchor m
    rw [pos, start]
    by_cases atStart : m = e.chars.lineStart c ∧ 0 < m
    · rw [if_pos (stop_iff.mpr atStart), CharMotion.turn_prev_of_first atStart,
        Nat.max_eq_right (by omega), ← atStart.1]
      exact h
    · rw [if_neg (mt stop_iff.mp atStart), if_neg (by omega), if_neg (by omega),
        if_neg (by omega), CharMotion.turn_prev_of_le before atStart, Nat.max_eq_left (by omega)]
      by_cases back : m = c
      · subst back
        rw [if_pos rfl, select_comm]
        exact h.putBehind anchor (by omega) (by omega) inside
      · rw [if_neg (by omega), if_neg (by omega), select_comm]
        exact h.putBehind anchor (by omega) (by omega) inside

theorem step (h : Walking e c m side d) (inner : c + 1 < e.chars.lineEnd c) (motion : CharMotion) :
    Walking e c (motion.target e.chars c m) (motion.turn e.chars c m side) (motion.step d) := by
  have inside := Nat.lt_of_succ_lt inner
  cases motion with
  | next => exact h.nextChar inside fun _ _ => inner
  | prev => exact h.prevChar inside

theorem walk (h : Walking e c m side d) (inner : c + 1 < e.chars.lineEnd c)
    (motions : List CharMotion) :
    Walking e c (motions.foldl (CharMotion.target e.chars c) m)
      (motions.foldl (CharMotion.move e.chars c) (m, side)).2 (d.walk motions) := by
  induction motions generalizing m side d with
  | nil => exact h
  | cons motion motions ih =>
    rw [walk_cons]
    exact ih (h.step inner motion)

end Walking

/-! ## The whole walk -/

/-- Visual mode has been entered with the anchor on the caret, and nothing else is changed. -/
structure EntersVisual (e d : Editor) : Prop where
  visual : d.modal.mode = .visual
  anchor : d.modal.anchor = some e.caret
  cursor : d.modal.cursor = none
  widget_eq : d.widget = e.widget

theorem entersVisual_toggleVisual (other : e.modal.mode ≠ .visual) (count : Nat) :
    EntersVisual e (e.run .toggleVisual count) := by
  have begun : e.run .toggleVisual count = e.beginVisual e.caret := by
    simp [Editor.run, toggleVisual, inVisual, other]
  rw [begun]
  refine ⟨ModalState.mode_beginVisual _ _, rfl, rfl, ?_⟩
  simp only [beginVisual, switchMode]
  split
  · rfl
  · rfl

theorem walking_toggleVisual (normal : e.modal.mode = .normal)
    (selected : e.widget.selection = ⟨c, c + 1⟩) (inside : c < e.chars.lineEnd c) :
    Walking e c c .resting (e.run .toggleVisual 1) := by
  have entered := entersVisual_toggleVisual (e := e) (by simp [normal]) 1
  refine ⟨⟨entered.visual, by rw [entered.widget_eq]⟩, e.chars.lineStart_le c, inside,
    .resting ?_ entered.cursor ?_ rfl⟩
  · rw [entered.anchor, caret_of_selection selected]
  · rw [entered.widget_eq, selected]

theorem walking_walk_toggleVisual (normal : e.modal.mode = .normal)
    (selected : e.widget.selection = ⟨c, c + 1⟩) (inner : c + 1 < e.chars.lineEnd c)
    (motions : List CharMotion) :
    Walking e c (CharMotion.reached e.chars c motions) (CharMotion.side e.chars c motions)
      ((e.run .toggleVisual 1).walk motions) := by
  exact (walking_toggleVisual normal selected (Nat.lt_of_succ_lt inner)).walk inner motions

/-- From normal mode on a character that is not the last one of its line, visual mode and any
    motions by one character select from that character to the one that the motions lead to,
    both included, and change neither the text nor the mode. -/
theorem selection_walk_toggleVisual (normal : e.modal.mode = .normal)
    (selected : e.widget.selection = ⟨c, c + 1⟩) (inner : c + 1 < e.chars.lineEnd c)
    (motions : List CharMotion) :
    let d := (e.run .toggleVisual 1).walk motions
    let m := CharMotion.reached e.chars c motions
    d.widget.selection = ⟨min c m, max c m + 1⟩ ∧ d.widget.text = e.widget.text ∧
      d.modal.mode = .visual := by
  have done := walking_walk_toggleVisual normal selected inner motions
  exact ⟨done.ends.selection_eq, done.text_eq, done.visual⟩

/-- A walk from `e` in the second of three lines: forward to its last character, then back over
    `e` to its first one, where the last step is refused. -/
theorem selection_walk_over_anchor :
    let e : Editor :=
      { modal := {}
        widget :=
          { segmentation := .clusters
            text := ['a', '\n', 'c', 'd', 'e', 'f', '\n', 'g']
            selection := ⟨4, 5⟩ }
        register := {}
        history := .ofLimit 1 }
    let motions := [CharMotion.next, .prev, .prev, .prev, .prev]
    e.modal.mode = .normal ∧ e.widget.selection = ⟨4, 5⟩ ∧ 5 < e.chars.lineEnd 4 ∧
      ((e.run .toggleVisual 1).walk motions).widget.selection = ⟨2, 5⟩ ∧
      ((e.run .toggleVisual 1).walk motions).widget.text = e.widget.text ∧
      ((e.run .toggleVisual 1).walk motions).modal.mode = .visual := by
  intro e motions
  have normal : e.modal.mode = .normal := rfl
  have selected : e.widget.selection = ⟨4, 5⟩ := rfl
  have inner : 5 < e.chars.lineEnd 4 := by decide
  have reached : CharMotion.reached e.chars 4 motions = 2 := by decide
  obtain ⟨spanned, kept, visual⟩ := selection_walk_toggleVisual normal selected inner motions
  rw [reached] at spanned
  exact ⟨normal, selected, inner, spanned, kept, visual⟩

end Editor

end ModalEdit
