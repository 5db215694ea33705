import ModalEdit.Proofs.Editor.Repetition
import ModalEdit.Proofs.Text.WordBounds

/-! # The ends of a visual selection

In visual mode a motion does one thing: it puts the selection between an anchor and a cursor (`putEnds`).
Which positions these are, and when the motion stays where it is, is said here once for each motion.

* A step by a character (`CharStep`) moves the cursor by one or by two positions, and the anchor by one if
  the two change sides.
* A jump, to another line or to a word, leaves the anchor where it is (`Jump`).  Nothing keeps it from
  putting the cursor on the anchor (`LandsOnAnchor`).  Onto an empty line it puts a space first, and the
  anchor makes way for that.

An invariant of visual selections that these steps keep is kept by every motion with any count
(`KeptByEnds.run`).  The first one is where the ends can be (`Bounded`): both are positions of the text,
but for one of them, which may be one past its end.
-/

namespace ModalEdit.Editor

variable {d d' : Editor} {a k p : Nat}

/-- Puts the visual selection between an anchor and a cursor. -/
def putEnds (d : Editor) (a k : Nat) : Editor := ((d.withAnchor a).withCursor k).select a k

/-- A motion to another line or to a word leads to the place of the anchor. -/
inductive LandsOnAnchor (d : Editor) : Action → Prop
  | firstLine (anchor : d.modal.anchor = some 0) : LandsOnAnchor d .firstLine
  | lastLine (anchor : d.modal.anchor = some (d.chars.lineStart (d.len - 1) + 1)) :
      LandsOnAnchor d .lastLine
  | nextWord {word : Nat} (found : d.chars.nextWord? d.movingEnd = some word)
      (anchor : d.modal.anchor = some (word + 1)) : LandsOnAnchor d .nextWord
  | nextLine {next : Nat} (below : d.chars.nextLineStart? d.movingEnd = some next)
      (filled : d.charAt? next ≠ some lineBreak)
      (anchor : d.modal.anchor =
        some (next + min (d.verticalColumn d.movingEnd) (d.chars.lineLength next))) :
      LandsOnAnchor d .selectNextLine
  | prevLine {first last : Nat} (start : d.chars.prevLineStart? d.movingEnd = some first)
      (stop : d.chars.prevLineEnd? d.movingEnd = some last)
      (anchor : d.modal.anchor =
        some (first + min (d.verticalColumn d.movingEnd) (last - first))) :
      LandsOnAnchor d .selectPrevLine

/-- What a step by a character makes of a visual selection with the anchor `a`. -/
inductive CharStep (a : Nat) (d : Editor) : Editor → Prop
  | stays : CharStep a d d
  | leavesAhead (here : a = d.movingEnd ∨ a = d.movingEnd + 1) (inside : d.movingEnd < d.len) :
      CharStep a d (d.putEnds d.movingEnd (d.movingEnd + 2))
  | ahead (away : a ≠ d.movingEnd) (apart : a = d.movingEnd + 1 → a ≠ d.caret + 1)
      (inside : d.movingEnd < d.len) : CharStep a d (d.putEnds a (d.movingEnd + 1))
  | leavesBack (here : d.movingEnd = a ∨ d.movingEnd = a + 1) :
      CharStep a d (d.putEnds (a + 1) (a - 1))
  | skipsBack (here : d.movingEnd + 1 = a) : CharStep a d (d.putEnds a (a - 2))
  | redraws (beyond : a + 1 < d.movingEnd) (stop : d.movingEnd + 1 = d.widget.selection.stop) :
      CharStep a d (d.putEnds a d.movingEnd)
  | back (away : d.movingEnd ≠ a) (apart : d.movingEnd ≠ a + 1) :
      CharStep a d (d.putEnds a (d.movingEnd - 1))

/-- What a jump makes of a visual selection with the anchor `a`, which it `lands` on or not. -/
inductive Jump (a : Nat) (lands : Prop) (d : Editor) : Editor → Prop
  | stays (off : ¬lands) : Jump a lands d d
  | leads {k : Nat} (inText : k ≤ d.len) (meets : k = a ↔ lands) : Jump a lands d (d.putEnds a k)
  | fillsAhead {p : Nat} (off : ¬lands) (empty : d.chars.EmptyLine p) (beyond : a ≤ p) :
      Jump a lands d ((d.fillLine p).putEnds a (p + 1))
  | fillsBefore {p : Nat} (off : ¬lands) (empty : d.chars.EmptyLine p) (before : p < a) :
      Jump a lands d ((d.fillLine p).putEnds (a + 1) p)

/-! ## Each motion -/

section Motions

variable (visual : d.inVisual = true) (anchor : d.modal.anchor = some a)

theorem putEnds_of_anchor (anchor : d.modal.anchor = some a) (k : Nat) :
    d.putEnds a k = (d.withCursor k).select a k := by
  have same : d.withAnchor a = d := by
    rw [withAnchor, ← anchor]
  rw [putEnds, same]

/-- On an empty line there is only the first column. -/
theorem jump_nextLineVisual (anchor : d.modal.anchor = some a) {pos next target : Nat} {lands : Prop}
    (first : d.chars.lineStart next = next) (positive : 0 < next) (inText : target ≤ d.len)
    (empty : d.charAt? next = some lineBreak → target = next ∧ ¬lands)
    (meets : d.charAt? next ≠ some lineBreak → (target = a ↔ lands)) :
    Jump a lands d (d.nextLineVisual pos next target) := by
  simp only [nextLineVisual, anchorOr_of_some anchor]
  by_cases atBreak : d.charAt? next = some lineBreak
  · have line := emptyLine_of_charAt? first atBreak
    obtain ⟨rfl, off⟩ := empty atBreak
    -- The space that is put on the line pushes an anchor behind it on by one.
    by_cases before : target < a
    · rw [if_pos atBreak, if_pos before, if_pos (by omega), Nat.sub_add_cancel positive]
      exact .fillsBefore off line before
    · have filled := putEnds_of_anchor (d := d.fillLine target) anchor (target + 1)
      rw [if_pos atBreak, if_neg before, if_neg (by omega)]
      exact filled ▸ .fillsAhead off line (Nat.le_of_not_lt before)
  · have meets := meets atBreak
    rw [if_neg atBreak, ← putEnds_of_anchor anchor]
    split
    · refine .leads (by omega) ?_
      rw [← meets]
      omega
    · exact .leads inText meets

include visual anchor

theorem charStep_nextChar : CharStep a d d.nextChar := by
  rw [nextChar, if_pos visual, nextCharVisual]
  simp only [anchorOr_of_some anchor]
  split
  · exact .stays
  · next go =>
    -- The position itself is inside, but nothing is known of the next one, where the cursor may go.
    have inside : d.movingEnd < d.len := Nat.lt_of_not_le fun past => go (.inr (by omega))
    split
    · next here =>
      subst here
      rw [← putEnds_of_anchor anchor]
      exact .leavesAhead (.inl rfl) inside
    · next away =>
      split
      · next behind =>
        have back : a - 1 = d.movingEnd := by omega
        rw [back]
        exact .leavesAhead (.inr behind.1.symm) inside
      · next apart =>
        rw [← putEnds_of_anchor anchor]
        exact .ahead away (fun one same => apart ⟨one.symm, same⟩) inside

theorem charStep_prevChar : CharStep a d d.prevChar := by
  rw [prevChar]
  split
  · exact .stays
  · rw [prevCharVisual]
    simp only [anchorOr_of_some anchor]
    split
    · exact .stays
    · split
      · next here =>
        rw [select_comm]
        exact .leavesBack (.inl here)
      · next away =>
        split
        · next behind =>
          rw [behind]
          exact .leavesBack (.inr behind)
        · next apart =>
          split
          · next before =>
            rw [← putEnds_of_anchor anchor]
            exact .skipsBack before
          · split
            · next drawn =>
              rw [← putEnds_of_anchor anchor]
              exact .redraws (by omega) drawn.2
            · rw [← putEnds_of_anchor anchor]
              exact .back away apart

theorem jump_toFirstLine : Jump a (d.LandsOnAnchor .firstLine) d d.toFirstLine := by
  rw [toFirstLine, if_pos visual, anchorOr_of_some anchor, ← putEnds_of_anchor anchor]
  refine .leads (Nat.zero_le _) ⟨?_, ?_⟩
  · rintro rfl
    exact .firstLine anchor
  · intro lands
    cases lands with
    | firstLine there => exact Option.some.inj (there.symm.trans anchor)

theorem jump_toLastLine (nonempty : 0 < d.len) :
    Jump a (d.LandsOnAnchor .lastLine) d d.toLastLine := by
  have head := d.chars.lineStart_le (d.len - 1)
  simp only [toLastLine, if_pos visual, anchorOr_of_some anchor]
  rw [← putEnds_of_anchor anchor]
  refine .leads (by omega) ⟨?_, ?_⟩
  · rintro rfl
    exact .lastLine anchor
  · intro lands
    cases lands with
    | lastLine there => exact Option.some.inj (there.symm.trans anchor)

theorem jump_toNextWord : Jump a (d.LandsOnAnchor .nextWord) d d.toNextWord := by
  rw [toNextWord]
  cases found : d.chars.nextWord? d.movingEnd with
  | none =>
    refine .stays fun lands => ?_
    cases lands with
    | nextWord other _ => cases found.symm.trans other
  | some word =>
    have inside := (Text.nextWord?_bounds found).2
    rw [length_chars] at inside
    simp only [if_pos visual, anchorOr_of_some anchor]
    rw [← putEnds_of_anchor anchor]
    refine .leads inside ⟨?_, ?_⟩
    · rintro rfl
      exact .nextWord found anchor
    · intro lands
      cases lands with
      | nextWord same there =>
        cases found.symm.trans same
        exact Option.some.inj (there.symm.trans anchor)

theorem jump_nextLine : Jump a (d.LandsOnAnchor .selectNextLine) d d.nextLine := by
  rw [nextLine]
  cases below : d.chars.nextLineStart? d.movingEnd with
  | none =>
    refine .stays fun lands => ?_
    cases lands with
    | nextLine other _ _ => cases below.symm.trans other
  | some next =>
    have first := Text.lineStart_nextLineStart? below
    obtain ⟨positive, inside⟩ := Text.nextLineStart?_bounds below
    have fits := Text.add_lineLength_le first inside
    rw [length_chars] at fits
    have inText : next + min (d.verticalColumn d.movingEnd) (d.chars.lineLength next) ≤ d.len := by
      omega
    simp only [if_neg (Nat.not_lt_of_le inText), if_pos visual]
    -- An empty line is never a landing: the cursor goes behind the space, or the anchor makes way for it.
    apply jump_nextLineVisual anchor first positive inText
    · intro atBreak
      have empty := (emptyLine_of_charAt? first atBreak).2
      refine ⟨by rw [empty, Nat.min_zero, Nat.add_zero], fun lands => ?_⟩
      cases lands with
      | nextLine other filled _ =>
        cases below.symm.trans other
        exact filled atBreak
    · intro filled
      constructor
      · intro same
        exact .nextLine below filled (same ▸ anchor)
      · intro lands
        cases lands with
        | nextLine same _ there =>
          cases below.symm.trans same
          exact Option.some.inj (there.symm.trans anchor)

theorem jump_prevLine : Jump a (d.LandsOnAnchor .selectPrevLine) d d.prevLine := by
  rw [prevLine]
  cases start : d.chars.prevLineStart? d.movingEnd with
  | none =>
    refine .stays fun lands => ?_
    cases lands with
    | prevLine other _ _ => cases start.symm.trans other
  | some first =>
    cases stop : d.chars.prevLineEnd? d.movingEnd with
    | none =>
      refine .stays fun lands => ?_
      cases lands with
      | prevLine _ other _ => cases stop.symm.trans other
    | some last =>
      obtain ⟨ordered, inside⟩ := Text.prevLine_bounds start stop
      rw [length_chars] at inside
      have inText : first + min (d.verticalColumn d.movingEnd) (last - first) ≤ d.len := by omega
      have meets : first + min (d.verticalColumn d.movingEnd) (last - first) = a ↔
          d.LandsOnAnchor .selectPrevLine := by
        constructor
        · intro same
          exact .prevLine start stop (same ▸ anchor)
        · intro lands
          cases lands with
          | prevLine start' stop' there =>
            cases start.symm.trans start'
            cases stop.symm.trans stop'
            exact Option.some.inj (there.symm.trans anchor)
      simp only [if_pos visual, prevLineVisual, anchorOr_of_some anchor]
      rw [← putEnds_of_anchor anchor]
      split
      · next before =>
        refine .leads (by omega) ?_
        rw [← meets]
        omega
      · exact .leads inText meets

end Motions

/-- A step that moves an end leaves a cursor. -/
theorem CharStep.eq_or_cursor (step : CharStep a d d') : d' = d ∨ ∃ k, d'.modal.cursor = some k := by
  cases step with
  | stays => exact .inl rfl
  | _ => exact .inr ⟨_, rfl⟩

theorem Jump.eq_or_cursor {lands : Prop} (step : Jump a lands d d') :
    d' = d ∨ ∃ k, d'.modal.cursor = some k := by
  cases step with
  | stays off => exact .inl rfl
  | _ => exact .inr ⟨_, rfl⟩

/-! ## Invariants -/

/-- An invariant of visual selections that the steps by a character keep. -/
structure KeptByCharSteps (P : Editor → Prop) : Prop where
  visual : ∀ {d}, P d → d.inVisual = true
  anchored : ∀ {d}, P d → ∃ a, d.modal.anchor = some a
  charStep : ∀ {a d d'}, P d → d.modal.anchor = some a → CharStep a d d' → P d'

/-- An invariant of visual selections that jumps keep as well. -/
structure KeptByEnds (P : Editor → Prop) : Prop extends KeptByCharSteps P where
  nonempty : ∀ {d}, P d → 0 < d.len
  jump : ∀ {a d d' lands}, P d → d.modal.anchor = some a → Jump a lands d d' → P d'

namespace KeptByCharSteps

variable {P : Editor → Prop} (kept : KeptByCharSteps P)

include kept

theorem nextChar (h : P d) : P d.nextChar := by
  obtain ⟨a, anchor⟩ := kept.anchored h
  exact kept.charStep h anchor (charStep_nextChar (kept.visual h) anchor)

theorem prevChar (h : P d) : P d.prevChar := by
  obtain ⟨a, anchor⟩ := kept.anchored h
  exact kept.charStep h anchor (charStep_prevChar (kept.visual h) anchor)

theorem toLineHead (h : P d) : P d.toLineHead := by
  rw [Editor.toLineHead, if_pos (kept.visual h)]
  exact repeat_keeps (P := P) kept.prevChar _ h

theorem toLineTail (h : P d) : P d.toLineTail := by
  rw [Editor.toLineTail, if_pos (kept.visual h)]
  exact repeat_keeps (P := P) kept.nextChar _ h

end KeptByCharSteps

namespace KeptByEnds

variable {P : Editor → Prop} (kept : KeptByEnds P)

include kept

theorem nextLine (h : P d) : P d.nextLine := by
  obtain ⟨a, anchor⟩ := kept.anchored h
  exact kept.jump h anchor (jump_nextLine (kept.visual h) anchor)

theorem prevLine (h : P d) : P d.prevLine := by
  obtain ⟨a, anchor⟩ := kept.anchored h
  exact kept.jump h anchor (jump_prevLine (kept.visual h) anchor)

theorem toFirstLine (h : P d) : P d.toFirstLine := by
  obtain ⟨a, anchor⟩ := kept.anchored h
  exact kept.jump h anchor (jump_toFirstLine (kept.visual h) anchor)

theorem toLastLine (h : P d) : P d.toLastLine := by
  obtain ⟨a, anchor⟩ := kept.anchored h
  exact kept.jump h anchor (jump_toLastLine (kept.visual h) anchor (kept.nonempty h))

theorem toNextWord (h : P d) : P d.toNextWord := by
  obtain ⟨a, anchor⟩ := kept.anchored h
  exact kept.jump h anchor (jump_toNextWord (kept.visual h) anchor)

theorem run (h : P d) {action : Action} (motion : action ∈ Action.motions) (count : Nat) :
    P (d.run action count) := by
  have steps := kept.toKeptByCharSteps
  cases action with
  | selectNextChar => exact whileChanging_keeps (P := P) steps.nextChar _ h
  | selectPrevChar => exact whileChanging_keeps (P := P) steps.prevChar _ h
  | selectNextLine => exact whileChanging_keeps (P := P) kept.nextLine _ h
  | selectPrevLine => exact whileChanging_keeps (P := P) kept.prevLine _ h
  | nextWord => exact whileChanging_keeps (P := P) kept.toNextWord _ h
  | lineHead => exact steps.toLineHead h
  | lineTail => exact steps.toLineTail h
  | firstLine => exact kept.toFirstLine h
  | lastLine => exact kept.toLastLine h
  | _ => exact absurd motion (by decide)

theorem runAll (h : P d) {motions : List (Action × Nat)}
    (only : ∀ motion ∈ motions, motion.1 ∈ Action.motions) : P (d.runAll motions) := by
  induction motions generalizing d with
  | nil => exact h
  | cons motion motions ih =>
    have moved := kept.run h (only motion List.mem_cons_self) motion.2
    exact ih moved fun other member => only other (List.mem_cons_of_mem motion member)

end KeptByEnds

/-! ## Where the ends are -/

/-- The ends of a visual selection are positions of a text of `n` characters, or its end.  One of them
    may be one past the end. -/
inductive EndsWithin (n a : Nat) : Option Nat → Prop
  | resting (anchor : a ≤ n) : EndsWithin n a none
  | inside {k : Nat} (anchor : a ≤ n) (cursor : k ≤ n) : EndsWithin n a (some k)
  | cursorBeyond {k : Nat} (anchor : a + 1 = n) (cursor : k = n + 1) : EndsWithin n a (some k)
  | anchorBeyond {k : Nat} (anchor : a = n + 1) (cursor : k ≤ n) : EndsWithin n a (some k)

/-- A visual selection on a proper widget, with its ends inside a text that had `lost` characters more. -/
structure Bounded (lost : Nat) (d : Editor) : Prop where
  visual : d.modal.mode = .visual
  proper : d.widget.Proper
  ends : ∃ a, d.modal.anchor = some a ∧ EndsWithin (d.len + lost) a d.modal.cursor

theorem endsWithin_some_iff {n : Nat} :
    EndsWithin n a (some k) ↔
      a ≤ n ∧ k ≤ n ∨ a + 1 = n ∧ k = n + 1 ∨ a = n + 1 ∧ k ≤ n := by
  constructor
  · intro h
    cases h with
    | inside anchor cursor => exact .inl ⟨anchor, cursor⟩
    | cursorBeyond anchor cursor => exact .inr (.inl ⟨anchor, cursor⟩)
    | anchorBeyond anchor cursor => exact .inr (.inr ⟨anchor, cursor⟩)
  · rintro (⟨anchor, cursor⟩ | ⟨anchor, cursor⟩ | ⟨anchor, cursor⟩)
    · exact .inside anchor cursor
    · exact .cursorBeyond anchor cursor
    · exact .anchorBeyond anchor cursor

theorem EndsWithin.mono {n n' : Nat} {cursor : Option Nat} (h : EndsWithin n a cursor)
    (le : n ≤ n') : EndsWithin n' a cursor := by
  cases h with
  | resting anchor => exact .resting (Nat.le_trans anchor le)
  | inside anchor cursor => exact .inside (Nat.le_trans anchor le) (Nat.le_trans cursor le)
  | cursorBeyond anchor cursor =>
    rw [endsWithin_some_iff]
    omega
  | anchorBeyond anchor cursor =>
    rw [endsWithin_some_iff]
    omega

namespace Bounded

variable {lost : Nat}

theorem inVisual (h : Bounded lost d) : d.inVisual = true := by simp [Editor.inVisual, h.visual]

/-- The moving end counts where there is no cursor yet. -/
theorem movingEnd (h : Bounded lost d) (anchor : d.modal.anchor = some a) :
    EndsWithin (d.len + lost) a (some d.movingEnd) := by
  obtain ⟨_, same, ends⟩ := h.ends
  cases anchor.symm.trans same
  cases cursor : d.modal.cursor with
  | none =>
    rw [cursor] at ends
    rw [movingEnd_of_none cursor]
    cases ends with
    | resting anchor =>
      have inText : d.caret ≤ d.len := h.proper.caret_le_len
      exact .inside anchor (Nat.le_trans inText (Nat.le_add_right _ _))
  | some k =>
    rw [movingEnd_of_some h.inVisual cursor, ← cursor]
    exact ends

theorem putEnds (h : Bounded lost d)
    (ends : a ≤ d.len + lost ∧ k ≤ d.len + lost ∨ a + 1 = d.len + lost ∧ k = d.len + lost + 1 ∨
      a = d.len + lost + 1 ∧ k ≤ d.len + lost) : Bounded lost (d.putEnds a k) :=
  ⟨h.visual, .select h.proper.text_ne_nil a k, a, rfl, endsWithin_some_iff.mpr ends⟩

theorem charStep (h : Bounded lost d) (anchor : d.modal.anchor = some a) (step : CharStep a d d') :
    Bounded lost d' := by
  have ends := endsWithin_some_iff.mp (h.movingEnd anchor)
  cases step with
  | stays => exact h
  | leavesAhead here inside => exact h.putEnds (by omega)
  | ahead away apart inside => exact h.putEnds (by omega)
  | leavesBack here => exact h.putEnds (by omega)
  | skipsBack here => exact h.putEnds (by omega)
  | redraws beyond stop =>
    have inText : d.widget.selection.stop ≤ d.len := h.proper.stop_le
    exact h.putEnds (by omega)
  | back away apart => exact h.putEnds (by omega)

theorem fillLine (h : Bounded lost d) (empty : d.chars.EmptyLine p) : Bounded lost (d.fillLine p) := by
  obtain ⟨a, anchor, ends⟩ := h.ends
  have longer := len_fillLine empty
  refine ⟨h.visual, .insert h.proper.text_ne_nil [' '] p .whole, a, anchor, ends.mono ?_⟩
  omega

theorem jump {lands : Prop} (h : Bounded lost d) (anchor : d.modal.anchor = some a)
    (step : Jump a lands d d') : Bounded lost d' := by
  have ends := endsWithin_some_iff.mp (h.movingEnd anchor)
  cases step with
  | stays off => exact h
  | leads inText meets => exact h.putEnds (by omega)
  | fillsAhead off empty beyond =>
    have inText := le_len_of_emptyLine empty
    have longer := len_fillLine empty
    exact (h.fillLine empty).putEnds (by omega)
  | fillsBefore off empty before =>
    have inText := le_len_of_emptyLine empty
    have longer := len_fillLine empty
    exact (h.fillLine empty).putEnds (by omega)

end Bounded

/-- No motion takes an end of the selection out of its bounds. -/
theorem bounded_kept (lost : Nat) : KeptByEnds (Bounded lost) where
  visual h := h.inVisual
  nonempty h := h.proper.len_pos
  anchored h := h.ends.imp fun _ ends => ends.1
  charStep h anchor step := h.charStep anchor step
  jump h anchor step := h.jump anchor step

end ModalEdit.Editor
