import ModalEdit.Editor.Motion
import ModalEdit.Proofs.Checked.Scan
import ModalEdit.Proofs.Editor.Repeated

/-! # Motions with every operation checked

The steps of commands, the ways to repeat one, and the motions, with `none` where a subtraction
would go below zero.  Where a motion takes a position back and stops at zero it is left as it is.

Each subtraction that is checked is safe by what was found before it: a line begins no later than a
position on it, a motion by line aims behind a line break, a column counts from one, and an anchor
that is to be moved back has a position before it.  None of this asks where the visual positions
came from, so they may be those of a longer text.
-/

namespace ModalEdit.Editor.Checked

open ModalEdit.Checked
open Widget.Checked (charAt before? lineStart lineEnd lineLength column nextLineStart?
  prevLineStart? prevLineEnd? nextWord?)

variable (e : Editor)

/-! ## Reading -/

theorem len_widget : e.widget.len = e.len := rfl

theorem chars_widget : e.widget.chars = e.chars := rfl

theorem charAt?_widget (p : Nat) : e.widget.charAt? p = e.charAt? p := rfl

theorem before?_chars (p : Nat) : e.chars.before? p = e.charBefore? p := by
  cases p with
  | zero => rfl
  | succ p => exact (e.widget.charAt?_eq p).symm

/-! ## Steps -/

def select (a b : Nat) : Option Editor := do
  some { e with widget := ← Widget.Checked.select e.widget a b }

def insertText (cs : Text) (p : Nat) (placement : Placement) : Option Editor := do
  some { e with widget := ← Widget.Checked.insert e.widget cs p placement }

def fillLine (p : Nat) : Option Editor := insertText e [' '] p .whole

def cut (a b : Nat) : Option (Option Text × Editor) := do
  let (removed, widget) ← Widget.Checked.cut e.widget a b
  some (removed, { e with widget := widget })

@[simp] theorem select_eq (a b : Nat) : select e a b = some (e.select a b) := by
  simp [select, Editor.select]

@[simp] theorem insertText_eq (cs : Text) (p : Nat) (placement : Placement) :
    insertText e cs p placement = some (e.insertText cs p placement) := by
  simp [insertText, Editor.insertText]

@[simp] theorem fillLine_eq (p : Nat) : fillLine e p = some (e.fillLine p) :=
  insertText_eq e _ p _

@[simp] theorem cut_eq (a b : Nat) : cut e a b = some (e.cut a b) := by
  simp [cut, Editor.cut]

/-! ## Repetition -/

/-- All that a repeated command can change. -/
def fingerprint : Option (Selection × Nat × Option Nat × Option Nat × Nat) := do
  some (e.widget.selection, ← Widget.Checked.len e.widget, e.modal.anchor, e.modal.cursor,
    e.history.size)

def whileChanging (command : Editor → Option Editor) : Nat → Editor → Option Editor
  | 0, e => some e
  | n + 1, e => do
    let before ← fingerprint e
    let e' ← command e
    if before = (← fingerprint e') then some e' else whileChanging command n e'

def times (count : Nat) (command : Editor → Option Editor) : Option Editor :=
  whileChanging command (max count 1) e

/-- Repeats a command exactly so many times. -/
def repeated (command : Editor → Option Editor) : Nat → Editor → Option Editor
  | 0, e => some e
  | n + 1, e => do repeated command n (← command e)

def gather {σ : Type} (step : σ → Option (Option Text × σ)) : Nat → σ → Option (Option Text × σ)
  | 0, s => some (none, s)
  | n + 1, s => do
    match ← step s with
    | (none, s') => some (none, s')
    | (some piece, s') =>
      let (rest, s'') ← gather step n s'
      some (some (piece ++ rest.getD []), s'')

def yankLimit (count : Nat) : Option Nat := do
  clamp count 1 (min ((← Widget.Checked.len e.widget) + 1) maxCount)

def collect (count : Nat) (lineWise : Bool) (step : Editor → Option (Option Text × Editor)) :
    Option Editor := do
  let (gathered, e') ← gather step (← yankLimit e count) e
  some (e'.yank gathered lineWise)

theorem fingerprint_eq :
    fingerprint e =
      some (e.widget.selection, e.len, e.modal.anchor, e.modal.cursor, e.history.size) := by
  simp [fingerprint, Editor.len]

section Repetition

variable {checked : Editor → Option Editor} {command : Editor → Editor}
  (same : ∀ e, checked e = some (command e))

include same

theorem whileChanging_eq (n : Nat) :
    whileChanging checked n e = some (Editor.whileChanging command n e) := by
  induction n generalizing e with
  | zero => rfl
  | succ n ih =>
    simp [whileChanging, Editor.whileChanging, same, ih, fingerprint_eq, Editor.unchanged,
      and_assoc, apply_ite some]

theorem times_eq (count : Nat) : times e count checked = some (e.times count command) :=
  whileChanging_eq e same _

theorem repeated_eq (n : Nat) : repeated checked n e = some (Nat.repeat command n e) := by
  induction n generalizing e with
  | zero => rfl
  | succ n ih => simp [repeated, same, ih, Nat.repeat, repeat_apply]

end Repetition

theorem gather_eq {σ : Type} {checked : σ → Option (Option Text × σ)} {step : σ → Option Text × σ}
    (same : ∀ s, checked s = some (step s)) (n : Nat) (s : σ) :
    gather checked n s = some (Editor.gather step n s) := by
  induction n generalizing s with
  | zero => rfl
  | succ n ih =>
    simp only [gather, Editor.gather, same, ih, Option.bind_eq_bind, Option.bind_some]
    cases step s with
    | mk piece s' =>
      cases piece with
      | none => rfl
      | some piece => rfl

/-- A count is clamped between one and a limit that is no less. -/
@[simp] theorem yankLimit_eq (count : Nat) : yankLimit e count = some (e.yankLimit count) := by
  have positive : 1 ≤ maxCount := by decide
  have ordered : 1 ≤ min (e.len + 1) maxCount := by omega
  simp only [yankLimit, Editor.yankLimit, len_widget, Widget.Checked.len_eq, Option.bind_eq_bind,
    Option.bind_some, clamp_of_le _ ordered, Option.some.injEq]
  omega

theorem collect_eq {checked : Editor → Option (Option Text × Editor)}
    {step : Editor → Option Text × Editor} (same : ∀ e, checked e = some (step e)) (count : Nat)
    (lineWise : Bool) :
    collect e count lineWise checked = some (e.collect count lineWise step) := by
  simp [collect, Editor.collect, gather_eq same]

/-! ## By character -/

def nextCharNormal : Option Editor := do
  let pos := e.movingEnd
  match ← charAt e.widget (pos + 1) with
  | none => some e
  | some c => if c = lineBreak then some e else select e (pos + 1) (pos + 2)

def nextCharVisual : Option Editor := do
  let pos := e.movingEnd
  if (← charAt e.widget pos) = some lineBreak ∨ (← Widget.Checked.len e.widget) < pos + 1 then
    some e
  else
    let start := e.anchorOr pos
    if start = pos then select (e.withCursor (pos + 2)) start (pos + 2)
    else if pos + 1 = start ∧ start = e.caret + 1 then
      let anchor ← sub start 1
      select ((e.withAnchor anchor).withCursor (pos + 2)) anchor (pos + 2)
    else select (e.withCursor (pos + 1)) start (pos + 1)

def nextChar : Option Editor := if e.inVisual then nextCharVisual e else nextCharNormal e

/-- The character two positions back, if there are so many. -/
def twoBefore? (w : Widget) : Nat → Option (Option Char)
  | p + 2 => charAt w p
  | _ => some none

def prevCharVisual : Option Editor := do
  let pos := e.movingEnd
  let start := e.anchorOr pos
  if start < pos ∧ (← twoBefore? e.widget pos) = some lineBreak then some e
  else if pos = start then
    select ((e.withAnchor (start + 1)).withCursor (start - 1)) (start - 1) (start + 1)
  else if pos = start + 1 then
    select ((e.withAnchor (start + 1)).withCursor (pos - 2)) (start + 1) (pos - 2)
  else if pos + 1 = start then select (e.withCursor (start - 2)) start (start - 2)
  else if start < pos ∧ pos + 1 = e.widget.selection.stop then select (e.withCursor pos) start pos
  else select (e.withCursor (pos - 1)) start (pos - 1)

def prevChar : Option Editor := do
  let pos := e.movingEnd
  if (← before? e.widget pos) = some lineBreak then some e
  else if e.inVisual then prevCharVisual e
  else if 0 < pos then select e (← sub pos 1) pos
  else some e

theorem nextCharNormal_eq : nextCharNormal e = some e.nextCharNormal := by
  simp only [nextCharNormal, Editor.nextCharNormal, charAt?_widget, Widget.Checked.charAt_eq,
    Option.bind_eq_bind, Option.bind_some]
  cases e.charAt? (e.movingEnd + 1) with
  | none => rfl
  | some c => simp [apply_ite some]

theorem nextCharVisual_eq : nextCharVisual e = some e.nextCharVisual := by
  simp only [nextCharVisual, Editor.nextCharVisual, charAt?_widget, len_widget,
    Widget.Checked.charAt_eq, Widget.Checked.len_eq, select_eq, Option.bind_eq_bind,
    Option.bind_some, apply_ite some]
  by_cases flips : e.movingEnd + 1 = e.anchorOr e.movingEnd
  · have anchored : sub (e.anchorOr e.movingEnd) 1 = some (e.anchorOr e.movingEnd - 1) :=
      sub_of_le (by omega)
    simp only [anchored, Option.bind_some]
  · simp only [flips, false_and, if_false]

@[simp] theorem nextChar_eq : nextChar e = some e.nextChar := by
  simp [nextChar, Editor.nextChar, nextCharVisual_eq, nextCharNormal_eq, apply_ite some]

theorem twoBefore?_eq (w : Widget) (p : Nat) :
    twoBefore? w p = some (if 2 ≤ p then w.charAt? (p - 2) else none) := by
  match p with
  | 0 => rfl
  | 1 => rfl
  | p + 2 => simp [twoBefore?]

theorem prevCharVisual_eq : prevCharVisual e = some e.prevCharVisual := by
  by_cases two : 2 ≤ e.movingEnd
  · simp [prevCharVisual, Editor.prevCharVisual, twoBefore?_eq, charAt?_widget, two, apply_ite some]
  · simp [prevCharVisual, Editor.prevCharVisual, twoBefore?_eq, two, apply_ite some]

@[simp] theorem prevChar_eq : prevChar e = some e.prevChar := by
  by_cases positive : 0 < e.movingEnd
  · have stepped : sub e.movingEnd 1 = some (e.movingEnd - 1) := sub_of_le positive
    simp [prevChar, Editor.prevChar, chars_widget, before?_chars, prevCharVisual_eq, positive,
      stepped, apply_ite some]
  · simp [prevChar, Editor.prevChar, chars_widget, before?_chars, prevCharVisual_eq, positive,
      apply_ite some]

/-! ## By line -/

def verticalColumn (pos : Nat) : Option Nat := do
  let column ← column e.widget pos
  if e.growsForward then sub column 1 else some column

def nextLineVisual (pos next target : Nat) : Option Editor := do
  let start := e.anchorOr pos
  let target ← if target < start then sub target 1 else some target
  if (← charAt e.widget next) = some lineBreak then
    let target := target + 1
    let e ← fillLine (e.withCursor target) next
    if target < start then select (e.withAnchor (start + 1)) (start + 1) target
    else select e start target
  else select (e.withCursor target) start target

def nextLine : Option Editor := do
  let pos := e.movingEnd
  match ← nextLineStart? e.widget pos with
  | none => some e
  | some next =>
    let target := next + min (← verticalColumn e pos) (← lineLength e.widget next)
    if (← Widget.Checked.len e.widget) < target then some e
    else if e.inVisual then nextLineVisual e pos next target
    else
      let e' ← select e (target - 1) target
      if (← charAt e.widget next) = some lineBreak then fillLine e' next else some e'

def prevLineVisual (pos target : Nat) : Option Editor := do
  let start := e.anchorOr pos
  let stop :=
    if (← before? e.widget target) ≠ some lineBreak ∧ start + 1 ≠ target ∧ target < start then
      target - 1
    else target
  select (e.withCursor stop) start stop

def prevLine : Option Editor := do
  let pos := e.movingEnd
  match ← prevLineStart? e.widget pos, ← prevLineEnd? e.widget pos with
  | some first, some last =>
    let target := first + min (← verticalColumn e pos) (← sub last first)
    if e.inVisual then prevLineVisual e pos target
    else
      let e' ← select e (target - 1) target
      if (← charAt e'.widget first) = some lineBreak then fillLine e' first else some e'
  | _, _ => some e

theorem verticalColumn_eq (pos : Nat) : verticalColumn e pos = some (e.verticalColumn pos) := by
  have counted : 1 ≤ e.chars.column pos := Nat.le_add_left 1 _
  simp [verticalColumn, Editor.verticalColumn, chars_widget, sub_of_le counted, apply_ite some]

theorem nextLineVisual_eq {target : Nat} (positive : 1 ≤ target) (pos next : Nat) :
    nextLineVisual e pos next target = some (e.nextLineVisual pos next target) := by
  by_cases before : target < e.anchorOr pos
  · simp [nextLineVisual, Editor.nextLineVisual, charAt?_widget, before, sub_of_le positive,
      apply_ite some]
  · simp [nextLineVisual, Editor.nextLineVisual, charAt?_widget, before, apply_ite some]

@[simp] theorem nextLine_eq : nextLine e = some e.nextLine := by
  simp only [nextLine, Editor.nextLine, chars_widget, Widget.Checked.nextLineStart?_eq,
    Option.bind_eq_bind, Option.bind_some]
  cases below : e.chars.nextLineStart? e.movingEnd with
  | none => rfl
  | some next =>
    -- A line below begins behind a line break.
    have positive (n : Nat) : 1 ≤ next + n := by
      simp only [Text.nextLineStart?, Option.ite_none_right_eq_some, Option.some.injEq] at below
      omega
    simp [verticalColumn_eq, nextLineVisual_eq e (positive _), chars_widget, charAt?_widget,
      len_widget, apply_ite some]

theorem prevLineVisual_eq (pos target : Nat) :
    prevLineVisual e pos target = some (e.prevLineVisual pos target) := by
  simp [prevLineVisual, Editor.prevLineVisual, chars_widget, before?_chars]

@[simp] theorem prevLine_eq : prevLine e = some e.prevLine := by
  simp only [prevLine, Editor.prevLine, chars_widget, Widget.Checked.prevLineStart?_eq,
    Widget.Checked.prevLineEnd?_eq, Text.prevLineStart?, Option.bind_eq_bind, Option.bind_some]
  cases e.chars.prevLineEnd? e.movingEnd with
  | none => rfl
  | some last =>
    have ordered : e.chars.lineStart last ≤ last := e.chars.lineStart_le last
    simp [verticalColumn_eq, sub_of_le ordered, prevLineVisual_eq, charAt?_widget, apply_ite some]

/-! ## Within a line, and across the text -/

def toLineHead : Option Editor := do
  if e.inVisual then
    let pos := e.movingEnd
    repeated prevChar (← sub pos (← lineStart e.widget pos)) e
  else
    let head ← lineStart e.widget e.caret
    select e head (head + 1)

def toLineTail : Option Editor := do
  if e.inVisual then
    let pos := e.movingEnd
    let tail ← lineEnd e.widget pos
    let tail ← if pos + 1 = tail then sub tail 1 else some tail
    -- A range of positions that would run backwards is empty.
    repeated nextChar (tail - pos) e
  else
    let head ← lineStart e.widget e.caret
    let tail ← lineEnd e.widget e.caret
    select e (max (tail - 1) head) tail

def toFirstLine : Option Editor :=
  if e.inVisual then select (e.withCursor 0) (e.anchorOr 0) 0 else select e 0 1

def toLastLine : Option Editor := do
  let head ← lineStart e.widget ((← Widget.Checked.len e.widget) - 1)
  if e.inVisual then select (e.withCursor (head + 1)) (e.anchorOr head) (head + 1)
  else select e head (head + 1)

def toNextWord : Option Editor := do
  let pos := e.movingEnd
  match ← nextWord? e.widget pos with
  | none => some e
  | some word =>
    if e.inVisual then select (e.withCursor (word + 1)) (e.anchorOr pos) (word + 1)
    else select e word (word + 1)

@[simp] theorem toLineHead_eq : toLineHead e = some e.toLineHead := by
  have ordered : e.chars.lineStart e.movingEnd ≤ e.movingEnd :=
    e.chars.lineStart_le e.movingEnd
  simp [toLineHead, Editor.toLineHead, chars_widget, sub_of_le ordered,
    repeated_eq _ prevChar_eq, apply_ite some]

@[simp] theorem toLineTail_eq : toLineTail e = some e.toLineTail := by
  by_cases last : e.movingEnd + 1 = e.chars.lineEnd e.movingEnd
  · have positive : 1 ≤ e.chars.lineEnd e.movingEnd := by omega
    simp [toLineTail, Editor.toLineTail, chars_widget, last, sub_of_le positive,
      repeated_eq _ nextChar_eq, apply_ite some]
  · simp [toLineTail, Editor.toLineTail, chars_widget, last, repeated_eq _ nextChar_eq,
      apply_ite some]

@[simp] theorem toFirstLine_eq : toFirstLine e = some e.toFirstLine := by
  simp [toFirstLine, Editor.toFirstLine, apply_ite some]

@[simp] theorem toLastLine_eq : toLastLine e = some e.toLastLine := by
  simp [toLastLine, Editor.toLastLine, chars_widget, len_widget, apply_ite some]

@[simp] theorem toNextWord_eq : toNextWord e = some e.toNextWord := by
  simp only [toNextWord, Editor.toNextWord, chars_widget, Widget.Checked.nextWord?_eq,
    Option.bind_eq_bind, Option.bind_some]
  cases e.chars.nextWord? e.movingEnd with
  | none => rfl
  | some word => simp [apply_ite some]

end ModalEdit.Editor.Checked
