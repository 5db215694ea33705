import ModalEdit.Editor.Run
import ModalEdit.Proofs.Checked.Motion

/-! # Commands with every operation checked

The commands that change the mode, yank, delete, paste and undo, with `none` where an operation
would abort, and the command behind each action.  What is left to check here is that a moving end
beyond the anchor has a position before it.

`never_aborts` collects what this module and the ones before it show: whatever the text, the
selection, the mode, the visual positions, the register and the history are, no question, no edit
and no command is ever aborted, and each gives the result of the plain one.
-/

namespace ModalEdit

namespace Editor.Checked

open ModalEdit.Checked
open Widget.Checked (charAt before? lineStart lineEnd lineLength nextLineStart? nextWord?)

variable (e : Editor)

/-! ## Changing modes -/

def toNormal : Option Editor := do
  let previous := e.modal.mode
  if previous = .normal then some e
  else
    let e := e.switchMode .normal
    let pos := e.caret
    if pos ≠ (← lineStart e.widget pos) then
      if previous = .visual then prevChar (← nextChar e) else prevChar e
    else
      let e ← if (← lineLength e.widget pos) = 0 then fillLine e pos else some e
      let e ← prevChar (← nextChar e)
      if (← lineLength e.widget pos) = 1 then select e pos (pos + 1) else some e

def placeCaret : Option Editor := do
  let e := e.switchMode .normal
  let pos := e.caret
  if pos = (← lineStart e.widget pos) ∧ (← lineLength e.widget pos) = 0 then
    select (← fillLine e pos) pos (pos + 1)
  else
    match ← charAt e.widget pos with
    | none => select e (pos - 1) pos
    | some c => if c = lineBreak then select e (pos - 1) pos else select e pos (pos + 1)

def confirmVisual : Option Editor := do
  let confirmed ←
    match e.modal.cursor with
    | none => select e e.caret (e.caret + 1)
    | some cursor => do
      if e.modal.anchor.any (fun a => decide (a < cursor)) ∧
          (← before? e.widget cursor) ≠ some lineBreak then
        select e (← sub cursor 1) cursor
      else select e cursor (cursor + 1)
  some (confirmed.switchMode .normal)

def toggleVisual : Option Editor :=
  if e.inVisual then confirmVisual e else some (e.beginVisual e.caret)

def append : Option Editor := select e (e.caret + 1) (e.caret + 1)

def insert : Option Editor := select e e.caret e.caret

def openBelow : Option Editor := do
  let tail ← lineEnd e.widget e.caret
  select (← insertText e [lineBreak, ' '] tail .whole) (tail + 1) (tail + 1)

def openAbove : Option Editor := do
  let head ← lineStart e.widget e.caret
  select (← insertText e [' ', lineBreak] head .whole) head head

@[simp] theorem toNormal_eq : toNormal e = some e.toNormal := by
  unfold toNormal Editor.toNormal
  generalize e.switchMode .normal = normal
  by_cases empty : normal.chars.lineLength normal.caret = 0
  · simp [chars_widget, empty, apply_ite some]
  · simp [chars_widget, empty, apply_ite some]

@[simp] theorem placeCaret_eq : placeCaret e = some e.placeCaret := by
  unfold placeCaret Editor.placeCaret
  simp only [chars_widget, charAt?_widget, Widget.Checked.lineStart_eq,
    Widget.Checked.lineLength_eq, Widget.Checked.charAt_eq, fillLine_eq, select_eq,
    Option.bind_eq_bind, Option.bind_some]
  cases (e.switchMode .normal).charAt? (e.switchMode .normal).caret with
  | none => simp [apply_ite some]
  | some c => simp [apply_ite some]

/-- A moving end beyond the anchor has a position before it. -/
theorem confirmVisual_eq : confirmVisual e = some e.confirmVisual := by
  unfold confirmVisual Editor.confirmVisual
  cases e.modal.cursor with
  | none => simp
  | some cursor =>
    by_cases beyond : e.modal.anchor.any (fun a => decide (a < cursor)) = true
    · obtain ⟨anchor, -, lt⟩ := (Option.any_eq_true _ _).mp beyond
      have positive : 1 ≤ cursor := Nat.lt_of_le_of_lt (Nat.zero_le anchor) (of_decide_eq_true lt)
      by_cases behindBreak : e.charBefore? cursor = some lineBreak
      · simp [beyond, behindBreak, chars_widget, before?_chars]
      · simp [beyond, behindBreak, chars_widget, before?_chars, sub_of_le positive]
    · simp [beyond]

@[simp] theorem toggleVisual_eq : toggleVisual e = some e.toggleVisual := by
  simp [toggleVisual, Editor.toggleVisual, confirmVisual_eq, apply_ite some]

@[simp] theorem append_eq : append e = some e.append := select_eq e _ _

@[simp] theorem insert_eq : insert e = some e.insert := select_eq e _ _

@[simp] theorem openBelow_eq : openBelow e = some e.openBelow := by
  simp [openBelow, Editor.openBelow, chars_widget]

@[simp] theorem openAbove_eq : openAbove e = some e.openAbove := by
  simp [openAbove, Editor.openAbove, chars_widget]

/-! ## Yanking -/

def copySelection : Option Editor := do
  toNormal (e.write (← Widget.Checked.selectedText e.widget) false)

def takeLine (w : Widget) : Option Nat → Option (Option Text × Option Nat)
  | none => some (none, none)
  | some pos => do
    let line ← Widget.Checked.slice w (← lineStart w pos) ((← lineEnd w pos) + 1)
    some (some line, ← nextLineStart? w pos)

def copyLines (count : Nat) : Option Editor := do
  let (gathered, _) ← gather (takeLine e.widget) (← yankLimit e count) (some e.caret)
  some (e.yank gathered true)

def wordsEnd (w : Widget) : Nat → Nat → Option Nat
  | 0, pos => some pos
  | n + 1, pos => do
    match ← nextWord? w pos with
    | none => Widget.Checked.len w
    | some next => wordsEnd w n next

def copyWords (count : Nat) : Option Editor := do
  let words ← Widget.Checked.slice e.widget e.caret (← wordsEnd e.widget (max count 1) e.caret)
  some (if words.isEmpty then e else e.write words false)

theorem takeLine_eq (w : Widget) (next : Option Nat) :
    takeLine w next = some (Editor.takeLine w next) := by
  cases next with
  | none => rfl
  | some pos => simp [takeLine, Editor.takeLine]

theorem wordsEnd_eq (w : Widget) (n pos : Nat) :
    wordsEnd w n pos = some (Editor.wordsEnd w.chars n pos) := by
  induction n generalizing pos with
  | zero => rfl
  | succ n ih =>
    simp only [wordsEnd, Editor.wordsEnd, Widget.Checked.nextWord?_eq, Option.bind_eq_bind,
      Option.bind_some]
    cases w.chars.nextWord? pos with
    | none => simp
    | some next => exact ih next

@[simp] theorem copySelection_eq : copySelection e = some e.copySelection := by
  simp [copySelection, Editor.copySelection]

theorem copyLines_eq (count : Nat) : copyLines e count = some (e.copyLines count) := by
  simp [copyLines, Editor.copyLines, gather_eq (takeLine_eq e.widget)]

theorem copyWords_eq (count : Nat) : copyWords e count = some (e.copyWords count) := by
  simp [copyWords, Editor.copyWords, wordsEnd_eq, chars_widget]

/-! ## Deleting -/

def cutSelection : Option (Option Text × Editor) := do
  let s := e.widget.selection
  let (removed, e) ← cut e s.start s.stop
  some (removed, ← select e s.start (s.start + 1))

def cutLine : Option (Option Text × Editor) := do
  let head ← lineStart e.widget e.caret
  let tail ← lineEnd e.widget e.caret
  let (removed, e) ← cut e head (tail + 1)
  some (removed, ← select e head (head + 1))

def cutWord : Option (Option Text × Editor) := do
  let caret := e.caret
  match ← nextWord? e.widget caret with
  | none => some (none, e)
  | some next =>
    let (removed, e) ← cut e caret next
    some (removed, ← select e caret (caret + 1))

def deleteSelection (count : Nat) : Option Editor := do
  toNormal (← collect e count false cutSelection)

def deleteLines (count : Nat) : Option Editor := collect e count true cutLine

def deleteWords (count : Nat) : Option Editor := collect e count false cutWord

def deleteCharBefore : Option Editor :=
  match e.caret with
  | 0 => some e
  | before + 1 => do
    let (removed, e) ← cut e before (before + 1)
    let e ← select e before (before + 1)
    match removed with
    | none => some e
    | some cs => some (e.write cs false)

def deleteCharOrLine : Option Editor := do
  let e ← if e.inVisual then collect e 1 true cutLine else deleteCharBefore e
  some (e.switchMode .normal)

theorem cutSelection_eq : cutSelection e = some e.cutSelection := by
  simp [cutSelection, Editor.cutSelection]

theorem cutLine_eq : cutLine e = some e.cutLine := by
  simp [cutLine, Editor.cutLine, chars_widget]

theorem cutWord_eq : cutWord e = some e.cutWord := by
  simp only [cutWord, Editor.cutWord, Widget.Checked.nextWord?_eq, chars_widget,
    Option.bind_eq_bind, Option.bind_some]
  cases e.chars.nextWord? e.caret with
  | none => rfl
  | some next => simp

theorem deleteSelection_eq (count : Nat) :
    deleteSelection e count = some (e.deleteSelection count) := by
  simp [deleteSelection, Editor.deleteSelection, collect_eq e cutSelection_eq]

theorem deleteLines_eq (count : Nat) : deleteLines e count = some (e.deleteLines count) :=
  collect_eq e cutLine_eq count true

theorem deleteWords_eq (count : Nat) : deleteWords e count = some (e.deleteWords count) :=
  collect_eq e cutWord_eq count false

theorem deleteCharBefore_eq : deleteCharBefore e = some e.deleteCharBefore := by
  unfold deleteCharBefore Editor.deleteCharBefore
  cases e.caret with
  | zero => rfl
  | succ before =>
    simp only [cut_eq, select_eq, Option.bind_eq_bind, Option.bind_some]
    cases (e.cut before (before + 1)).1 with
    | none => rfl
    | some cs => rfl

theorem deleteCharOrLine_eq : deleteCharOrLine e = some e.deleteCharOrLine := by
  by_cases visual : e.inVisual = true
  · simp [deleteCharOrLine, Editor.deleteCharOrLine, visual, collect_eq e cutLine_eq]
  · simp [deleteCharOrLine, Editor.deleteCharOrLine, visual, deleteCharBefore_eq]

/-! ## Pasting and undoing -/

def pasteAfter : Option Editor :=
  match e.pasteable? with
  | none => some e
  | some cs => do
    if e.register.lineWise then
      insertText e (lineBreak :: cs) (← lineEnd e.widget e.caret) (.after true)
    else insertText e cs e.caret (.after false)

def pasteBefore : Option Editor :=
  match e.pasteable? with
  | none => some e
  | some cs => do
    if e.register.lineWise then
      insertText e (cs ++ [lineBreak]) (← lineStart e.widget e.caret) (.before true)
    else insertText e cs e.caret (.before false)

def undo : Option Editor :=
  match e.history.pop? with
  | none => some e
  | some (entry, history) => do
    let e := { e with history := history }.emit (.undone entry.position history.size)
    select { e with widget := ← Widget.Checked.withText e.widget entry.text } entry.position
      (entry.position + 1)

@[simp] theorem pasteAfter_eq : pasteAfter e = some e.pasteAfter := by
  unfold pasteAfter Editor.pasteAfter
  cases e.pasteable? with
  | none => rfl
  | some cs => simp [chars_widget, apply_ite some]

@[simp] theorem pasteBefore_eq : pasteBefore e = some e.pasteBefore := by
  unfold pasteBefore Editor.pasteBefore
  cases e.pasteable? with
  | none => rfl
  | some cs => simp [chars_widget, apply_ite some]

@[simp] theorem undo_eq : undo e = some e.undo := by
  unfold undo Editor.undo
  cases e.history.pop? with
  | none => rfl
  | some popped => simp

/-! ## Running an action -/

def run (action : Action) (count : Nat) : Option Editor := do
  match action with
  | .selectNextChar => times e count nextChar
  | .selectPrevChar => times e count prevChar
  | .selectNextLine => times e count nextLine
  | .selectPrevLine => times e count prevLine
  | .nextWord => times e count toNextWord
  | .lineHead => toLineHead e
  | .lineTail => toLineTail e
  | .firstLine => toFirstLine e
  | .lastLine => toLastLine e
  | .append => append e
  | .appendAtLineTail => append (← toLineTail e)
  | .insert => insert e
  | .insertAtLineHead => insert (← toLineHead e)
  | .openLineBelow => openBelow e
  | .openLineAbove => openAbove e
  | .replaceChar => some e.awaitReplacement
  | .copySelection => copySelection e
  | .copyLine => copyLines e count
  | .copyWord => copyWords e count
  | .deleteSelection => deleteSelection e count
  | .deleteLine => deleteLines e count
  | .deleteWord => deleteWords e count
  | .deleteCharOrLine => deleteCharOrLine e
  | .pasteAfter => pasteAfter e
  | .pasteBefore => pasteBefore e
  | .undo => times e count undo
  | .toggleVisual => toggleVisual e

theorem run_eq (action : Action) (count : Nat) :
    run e action count = some (e.run action count) := by
  cases action with
  | selectNextChar => exact times_eq e nextChar_eq count
  | selectPrevChar => exact times_eq e prevChar_eq count
  | selectNextLine => exact times_eq e nextLine_eq count
  | selectPrevLine => exact times_eq e prevLine_eq count
  | nextWord => exact times_eq e toNextWord_eq count
  | lineHead => exact toLineHead_eq e
  | lineTail => exact toLineTail_eq e
  | firstLine => exact toFirstLine_eq e
  | lastLine => exact toLastLine_eq e
  | append => exact append_eq e
  | appendAtLineTail => simp [run, Editor.run]
  | insert => exact insert_eq e
  | insertAtLineHead => simp [run, Editor.run]
  | openLineBelow => exact openBelow_eq e
  | openLineAbove => exact openAbove_eq e
  | replaceChar => rfl
  | copySelection => exact copySelection_eq e
  | copyLine => exact copyLines_eq e count
  | copyWord => exact copyWords_eq e count
  | deleteSelection => exact deleteSelection_eq e count
  | deleteLine => exact deleteLines_eq e count
  | deleteWord => exact deleteWords_eq e count
  | deleteCharOrLine => exact deleteCharOrLine_eq e
  | pasteAfter => exact pasteAfter_eq e
  | pasteBefore => exact pasteBefore_eq e
  | undo => exact times_eq e undo_eq count
  | toggleVisual => exact toggleVisual_eq e

end Editor.Checked

/-! ## Nothing is aborted -/

/-- No question about a widget and no edit of it is ever aborted. -/
structure Widget.Checks (w : Widget) : Prop where
  len : Checked.len w = some w.len
  charAt (p : Nat) : Checked.charAt w p = some (w.charAt? p)
  slice (a b : Nat) : Checked.slice w a b = some (w.slice a b)
  isEmpty : Checked.isEmpty w = some (w.len == 0)
  text : Checked.text w = some w.text
  selectedText : Checked.selectedText w = some w.selectedText
  withText (cs : Text) : Checked.withText w cs = some (w.withText cs)
  select (a b : Nat) : Checked.select w a b = some (w.select a b)
  cut (a b : Nat) : Checked.cut w a b = some (w.cut a b)
  insert (cs : Text) (p : Nat) (placement : Placement) :
    Checked.insert w cs p placement = some (w.insert cs p placement)
  typeOver (cs : Text) : Checked.typeOver w cs = some (w.typeOver cs)
  isBreakAt (p : Nat) : Checked.isBreakAt w p = some (w.chars.isBreakAt p)
  before? (p : Nat) : Checked.before? w p = some (w.chars.before? p)
  after? (p : Nat) : Checked.after? w p = some (w.chars.after? p)
  seek (p : Nat) (accept : Char → Bool) : Checked.seek w p accept = some (w.chars.seek p accept)
  lineStart (p : Nat) : Checked.lineStart w p = some (w.chars.lineStart p)
  lineEnd (p : Nat) : Checked.lineEnd w p = some (w.chars.lineEnd p)
  lineLength (p : Nat) : Checked.lineLength w p = some (w.chars.lineLength p)
  column (p : Nat) : Checked.column w p = some (w.chars.column p)
  nextLineStart? (p : Nat) : Checked.nextLineStart? w p = some (w.chars.nextLineStart? p)
  nextLineEnd? (p : Nat) : Checked.nextLineEnd? w p = some (w.chars.nextLineEnd? p)
  prevLineEnd? (p : Nat) : Checked.prevLineEnd? w p = some (w.chars.prevLineEnd? p)
  prevLineStart? (p : Nat) : Checked.prevLineStart? w p = some (w.chars.prevLineStart? p)
  wordBoundary (p : Nat) : Checked.wordBoundary w p = some (w.chars.wordBoundary p)
  nextWord? (p : Nat) : Checked.nextWord? w p = some (w.chars.nextWord? p)

theorem Widget.checks (w : Widget) : w.Checks where
  len := Checked.len_eq w
  charAt := Checked.charAt_eq w
  slice := Checked.slice_eq w
  isEmpty := Checked.isEmpty_eq w
  text := Checked.text_eq w
  selectedText := Checked.selectedText_eq w
  withText := Checked.withText_eq w
  select := Checked.select_eq w
  cut := Checked.cut_eq w
  insert := Checked.insert_eq w
  typeOver := Checked.typeOver_eq w
  isBreakAt := Checked.isBreakAt_eq w
  before? := Checked.before?_eq w
  after? := Checked.after?_eq w
  seek := Checked.seek_eq w
  lineStart := Checked.lineStart_eq w
  lineEnd := Checked.lineEnd_eq w
  lineLength := Checked.lineLength_eq w
  column := Checked.column_eq w
  nextLineStart? := Checked.nextLineStart?_eq w
  nextLineEnd? := Checked.nextLineEnd?_eq w
  prevLineEnd? := Checked.prevLineEnd?_eq w
  prevLineStart? := Checked.prevLineStart?_eq w
  wordBoundary := Checked.wordBoundary_eq w
  nextWord? := Checked.nextWord?_eq w

/-- No action is ever aborted, and no command that the host can ask for by itself. -/
structure Editor.Checks (e : Editor) : Prop where
  run (action : Action) (count : Nat) : Checked.run e action count = some (e.run action count)
  nextChar : Checked.nextChar e = some e.nextChar
  prevChar : Checked.prevChar e = some e.prevChar
  nextLine : Checked.nextLine e = some e.nextLine
  prevLine : Checked.prevLine e = some e.prevLine
  toLineHead : Checked.toLineHead e = some e.toLineHead
  toLineTail : Checked.toLineTail e = some e.toLineTail
  toFirstLine : Checked.toFirstLine e = some e.toFirstLine
  toLastLine : Checked.toLastLine e = some e.toLastLine
  toNextWord : Checked.toNextWord e = some e.toNextWord
  append : Checked.append e = some e.append
  insert : Checked.insert e = some e.insert
  openBelow : Checked.openBelow e = some e.openBelow
  openAbove : Checked.openAbove e = some e.openAbove
  copySelection : Checked.copySelection e = some e.copySelection
  pasteAfter : Checked.pasteAfter e = some e.pasteAfter
  pasteBefore : Checked.pasteBefore e = some e.pasteBefore
  undo : Checked.undo e = some e.undo
  toggleVisual : Checked.toggleVisual e = some e.toggleVisual
  toNormal : Checked.toNormal e = some e.toNormal
  placeCaret : Checked.placeCaret e = some e.placeCaret

theorem Editor.checks (e : Editor) : e.Checks where
  run := Checked.run_eq e
  nextChar := Checked.nextChar_eq e
  prevChar := Checked.prevChar_eq e
  nextLine := Checked.nextLine_eq e
  prevLine := Checked.prevLine_eq e
  toLineHead := Checked.toLineHead_eq e
  toLineTail := Checked.toLineTail_eq e
  toFirstLine := Checked.toFirstLine_eq e
  toLastLine := Checked.toLastLine_eq e
  toNextWord := Checked.toNextWord_eq e
  append := Checked.append_eq e
  insert := Checked.insert_eq e
  openBelow := Checked.openBelow_eq e
  openAbove := Checked.openAbove_eq e
  copySelection := Checked.copySelection_eq e
  pasteAfter := Checked.pasteAfter_eq e
  pasteBefore := Checked.pasteBefore_eq e
  undo := Checked.undo_eq e
  toggleVisual := Checked.toggleVisual_eq e
  toNormal := Checked.toNormal_eq e
  placeCaret := Checked.placeCaret_eq e

/-- No question about a text, no edit and no command is ever aborted, in whatever state. -/
theorem never_aborts : (∀ w : Widget, w.Checks) ∧ ∀ e : Editor, e.Checks :=
  ⟨Widget.checks, Editor.checks⟩

end ModalEdit
