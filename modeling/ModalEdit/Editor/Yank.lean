import ModalEdit.Editor.Modes

/-! # Yanking, deleting, pasting, undoing

The commands that move text between the widget, the register and the history.

Deletes with a count repeat a single delete and put all that was removed into the register as
one text.  A yank of lines or words takes a single slice.  Line-wise text is kept without its
final line break, and pasting it adds one.
-/

namespace ModalEdit.Editor

/-! ## Yanking -/

/-- The selection into the register, and back to normal mode. -/
def copySelection (e : Editor) : Editor :=
  (e.write e.widget.selectedText false).toNormal

/-- The line at a position with its line break, and where the next line begins. -/
def takeLine (w : Widget) : Option Nat → Option Text × Option Nat
  | none => (none, none)
  | some pos =>
    (some (w.slice (w.chars.lineStart pos) (w.chars.lineEnd pos + 1)),
      w.chars.nextLineStart? pos)

/-- The line of the caret and those below it into the register. -/
def copyLines (e : Editor) (count : Nat) : Editor :=
  e.yank (gather (takeLine e.widget) (e.yankLimit count) (some e.caret)).1 true

/-- Where so many words end, or the end of the text if there are not so many. -/
def wordsEnd (cs : Text) : Nat → Nat → Nat
  | 0, pos => pos
  | n + 1, pos =>
    match cs.nextWord? pos with
    | none => cs.length
    | some next => wordsEnd cs n next

/-- The text from the caret over so many words into the register, if there is any. -/
def copyWords (e : Editor) (count : Nat) : Editor :=
  let words := e.widget.slice e.caret (wordsEnd e.chars (max count 1) e.caret)
  if words.isEmpty then e else e.write words false

/-! ## Deleting -/

/-- Deletes the selection, and selects the character that comes to its place. -/
def cutSelection (e : Editor) : Option Text × Editor :=
  let s := e.widget.selection
  let (removed, e) := e.cut s.start s.stop
  (removed, e.select s.start (s.start + 1))

/-- Deletes the line of the caret with its line break. -/
def cutLine (e : Editor) : Option Text × Editor :=
  let head := e.chars.lineStart e.caret
  let tail := e.chars.lineEnd e.caret
  let (removed, e) := e.cut head (tail + 1)
  (removed, e.select head (head + 1))

/-- Deletes from the caret to the next word, if there is one. -/
def cutWord (e : Editor) : Option Text × Editor :=
  let caret := e.caret
  match e.chars.nextWord? caret with
  | none => (none, e)
  | some next =>
    let (removed, e) := e.cut caret next
    (removed, e.select caret (caret + 1))

/-- Deletes the selection, repeatedly, and goes back to normal mode. -/
def deleteSelection (e : Editor) (count : Nat) : Editor :=
  (e.collect count false cutSelection).toNormal

def deleteLines (e : Editor) (count : Nat) : Editor := e.collect count true cutLine

def deleteWords (e : Editor) (count : Nat) : Editor := e.collect count false cutWord

/-- Deletes the character before the caret, if there is one. -/
def deleteCharBefore (e : Editor) : Editor :=
  match e.caret with
  | 0 => e
  | before + 1 =>
    let (removed, e) := e.cut before (before + 1)
    let e := e.select before (before + 1)
    match removed with
    | none => e
    | some cs => e.write cs false

/-- Deletes the character before the caret, and in visual mode the line. -/
def deleteCharOrLine (e : Editor) : Editor :=
  let e := if e.inVisual then e.collect 1 true cutLine else e.deleteCharBefore
  e.switchMode .normal

/-! ## Pasting -/

/-- The text of the register, if it is worth pasting: whole lines even if they are empty. -/
def pasteable? (e : Editor) : Option Text :=
  e.register.text?.filter (fun cs => e.register.lineWise || !cs.isEmpty)

/-- The register behind the caret, or below its line. -/
def pasteAfter (e : Editor) : Editor :=
  match e.pasteable? with
  | none => e
  | some cs =>
    if e.register.lineWise then
      e.insertText (lineBreak :: cs) (e.chars.lineEnd e.caret) (.after true)
    else e.insertText cs e.caret (.after false)

/-- The register before the caret, or above its line. -/
def pasteBefore (e : Editor) : Editor :=
  match e.pasteable? with
  | none => e
  | some cs =>
    if e.register.lineWise then
      e.insertText (cs ++ [lineBreak]) (e.chars.lineStart e.caret) (.before true)
    else e.insertText cs e.caret (.before false)

/-! ## Undoing -/

/-- Brings back the text saved last, with the character at its caret selected. -/
def undo (e : Editor) : Editor :=
  match e.history.pop? with
  | none => e
  | some (entry, history) =>
    let e := { e with history := history }.emit (.undone entry.position history.size)
    { e with widget := e.widget.withText entry.text }.select entry.position (entry.position + 1)

end ModalEdit.Editor
