import ModalEdit.Editor.Motion

/-! # Changing modes

Entering and leaving visual mode, returning to normal mode, and the positions from which text
is typed.  Normal mode shows its caret as a selection of one character, and an empty line has
none: it gets a space when the caret comes to rest on it.
-/

namespace ModalEdit.Editor

/-- Back to normal mode, with the character under the caret selected.  Insert mode leaves its
    caret behind the character typed last, so there the character before it is the one;
    what lies at the beginning of a line is selected by going forward and back. -/
def toNormal (e : Editor) : Editor :=
  let previous := e.modal.mode
  if previous = .normal then e
  else
    let e := e.switchMode .normal
    let pos := e.caret
    if pos ≠ e.chars.lineStart pos then
      if previous = .visual then e.nextChar.prevChar else e.prevChar
    else
      let e := if e.chars.lineLength pos = 0 then e.fillLine pos else e
      let e := e.nextChar.prevChar
      if e.chars.lineLength pos = 1 then e.select pos (pos + 1) else e

/-- Rests the caret where a pointer put it, in normal mode. -/
def placeCaret (e : Editor) : Editor :=
  let e := e.switchMode .normal
  let pos := e.caret
  if pos = e.chars.lineStart pos ∧ e.chars.lineLength pos = 0 then
    (e.fillLine pos).select pos (pos + 1)
  else
    match e.charAt? pos with
    | none => e.select (pos - 1) pos
    | some c => if c = lineBreak then e.select (pos - 1) pos else e.select pos (pos + 1)

/-- Leaves visual mode with the character of the moving end selected.  Behind the anchor that
    is the character before the moving end, unless a line break stands there. -/
def confirmVisual (e : Editor) : Editor :=
  let confirmed :=
    match e.modal.cursor with
    | none => e.select e.caret (e.caret + 1)
    | some cursor =>
      if e.modal.anchor.any (fun a => decide (a < cursor)) ∧
          e.charBefore? cursor ≠ some lineBreak then
        e.select (cursor - 1) cursor
      else e.select cursor (cursor + 1)
  confirmed.switchMode .normal

def toggleVisual (e : Editor) : Editor :=
  if e.inVisual then e.confirmVisual else e.beginVisual e.caret

/-! ## Where typing begins -/

/-- The caret behind the character that it stands on. -/
def append (e : Editor) : Editor := e.select (e.caret + 1) (e.caret + 1)

/-- The caret before the character that it stands on. -/
def insert (e : Editor) : Editor := e.select e.caret e.caret

/-- A new line below, held open by a space. -/
def openBelow (e : Editor) : Editor :=
  let tail := e.chars.lineEnd e.caret
  (e.insertText [lineBreak, ' '] tail .whole).select (tail + 1) (tail + 1)

/-- A new line above, held open by a space. -/
def openAbove (e : Editor) : Editor :=
  let head := e.chars.lineStart e.caret
  (e.insertText [' ', lineBreak] head .whole).select head head

/-- The next key takes the place of the selected character. -/
def awaitReplacement (e : Editor) : Editor :=
  { e with modal := { e.modal with replacing := true } }

end ModalEdit.Editor
