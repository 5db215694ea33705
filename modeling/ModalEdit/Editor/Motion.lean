import ModalEdit.Editor.Basic

/-! # Motions

Moving the caret.  In normal mode a motion selects one character.  In visual mode it moves the
moving end of a selection whose other end, the anchor, stays where it is: an end beyond the
anchor lies one past the last selected character, an end before it on the first one.  When the
two change sides the anchor moves by one position, so that the character it stands for stays
selected.

Each motion stays inside the text, and the ones by a character stay on their line.
-/

namespace ModalEdit.Editor

/-! ## By character -/

def nextCharNormal (e : Editor) : Editor :=
  let pos := e.movingEnd
  match e.charAt? (pos + 1) with
  | none => e
  | some c => if c = lineBreak then e else e.select (pos + 1) (pos + 2)

/-- Moves the visual cursor forward on its line.  From the anchor it takes two positions at
    once, and coming back to the anchor from behind it moves the anchor one back. -/
def nextCharVisual (e : Editor) : Editor :=
  let pos := e.movingEnd
  if e.charAt? pos = some lineBreak ∨ e.len < pos + 1 then e
  else
    let start := e.anchorOr pos
    -- Nothing is selected beyond the anchor yet: the next character joins the one under it.
    if start = pos then (e.withCursor (pos + 2)).select start (pos + 2)
    else if pos + 1 = start ∧ start = e.caret + 1 then
      ((e.withAnchor (start - 1)).withCursor (pos + 2)).select (start - 1) (pos + 2)
    else (e.withCursor (pos + 1)).select start (pos + 1)

def nextChar (e : Editor) : Editor :=
  if e.inVisual then e.nextCharVisual else e.nextCharNormal

/-- Moves the visual cursor back on its line.  A selection one character wide is anchored
    behind that character rather than collapsed. -/
def prevCharVisual (e : Editor) : Editor :=
  let pos := e.movingEnd
  let start := e.anchorOr pos
  -- The last selected character is the first of its line, and has none before it.
  if start < pos ∧ 2 ≤ pos ∧ e.charAt? (pos - 2) = some lineBreak then e
  else if pos = start then
    ((e.withAnchor (start + 1)).withCursor (start - 1)).select (start - 1) (start + 1)
  else if pos = start + 1 then
    ((e.withAnchor (start + 1)).withCursor (pos - 2)).select (start + 1) (pos - 2)
  else if pos + 1 = start then (e.withCursor (start - 2)).select start (start - 2)
  else if start < pos ∧ pos + 1 = e.widget.selection.stop then
    (e.withCursor pos).select start pos
  else (e.withCursor (pos - 1)).select start (pos - 1)

def prevChar (e : Editor) : Editor :=
  let pos := e.movingEnd
  if e.charBefore? pos = some lineBreak then e
  else if e.inVisual then e.prevCharVisual
  else if 0 < pos then e.select (pos - 1) pos
  else e

/-! ## By line -/

/-- Whether a visual selection lies behind its anchor. -/
def growsForward (e : Editor) : Bool :=
  match e.modal.anchor, e.modal.cursor with
  | some anchor, some cursor => e.inVisual && decide (anchor < cursor)
  | _, _ => false

/-- The column that a motion by line keeps.  Behind the anchor the moving end stands one past
    the character that it belongs to. -/
def verticalColumn (e : Editor) (pos : Nat) : Nat :=
  let column := e.chars.column pos
  if e.growsForward then column - 1 else column

/-- Moves the visual cursor to `target` on the line that begins at `next`.  An empty line gets
    a space, which pushes back what lies behind it. -/
def nextLineVisual (e : Editor) (pos next target : Nat) : Editor :=
  let start := e.anchorOr pos
  let target := if target < start then target - 1 else target
  if e.charAt? next = some lineBreak then
    -- The space is selected too, and an anchor behind it keeps its character.
    let target := target + 1
    let e := ((e.withCursor target).fillLine next)
    if target < start then (e.withAnchor (start + 1)).select (start + 1) target
    else e.select start target
  else (e.withCursor target).select start target

def nextLine (e : Editor) : Editor :=
  let pos := e.movingEnd
  match e.chars.nextLineStart? pos with
  | none => e
  | some next =>
    let target := next + min (e.verticalColumn pos) (e.chars.lineLength next)
    if e.len < target then e
    else if e.inVisual then e.nextLineVisual pos next target
    else
      let e' := e.select (target - 1) target
      if e.charAt? next = some lineBreak then e'.fillLine next else e'

/-- Moves the visual cursor to `target` on the line above.  Before the anchor the moving end
    stands on its character and not behind it. -/
def prevLineVisual (e : Editor) (pos target : Nat) : Editor :=
  let start := e.anchorOr pos
  let stop :=
    if e.charBefore? target ≠ some lineBreak ∧ start + 1 ≠ target ∧ target < start then
      target - 1
    else target
  (e.withCursor stop).select start stop

def prevLine (e : Editor) : Editor :=
  let pos := e.movingEnd
  match e.chars.prevLineStart? pos, e.chars.prevLineEnd? pos with
  | some first, some last =>
    let target := first + min (e.verticalColumn pos) (last - first)
    if e.inVisual then e.prevLineVisual pos target
    else
      let e' := e.select (target - 1) target
      if e'.charAt? first = some lineBreak then e'.fillLine first else e'
  | _, _ => e

/-! ## Within a line -/

def toLineHead (e : Editor) : Editor :=
  if e.inVisual then
    let pos := e.movingEnd
    Nat.repeat prevChar (pos - e.chars.lineStart pos) e
  else
    let head := e.chars.lineStart e.caret
    e.select head (head + 1)

def toLineTail (e : Editor) : Editor :=
  if e.inVisual then
    let pos := e.movingEnd
    let tail := e.chars.lineEnd pos
    -- From the last character there is no step left to take.
    let tail := if pos + 1 = tail then tail - 1 else tail
    Nat.repeat nextChar (tail - pos) e
  else
    let head := e.chars.lineStart e.caret
    let tail := e.chars.lineEnd e.caret
    e.select (max (tail - 1) head) tail

/-! ## Across the text -/

def toFirstLine (e : Editor) : Editor :=
  if e.inVisual then (e.withCursor 0).select (e.anchorOr 0) 0 else e.select 0 1

def toLastLine (e : Editor) : Editor :=
  let head := e.chars.lineStart (e.len - 1)
  if e.inVisual then (e.withCursor (head + 1)).select (e.anchorOr head) (head + 1)
  else e.select head (head + 1)

def toNextWord (e : Editor) : Editor :=
  let pos := e.movingEnd
  match e.chars.nextWord? pos with
  | none => e
  | some word =>
    if e.inVisual then (e.withCursor (word + 1)).select (e.anchorOr pos) (word + 1)
    else e.select word (word + 1)

end ModalEdit.Editor
