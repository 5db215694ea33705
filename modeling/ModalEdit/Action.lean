/-! # Actions

The commands that a key can be bound to, with the names under which they are reported.  The
motions are the ones that only move the caret or the moving end of a visual selection; some
actions leave it to the engine to enter insert mode afterwards.
-/

namespace ModalEdit

/-- A command. -/
inductive Action
  | selectNextChar
  | selectPrevChar
  | selectNextLine
  | selectPrevLine
  | lineHead
  | lineTail
  | firstLine
  | lastLine
  | nextWord
  | append
  | appendAtLineTail
  | insert
  | insertAtLineHead
  | openLineBelow
  | openLineAbove
  | replaceChar
  | copySelection
  | copyLine
  | copyWord
  | deleteSelection
  | deleteLine
  | deleteWord
  /-- The character before the caret, or the whole line in visual mode. -/
  | deleteCharOrLine
  | pasteAfter
  | pasteBefore
  | undo
  | toggleVisual
  deriving DecidableEq

namespace Action

def named : List (String × Action) :=
  [("SelectNextChar", .selectNextChar), ("SelectPrevChar", .selectPrevChar),
   ("SelectNextLine", .selectNextLine), ("SelectPrevLine", .selectPrevLine),
   ("LineHead", .lineHead), ("LineTail", .lineTail), ("FirstLine", .firstLine),
   ("LastLine", .lastLine), ("NextWord", .nextWord), ("Append", .append),
   ("AppendAtLineTail", .appendAtLineTail), ("Insert", .insert),
   ("InsertAtLineHead", .insertAtLineHead), ("OpenLineBelow", .openLineBelow),
   ("OpenLineAbove", .openLineAbove), ("ReplaceChar", .replaceChar),
   ("CopySelection", .copySelection), ("CopyLine", .copyLine), ("CopyWord", .copyWord),
   ("DeleteSelection", .deleteSelection), ("DeleteLine", .deleteLine),
   ("DeleteWord", .deleteWord), ("DeleteCharOrLine", .deleteCharOrLine),
   ("PasteAfter", .pasteAfter), ("PasteBefore", .pasteBefore), ("Undo", .undo),
   ("ToggleVisual", .toggleVisual)]

def name (a : Action) : String := ((named.find? (fun p => p.2 == a)).map Prod.fst).getD ""

def ofName? (s : String) : Option Action := named.lookup s

theorem ofName?_name (a : Action) : ofName? a.name = some a := by
  cases a <;> decide

/-- The motions: they move the caret, or the moving end of a visual selection. -/
def motions : List Action :=
  [.selectNextChar, .selectPrevChar, .selectNextLine, .selectPrevLine, .lineHead, .lineTail,
   .firstLine, .lastLine, .nextWord]

/-- Whether insert mode is to be entered once the action is done. -/
def entersInsert : Action → Bool
  | .append | .appendAtLineTail | .insert | .insertAtLineHead => true
  | .openLineBelow | .openLineAbove => true
  | _ => false

end Action

/-- The largest count that an action can be given.  A longer numeral means this count too. -/
def maxCount : Nat := 4294967295

end ModalEdit
