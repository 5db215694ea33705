import ModalEdit.Editor.Yank

/-! # Running an action

The command behind each action, with its count.  Some commands are repeated while they change
something, some take their count themselves, and for the rest it has no meaning.
-/

namespace ModalEdit.Editor

/-- Runs an action with a count. -/
def run (action : Action) (count : Nat) (e : Editor) : Editor :=
  match action with
  | .selectNextChar => e.times count nextChar
  | .selectPrevChar => e.times count prevChar
  | .selectNextLine => e.times count nextLine
  | .selectPrevLine => e.times count prevLine
  | .nextWord => e.times count toNextWord
  | .lineHead => e.toLineHead
  | .lineTail => e.toLineTail
  | .firstLine => e.toFirstLine
  | .lastLine => e.toLastLine
  | .append => e.append
  | .appendAtLineTail => e.toLineTail.append
  | .insert => e.insert
  | .insertAtLineHead => e.toLineHead.insert
  | .openLineBelow => e.openBelow
  | .openLineAbove => e.openAbove
  | .replaceChar => e.awaitReplacement
  | .copySelection => e.copySelection
  | .copyLine => e.copyLines count
  | .copyWord => e.copyWords count
  | .deleteSelection => e.deleteSelection count
  | .deleteLine => e.deleteLines count
  | .deleteWord => e.deleteWords count
  | .deleteCharOrLine => e.deleteCharOrLine
  | .pasteAfter => e.pasteAfter
  | .pasteBefore => e.pasteBefore
  | .undo => e.times count undo
  | .toggleVisual => e.toggleVisual

end ModalEdit.Editor
