import ModalEdit.Keymap.Basic

/-! # The standard keymap

The bindings that an engine has when it is given none: the navigation keys, the usual
single-letter commands, and the two-key commands on lines and words.  `standard_bindable` says
that every one of them would be accepted by `Keymap.bind`, one after the other.
-/

namespace ModalEdit.Keymap

/-- A binding that runs the same whether shift is held or not is spelled out twice, one that
    lacks an action for a case leaves the key unbound there. -/
def standard : Keymap where
  entries :=
    [(.key .endKey, { name := "End", plain := some .lineTail }),
     (.key .home, { name := "Home", plain := some .lineHead }),
     (.key .left, { name := "Left", plain := some .selectPrevChar }),
     (.key .up, { name := "Up", plain := some .selectPrevLine }),
     (.key .right, { name := "Right", plain := some .selectNextChar }),
     (.key .down, { name := "Down", plain := some .selectNextLine }),
     (.key .insert, { name := "Insert", plain := some .insert }),
     (.key .delete, { name := "Delete", plain := some .deleteSelection, recordsUndo := true }),
     (.key .enter, { name := "enter", plain := some .selectNextLine }),
     (.key (.char '0'), { name := "0", plain := some .lineHead }),
     (.key (.char '4'), { name := "$", shifted := some .lineTail }),
     (.key (.char '$'), { name := "$", plain := some .lineTail }),
     (.key (.char 'a'),
      { name := "a", plain := some .append, shifted := some .appendAtLineTail }),
     (.key (.char 'i'),
      { name := "i", plain := some .insert, shifted := some .insertAtLineHead }),
     (.key (.char 'o'),
      { name := "o", plain := some .openLineBelow, shifted := some .openLineAbove,
        recordsUndo := true }),
     (.key (.char 'r'), { name := "r", plain := some .replaceChar }),
     (.key (.char 'j'), { name := "j", plain := some .selectNextLine }),
     (.key (.char 'k'), { name := "k", plain := some .selectPrevLine }),
     (.key (.char 'h'), { name := "h", plain := some .selectPrevChar }),
     (.key (.char 'l'), { name := "l", plain := some .selectNextChar }),
     (.key (.char 'p'),
      { name := "p", plain := some .pasteAfter, shifted := some .pasteBefore,
        recordsUndo := true }),
     (.key (.char 'u'), { name := "u", plain := some .undo }),
     (.key (.char 'y'),
      { name := "y", plain := some .copySelection, mode := some .visual }),
     (.chord (.char 'y') (.char 'y'), { name := "yy", plain := some .copyLine }),
     (.chord (.char 'y') (.char 'w'), { name := "yw", plain := some .copyWord }),
     (.key (.char 'v'),
      { name := "v", plain := some .toggleVisual, shifted := some .toggleVisual }),
     (.key (.char 'x'),
      { name := "x", plain := some .deleteSelection, shifted := some .deleteCharOrLine,
        recordsUndo := true }),
     (.key (.char 'd'),
      { name := "d", plain := some .deleteSelection, mode := some .visual,
        recordsUndo := true }),
     (.chord (.char 'd') (.char 'd'),
      { name := "dd", plain := some .deleteLine, recordsUndo := true }),
     (.chord (.char 'd') (.char 'w'),
      { name := "dw", plain := some .deleteWord, recordsUndo := true }),
     (.key (.char 'g'), { name := "G", shifted := some .lastLine }),
     (.chord (.char 'g') (.char 'g'), { name := "gg", plain := some .firstLine }),
     (.key (.char 'w'),
      { name := "w", plain := some .nextWord, shifted := some .nextWord })]

/-- The standard keymap is what binding its entries to the empty keymap gives. -/
theorem standard_bindable : empty.bindAll standard.entries = .ok standard := by
  rfl

end ModalEdit.Keymap
