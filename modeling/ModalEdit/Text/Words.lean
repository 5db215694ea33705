import ModalEdit.Text.Lines
import ModalEdit.Unicode.Alphanumeric
import ModalEdit.Unicode.WhiteSpace

/-! # Words

A word is a run of characters of one class: letters, digits and underscores make identifiers,
every other visible character is a symbol, and white space only separates.  `wordBoundary`
says where the token at a position ends, which is also where the next word begins once the
white space behind it is skipped.
-/

namespace ModalEdit

open Unicode (isWhiteSpace isAlphanumeric)

/-- The three kinds of characters that word motions tell apart. -/
inductive CharClass
  /-- Letters and digits of any script, and the underscore. -/
  | identifier
  /-- Any other visible character. -/
  | symbol
  | whitespace
  deriving DecidableEq

namespace CharClass

def of (c : Char) : CharClass :=
  if isWhiteSpace c then .whitespace
  else if isAlphanumeric c || c == '_' then .identifier
  else .symbol

def name : CharClass → String
  | .identifier => "Identifier"
  | .symbol => "Symbol"
  | .whitespace => "Whitespace"

theorem of_eq_whitespace_iff {c : Char} : of c = .whitespace ↔ isWhiteSpace c = true := by
  unfold of
  split
  · next h => simp [h]
  · next h => split <;> simp [h]

end CharClass

namespace Text

/-- Whether a character is visible. -/
def isVisible (c : Char) : Bool := !isWhiteSpace c

/-- Where the next word begins after the token at `p`, or the length of the text.  White space
    is skipped; so is the token itself, up to white space or to a change of class, whichever
    comes first.  A change of class is seen from an identifier at the first visible character
    that is none, and from a symbol at the first identifier. -/
def wordBoundary (cs : Text) (p : Nat) : Nat :=
  match (cs[p]?.map CharClass.of).getD .whitespace with
  | .whitespace => cs.seek p isVisible
  | .identifier => afterToken (fun c => CharClass.of c != .identifier)
  | .symbol => afterToken (fun c => CharClass.of c == .identifier)
where
  /-- The end of a token that is over where `changes` says so. -/
  afterToken (changes : Char → Bool) : Nat :=
    let firstSpace := cs.seek p isWhiteSpace
    let firstVisible := cs.seek firstSpace isVisible
    let classChange := cs.seek p (fun c => changes c && isVisible c)
    if classChange - p < firstSpace - p then classChange else firstVisible

def nextWord? (cs : Text) (p : Nat) : Option Nat :=
  if cs.wordBoundary p < cs.length then some (cs.wordBoundary p) else none

end Text

end ModalEdit
