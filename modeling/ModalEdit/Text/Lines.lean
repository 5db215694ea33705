import ModalEdit.Text.Cluster

/-! # Lines

Where the lines of a text begin and end.  A text is read here as the list of characters that
its positions show, so the same functions serve every segmentation.  A line holds the
characters up to its line break; the break is its end, and the position after it begins the
next line.  All questions have an answer at every position: one past the end counts as
standing behind the last character.

* `seek` is the search everything forward is made of; `lineStart` looks back.
* `lineEnd`, `lineLength`, `column` describe the line of a position.
* `nextLineStart?`, `nextLineEnd?`, `prevLineStart?`, `prevLineEnd?` describe its neighbours,
  and are `none` where there is no such line.
-/

namespace ModalEdit.Text

def isBreak (c : Char) : Bool := c == lineBreak

def isBreakAt (cs : Text) (p : Nat) : Bool := cs[p]? == some lineBreak

def before? (cs : Text) : Nat → Option Char
  | 0 => none
  | p + 1 => cs[p]?

def after? (cs : Text) (p : Nat) : Option Char := cs[p + 1]?

/-- The first position from `p` on whose character is accepted, or the length of the text. -/
def seek (cs : Text) (p : Nat) (accept : Char → Bool) : Nat :=
  cs.length - ((cs.drop p).dropWhile (fun c => !accept c)).length

theorem seek_le_length (cs : Text) (p : Nat) (accept : Char → Bool) :
    cs.seek p accept ≤ cs.length :=
  Nat.sub_le _ _

/-! ## The line of a position -/

/-- Where the line of a position begins: after the closest line break before it. -/
def lineStart (cs : Text) (p : Nat) : Nat :=
  (cs.take p).length - ((cs.take p).reverse.takeWhile (fun c => !isBreak c)).length

theorem lineStart_le (cs : Text) (p : Nat) : cs.lineStart p ≤ p := by
  have : (cs.take p).length ≤ p := by simp only [List.length_take]; omega
  unfold lineStart
  omega

theorem lineStart_le_length (cs : Text) (p : Nat) : cs.lineStart p ≤ cs.length := by
  have : (cs.take p).length ≤ cs.length := by simp only [List.length_take]; omega
  unfold lineStart
  omega

/-- Where the line of a position ends: at its line break, or where the text ends.  A line
    break belongs to the line that it ends. -/
def lineEnd (cs : Text) (p : Nat) : Nat := cs.seek p isBreak

/-- The number of characters of a line, its line break apart. -/
def lineLength (cs : Text) (p : Nat) : Nat := cs.lineEnd p - cs.lineStart p

/-- The column of a position in its line, counted from one. -/
def column (cs : Text) (p : Nat) : Nat := p - cs.lineStart p + 1

/-! ## The neighbouring lines -/

def nextLineStart? (cs : Text) (p : Nat) : Option Nat :=
  if cs.lineEnd p < cs.length then some (cs.lineEnd p + 1) else none

def nextLineEnd? (cs : Text) (p : Nat) : Option Nat := (cs.nextLineStart? p).map cs.lineEnd

/-- The line break that ends the previous line. -/
def prevLineEnd? (cs : Text) (p : Nat) : Option Nat :=
  match cs.lineStart p with
  | 0 => none
  | s + 1 => some s

def prevLineStart? (cs : Text) (p : Nat) : Option Nat := (cs.prevLineEnd? p).map cs.lineStart

end ModalEdit.Text
