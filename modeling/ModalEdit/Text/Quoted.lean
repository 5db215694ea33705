import ModalEdit.Text.Cluster
import ModalEdit.Unicode.Unprintable

/-! # Quoted characters and texts

How a character or a text is written in messages and in the log: between quotes, on one line,
and so that marks and invisible characters can be told apart.  A character that has a letter
of its own (such as a tab) is written with it, the quote that is in use and the backslash
after a backslash; a mark that would attach itself to the quote, and a character without a
visible form, is written as its code point in hexadecimal digits.
-/

namespace ModalEdit.Quoted

open Unicode (isCombining isUnprintable)

/-- The code point of a character, as it is written in place of the character. -/
def codePoint (c : Char) : Text :=
  ['\\', 'u', '\x7b'] ++ Nat.toDigits 16 c.toNat ++ ['\x7d']

/-- A character, as written between two of `quote`. -/
def escape (quote : Char) (c : Char) : Text :=
  if c = '\x00' then ['\\', '0']
  else if c = '\t' then ['\\', 't']
  else if c = '\r' then ['\\', 'r']
  else if c = '\n' then ['\\', 'n']
  else if c = '\\' || c = quote then ['\\', c]
  else if isCombining c || isUnprintable c then codePoint c
  else [c]

def char (c : Char) : String := String.ofList (['\''] ++ escape '\'' c ++ ['\''])

def text (cs : Text) : String := String.ofList (['"'] ++ cs.flatMap (escape '"') ++ ['"'])

end ModalEdit.Quoted
