import ModalEdit.Proofs.Checked.Widget
import ModalEdit.Proofs.Text.LineBounds
import ModalEdit.Text.Words

/-! # Lines and words with every operation checked

The questions about lines and words, asked position by position: a search goes through a range of
positions and reads the character at each (`find`), and what is computed from the answers is
checked.  The two differences that are not cut off at zero are those of `afterToken`, and they are
safe because it is asked at a character only, which lies before all that is found from there on.

The answers are those of the functions on the characters of the widget (`lineStart_eq` to
`nextWord?_eq`).
-/

namespace ModalEdit

namespace Text

variable {cs : Text} {p : Nat}

/-! ## Searches, position by position -/

theorem seek_eq_ite (inside : p < cs.length) (accept : Char → Bool) :
    cs.seek p accept = if accept cs[p] then p else cs.seek (p + 1) accept := by
  rw [seek, seek, List.drop_eq_getElem_cons inside, List.dropWhile_cons]
  cases accept cs[p] with
  | true =>
    simp only [Bool.not_true, Bool.false_eq_true, if_false, if_true, List.length_cons,
      List.length_drop]
    omega
  | false => rfl

theorem find?_range' (accept : Char → Bool) :
    ((List.range' p (cs.length - p)).find? fun i => cs[i]?.any accept).getD cs.length =
      cs.seek p accept := by
  induction left : cs.length - p generalizing p with
  | zero => rw [seek_of_length_le (Nat.le_of_sub_eq_zero left), List.range'_zero]; rfl
  | succ n ih =>
    have inside : p < cs.length := by omega
    rw [List.range'_succ, List.find?_cons, List.getElem?_eq_getElem inside, seek_eq_ite inside,
      Option.any_some]
    cases accept cs[p] with
    | true => rfl
    | false => exact ih (by omega)

theorem find?_reverse_range (le : p ≤ cs.length) :
    (((List.range p).reverse.find? fun i => cs[i]?.any isBreak).map (· + 1)).getD 0 =
      cs.lineStart p := by
  induction p with
  | zero => rfl
  | succ p ih =>
    have inside : p < cs.length := le
    rw [List.range_succ, List.reverse_append, List.reverse_singleton, List.singleton_append,
      List.find?_cons, List.getElem?_eq_getElem inside, lineStart_succ inside, Option.any_some]
    cases isBreak cs[p] with
    | true => rfl
    | false => exact ih (Nat.le_of_lt le)

/-- A position past the end stands behind the last character. -/
theorem lineStart_min (cs : Text) (p : Nat) : cs.lineStart (min p cs.length) = cs.lineStart p := by
  rw [lineStart, lineStart, ← List.take_eq_take_min]

end Text

namespace Widget.Checked

open ModalEdit.Checked
open Text (isBreak isVisible)
open Unicode (isWhiteSpace)

variable (w : Widget) (p : Nat)

/-- The first of some positions whose character is accepted. -/
def find (accept : Char → Bool) : List Nat → Option (Option Nat)
  | [] => some none
  | p :: rest => do if (← charAt w p).any accept then some (some p) else find accept rest

/-- The first position from `p` on whose character is accepted, or the length of the text. -/
def seek (accept : Char → Bool) : Option Nat := do
  let n ← len w
  some ((← find w accept (List.range' p (n - p))).getD n)

/-! ## Lines -/

def isBreakAt : Option Bool := do some ((← charAt w p) == some lineBreak)

def before? : Option (Option Char) :=
  match p with
  | 0 => some none
  | q + 1 => charAt w q

def after? : Option (Option Char) := charAt w (p + 1)

def lineStart : Option Nat := do
  let n ← len w
  some (((← find w isBreak (List.range (min p n)).reverse).map (· + 1)).getD 0)

def lineEnd : Option Nat := do if ← isBreakAt w p then some p else seek w p isBreak

def lineLength : Option Nat := do some ((← seek w p isBreak) - (← lineStart w p))

def column : Option Nat := do some (p - (← lineStart w p) + 1)

def nextLineStart? : Option (Option Nat) := do
  let lineBreak ← seek w p isBreak
  some (if lineBreak < (← len w) then some (lineBreak + 1) else none)

def nextLineEnd? : Option (Option Nat) := do
  match ← nextLineStart? w p with
  | none => some none
  | some next => some (some (← seek w next isBreak))

def prevLineEnd? : Option (Option Nat) := do
  match ← lineStart w p with
  | 0 => some none
  | s + 1 => some (some s)

def prevLineStart? : Option (Option Nat) := do
  match ← prevLineEnd? w p with
  | none => some none
  | some last => some (some (← lineStart w last))

/-! ## Words -/

def afterToken (changes : Char → Bool) : Option Nat := do
  let firstSpace ← seek w p isWhiteSpace
  let firstVisible ← seek w firstSpace isVisible
  let classChange ← seek w p (fun c => changes c && isVisible c)
  if (← sub classChange p) < (← sub firstSpace p) then some classChange else some firstVisible

def wordBoundary : Option Nat := do
  match ((← charAt w p).map CharClass.of).getD .whitespace with
  | .whitespace => seek w p isVisible
  | .identifier => afterToken w p (fun c => CharClass.of c != .identifier)
  | .symbol => afterToken w p (fun c => CharClass.of c == .identifier)

def nextWord? : Option (Option Nat) := do
  let boundary ← wordBoundary w p
  some (if boundary < (← len w) then some boundary else none)

/-! ## Nothing is aborted -/

theorem find_eq (accept : Char → Bool) (ps : List Nat) :
    find w accept ps = some (ps.find? fun i => w.chars[i]?.any accept) := by
  induction ps with
  | nil => rfl
  | cons q rest ih =>
    simp only [find, charAt_eq, charAt?_eq, ih, List.find?_cons, Option.bind_eq_bind,
      Option.bind_some]
    cases w.chars[q]?.any accept with
    | true => rfl
    | false => rfl

@[simp] theorem seek_eq (accept : Char → Bool) :
    seek w p accept = some (w.chars.seek p accept) := by
  simp only [seek, len_eq, find_eq, Option.bind_eq_bind, Option.bind_some]
  rw [← Text.find?_range', length_chars]

@[simp] theorem isBreakAt_eq : isBreakAt w p = some (w.chars.isBreakAt p) := by
  simp [isBreakAt, Text.isBreakAt, charAt?_eq]

@[simp] theorem before?_eq : before? w p = some (w.chars.before? p) := by
  cases p with
  | zero => rfl
  | succ q => simp [before?, Text.before?, charAt?_eq]

@[simp] theorem after?_eq : after? w p = some (w.chars.after? p) := by
  simp [after?, Text.after?, charAt?_eq]

@[simp] theorem lineStart_eq : lineStart w p = some (w.chars.lineStart p) := by
  have inside : min p w.len ≤ w.chars.length := by
    rw [length_chars]
    exact Nat.min_le_right p w.len
  simp only [lineStart, len_eq, find_eq, Option.bind_eq_bind, Option.bind_some,
    Text.find?_reverse_range inside]
  rw [← length_chars, Text.lineStart_min]

@[simp] theorem lineEnd_eq : lineEnd w p = some (w.chars.lineEnd p) := by
  simp only [lineEnd, isBreakAt_eq, seek_eq, Option.bind_eq_bind, Option.bind_some, Text.isBreakAt,
    beq_iff_eq]
  split
  · next here =>
    -- The search would stop at once.
    obtain ⟨inside, same⟩ := List.getElem?_eq_some_iff.mp here
    rw [Text.lineEnd, Text.seek_eq_ite inside, same]
    rfl
  · rfl

@[simp] theorem lineLength_eq : lineLength w p = some (w.chars.lineLength p) := by
  simp [lineLength, Text.lineLength, Text.lineEnd]

@[simp] theorem column_eq : column w p = some (w.chars.column p) := by
  simp [column, Text.column]

@[simp] theorem nextLineStart?_eq : nextLineStart? w p = some (w.chars.nextLineStart? p) := by
  simp [nextLineStart?, Text.nextLineStart?, Text.lineEnd]

@[simp] theorem nextLineEnd?_eq : nextLineEnd? w p = some (w.chars.nextLineEnd? p) := by
  simp only [nextLineEnd?, nextLineStart?_eq, Text.nextLineEnd?, Option.bind_eq_bind,
    Option.bind_some]
  cases w.chars.nextLineStart? p with
  | none => rfl
  | some next => simp [Text.lineEnd]

@[simp] theorem prevLineEnd?_eq : prevLineEnd? w p = some (w.chars.prevLineEnd? p) := by
  simp only [prevLineEnd?, lineStart_eq, Text.prevLineEnd?, Option.bind_eq_bind, Option.bind_some]
  cases w.chars.lineStart p with
  | zero => rfl
  | succ s => rfl

@[simp] theorem prevLineStart?_eq : prevLineStart? w p = some (w.chars.prevLineStart? p) := by
  simp only [prevLineStart?, prevLineEnd?_eq, Text.prevLineStart?, Option.bind_eq_bind,
    Option.bind_some]
  cases w.chars.prevLineEnd? p with
  | none => rfl
  | some last => simp

theorem afterToken_eq (inside : p ≤ w.len) (changes : Char → Bool) :
    afterToken w p changes = some (Text.wordBoundary.afterToken w.chars p changes) := by
  rw [← length_chars] at inside
  simp [afterToken, Text.wordBoundary.afterToken, sub_of_le (Text.le_seek inside _)]
  split
  · rfl
  · rfl

@[simp] theorem wordBoundary_eq : wordBoundary w p = some (w.chars.wordBoundary p) := by
  simp only [wordBoundary, charAt_eq, charAt?_eq, Option.bind_eq_bind, Option.bind_some,
    Text.wordBoundary]
  by_cases inside : p < w.len
  · cases ((w.chars[p]?).map CharClass.of).getD .whitespace with
    | whitespace => exact seek_eq w p _
    | identifier => exact afterToken_eq w p (Nat.le_of_lt inside) _
    | symbol => exact afterToken_eq w p (Nat.le_of_lt inside) _
  · -- Past the end there is no token to begin with.
    rw [List.getElem?_eq_none (by rw [length_chars]; omega)]
    exact seek_eq w p _

@[simp] theorem nextWord?_eq : nextWord? w p = some (w.chars.nextWord? p) := by
  simp [nextWord?, Text.nextWord?]

end Widget.Checked

end ModalEdit
