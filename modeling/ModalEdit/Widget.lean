import ModalEdit.Text.Cluster

/-! # Text widgets

The editable text that commands work on: a text, the positions it is cut into, a selection
that doubles as the caret, and the number of times that the widget was asked to take the
input focus.

* `len`, `charAt?`, `slice`, `chars` read the text by position.
* `withText` replaces the text and keeps the selection inside it.
* `select` is the checked way to set the selection; `setSelection` stores anything.
* `cut`, `insert` and `typeOver` are the three edits.

The positions are kept beside the text, because every question about lines and words asks for
them; `units_eq` ties them to it, and the lemmas below say what each operation does to the
text and to the selection.
-/

namespace ModalEdit

/-- A selection from `start` up to and without `stop`.  Where both meet it is a caret.  Nothing
    forbids a reversed selection or one past the end of the text. -/
structure Selection where
  start : Nat
  stop : Nat
  deriving DecidableEq

/-- The selection between two positions given in any order, inside a text of `len` positions. -/
def Selection.between (a b len : Nat) : Selection := ⟨min (min a b) len, min (max a b) len⟩

/-- The selection with both ends moved inside a text of `len` positions. -/
def Selection.clamp (s : Selection) (len : Nat) : Selection := ⟨min s.start len, min s.stop len⟩

/-- How an inserted text is selected. -/
inductive Placement
  /-- All that was inserted. -/
  | whole
  /-- As a paste after the caret, or below the line of the caret. -/
  | after (lineWise : Bool)
  /-- As a paste before the caret, or above the line of the caret. -/
  | before (lineWise : Bool)
  deriving DecidableEq

/-- An editable text. -/
structure Widget where
  segmentation : Segmentation
  text : Text
  units : List Cluster := segmentation.split text
  units_eq : units = segmentation.split text := by rfl
  selection : Selection := ⟨0, 0⟩
  focusRequests : Nat := 0

namespace Widget

/-- The positions add nothing to a widget: the rest determines them. -/
theorem ext_text {v w : Widget} (hseg : v.segmentation = w.segmentation) (htext : v.text = w.text)
    (hsel : v.selection = w.selection) (hfocus : v.focusRequests = w.focusRequests) : v = w := by
  obtain ⟨seg, text, units, hunits, sel, focus⟩ := v
  obtain ⟨seg', text', units', hunits', sel', focus'⟩ := w
  cases hseg
  cases htext
  cases hsel
  cases hfocus
  cases hunits
  cases hunits'
  rfl

/-! ## Reading -/

def len (w : Widget) : Nat := w.units.length

/-- The characters that the positions show. -/
def chars (w : Widget) : Text := w.units.map Cluster.lead

@[simp] theorem length_chars (w : Widget) : w.chars.length = w.len := by simp [chars, len]

/-- Where every character is a position of its own, the positions show the text itself. -/
theorem chars_eq_text {w : Widget} (h : w.segmentation = .scalars) : w.chars = w.text := by
  rw [chars, w.units_eq, h]
  induction w.text with
  | nil => rfl
  | cons c cs ih =>
    rw [Segmentation.split] at ih ⊢
    rw [List.map_cons, List.map_cons, ih, Cluster.lead_single]

def charAt? (w : Widget) (p : Nat) : Option Char := w.units[p]?.map Cluster.lead

theorem charAt?_eq (w : Widget) (p : Nat) : w.charAt? p = w.chars[p]? := by
  simp [charAt?, chars]

/-- The text from `a` up to and without `b`, as far as there is one. -/
def slice (w : Widget) (a b : Nat) : Text := Cluster.joined ((w.units.take b).drop a)

/-- The whole text is the slice over all positions. -/
theorem slice_zero_len (w : Widget) : w.slice 0 w.len = w.text := by
  simp [slice, len, w.units_eq]

theorem slice_of_le {w : Widget} {a b : Nat} (h : b ≤ a) : w.slice a b = [] := by
  simp only [slice]
  rw [List.drop_eq_nil_of_le (by simp only [List.length_take]; omega), Cluster.joined_nil]

/-- Two slices that meet make one. -/
theorem slice_append_slice {w : Widget} {a b c : Nat} (hab : a ≤ b) (hbc : b ≤ c) :
    w.slice a b ++ w.slice b c = w.slice a c := by
  have key : (w.units.take b).drop a ++ (w.units.take c).drop b = (w.units.take c).drop a := by
    have h : (w.units.take c).drop b = ((w.units.take c).drop a).drop (b - a) := by
      rw [List.drop_drop, Nat.add_sub_cancel' hab]
    rw [← List.take_append_drop (b - a) ((w.units.take c).drop a), ← h, ← List.drop_take,
      List.take_take, Nat.min_eq_left hbc]
  rw [slice, slice, ← Cluster.joined_append, key, slice]

/-- Where the selection begins, which is where the caret stands. -/
def caret (w : Widget) : Nat := w.selection.start

def selectedText (w : Widget) : Text := w.slice w.selection.start w.selection.stop

/-! ## The selection -/

/-- A widget with a text, its caret at the beginning. -/
def ofText (s : Segmentation) (cs : Text) : Widget where
  segmentation := s
  text := cs

/-- Sets the selection as it is given. -/
def setSelection (w : Widget) (a b : Nat) : Widget := { w with selection := ⟨a, b⟩ }

def focus (w : Widget) : Widget := { w with focusRequests := w.focusRequests + 1 }

/-- Selects what lies between two positions, given in any order, and asks for the focus. -/
def select (w : Widget) (a b : Nat) : Widget :=
  { w with selection := .between a b w.len }.focus

@[simp] theorem selection_setSelection (w : Widget) (a b : Nat) :
    (w.setSelection a b).selection = ⟨a, b⟩ := rfl
@[simp] theorem selection_focus (w : Widget) : w.focus.selection = w.selection := rfl
@[simp] theorem selection_select (w : Widget) (a b : Nat) :
    (w.select a b).selection = .between a b w.len := rfl
@[simp] theorem text_setSelection (w : Widget) (a b : Nat) : (w.setSelection a b).text = w.text :=
  rfl
@[simp] theorem text_focus (w : Widget) : w.focus.text = w.text := rfl
@[simp] theorem text_select (w : Widget) (a b : Nat) : (w.select a b).text = w.text := rfl
@[simp] theorem len_setSelection (w : Widget) (a b : Nat) : (w.setSelection a b).len = w.len := rfl
@[simp] theorem len_focus (w : Widget) : w.focus.len = w.len := rfl
@[simp] theorem len_select (w : Widget) (a b : Nat) : (w.select a b).len = w.len := rfl

/-! ## Edits -/

/-- Replaces the whole text.  The selection is kept as far as it lies inside the new one. -/
def withText (w : Widget) (cs : Text) : Widget where
  segmentation := w.segmentation
  text := cs
  selection := w.selection.clamp (w.segmentation.split cs).length
  focusRequests := w.focusRequests

@[simp] theorem text_withText (w : Widget) (cs : Text) : (w.withText cs).text = cs := rfl
@[simp] theorem segmentation_withText (w : Widget) (cs : Text) :
    (w.withText cs).segmentation = w.segmentation := rfl

/-- Takes out what lies between two positions, given in any order.  Nothing lies between two
    equal ones.  A text is never left empty: a single space stays where all of it goes. -/
def cut (w : Widget) (a b : Nat) : Option Text × Widget :=
  if a = b then (none, w)
  else
    let start := min (min a b) w.len
    let stop := min (max a b) w.len
    let rest := w.slice 0 start ++ w.slice stop w.len
    (some (w.slice start stop), w.withText (if rest.isEmpty then [' '] else rest))

/-- Inserts a text at a position and selects as the placement says: all of it, the first
    position of a pasted line, or the last position of a text pasted inside a line. -/
def insert (w : Widget) (cs : Text) (pos : Nat) (placement : Placement) : Widget :=
  let p := min pos w.len
  let w' := w.withText (w.slice 0 p ++ cs ++ w.slice p w.len)
  let inserted := w'.len - w.len
  let selected :=
    match placement with
    | .whole => w'.select p (p + inserted)
    | .before true => w'.select p (p + 1)
    | .after true =>
      -- The inserted text begins with a line break, which is not part of the pasted line.
      if 0 < p then w'.select (p + 1) (p + 2) else w'.select (p + inserted - 1) (p + inserted)
    | .before false | .after false => w'.select (p + inserted - 1) (p + inserted)
  selected.focus

/-- Types a text over the selection and leaves the caret behind it. -/
def typeOver (w : Widget) (cs : Text) : Widget :=
  -- A reversed selection counts as a caret at its start.
  let start := min w.selection.start w.len
  let stop := max start (min w.selection.stop w.len)
  let kept := w.len - (stop - start)
  let w' := w.withText (w.slice 0 start ++ cs ++ w.slice stop w.len)
  let caret := start + (w'.len - kept)
  w'.setSelection caret caret

end Widget

end ModalEdit
