import Mathlib.Data.List.Infix
import ModalEdit.Proofs.Widget.Rope

/-! # Widgets with every operation checked

Positions are natural numbers here: a subtraction stops at zero, a slice takes what there is.  Where
they are machine words, and a text is kept as bytes, four operations abort instead of giving a wrong
answer: a subtraction below zero, a clamp between bounds in the wrong order, a slice that is not
inside, and an index that is not.

The functions below say the operations of widgets once more, with `none` where one of the four would
abort.  Where the original arithmetic stops at zero by itself, as it does for most differences of
lengths, so does this one.  Sums are not checked: positions are taken to be far from the largest
word.  The theorems `len_eq` to `typeOver_eq` say that nothing is ever aborted and that the results
are those of the plain operations.

A text that is cut into user-perceived characters is kept as bytes, and `bounds` holds the byte at
which each position begins.
-/

namespace ModalEdit

namespace Checked

/-! ## Checked operations -/

def sub (a b : Nat) : Option Nat := if b ≤ a then some (a - b) else none

/-- A number moved between two bounds, which have to be in order. -/
def clamp (n lowest highest : Nat) : Option Nat :=
  if lowest ≤ highest then some (max lowest (min n highest)) else none

/-- The characters from one index up to another. -/
def range (cs : Text) (a b : Nat) : Option Text :=
  if a ≤ b ∧ b ≤ cs.length then some ((cs.take b).drop a) else none

/-- A text cut in two behind so many bytes.  No character is cut apart. -/
def splitBytes : Text → Nat → Option (Text × Text)
  | cs, 0 => some ([], cs)
  | [], _ + 1 => none
  | c :: cs, n + 1 =>
    if c.utf8Size ≤ n + 1 then
      (splitBytes cs (n + 1 - c.utf8Size)).map fun parts => (c :: parts.1, parts.2)
    else none

/-- The text from one byte up to another. -/
def byteRange (cs : Text) (a b : Nat) : Option Text := do
  let (front, _) ← splitBytes cs b
  let (_, middle) ← splitBytes front a
  some middle

theorem sub_of_le {a b : Nat} (le : b ≤ a) : sub a b = some (a - b) := if_pos le

theorem clamp_of_le {lowest highest : Nat} (n : Nat) (le : lowest ≤ highest) :
    clamp n lowest highest = some (max lowest (min n highest)) := if_pos le

theorem range_of_le {cs : Text} {a b : Nat} (le : a ≤ b) (inside : b ≤ cs.length) :
    range cs a b = some ((cs.take b).drop a) := if_pos ⟨le, inside⟩

theorem splitBytes_append (cs ds : Text) :
    splitBytes (cs ++ ds) (Text.byteLength cs) = some (cs, ds) := by
  induction cs with
  | nil => cases ds <;> rfl
  | cons c cs ih =>
    -- A character takes a byte at least, so there is something to go on to.
    have size : Text.byteLength (c :: cs) = c.utf8Size + Text.byteLength cs := rfl
    obtain ⟨n, more⟩ :=
      Nat.exists_eq_add_one.mpr (Nat.add_pos_left c.utf8Size_pos (Text.byteLength cs))
    rw [size, more, List.cons_append, splitBytes, if_pos (by omega), ← more,
      Nat.add_sub_cancel_left, ih]
    rfl

/-- The bytes between two cuts of a text are what lies between them. -/
theorem byteRange_append (cs ds es : Text) :
    byteRange (cs ++ ds ++ es) (Text.byteLength cs) (Text.byteLength (cs ++ ds)) = some ds := by
  simp only [byteRange, splitBytes_append, Option.bind_eq_bind, Option.bind_some]

end Checked

namespace Widget.Checked

open ModalEdit.Checked

variable (w : Widget)

/-! ## Reading -/

/-- The byte at which each position begins, and the one at which the text ends. -/
def bounds : List Nat := w.units.inits.map fun ks => (Cluster.joined ks).byteLength

def len : Option Nat :=
  match w.segmentation with
  | .scalars => some w.text.length
  | .clusters => sub (bounds w).length 1

def charAt (p : Nat) : Option (Option Char) :=
  match w.segmentation with
  | .scalars => some w.text[p]?
  | .clusters =>
    match (bounds w)[p]?, (bounds w)[p + 1]? with
    | some first, some last => do
      let cluster ← byteRange w.text first last
      some (if cluster = ['\r', '\n'] then some lineBreak else cluster.head?)
    | _, _ => some none

def slice (a b : Nat) : Option Text := do
  let n ← len w
  let start := min a n
  let stop := min b n
  if stop ≤ start then some []
  else
    match w.segmentation with
    | .scalars => range w.text start stop
    | .clusters => byteRange w.text (← (bounds w)[start]?) (← (bounds w)[stop]?)

def isEmpty : Option Bool := do some ((← len w) == 0)

def text : Option Text := do slice w 0 (← len w)

def selectedText : Option Text := slice w w.selection.start w.selection.stop

/-! ## Selecting and editing -/

def withText (cs : Text) : Option Widget := do
  let n ← len (w.withText cs)
  some { w.withText cs with selection := w.selection.clamp n }

def select (a b : Nat) : Option Widget := do
  let n ← len w
  some { w with selection := .between a b n }.focus

def cut (a b : Nat) : Option (Option Text × Widget) :=
  if a = b then some (none, w)
  else do
    let n ← len w
    let start := min (min a b) n
    let stop := min (max a b) n
    let removed ← slice w start stop
    let rest := (← slice w 0 start) ++ (← slice w stop n)
    some (some removed, ← withText w (if rest.isEmpty then [' '] else rest))

def insert (cs : Text) (pos : Nat) (placement : Placement) : Option Widget := do
  let n ← len w
  let p := min pos n
  let w' ← withText w ((← slice w 0 p) ++ cs ++ (← slice w p n))
  let inserted := (← len w') - n
  let selected ←
    match placement with
    | .whole => select w' p (p + inserted)
    | .before true => select w' p (p + 1)
    | .after true =>
      if 0 < p then select w' (p + 1) (p + 2) else select w' (p + inserted - 1) (p + inserted)
    | .before false | .after false => select w' (p + inserted - 1) (p + inserted)
  some selected.focus

def typeOver (cs : Text) : Option Widget := do
  let n ← len w
  let start := min w.selection.start n
  let stop ← clamp w.selection.stop start n
  let kept ← sub n (← sub stop start)
  let w' ← withText w ((← slice w 0 start) ++ cs ++ (← slice w stop n))
  let caret := start + ((← len w') - kept)
  some (w'.setSelection caret caret)

/-! ## Nothing is aborted -/

theorem length_bounds : (bounds w).length = w.len + 1 := by simp [bounds, Widget.len]

theorem getElem?_bounds {p : Nat} (inside : p ≤ w.len) :
    (bounds w)[p]? = some (w.slice 0 p).byteLength := by
  have lt : p < w.units.inits.length := by
    rw [List.length_inits]
    exact Nat.lt_succ_of_le inside
  rw [bounds, List.getElem?_map, List.getElem?_eq_getElem lt, List.getElem_inits]
  rfl

/-- The bytes between two positions are those of the clusters between them. -/
theorem byteRange_bounds {a b : Nat} (le : a ≤ b) (inside : b ≤ w.len) :
    byteRange w.text (w.slice 0 a).byteLength (w.slice 0 b).byteLength = some (w.slice a b) := by
  have parts : w.text = w.slice 0 a ++ w.slice a b ++ w.slice b w.len := by
    rw [slice_append_slice (Nat.zero_le a) le, slice_append_slice (Nat.zero_le b) inside,
      slice_zero_len]
  rw [parts, ← slice_append_slice (Nat.zero_le a) le]
  exact byteRange_append _ _ _

@[simp] theorem len_eq : len w = some w.len := by
  unfold len
  cases cut : w.segmentation with
  | scalars =>
    rw [← Widget.length_chars, chars_eq_text cut]
  | clusters =>
    dsimp only
    rw [length_bounds, sub_of_le (Nat.le_add_left 1 _), Nat.add_sub_cancel]

/-- A cluster is read from its characters. -/
theorem lead_of_chars (k : Cluster) :
    (if k.chars = ['\r', '\n'] then some lineBreak else k.chars.head?) = some k.lead := by
  simp only [Cluster.chars, Cluster.lead, List.cons.injEq, List.head?_cons]
  split
  · rfl
  · rfl

@[simp] theorem charAt_eq (p : Nat) : charAt w p = some (w.charAt? p) := by
  unfold charAt
  cases cut : w.segmentation with
  | scalars =>
    dsimp only
    rw [charAt?_eq, chars_eq_text cut]
  | clusters =>
    dsimp only
    by_cases inside : p < w.len
    · have indexed : p < w.units.length := inside
      have here : w.units[p]? = some w.units[p] := List.getElem?_eq_getElem indexed
      rw [getElem?_bounds w (Nat.le_of_lt inside), getElem?_bounds w inside, charAt?, here]
      simp only [byteRange_bounds w (Nat.le_succ p) inside, slice_single here, lead_of_chars,
        Option.bind_eq_bind, Option.bind_some, Option.map_some]
    · have past : (bounds w)[p + 1]? = none := by
        rw [List.getElem?_eq_none_iff, length_bounds]
        omega
      rw [past, charAt?, List.getElem?_eq_none (Nat.le_of_not_lt inside)]
      cases (bounds w)[p]? with
      | none => rfl
      | some _ => rfl

/-- A slice is not changed by moving its ends inside. -/
theorem slice_min (a b : Nat) : w.slice (min a w.len) (min b w.len) = w.slice a b := by
  have short : (w.units.take b).length ≤ w.len := by
    rw [List.length_take, Widget.len]
    omega
  have taken : w.units.take (min b w.len) = w.units.take b := List.take_eq_take_min.symm
  simp only [Widget.slice, taken]
  by_cases inside : a ≤ w.len
  · rw [Nat.min_eq_left inside]
  · rw [List.drop_eq_nil_of_le (by omega), List.drop_eq_nil_of_le (by omega)]

@[simp] theorem slice_eq (a b : Nat) : slice w a b = some (w.slice a b) := by
  rw [slice, len_eq, Option.bind_eq_bind, Option.bind_some, ← slice_min]
  have inside : min b w.len ≤ w.len := Nat.min_le_right b w.len
  dsimp only
  generalize min a w.len = start, min b w.len = stop at inside
  split
  · next le => rw [slice_of_le le]
  · next lt =>
    have le : start ≤ stop := Nat.le_of_not_le lt
    cases cut : w.segmentation with
    | scalars =>
      dsimp only
      rw [slice_of_scalars cut, range_of_le le (len_of_scalars cut ▸ inside)]
    | clusters =>
      simp only [getElem?_bounds w (Nat.le_trans le inside), getElem?_bounds w inside,
        byteRange_bounds w le inside, Option.bind_some]

@[simp] theorem isEmpty_eq : isEmpty w = some (w.len == 0) := by simp [isEmpty]

@[simp] theorem text_eq : text w = some w.text := by simp [text, slice_zero_len]

@[simp] theorem selectedText_eq : selectedText w = some w.selectedText := slice_eq w _ _

@[simp] theorem withText_eq (cs : Text) : withText w cs = some (w.withText cs) := by
  simp [withText]
  rfl

@[simp] theorem select_eq (a b : Nat) : select w a b = some (w.select a b) := by
  simp [select]
  rfl

@[simp] theorem cut_eq (a b : Nat) : cut w a b = some (w.cut a b) := by
  unfold cut Widget.cut
  split
  · rfl
  · simp

@[simp] theorem insert_eq (cs : Text) (pos : Nat) (placement : Placement) :
    insert w cs pos placement = some (w.insert cs pos placement) := by
  unfold insert Widget.insert
  simp only [len_eq, slice_eq, withText_eq, Option.bind_eq_bind, Option.bind_some]
  cases placement with
  | whole => simp
  | before lineWise => cases lineWise <;> simp
  | after lineWise =>
    cases lineWise with
    | false => simp
    | true =>
      dsimp only
      split
      · simp
      · simp

@[simp] theorem typeOver_eq (cs : Text) : typeOver w cs = some (w.typeOver cs) := by
  have inside : min w.selection.start w.len ≤ w.len := Nat.min_le_right _ _
  have ordered : min w.selection.start w.len ≤
      max (min w.selection.start w.len) (min w.selection.stop w.len) := Nat.le_max_left _ _
  -- What is typed over lies inside the text.
  have room : max (min w.selection.start w.len) (min w.selection.stop w.len) -
      min w.selection.start w.len ≤ w.len := by omega
  simp [typeOver, Widget.typeOver, clamp_of_le _ inside, sub_of_le ordered, sub_of_le room]

end Widget.Checked

end ModalEdit
