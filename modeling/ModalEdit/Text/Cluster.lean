import ModalEdit.Unicode.GraphemeBreak

/-! # Cutting a text into positions

A text is a list of characters.  A widget addresses it by *positions*, and what one position
holds depends on the widget: a single character, or a user-perceived character (an extended
grapheme cluster, as the Unicode text segmentation rules define it).  Both are `Cluster`s, so
that everything above this module is written once.

* `Cluster`: the non-empty content of one position, and `Cluster.lead`, the character it is
  read as.
* `Lookback`: what the next cut depends on, and `Lookback.joins`, the cutting rules.
* `Segmentation.split`: the positions of a text.

`joined_split` says that cutting loses nothing: the positions, joined, are the text.
-/

namespace ModalEdit

open Unicode (BreakClass)

/-- A text, as its characters. -/
abbrev Text := List Char

/-- The number of bytes that a text takes in UTF-8. -/
def Text.byteLength (cs : Text) : Nat := cs.foldr (fun c n => c.utf8Size + n) 0

def lineBreak : Char := '\n'

/-! ## Clusters -/

/-- What one position holds: a first character and those that belong to it. -/
structure Cluster where
  head : Char
  tail : List Char
  deriving DecidableEq

namespace Cluster

def single (c : Char) : Cluster := ⟨c, []⟩

def chars (k : Cluster) : Text := k.head :: k.tail

/-- The character that a cluster is read as: its first one, except that a carriage return
    with its line feed is one line break. -/
def lead (k : Cluster) : Char :=
  if k.head = '\r' ∧ k.tail = ['\n'] then lineBreak else k.head

@[simp] theorem lead_single (c : Char) : (single c).lead = c := by simp [lead, single]

@[simp] theorem chars_single (c : Char) : (single c).chars = [c] := rfl

/-- The text that a run of clusters spells. -/
def joined (ks : List Cluster) : Text := ks.flatMap chars

@[simp] theorem joined_nil : joined [] = [] := rfl

@[simp] theorem joined_cons (k : Cluster) (ks : List Cluster) :
    joined (k :: ks) = k.head :: (k.tail ++ joined ks) := by
  simp [joined, chars]

@[simp] theorem joined_append (ks ls : List Cluster) :
    joined (ks ++ ls) = joined ks ++ joined ls := by
  simp [joined]

@[simp] theorem joined_map_single (cs : Text) : joined (cs.map single) = cs := by
  induction cs with
  | nil => rfl
  | cons c cs ih => rw [List.map_cons, joined_cons, ih]; rfl

end Cluster

/-! ## The cutting rules -/

/-- How much of a conjunct (consonants tied together by linkers) stands before a cut. -/
inductive Conjunct
  | absent
  /-- A consonant and marks, no linker among them. -/
  | begun
  /-- A consonant and marks, at least one of them a linker. -/
  | linked
  deriving DecidableEq

/-- What the next cut depends on: the class just before it, and three facts about the part of
    the cluster that has been read. -/
structure Lookback where
  last : BreakClass
  /-- The cluster ends in one half of a flag. -/
  halfFlag : Bool
  /-- The cluster ends in a pictograph with its marks, at most one joiner after them. -/
  pictograph : Bool
  conjunct : Conjunct
  deriving DecidableEq

/-- Control characters and line breaks stand alone. -/
def Unicode.BreakClass.standsAlone : BreakClass → Bool
  | .control | .carriageReturn | .lineFeed => true
  | _ => false

/-- Whether the second class continues a Hangul syllable that ends in the first. -/
def Unicode.BreakClass.continuesSyllable : BreakClass → BreakClass → Bool
  | .leadingJamo, .leadingJamo | .leadingJamo, .vowelJamo => true
  | .leadingJamo, .openSyllable | .leadingJamo, .closedSyllable => true
  | .openSyllable, .vowelJamo | .openSyllable, .trailingJamo => true
  | .vowelJamo, .vowelJamo | .vowelJamo, .trailingJamo => true
  | .closedSyllable, .trailingJamo | .trailingJamo, .trailingJamo => true
  | _, _ => false

namespace Lookback

/-- The state after the first character of a cluster. -/
def start (k : BreakClass) : Lookback where
  last := k
  halfFlag := k == .regional
  pictograph := k == .pictograph
  conjunct := if k = .consonant then .begun else .absent

/-- The state after one more character of the same cluster. -/
def next (b : Lookback) (k : BreakClass) : Lookback where
  last := k
  halfFlag := k == .regional && !b.halfFlag
  pictograph :=
    match k with
    | .pictograph => true
    | .mark | .linker | .nonJoiner | .joiner => b.pictograph && b.last != .joiner
    | _ => false
  conjunct :=
    match k with
    | .consonant => .begun
    | .mark | .joiner => b.conjunct
    | .linker => if b.conjunct = .absent then .absent else .linked
    | _ => .absent

/-- Whether a character of class `k` belongs to the cluster read so far.  A line feed joins its
    carriage return, and nothing else joins a character that stands alone; marks join whatever
    is before them, and whatever follows a prepended character joins it; consonants join a
    linked conjunct, pictographs join over a joiner, flags are pairs of halves, and the rest is
    Hangul. -/
def joins (b : Lookback) (k : BreakClass) : Bool :=
  if b.last.standsAlone || k.standsAlone then b.last == .carriageReturn && k == .lineFeed
  else
    match k with
    | .mark | .linker | .nonJoiner | .joiner | .spacingMark => true
    | .consonant => b.last == .prepended || b.conjunct == .linked
    | .pictograph => b.last == .prepended || (b.last == .joiner && b.pictograph)
    | .regional => b.last == .prepended || b.halfFlag
    | k => b.last == .prepended || b.last.continuesSyllable k

/-- Reads on inside a cluster: the rest of that cluster, and the clusters after it. -/
def cut (b : Lookback) : Text → Text × List Cluster
  | [] => ([], [])
  | c :: cs =>
    let k := BreakClass.of c
    if b.joins k then
      let (tail, rest) := (b.next k).cut cs
      (c :: tail, rest)
    else
      -- What came before no longer matters.
      let (tail, rest) := (start k).cut cs
      ([], ⟨c, tail⟩ :: rest)

theorem cut_joined (b : Lookback) (cs : Text) :
    (b.cut cs).1 ++ Cluster.joined (b.cut cs).2 = cs := by
  induction cs generalizing b with
  | nil => rfl
  | cons c cs ih =>
    rw [cut]
    split
    · simp [ih]
    · simp [ih]

end Lookback

/-- The extended grapheme clusters of a text. -/
def graphemes : Text → List Cluster
  | [] => []
  | c :: cs =>
    let (tail, rest) := (Lookback.start (.of c)).cut cs
    ⟨c, tail⟩ :: rest

theorem joined_graphemes (cs : Text) : Cluster.joined (graphemes cs) = cs := by
  cases cs with
  | nil => rfl
  | cons c cs => simp [graphemes, Lookback.cut_joined]

/-! ## Segmentations -/

/-- What a widget takes for one position. -/
inductive Segmentation
  /-- Each character is a position of its own. -/
  | scalars
  /-- Each user-perceived character is a position. -/
  | clusters
  deriving DecidableEq

def Segmentation.split : Segmentation → Text → List Cluster
  | .scalars, cs => cs.map Cluster.single
  | .clusters, cs => graphemes cs

@[simp] theorem Segmentation.joined_split (s : Segmentation) (cs : Text) :
    Cluster.joined (s.split cs) = cs := by
  cases s with
  | scalars => simp [split]
  | clusters => exact joined_graphemes cs

/-- Only the empty text has no positions. -/
theorem Segmentation.split_eq_nil_iff {s : Segmentation} {cs : Text} :
    s.split cs = [] ↔ cs = [] := by
  constructor
  · intro h
    rw [← s.joined_split cs, h, Cluster.joined_nil]
  · rintro rfl
    cases s <;> rfl

end ModalEdit
