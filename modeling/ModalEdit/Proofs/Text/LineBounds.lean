import ModalEdit.Text.Lines

/-! # The bounds of a line

What stands at the bounds of the line of a position, and what does not stand between them.  From
the position on, up to the end of its line, there is no line break, and a line that ends inside
the text ends at one.  Before the position, back to the beginning of its line, there is none
either, and a line that does not begin the text begins behind one.

Both searches count how many characters they pass over, so the lemmas go through
`List.findIdx`.
-/

namespace ModalEdit.Text

variable {cs : Text} {p q : Nat}

/-! ## Searching forward -/

theorem seek_of_length_le (le : cs.length ≤ p) (accept : Char → Bool) :
    cs.seek p accept = cs.length := by
  rw [seek, List.drop_eq_nil_of_le le]
  rfl

theorem seek_eq_add_findIdx (hp : p ≤ cs.length) (accept : Char → Bool) :
    cs.seek p accept = p + (cs.drop p).findIdx accept := by
  have inside : (cs.drop p).findIdx accept ≤ (cs.drop p).length := List.findIdx_le_length
  have left : (cs.drop p).dropWhile (fun c => !accept c) =
      (cs.drop p).drop ((cs.drop p).findIdx accept) := by
    simp [List.dropWhile_eq_drop_findIdx_not]
  rw [seek, left, List.length_drop]
  rw [List.length_drop] at inside ⊢
  omega

theorem le_seek (hp : p ≤ cs.length) (accept : Char → Bool) : p ≤ cs.seek p accept := by
  rw [seek_eq_add_findIdx hp]
  exact Nat.le_add_right _ _

theorem exists_getElem?_seek {accept : Char → Bool} (hp : p ≤ cs.length)
    (h : cs.seek p accept < cs.length) : ∃ c, cs[cs.seek p accept]? = some c ∧ accept c = true := by
  rw [seek_eq_add_findIdx hp] at h ⊢
  have inside : (cs.drop p).findIdx accept < (cs.drop p).length := by
    rw [List.length_drop]
    omega
  refine ⟨(cs.drop p)[(cs.drop p).findIdx accept], ?_, List.findIdx_getElem⟩
  rw [← List.getElem?_drop, List.getElem?_eq_getElem inside]

theorem not_accepted_of_lt_seek {accept : Char → Bool} {c : Char} (hp : p ≤ cs.length)
    (hpq : p ≤ q) (hq : q < cs.seek p accept) (hc : cs[q]? = some c) : accept c = false := by
  rw [seek_eq_add_findIdx hp] at hq
  have passed : q - p < (cs.drop p).findIdx accept := by omega
  have rejected := List.not_of_lt_findIdx passed
  rw [List.getElem_drop] at rejected
  obtain ⟨_, rfl⟩ := List.getElem?_eq_some_iff.mp hc
  simpa only [Nat.add_sub_cancel' hpq] using rejected

/-! ## The end of the line -/

theorem le_lineEnd (hp : p ≤ cs.length) : p ≤ cs.lineEnd p := le_seek hp isBreak

theorem lineEnd_le_length (cs : Text) (p : Nat) : cs.lineEnd p ≤ cs.length :=
  seek_le_length cs p isBreak

theorem lineStart_le_lineEnd (cs : Text) (p : Nat) : cs.lineStart p ≤ cs.lineEnd p := by
  by_cases hp : p ≤ cs.length
  · exact Nat.le_trans (cs.lineStart_le p) (le_lineEnd hp)
  · rw [lineEnd, seek_of_length_le (Nat.le_of_not_le hp)]
    exact cs.lineStart_le_length p

theorem getElem?_lineEnd (hp : p ≤ cs.length) (h : cs.lineEnd p < cs.length) :
    cs[cs.lineEnd p]? = some lineBreak := by
  obtain ⟨c, found, accepted⟩ := exists_getElem?_seek hp h
  rw [lineEnd, found, eq_of_beq accepted]

theorem getElem?_ne_lineBreak_of_lt_lineEnd (hp : p ≤ cs.length) (hpq : p ≤ q)
    (hq : q < cs.lineEnd p) : cs[q]? ≠ some lineBreak := by
  intro hbreak
  have rejected := not_accepted_of_lt_seek hp hpq hq hbreak
  exact absurd rejected (by decide)

/-! ## The beginning of the line -/

/-- If a line begins at the end of the text, then it is the line of the end. -/
theorem lineStart_length (last : cs.lineStart p = cs.length) :
    cs.lineStart cs.length = cs.length := by
  have past : cs.length ≤ p := last ▸ cs.lineStart_le p
  have same : cs.lineStart cs.length = cs.lineStart p := by
    rw [lineStart, lineStart, List.take_of_length_le past, List.take_length]
  rw [same, last]

theorem lineStart_congr {ds : Text} (same : cs.take p = ds.take p) :
    cs.lineStart p = ds.lineStart p := by
  rw [lineStart, lineStart, same]

theorem lineStart_eq_sub_findIdx (cs : Text) (p : Nat) :
    cs.lineStart p = (cs.take p).length - (cs.take p).reverse.findIdx isBreak := by
  have inside : (cs.take p).reverse.findIdx isBreak ≤ (cs.take p).reverse.length :=
    List.findIdx_le_length
  have passed : (cs.take p).reverse.takeWhile (fun c => !isBreak c) =
      (cs.take p).reverse.take ((cs.take p).reverse.findIdx isBreak) := by
    simp [List.takeWhile_eq_take_findIdx_not]
  rw [lineStart, passed, List.length_take_of_le inside]

/-- What is passed first when looking back from a position stands just before it. -/
theorem getElem?_reverse_take {i : Nat} (h : i < (cs.take p).length) :
    (cs.take p).reverse[i]? = cs[(cs.take p).length - 1 - i]? := by
  have before : (cs.take p).length - 1 - i < p := by
    have := List.length_take_le p cs
    omega
  rw [List.getElem?_reverse h, List.getElem?_take_of_lt before]

theorem getElem?_before_lineStart (h : 0 < cs.lineStart p) :
    cs[cs.lineStart p - 1]? = some lineBreak := by
  rw [lineStart_eq_sub_findIdx] at h ⊢
  have inside : (cs.take p).reverse.findIdx isBreak < (cs.take p).reverse.length := by
    rw [List.length_reverse]
    omega
  have found := List.findIdx_getElem (w := inside)
  have there := getElem?_reverse_take (by rwa [List.length_reverse] at inside)
  rw [List.getElem?_eq_getElem inside, eq_of_beq found] at there
  rw [there, Nat.sub_right_comm]

theorem getElem?_ne_lineBreak_of_lineStart_le (hq : cs.lineStart p ≤ q) (hqp : q < p) :
    cs[q]? ≠ some lineBreak := by
  intro hbreak
  have inText : q < cs.length := (List.getElem?_eq_some_iff.mp hbreak).1
  have inBeginning : q < (cs.take p).length := by
    rw [List.length_take]
    omega
  rw [lineStart_eq_sub_findIdx] at hq
  -- Counted backwards the position comes before the closest line break.
  have passed : (cs.take p).length - 1 - q < (cs.take p).reverse.findIdx isBreak := by omega
  have rejected := List.not_of_lt_findIdx passed
  have there : (cs.take p).reverse[(cs.take p).length - 1 - q]? =
      cs[(cs.take p).length - 1 - ((cs.take p).length - 1 - q)]? :=
    getElem?_reverse_take (by omega)
  rw [show (cs.take p).length - 1 - ((cs.take p).length - 1 - q) = q by omega, hbreak] at there
  obtain ⟨_, same⟩ := List.getElem?_eq_some_iff.mp there
  rw [same] at rejected
  exact absurd rejected (by decide)

/-- Looking back from a position goes on from the one before it, unless there is the line break. -/
theorem lineStart_succ (inside : p < cs.length) :
    cs.lineStart (p + 1) = if isBreak cs[p] then p + 1 else cs.lineStart p := by
  have passed := List.takeWhile_prefix (fun c => !isBreak c) (l := (cs.take p).reverse)
  have fits : ((cs.take p).reverse.takeWhile (fun c => !isBreak c)).length ≤ p := by
    have := passed.length_le
    simp only [List.length_reverse, List.length_take] at this
    omega
  rw [lineStart, lineStart, List.take_succ_eq_append_getElem inside, List.reverse_append,
    List.reverse_singleton, List.singleton_append, List.takeWhile_cons, List.length_append,
    List.length_take_of_le (Nat.le_of_lt inside)]
  cases isBreak cs[p] with
  | true => rfl
  | false => simp

/-- A line begins behind each line break. -/
theorem lineStart_succ_of_getElem? (atBreak : cs[p]? = some lineBreak) :
    cs.lineStart (p + 1) = p + 1 := by
  obtain ⟨inside, same⟩ := List.getElem?_eq_some_iff.mp atBreak
  rw [lineStart_succ inside, same]
  rfl

theorem lineStart_lineStart (cs : Text) (p : Nat) :
    cs.lineStart (cs.lineStart p) = cs.lineStart p := by
  cases start : cs.lineStart p with
  | zero => exact Nat.le_zero.mp (cs.lineStart_le 0)
  | succ q =>
    have behind : cs[cs.lineStart p - 1]? = some lineBreak := getElem?_before_lineStart (by omega)
    rw [start] at behind
    exact lineStart_succ_of_getElem? behind

theorem lineStart_nextLineStart? (next : cs.nextLineStart? p = some q) : cs.lineStart q = q := by
  simp only [nextLineStart?, Option.ite_none_right_eq_some, Option.some.injEq] at next
  obtain ⟨inside, rfl⟩ := next
  apply lineStart_succ_of_getElem?
  apply getElem?_lineEnd _ inside
  apply Decidable.byContradiction
  intro past
  rw [lineEnd, seek_of_length_le (by omega)] at inside
  exact absurd inside (Nat.lt_irrefl _)

theorem lineStart_prevLineStart? (previous : cs.prevLineStart? p = some q) : cs.lineStart q = q := by
  obtain ⟨last, -, rfl⟩ := Option.map_eq_some_iff.mp previous
  exact cs.lineStart_lineStart last

theorem nextLineStart?_bounds (next : cs.nextLineStart? p = some q) : 0 < q ∧ q ≤ cs.length := by
  simp only [nextLineStart?, Option.ite_none_right_eq_some, Option.some.injEq] at next
  obtain ⟨inside, rfl⟩ := next
  exact ⟨Nat.succ_pos _, inside⟩

/-- The next line begins behind the position. -/
theorem lt_of_nextLineStart? (next : cs.nextLineStart? p = some q) : p < q := by
  simp only [nextLineStart?, Option.ite_none_right_eq_some, Option.some.injEq] at next
  obtain ⟨inside, rfl⟩ := next
  by_cases hp : p ≤ cs.length
  · exact Nat.lt_succ_of_le (le_lineEnd hp)
  · rw [lineEnd, seek_of_length_le (Nat.le_of_not_le hp)] at inside
    exact absurd inside (Nat.lt_irrefl _)

theorem prevLineEnd?_lt_length (previous : cs.prevLineEnd? p = some q) : q < cs.length := by
  have inside := cs.lineStart_le_length p
  unfold prevLineEnd? at previous
  split at previous
  · cases previous
  · next s start =>
    cases previous
    omega

/-- The line above begins before the line break that ends it, and that one is in the text. -/
theorem prevLine_bounds {first last : Nat} (start : cs.prevLineStart? p = some first)
    (stop : cs.prevLineEnd? p = some last) : first ≤ last ∧ last < cs.length := by
  rw [prevLineStart?, stop, Option.map_some, Option.some_inj] at start
  exact ⟨start ▸ cs.lineStart_le last, prevLineEnd?_lt_length stop⟩

theorem add_lineLength_le (first : cs.lineStart p = p) (inside : p ≤ cs.length) :
    p + cs.lineLength p ≤ cs.length := by
  have stop := cs.lineEnd_le_length p
  rw [lineLength, first]
  omega

/-! ## On the line -/

/-- No line break stands between the bounds of a line. -/
theorem getElem?_ne_lineBreak_on_line (hp : p ≤ cs.length) (hs : cs.lineStart p ≤ q)
    (he : q < cs.lineEnd p) : cs[q]? ≠ some lineBreak := by
  by_cases before : q < p
  · exact getElem?_ne_lineBreak_of_lineStart_le hs before
  · exact getElem?_ne_lineBreak_of_lt_lineEnd hp (Nat.le_of_not_lt before) he

/-- On a line only its end is at a line break, or behind the last character. -/
theorem stops_iff_eq_lineEnd (hp : p ≤ cs.length) (hs : cs.lineStart p ≤ q)
    (he : q ≤ cs.lineEnd p) :
    (cs[q]? = some lineBreak ∨ cs.length < q + 1) ↔ q = cs.lineEnd p := by
  have inText := lineEnd_le_length cs p
  constructor
  · rintro (hbreak | last)
    · apply Decidable.byContradiction
      intro ne
      exact getElem?_ne_lineBreak_on_line hp hs (by omega) hbreak
    · omega
  · rintro rfl
    by_cases inside : cs.lineEnd p < cs.length
    · exact .inl (getElem?_lineEnd hp inside)
    · exact .inr (by omega)

/-- On a line only its beginning is behind a line break, unless it begins the text. -/
theorem before?_eq_lineBreak_iff (hp : p ≤ cs.length) (hs : cs.lineStart p ≤ q)
    (he : q ≤ cs.lineEnd p) :
    cs.before? q = some lineBreak ↔ q = cs.lineStart p ∧ 0 < q := by
  cases q with
  | zero => simp [before?]
  | succ q =>
    rw [before?]
    constructor
    · intro hbreak
      refine ⟨?_, Nat.succ_pos q⟩
      apply Decidable.byContradiction
      intro ne
      exact getElem?_ne_lineBreak_on_line hp (by omega) (by omega) hbreak
    · rintro ⟨first, _⟩
      have behind : cs[cs.lineStart p - 1]? = some lineBreak :=
        getElem?_before_lineStart (by omega)
      rwa [← first] at behind

end ModalEdit.Text
