import ModalEdit.Proofs.Text.LineBounds
import ModalEdit.Text.Words

/-! # Where the next word begins

The next word begins behind the position that it is asked for, and inside the text.  Where it begins
depends on nothing that stands before that position (`nextWord?_append`).
-/

namespace ModalEdit.Text

variable {cs : Text} {p q : Nat}

/-- A search goes past a character that is not accepted. -/
theorem lt_seek {c : Char} {accept : Char → Bool} (here : cs[p]? = some c)
    (rejected : accept c = false) : p < cs.seek p accept := by
  have inside : p < cs.length := (List.getElem?_eq_some_iff.mp here).1
  have behind := le_seek (Nat.le_of_lt inside) accept
  by_cases found : cs.seek p accept < cs.length
  · obtain ⟨d, there, accepted⟩ := exists_getElem?_seek (Nat.le_of_lt inside) found
    have ne : cs.seek p accept ≠ p := by
      intro same
      rw [same, here, Option.some.injEq] at there
      rw [there, accepted] at rejected
      cases rejected
    omega
  · omega

theorem lt_afterToken {c : Char} {changes : Char → Bool} (here : cs[p]? = some c)
    (visible : Unicode.isWhiteSpace c = false) (rejected : changes c = false) :
    p < wordBoundary.afterToken cs p changes := by
  have inside : p < cs.length := (List.getElem?_eq_some_iff.mp here).1
  have space := lt_seek here visible
  have change : p < cs.seek p (fun c => changes c && isVisible c) := by
    apply lt_seek here
    rw [rejected, Bool.false_and]
  have next := le_seek (cs.seek_le_length p Unicode.isWhiteSpace) isVisible
  -- The word that follows begins at a change of class or behind white space, and both are ahead.
  unfold wordBoundary.afterToken
  dsimp only
  split
  · exact change
  · omega

theorem lt_wordBoundary {c : Char} (here : cs[p]? = some c) : p < cs.wordBoundary p := by
  unfold wordBoundary
  rw [here, Option.map_some, Option.getD_some]
  have visible : CharClass.of c ≠ .whitespace → Unicode.isWhiteSpace c = false := by
    intro other
    rw [ne_eq, CharClass.of_eq_whitespace_iff] at other
    exact eq_false_of_ne_true other
  cases kind : CharClass.of c with
  | whitespace =>
    have space := CharClass.of_eq_whitespace_iff.mp kind
    exact lt_seek here (by rw [isVisible, space]; rfl)
  | identifier => exact lt_afterToken here (visible (by rw [kind]; decide)) (by rw [kind]; rfl)
  | symbol => exact lt_afterToken here (visible (by rw [kind]; decide)) (by rw [kind]; rfl)

theorem wordBoundary_of_none (past : cs[p]? = none) : cs.wordBoundary p = cs.length := by
  have behind : cs.length ≤ p := List.getElem?_eq_none_iff.mp past
  unfold wordBoundary
  rw [past]
  show cs.seek p isVisible = cs.length
  rw [seek, List.drop_eq_nil_of_le behind]
  rfl

theorem nextWord?_bounds (word : cs.nextWord? p = some q) : p < q ∧ q < cs.length := by
  unfold nextWord? at word
  split at word
  · next inside =>
    cases word
    cases here : cs[p]? with
    | some c => exact ⟨lt_wordBoundary here, inside⟩
    | none =>
      rw [wordBoundary_of_none here] at inside
      exact absurd inside (Nat.lt_irrefl _)
  · cases word

/-! ## What stands before does not matter -/

section Append

variable (front back : Text) (j : Nat)

theorem seek_append (accept : Char → Bool) :
    seek (front ++ back) (front.length + j) accept = front.length + back.seek j accept := by
  have rest : (front ++ back).drop (front.length + j) = back.drop j := by
    rw [← List.drop_drop, List.drop_left]
  have fits := ((back.drop j).dropWhile_suffix fun c => !accept c).length_le
  rw [List.length_drop] at fits
  rw [seek, seek, rest, List.length_append]
  omega

theorem afterToken_append (changes : Char → Bool) :
    wordBoundary.afterToken (front ++ back) (front.length + j) changes =
      front.length + wordBoundary.afterToken back j changes := by
  unfold wordBoundary.afterToken
  simp only [seek_append, Nat.add_sub_add_left]
  split
  · rfl
  · rfl

theorem wordBoundary_append :
    wordBoundary (front ++ back) (front.length + j) = front.length + back.wordBoundary j := by
  have here : (front ++ back)[front.length + j]? = back[j]? := by
    rw [List.getElem?_append_right (Nat.le_add_right _ _), Nat.add_sub_cancel_left]
  unfold wordBoundary
  rw [here]
  split
  · exact seek_append front back j _
  · exact afterToken_append front back j _
  · exact afterToken_append front back j _

theorem nextWord?_append :
    nextWord? (front ++ back) (front.length + j) = (back.nextWord? j).map (front.length + ·) := by
  unfold nextWord?
  rw [wordBoundary_append, List.length_append]
  simp only [Nat.add_lt_add_iff_left]
  split
  · rfl
  · rfl

end Append

/-! ## Word after word -/

/-- Where so many words begin after a position, one behind the other, if there are so many. -/
def nextWords? (cs : Text) : Nat → Nat → Option Nat
  | 0, p => some p
  | n + 1, p => (cs.nextWord? p).bind (cs.nextWords? n)

theorem nextWords?_append (front back : Text) (n j : Nat) :
    nextWords? (front ++ back) n (front.length + j) =
      (back.nextWords? n j).map (front.length + ·) := by
  induction n generalizing j with
  | zero => rfl
  | succ n ih =>
    rw [nextWords?, nextWords?, nextWord?_append]
    cases back.nextWord? j with
    | none => rfl
    | some next => exact ih next

/-- Each word takes at least one position. -/
theorem nextWords?_bounds {n : Nat} (words : cs.nextWords? n p = some q) (positive : 1 ≤ n) :
    p + n ≤ q ∧ q < cs.length := by
  induction n generalizing p with
  | zero => cases positive
  | succ n ih =>
    obtain ⟨next, word, rest⟩ := Option.bind_eq_some_iff.mp words
    have bounds := nextWord?_bounds word
    cases n with
    | zero =>
      cases rest
      omega
    | succ n =>
      have later := ih rest (Nat.succ_pos n)
      omega

end ModalEdit.Text
