/-! # Sets of code points

A property of characters is a list of inclusive ranges of code points in ascending order.
`covers` walks the list and stops at the first range that begins above the code point, so the
common small code points are answered at once.  `covers_iff` says that on an ascending list
nothing is lost by stopping early.
-/

namespace ModalEdit.Unicode

/-- Inclusive ranges of code points. -/
abbrev CodeRanges := List (Nat × Nat)

namespace CodeRanges

/-- Whether a code point lies in one of the ranges. -/
def covers : CodeRanges → Nat → Bool
  | [], _ => false
  | (lo, hi) :: rest, n =>
    if n < lo then false else if n ≤ hi then true else covers rest n

/-- Each range is non-empty and begins above the end of the one before it. -/
def Ascending : CodeRanges → Prop
  | [] => True
  | [(lo, hi)] => lo ≤ hi
  | (lo, hi) :: (lo', hi') :: rest => lo ≤ hi ∧ hi < lo' ∧ Ascending ((lo', hi') :: rest)

/-- Being in order is checked by going through the list once. -/
def decideAscending : (rs : CodeRanges) → Decidable rs.Ascending
  | [] => .isTrue trivial
  | [(lo, hi)] => inferInstanceAs (Decidable (lo ≤ hi))
  | (lo, hi) :: (lo', hi') :: rest =>
    have := decideAscending ((lo', hi') :: rest)
    inferInstanceAs (Decidable (lo ≤ hi ∧ hi < lo' ∧ Ascending ((lo', hi') :: rest)))

instance (rs : CodeRanges) : Decidable rs.Ascending := decideAscending rs

/-- Every range of an ascending list after the first begins above the end of the first. -/
theorem Ascending.lt_of_mem {lo hi : Nat} {rest : CodeRanges}
    (h : Ascending ((lo, hi) :: rest)) : ∀ r ∈ rest, hi < r.1 := by
  induction rest generalizing lo hi with
  | nil => simp
  | cons r rest ih =>
    obtain ⟨lo', hi'⟩ := r
    obtain ⟨_, hlt, hrest⟩ := h
    have hle : lo' ≤ hi' := by
      cases rest with
      | nil => exact hrest
      | cons r' rest => exact hrest.1
    intro r hr
    rcases List.mem_cons.mp hr with rfl | hr
    · exact hlt
    · have := ih hrest r hr
      omega

/-- The tail of an ascending list is ascending. -/
theorem Ascending.tail {r : Nat × Nat} {rest : CodeRanges} (h : Ascending (r :: rest)) :
    Ascending rest := by
  cases rest with
  | nil => trivial
  | cons r' rest => exact h.2.2

/-- On an ascending list, `covers` is membership in one of the ranges. -/
theorem covers_iff {rs : CodeRanges} (h : rs.Ascending) (n : Nat) :
    rs.covers n = true ↔ ∃ r ∈ rs, r.1 ≤ n ∧ n ≤ r.2 := by
  induction rs with
  | nil => simp [covers]
  | cons r rest ih =>
    obtain ⟨lo, hi⟩ := r
    have hle : lo ≤ hi := by
      cases rest with
      | nil => exact h
      | cons r' rest => exact h.1
    have habove := h.lt_of_mem
    simp only [covers, List.mem_cons, exists_eq_or_imp]
    split
    · next hlo =>
      simp only [Bool.false_eq_true, false_iff, not_or, not_exists, not_and]
      exact ⟨by omega, fun r hr => by have := habove r hr; omega⟩
    · next hlo =>
      split
      · next hhi => simp only [true_iff]; exact Or.inl ⟨by omega, hhi⟩
      · next hhi =>
        rw [ih h.tail]
        constructor
        · exact Or.inr
        · rintro (⟨_, h2⟩ | h2)
          · omega
          · exact h2

end CodeRanges

end ModalEdit.Unicode
