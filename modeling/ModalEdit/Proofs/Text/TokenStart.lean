import Mathlib.Order.Bounds.Basic
import ModalEdit.Proofs.Text.WordBounds
import ModalEdit.Widget

/-! # Where tokens begin

A token begins at a visible character that is of another class than the one before it, or that begins
the text.  The search for the next word does not look for that: it compares three scans, and what
they look for depends on the class of the character that it starts from.  What it finds is always the
closest place behind its start where a token begins (`next_word_law`).

What it passes over are at most two stretches, characters of the class that it started from and then
white space.  In neither of them does a token begin behind the start.
-/

namespace ModalEdit.Text

open Unicode (isWhiteSpace)

variable {cs : Text} {p q : Nat}

/-- The class of the character at a position, if there is one. -/
def classAt? (cs : Text) (q : Nat) : Option CharClass := cs[q]?.map CharClass.of

/-- A token begins at a position. -/
structure TokenStart (cs : Text) (q : Nat) : Prop where
  visible : ∃ c, cs[q]? = some c ∧ isWhiteSpace c = false
  changes : q = 0 ∨ cs.classAt? q ≠ cs.classAt? (q - 1)

/-- No token begins between two positions, and one begins at the second if that is in the text. -/
structure ClosestToken (cs : Text) (p b : Nat) : Prop where
  none_between : ∀ {q}, p < q → q < b → ¬cs.TokenStart q
  begins : b < cs.length → cs.TokenStart b

/-! ## Stretches of one class -/

section Stretch

variable {k : CharClass} {b : Nat} (stretch : ∀ {i}, p ≤ i → i < b → cs.classAt? i = some k)

include stretch

theorem not_tokenStart_of_stretch (behind : p < q) (before : q < b) : ¬cs.TokenStart q := by
  intro start
  have same : cs.classAt? q = cs.classAt? (q - 1) := by
    rw [stretch (Nat.le_of_lt behind) before, stretch (by omega) (by omega)]
  cases start.changes with
  | inl first => omega
  | inr other => exact other same

theorem tokenStart_of_stretch {c : Char} (behind : p < b) (here : cs[b]? = some c)
    (visible : isWhiteSpace c = false) (other : CharClass.of c ≠ k) : cs.TokenStart b := by
  refine ⟨⟨c, here, visible⟩, .inr ?_⟩
  rw [classAt?, here, stretch (by omega) (by omega), Option.map_some, ne_eq, Option.some_inj]
  exact other

end Stretch

/-! ## Over white space -/

theorem classAt?_eq_whitespace_iff :
    cs.classAt? q = some .whitespace ↔ ∃ c, cs[q]? = some c ∧ isWhiteSpace c = true := by
  simp only [classAt?, Option.map_eq_some_iff, CharClass.of_eq_whitespace_iff]

theorem classAt?_of_lt_seek_visible (inside : p ≤ cs.length) (hpq : p ≤ q)
    (hq : q < cs.seek p isVisible) : cs.classAt? q = some .whitespace := by
  have inText : q < cs.length := Nat.lt_of_lt_of_le hq (cs.seek_le_length p isVisible)
  have there : cs[q]? = some cs[q] := List.getElem?_eq_getElem inText
  have rejected := not_accepted_of_lt_seek inside hpq hq there
  exact classAt?_eq_whitespace_iff.mpr ⟨_, there, by simpa [isVisible] using rejected⟩

theorem closestToken_of_space {c : Char} (here : cs[p]? = some c) (space : isWhiteSpace c = true) :
    cs.ClosestToken p (cs.seek p isVisible) := by
  have inside : p ≤ cs.length := Nat.le_of_lt (List.getElem?_eq_some_iff.mp here).1
  refine ⟨not_tokenStart_of_stretch (classAt?_of_lt_seek_visible inside), fun found => ?_⟩
  obtain ⟨d, there, accepted⟩ := exists_getElem?_seek inside found
  have visible : isWhiteSpace d = false := by simpa [isVisible] using accepted
  have behind : p < cs.seek p isVisible := lt_seek here (by simp [isVisible, space])
  apply tokenStart_of_stretch (classAt?_of_lt_seek_visible inside) behind there visible
  rw [ne_eq, CharClass.of_eq_whitespace_iff, visible]
  exact Bool.false_ne_true

/-! ## Over a token -/

section Token

variable {k : CharClass} {c : Char} {changes : Char → Bool} (here : cs[p]? = some c)
  (visible : isWhiteSpace c = false) (kind : CharClass.of c = k)
  (exact_change : ∀ d, isWhiteSpace d = false → (changes d = true ↔ CharClass.of d ≠ k))

include here exact_change

/-- Up to white space and up to a change of class all characters are of the class of the token. -/
theorem classAt?_of_lt_token (hpq : p ≤ q) (noSpace : q < cs.seek p isWhiteSpace)
    (noChange : q < cs.seek p (fun d => changes d && isVisible d)) : cs.classAt? q = some k := by
  have inside : p ≤ cs.length := Nat.le_of_lt (List.getElem?_eq_some_iff.mp here).1
  have inText : q < cs.length := Nat.lt_of_lt_of_le noSpace (cs.seek_le_length p isWhiteSpace)
  have there : cs[q]? = some cs[q] := List.getElem?_eq_getElem inText
  have visible : isWhiteSpace cs[q] = false := not_accepted_of_lt_seek inside hpq noSpace there
  have unchanged := not_accepted_of_lt_seek inside hpq noChange there
  rw [isVisible, visible, Bool.not_false, Bool.and_true] at unchanged
  rw [classAt?, there, Option.map_some, Option.some_inj]
  apply Decidable.byContradiction
  intro other
  rw [(exact_change _ visible).mpr other] at unchanged
  cases unchanged

include visible kind

theorem closestToken_afterToken : cs.ClosestToken p (wordBoundary.afterToken cs p changes) := by
  have inside : p ≤ cs.length := Nat.le_of_lt (List.getElem?_eq_some_iff.mp here).1
  have own : changes c = false := by
    apply eq_false_of_ne_true
    rw [exact_change c visible]
    exact not_not_intro kind
  have space := lt_seek here visible
  have change : p < cs.seek p (fun d => changes d && isVisible d) :=
    lt_seek here (by rw [own, Bool.false_and])
  unfold wordBoundary.afterToken
  dsimp only
  split
  · next first =>
    -- Another token follows at once.
    have stretch : ∀ {i}, p ≤ i → i < cs.seek p (fun d => changes d && isVisible d) →
        cs.classAt? i = some k :=
      fun hpi hi => classAt?_of_lt_token here exact_change hpi (by omega) hi
    refine ⟨not_tokenStart_of_stretch stretch, fun found => ?_⟩
    obtain ⟨d, there, accepted⟩ := exists_getElem?_seek inside found
    obtain ⟨changed, shown⟩ := Bool.and_eq_true_iff.mp accepted
    have seen : isWhiteSpace d = false := by simpa [isVisible] using shown
    exact tokenStart_of_stretch stretch change there seen ((exact_change d seen).mp changed)
  · next first =>
    -- White space follows, or nothing.
    have stretch : ∀ {i}, p ≤ i → i < cs.seek p isWhiteSpace → cs.classAt? i = some k :=
      fun hpi hi => classAt?_of_lt_token here exact_change hpi hi (by omega)
    by_cases found : cs.seek p isWhiteSpace < cs.length
    · obtain ⟨d, there, white⟩ := exists_getElem?_seek inside found
      have behind := closestToken_of_space there white
      refine ⟨fun {q} hpq hq => ?_, behind.begins⟩
      rcases Nat.lt_trichotomy q (cs.seek p isWhiteSpace) with before | same | later
      · exact not_tokenStart_of_stretch stretch hpq before
      · rintro ⟨⟨d', there', seen⟩, _⟩
        rw [same, there, Option.some_inj] at there'
        rw [← there', white] at seen
        cases seen
      · exact behind.none_between later hq
    · have last : cs.seek p isWhiteSpace = cs.length :=
        Nat.le_antisymm (cs.seek_le_length p isWhiteSpace) (Nat.le_of_not_lt found)
      rw [last, seek_of_length_le (Nat.le_refl _)]
      exact ⟨not_tokenStart_of_stretch (last ▸ stretch), fun more => absurd more (Nat.lt_irrefl _)⟩

end Token

/-! ## The law -/

theorem closestToken_wordBoundary (cs : Text) (p : Nat) : cs.ClosestToken p (cs.wordBoundary p) := by
  cases here : cs[p]? with
  | none =>
    have past : cs.length ≤ p := List.getElem?_eq_none_iff.mp here
    rw [wordBoundary_of_none here]
    exact ⟨fun behind before => by omega, fun more => absurd more (Nat.lt_irrefl _)⟩
  | some c =>
    unfold wordBoundary
    rw [here, Option.map_some, Option.getD_some]
    cases kind : CharClass.of c with
    | whitespace => exact closestToken_of_space here (CharClass.of_eq_whitespace_iff.mp kind)
    | identifier =>
      have visible : isWhiteSpace c = false := by
        rw [← Bool.not_eq_true, ← CharClass.of_eq_whitespace_iff, kind]
        decide
      apply closestToken_afterToken here visible kind
      intro d _
      exact bne_iff_ne
    | symbol =>
      have visible : isWhiteSpace c = false := by
        rw [← Bool.not_eq_true, ← CharClass.of_eq_whitespace_iff, kind]
        decide
      apply closestToken_afterToken here visible kind
      intro d seen
      have some_class : CharClass.of d ≠ .whitespace := by
        rw [ne_eq, CharClass.of_eq_whitespace_iff, seen]
        exact Bool.false_ne_true
      cases other : CharClass.of d with
      | identifier => decide
      | symbol => decide
      | whitespace => exact absurd other some_class

theorem wordBoundary_le_length (cs : Text) (p : Nat) : cs.wordBoundary p ≤ cs.length := by
  have token : ∀ changes, wordBoundary.afterToken cs p changes ≤ cs.length := by
    intro changes
    unfold wordBoundary.afterToken
    dsimp only
    split
    · exact cs.seek_le_length p _
    · exact cs.seek_le_length _ _
  unfold wordBoundary
  split
  · exact cs.seek_le_length p _
  · exact token _
  · exact token _

theorem nextWord?_eq_some_iff :
    cs.nextWord? p = some q ↔ cs.wordBoundary p = q ∧ cs.wordBoundary p < cs.length := by
  simp only [nextWord?, Option.ite_none_right_eq_some, Option.some.injEq, and_comm]

theorem nextWord?_eq_none_iff : cs.nextWord? p = none ↔ cs.wordBoundary p = cs.length := by
  have fits := cs.wordBoundary_le_length p
  simp only [nextWord?, ite_eq_right_iff, reduceCtorEq, imp_false]
  omega

theorem isLeast_of_nextWord? (word : cs.nextWord? p = some q) :
    IsLeast {q | cs.TokenStart q ∧ p < q} q := by
  obtain ⟨closest, begins⟩ := cs.closestToken_wordBoundary p
  obtain ⟨rfl, found⟩ := nextWord?_eq_some_iff.mp word
  refine ⟨⟨begins found, (nextWord?_bounds word).1⟩, ?_⟩
  rintro r ⟨start, behind⟩
  exact Nat.le_of_not_lt fun before => closest behind before start

/-- The next word begins where the closest token behind the position does.  If there is no token
    behind it then there is no next word, and the search goes to the end of the text. -/
theorem next_word_law (w : Widget) (p : Nat) :
    (∀ q, w.chars.nextWord? p = some q ↔ IsLeast {q | w.chars.TokenStart q ∧ p < q} q) ∧
      (w.chars.nextWord? p = none ↔ ∀ q, w.chars.TokenStart q → q ≤ p) ∧
      (w.chars.nextWord? p = none ↔ w.chars.wordBoundary p = w.len) := by
  obtain ⟨closest, begins⟩ := w.chars.closestToken_wordBoundary p
  -- A token behind the position is a word to go to.
  have word_of_token : ∀ {q}, w.chars.TokenStart q → p < q → ∃ r, w.chars.nextWord? p = some r := by
    intro q start behind
    obtain ⟨c, here, _⟩ := start.visible
    have inside : q < w.chars.length := (List.getElem?_eq_some_iff.mp here).1
    have boundary : w.chars.wordBoundary p ≤ q :=
      Nat.le_of_not_lt fun before => closest behind before start
    exact ⟨_, nextWord?_eq_some_iff.mpr ⟨rfl, Nat.lt_of_le_of_lt boundary inside⟩⟩
  refine ⟨fun q => ⟨isLeast_of_nextWord?, fun least => ?_⟩,
    ⟨fun nothing q start => ?_, fun all => ?_⟩, ?_⟩
  · obtain ⟨r, word⟩ := word_of_token least.1.1 least.1.2
    rw [word, (isLeast_of_nextWord? word).unique least]
  · apply Nat.le_of_not_lt
    intro behind
    obtain ⟨r, word⟩ := word_of_token start behind
    cases nothing.symm.trans word
  · cases word : w.chars.nextWord? p with
    | none => rfl
    | some r =>
      have least := (isLeast_of_nextWord? word).1
      exact absurd least.2 (Nat.not_lt_of_le (all r least.1))
  · rw [← w.length_chars]
    exact nextWord?_eq_none_iff

end ModalEdit.Text
