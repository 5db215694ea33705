import ModalEdit.Proofs.Editor.Conserved

/-! # Yanking and deleting words

A yank of words looks for their ends in a text that stays as it is.  A deletion takes one word after
the other from a text that gets shorter, with the caret where it was.  Since what stands before the
caret has no say in where the next word begins, both take the same span of the text
(`word_span_law`).

They differ in what they keep of it.  A deletion leaves out the line break that its span ends in, and
a yank does not.
-/

namespace ModalEdit.Editor

variable {e : Editor} {front back : Text} {n q : Nat}

theorem wordsEnd_of_nextWords {cs : Text} {p : Nat} (words : cs.nextWords? n p = some q) :
    wordsEnd cs n p = q := by
  induction n generalizing p with
  | zero => exact Option.some.inj words
  | succ n ih =>
    obtain ⟨next, word, rest⟩ := Option.bind_eq_some_iff.mp words
    rw [wordsEnd, word]
    exact ih rest

/-! ## Word after word -/

/-- The caret of a rope stands between two parts of its text. -/
structure Between (e : Editor) (front back : Text) : Prop where
  rope : e.widget.segmentation = .scalars
  text : e.widget.text = front ++ back
  caret : e.caret = front.length

theorem Between.cutWord (between : e.Between front back) {next : Nat}
    (word : back.nextWord? 0 = some next) :
    e.cutWord.1 = some (back.take next) ∧ e.cutWord.2.Between front (back.drop next) ∧
      e.cutWord.2.widget.selection = ⟨front.length, front.length + 1⟩ := by
  obtain ⟨rope, text, caret⟩ := between
  obtain ⟨positive, last⟩ := Text.nextWord?_bounds word
  have lt : front.length < front.length + next := Nat.lt_add_of_pos_right positive
  have inside : front.length ≤ e.widget.text.length := by
    rw [text, List.length_append]
    exact Nat.le_add_right _ _
  have nonempty : e.widget.text ≠ [] := by
    rw [text]
    exact List.append_ne_nil_of_right_ne_nil _ (List.ne_nil_of_length_pos (by omega))
  have cut : e.cutWord = e.cutAt front.length (front.length + next) := by
    rw [← caret]
    apply cutWord_of_some
    rw [chars, Widget.chars_eq_text rope, text, caret]
    exact (Text.nextWord?_append front back 0).trans (by rw [word, Option.map_some])
  have some_left : back.drop next ≠ [] := by
    rw [ne_eq, List.drop_eq_nil_iff]
    omega
  have left : (e.cutAt front.length (front.length + next)).2.widget.text = front ++ back.drop next := by
    rw [text_cutAt rope lt, text, List.take_left, ← List.drop_drop, List.drop_left,
      remaining_of_ne_nil (List.append_ne_nil_of_right_ne_nil _ some_left)]
  obtain ⟨place, _, caret', _⟩ := Place.cutAt ⟨rope, nonempty, inside⟩ lt
  rw [cut]
  refine ⟨?_, ⟨place.rope, left, caret'⟩, ?_⟩
  · rw [fst_cutAt rope lt inside, text, List.drop_take, List.drop_left, Nat.add_sub_cancel_left]
  · show Selection.between _ _ (e.cutAt front.length (front.length + next)).2.widget.len = _
    rw [Widget.len_of_scalars place.rope, left, List.length_append, List.length_drop,
      Selection.between, Selection.mk.injEq]
    omega

/-- What so many deletions of a word do before the last part of a text. -/
structure CutsWords (e : Editor) (front back : Text) (n q : Nat) : Prop where
  rope : (gather cutWord n e).2.widget.segmentation = .scalars
  yield : (gather cutWord n e).1.getD [] = back.take q
  text : (gather cutWord n e).2.widget.text = front ++ back.drop q
  selection : 1 ≤ n →
    (gather cutWord n e).2.widget.selection = ⟨front.length, front.length + 1⟩

theorem Between.cutsWords (between : e.Between front back) (words : back.nextWords? n 0 = some q) :
    e.CutsWords front back n q := by
  induction n generalizing e back q with
  | zero =>
    cases words
    exact ⟨between.rope, rfl, between.text, fun none => absurd none (by decide)⟩
  | succ n ih =>
    obtain ⟨next, word, rest⟩ := Option.bind_eq_some_iff.mp words
    obtain ⟨yields, between', selection⟩ := between.cutWord word
    -- The words that follow are those of the text behind the first.
    have long : (back.take next).length = next :=
      List.length_take_of_le (Nat.le_of_lt (Text.nextWord?_bounds word).2)
    have behind := Text.nextWords?_append (back.take next) (back.drop next) n 0
    rw [List.take_append_drop, long, Nat.add_zero, rest] at behind
    obtain ⟨q', words', rfl⟩ := Option.map_eq_some_iff.mp behind.symm
    obtain ⟨rope, yield, text, selection'⟩ := ih between' words'
    have more := gather_succ_of_some yields n
    refine ⟨?_, ?_, ?_, fun _ => ?_⟩
    · rw [more]
      exact rope
    · rw [more, Option.getD_some, yield, List.take_add]
    · rw [more, text, List.drop_drop]
    · rw [more]
      cases n with
      | zero => exact selection
      | succ n => exact selection' (Nat.succ_pos n)

/-! ## The law -/

section Law

variable (rope : e.widget.segmentation = .scalars) (positive : 1 ≤ n)
  (words : e.widget.text.nextWords? n e.caret = some q)

include rope positive words

theorem slice_words_ne_nil : e.widget.slice e.caret q ≠ [] := by
  obtain ⟨ahead, inside⟩ := Text.nextWords?_bounds words positive
  rw [← Widget.len_of_scalars rope] at inside
  exact Widget.slice_ne_nil (by omega) (Nat.le_of_lt inside)

theorem copyWords_eq : e.copyWords n = e.write (e.widget.slice e.caret q) false := by
  have nonempty := slice_words_ne_nil rope positive words
  have ends : wordsEnd e.chars (max n 1) e.caret = q := by
    rw [Nat.max_eq_left positive, chars, Widget.chars_eq_text rope]
    exact wordsEnd_of_nextWords words
  rw [copyWords, ends]
  exact if_neg fun empty => nonempty (List.isEmpty_iff.mp empty)

/-- What so many deletions of a word do from the caret on. -/
theorem gather_cutWord :
    (gather Editor.cutWord n e).2.widget.segmentation = .scalars ∧
      (gather Editor.cutWord n e).1 = some (e.widget.slice e.caret q) ∧
      (gather Editor.cutWord n e).2.widget.text =
        e.widget.text.take e.caret ++ e.widget.text.drop q ∧
      (gather Editor.cutWord n e).2.widget.selection = ⟨e.caret, e.caret + 1⟩ := by
  have bounds := Text.nextWords?_bounds words positive
  have front : (e.widget.text.take e.caret).length = e.caret := List.length_take_of_le (by omega)
  have behind := Text.nextWords?_append (e.widget.text.take e.caret) (e.widget.text.drop e.caret) n 0
  rw [List.take_append_drop, front, Nat.add_zero, words] at behind
  obtain ⟨q', words', rfl⟩ := Option.map_eq_some_iff.mp behind.symm
  have between : e.Between (e.widget.text.take e.caret) (e.widget.text.drop e.caret) :=
    ⟨rope, (List.take_append_drop _ _).symm, front.symm⟩
  obtain ⟨rope', yield, text, selection⟩ := between.cutsWords words'
  have span : e.widget.slice e.caret (e.caret + q') = (e.widget.text.drop e.caret).take q' := by
    rw [Widget.slice_of_scalars rope, List.drop_take, Nat.add_sub_cancel_left]
  refine ⟨rope', ?_, ?_, front ▸ selection positive⟩
  · cases all : (gather Editor.cutWord n e).1 with
    | none =>
      rw [all, ← span] at yield
      exact absurd yield.symm (slice_words_ne_nil rope positive words)
    | some cs =>
      rw [all, ← span] at yield
      exact congrArg some yield
  · rw [text, List.drop_drop]

theorem yankLimit_words (bounded : n ≤ maxCount) : e.yankLimit n = n := by
  have bounds := Text.nextWords?_bounds words positive
  apply yankLimit_of_le_len positive bounded
  rw [len, Widget.len_of_scalars rope]
  omega

end Law

/-- A yank and a deletion of words take the same span, from the caret to where the last of the words
    ends. -/
theorem word_span_law (rope : e.widget.segmentation = .scalars) (positive : 1 ≤ n)
    (bounded : n ≤ maxCount) (words : e.widget.text.nextWords? n e.caret = some q) :
    let cs := e.widget.text
    let p := e.caret
    let span := e.widget.slice p q
    let copied := e.run .copyWord n
    let deleted := e.run .deleteWord n
    copied.widget = e.widget ∧ copied.register = ⟨e.register.clipboard.put span, false⟩ ∧
      deleted.widget.text = cs.take p ++ cs.drop q ∧ deleted.widget.selection = ⟨p, p + 1⟩ ∧
      (∃ c, e.charAt? q = some c ∧ deleted.charAt? p = some c) ∧
      deleted.register = ⟨e.register.clipboard.put (dropFinalBreak span), false⟩ := by
  intro cs p span copied deleted
  have bounds := Text.nextWords?_bounds words positive
  have limit := yankLimit_words rope positive words bounded
  obtain ⟨rope', yields, text, selection⟩ := gather_cutWord rope positive words
  have copies : copied = e.write span false := copyWords_eq rope positive words
  have widget : deleted.widget = (gather Editor.cutWord n e).2.widget :=
    (widget_collect e n false).trans (by rw [limit])
  have register : deleted.register = ⟨e.register.clipboard.put (dropFinalBreak span), false⟩ :=
    register_collect register_cutWord (by rw [limit, yields]) false
  -- The first character behind the span is where the caret was.
  have before : e.charAt? q = some (cs.get ⟨q, bounds.2⟩) :=
    (Widget.charAt?_of_scalars rope q).trans (List.getElem?_eq_getElem bounds.2)
  have after : deleted.charAt? p = e.charAt? q := by
    have front : (e.widget.text.take e.caret).length = e.caret := List.length_take_of_le (by omega)
    rw [charAt?, charAt?, widget, Widget.charAt?_of_scalars rope', Widget.charAt?_of_scalars rope,
      text, List.getElem?_append_right (Nat.le_of_eq front), front, Nat.sub_self,
      List.getElem?_drop, Nat.add_zero]
  rw [copies, widget]
  exact ⟨rfl, rfl, text, selection, ⟨_, before, after.trans before⟩, register⟩

/-- Two words end in a line break, which a yank of them keeps and a deletion leaves out. -/
theorem word_span_law_of_line_end :
    let e : Editor :=
      { modal := {},
        widget := (Widget.ofText .scalars ['a', '+', 'b', lineBreak, 'c']).select 1 2,
        register := {}, history := .ofLimit 1 }
    (e.run .copyWord 2).register.text? = some ['+', 'b', lineBreak] ∧
      (e.run .deleteWord 2).widget.text = ['a', 'c'] ∧
      (e.run .deleteWord 2).register.text? = some ['+', 'b'] := by
  intro e
  obtain ⟨_, copied, text, _, _, deleted⟩ :=
    @word_span_law e 2 4 rfl (by decide) (by decide) (by decide)
  refine ⟨?_, text, ?_⟩
  · rw [copied]
    decide
  · rw [deleted]
    decide

end ModalEdit.Editor
