import ModalEdit.Proofs.Editor.Deletion
import ModalEdit.Proofs.Editor.Filling
import ModalEdit.Proofs.Editor.Yanking

/-! # What a deletion with a count takes out

The runs of a deletion with a count all cut at one place, so what they take out is one piece of the
text, and they put it into the register as one text (`conservation_law`).

A text is never left empty, though.  A run that finds only the space that stands for nothing takes
it for text, and adds it to what has been taken.  So where a deletion of lines or of selections is
asked for more runs than it takes to delete the whole text, spaces follow the text in the register
that were never in it (`not_conserved_past_the_end`).  A deletion of words leaves the last word
alone, and never comes to that.
-/

namespace ModalEdit.Editor

variable {e : Editor} {a b : Nat}

/-- What a deletion leaves between and around two places: a text, or a space for none. -/
def remaining (front back : Text) : Text :=
  if (front ++ back).isEmpty then [' '] else front ++ back

theorem remaining_of_ne_nil {front back : Text} (some_left : front ++ back ≠ []) :
    remaining front back = front ++ back :=
  if_neg fun empty => some_left (List.isEmpty_iff.mp empty)

theorem remaining_ne_nil (front back : Text) : remaining front back ≠ [] := by
  unfold remaining
  split
  · exact List.cons_ne_nil _ _
  · next some_left => exact fun empty => some_left (List.isEmpty_iff.mpr empty)

/-! ## One run -/

/-- A rope that shows some text, and a place in it. -/
structure Place (a : Nat) (e : Editor) : Prop where
  rope : e.widget.segmentation = .scalars
  nonempty : e.widget.text ≠ []
  inside : a ≤ e.widget.text.length

/-- What lies between two places, taken out of a text. -/
theorem take_append_drop_take (cs : Text) (le : a ≤ b) :
    cs.take a ++ (cs.take b).drop a ++ cs.drop b = cs := by
  have front : (cs.take b).take a = cs.take a := by rw [List.take_take, Nat.min_eq_left le]
  rw [← front, List.take_append_drop, List.take_append_drop]

theorem fst_cutAt (rope : e.widget.segmentation = .scalars) (lt : a < b)
    (inside : a ≤ e.widget.text.length) :
    (e.cutAt a b).1 = some ((e.widget.text.take b).drop a) := by
  have le : a ≤ b := Nat.le_of_lt lt
  simp only [cutAt, cut, Widget.cut, if_neg (Nat.ne_of_lt lt), Widget.slice_of_scalars rope,
    Widget.len_of_scalars rope, Nat.min_eq_left le, Nat.max_eq_right le, Nat.min_eq_left inside,
    ← List.take_eq_take_min]

theorem text_cutAt (rope : e.widget.segmentation = .scalars) (lt : a < b) :
    (e.cutAt a b).2.widget.text = remaining (e.widget.text.take a) (e.widget.text.drop b) :=
  Widget.text_cut_of_scalars rope lt

/-- A deletion leaves what stands before its place. -/
theorem take_remaining (front back : Text) : (remaining front back).take front.length = front := by
  unfold remaining
  split
  · next empty =>
    obtain ⟨rfl, _⟩ := List.append_eq_nil_iff.mp (List.isEmpty_iff.mp empty)
    rfl
  · exact List.take_left

theorem Place.cutAt (place : e.Place a) (lt : a < b) :
    let d := (e.cutAt a b).2
    d.Place a ∧ d.widget.text.take a = e.widget.text.take a ∧ d.caret = a ∧
      a ≤ d.widget.selection.stop := by
  intro d
  have rope : d.widget.segmentation = .scalars := (e.segmentation_cutAt a b).trans place.rope
  have text : d.widget.text = _ := text_cutAt place.rope lt
  have kept : d.widget.text.take a = e.widget.text.take a := by
    have front := take_remaining (e.widget.text.take a) (e.widget.text.drop b)
    rwa [List.length_take_of_le place.inside, ← text] at front
  have inside : a ≤ d.widget.text.length := by
    have length := congrArg List.length kept
    rw [List.length_take_of_le place.inside, List.length_take] at length
    omega
  have selection : d.widget.selection = .between a (a + 1) d.widget.text.length := by
    rw [← Widget.len_of_scalars rope]
    rfl
  refine ⟨⟨rope, text ▸ remaining_ne_nil _ _, inside⟩, kept, ?_, ?_⟩
  · simp only [caret, Widget.caret, selection, Selection.between]
    omega
  · simp only [selection, Selection.between]
    omega

/-! ## Run after run -/

/-- A step that cuts at one place, or yields nothing.  It may cut to the end of a text only if it
    `empties` texts. -/
structure CutsAt (a : Nat) (empties : Prop) (step : Editor → Option Text × Editor)
    (I : Editor → Prop) : Prop where
  place : ∀ {e}, I e → e.Place a
  cuts : ∀ {e}, I e → (step e).1 = none ∧ (step e).2.widget.text = e.widget.text ∨
    ∃ b, a < b ∧ step e = e.cutAt a b ∧ I (e.cutAt a b).2 ∧ (e.widget.text.length ≤ b → empties)

section Runs

variable {step : Editor → Option Text × Editor} {empties : Prop} {runs extra n : Nat}
  {front taken back piece behind : Text}

/-- So many runs have taken out the whole text, and nothing else. -/
def Emptied (step : Editor → Option Text × Editor) (n : Nat) (e : Editor) : Prop :=
  (gather step n e).1 = some e.widget.text ∧ (gather step n e).2.widget.text = [' ']

theorem Emptied.succ (later : Emptied step n (step e).2) (yields : (step e).1 = some piece)
    (split : e.widget.text = piece ++ (step e).2.widget.text) : Emptied step (n + 1) e := by
  rw [Emptied, gather_succ_of_some yields, later.1, split]
  exact ⟨rfl, later.2⟩

theorem emptied_one (yields : (step e).1 = some e.widget.text)
    (blank : (step e).2.widget.text = [' ']) : Emptied step 1 e := by
  rw [Emptied, gather_succ_of_some yields]
  exact ⟨congrArg some (List.append_nil _), blank⟩

/-- A number of runs takes a piece out of the text, from between `front` and `back`.  Then `extra`
    of them find nothing but the space that stands for an empty text. -/
structure Extracts (step : Editor → Option Text × Editor) (empties : Prop) (runs : Nat) (e : Editor)
    (front taken back : Text) (extra : Nat) : Prop where
  before : e.widget.text = front ++ taken ++ back
  after : (gather step runs e).2.widget.text = remaining front back
  yield : (gather step runs e).1 = none ∧ taken = [] ∧ extra = 0 ∨
    (gather step runs e).1 = some (taken ++ List.replicate extra ' ') ∧ extra < runs
  spaces : 0 < extra → front ++ back = [] ∧ empties ∧ ∃ n, n + extra ≤ runs ∧ Emptied step n e

namespace Extracts

/-- Runs that yield nothing leave the text as it was. -/
theorem of_none (nonempty : e.widget.text ≠ []) (a : Nat)
    (nothing : (gather step runs e).1 = none)
    (same : (gather step runs e).2.widget.text = e.widget.text) :
    Extracts step empties runs e (e.widget.text.take a) [] (e.widget.text.drop a) 0 where
  before := by rw [List.append_nil, List.take_append_drop]
  after := by rw [same, remaining_of_ne_nil (by rwa [List.take_append_drop]), List.take_append_drop]
  yield := .inl ⟨nothing, rfl, rfl⟩
  spaces more := absurd more (Nat.lt_irrefl 0)

/-- A run comes before the others, and leaves some text. -/
theorem after_piece (later : Extracts step empties runs (step e).2 front taken back extra)
    (yields : (step e).1 = some piece) (before : e.widget.text = front ++ piece ++ behind)
    (rest : (step e).2.widget.text = front ++ behind) :
    Extracts step empties (runs + 1) e front (piece ++ taken) back extra where
  before := by
    have split := later.before
    rw [rest, List.append_assoc, List.append_cancel_left_eq] at split
    rw [before, split]
    simp only [List.append_assoc]
  after := by
    rw [gather_succ_of_some yields]
    exact later.after
  yield := by
    right
    rw [gather_succ_of_some yields]
    cases later.yield with
    | inl nothing =>
      obtain ⟨nothing, rfl, rfl⟩ := nothing
      rw [nothing]
      simp
    | inr yields =>
      obtain ⟨yields, bounded⟩ := yields
      rw [yields, Option.getD_some, List.append_assoc]
      exact ⟨rfl, Nat.lt_succ_of_lt bounded⟩
  spaces more := by
    obtain ⟨empty, allowed, n, bounded, emptied⟩ := later.spaces more
    obtain ⟨rfl, rfl⟩ := List.append_eq_nil_iff.mp empty
    exact ⟨rfl, allowed, n + 1, by omega, emptied.succ yields (before.trans (by rw [rest]; rfl))⟩

/-- Of the space that stands for an empty text nothing is taken, or all. -/
theorem blank_split (split : [' '] = taken ++ back) :
    taken = List.replicate taken.length ' ' ∧ taken.length ≤ 1 ∧ remaining [] back = [' '] := by
  cases taken with
  | nil =>
    rw [List.nil_append] at split
    subst split
    exact ⟨rfl, Nat.zero_le 1, rfl⟩
  | cons c taken =>
    obtain ⟨rfl, ends⟩ := List.cons.inj split
    obtain ⟨rfl, rfl⟩ := List.append_eq_nil_iff.mp ends.symm
    exact ⟨rfl, Nat.le_refl 1, rfl⟩

/-- A run comes before the others, and leaves nothing.  What they take is the space that stands for
    it, or what comes to its place. -/
theorem after_all (later : Extracts step empties runs (step e).2 [] taken back extra)
    (yields : (step e).1 = some e.widget.text) (blank : (step e).2.widget.text = [' '])
    (allowed : empties) :
    Extracts step empties (runs + 1) e [] e.widget.text [] (taken.length + extra) := by
  have split : [' '] = taken ++ back := blank.symm.trans later.before
  obtain ⟨blanks, short, stays⟩ := blank_split split
  have yield : (gather step (runs + 1) e).1 =
      some (e.widget.text ++ List.replicate (taken.length + extra) ' ') ∧
      taken.length + extra < runs + 1 := by
    rw [gather_succ_of_some yields]
    cases later.yield with
    | inl nothing =>
      obtain ⟨nothing, rfl, rfl⟩ := nothing
      rw [nothing]
      exact ⟨rfl, Nat.succ_pos runs⟩
    | inr yields =>
      obtain ⟨yields, bounded⟩ := yields
      rw [yields, Option.getD_some, List.replicate_add, ← blanks]
      exact ⟨rfl, by omega⟩
  refine ⟨(List.append_nil _).symm, ?_, .inr yield, fun _ => ⟨rfl, allowed, 1, ?_, ?_⟩⟩
  · rw [gather_succ_of_some yields]
    exact later.after.trans stays
  · omega
  · exact emptied_one yields blank

end Extracts

end Runs

theorem CutsAt.extracts {empties : Prop} {step : Editor → Option Text × Editor} {I : Editor → Prop}
    (c : CutsAt a empties step I) (runs : Nat) (h : I e) :
    ∃ taken back extra, Extracts step empties runs e (e.widget.text.take a) taken back extra := by
  induction runs generalizing e with
  | zero => exact ⟨_, _, _, .of_none (c.place h).nonempty a rfl rfl⟩
  | succ runs ih =>
    have place := c.place h
    cases c.cuts h with
    | inl nothing =>
      have ends := gather_succ_of_none (n := runs) nothing.1
      exact ⟨_, _, _, .of_none place.nonempty a (ends ▸ rfl) (ends ▸ nothing.2)⟩
    | inr cut =>
      obtain ⟨b, lt, same, keeps, reaches⟩ := cut
      have yields : (step e).1 = some ((e.widget.text.take b).drop a) := by
        rw [same]
        exact fst_cutAt place.rope lt place.inside
      have rest : (step e).2.widget.text =
          remaining (e.widget.text.take a) (e.widget.text.drop b) := by
        rw [same]
        exact text_cutAt place.rope lt
      have kept : (step e).2.widget.text.take a = e.widget.text.take a := by
        rw [same]
        exact (place.cutAt lt).2.1
      have parts := take_append_drop_take e.widget.text (Nat.le_of_lt lt)
      obtain ⟨taken, back, extra, later⟩ := ih (same ▸ keeps : I (step e).2)
      rw [kept] at later
      by_cases empty : e.widget.text.take a ++ e.widget.text.drop b = []
      · -- The whole text is gone, and a space stands for it.
        obtain ⟨front, behind⟩ := List.append_eq_nil_iff.mp empty
        rw [front, behind] at rest parts
        rw [List.nil_append, List.append_nil] at parts
        rw [parts] at yields
        rw [front] at later ⊢
        exact ⟨_, _, _, later.after_all yields rest (reaches (List.drop_eq_nil_iff.mp behind))⟩
      · rw [remaining_of_ne_nil empty] at rest
        exact ⟨_, _, _, later.after_piece yields parts.symm rest⟩

/-! ## The three deletions -/

theorem cutLine_of_scalars (rope : e.widget.segmentation = .scalars) :
    e.cutLine =
      e.cutAt (e.widget.text.lineStart e.caret) (e.widget.text.lineEnd e.caret + 1) := by
  rw [cutLine_eq, chars, Widget.chars_eq_text rope]

theorem cutSelection_cutsAt (a : Nat) {empties : Prop} (allowed : empties) :
    CutsAt a empties cutSelection fun e =>
      e.Place a ∧ e.widget.selection.start = a ∧ a ≤ e.widget.selection.stop where
  place h := h.1
  cuts {e} h := by
    obtain ⟨place, start, ordered⟩ := h
    rw [cutSelection_eq, start]
    by_cases nothing : a = e.widget.selection.stop
    · rw [← nothing, cutAt_self]
      exact .inl ⟨rfl, rfl⟩
    · have lt := Nat.lt_of_le_of_ne ordered nothing
      obtain ⟨place', _, caret, stop⟩ := place.cutAt lt
      exact .inr ⟨_, lt, rfl, ⟨place', caret, stop⟩, fun _ => allowed⟩

theorem cutLine_cutsAt (a : Nat) {empties : Prop} (allowed : empties) :
    CutsAt a empties cutLine fun e => e.Place a ∧ e.widget.text.lineStart e.caret = a where
  place h := h.1
  cuts {e} h := by
    obtain ⟨place, rfl⟩ := h
    have lt : e.widget.text.lineStart e.caret < e.widget.text.lineEnd e.caret + 1 :=
      Nat.lt_succ_of_le (Text.lineStart_le_lineEnd _ _)
    obtain ⟨place', kept, caret, _⟩ := place.cutAt lt
    refine .inr ⟨_, lt, cutLine_of_scalars place.rope, ⟨place', ?_⟩, fun _ => allowed⟩
    -- Nothing before the line is deleted, so the next one begins at the same place.
    rw [caret, Text.lineStart_congr kept, Text.lineStart_lineStart]

theorem cutWord_cutsAt (a : Nat) (empties : Prop) :
    CutsAt a empties cutWord fun e => e.Place a ∧ e.caret = a where
  place h := h.1
  cuts {e} h := by
    obtain ⟨place, rfl⟩ := h
    cases word : e.chars.nextWord? e.caret with
    | none =>
      rw [cutWord_of_none word]
      exact .inl ⟨rfl, rfl⟩
    | some next =>
      obtain ⟨lt, last⟩ := Text.nextWord?_bounds word
      rw [chars, Widget.chars_eq_text place.rope] at last
      obtain ⟨place', _, caret, _⟩ := place.cutAt lt
      exact .inr ⟨next, lt, cutWord_of_some word, ⟨place', caret⟩,
        fun reaches => absurd last (Nat.not_lt_of_le reaches)⟩

/-! ## The law -/

/-- The actions that delete with a count. -/
def deletes : List Action := [.deleteSelection, .deleteLine, .deleteWord]

/-- The register is left alone if nothing was taken out of the text.  Else what was taken is put
    there, without its final line break, and `extra` spaces behind it. -/
def Registers (e d : Editor) (lineWise : Bool) (taken : Text) (extra : Nat) : Prop :=
  d.register = e.register ∧ taken = [] ∨
    d.register =
      ⟨e.register.clipboard.put (dropFinalBreak (taken ++ List.replicate extra ' ')), lineWise⟩

/-- A deletion takes a piece out of the text, from between `front` and `back`. -/
structure Deletes (e : Editor) (action : Action) (count : Nat) (front taken back : Text)
    (extra : Nat) : Prop where
  before : e.widget.text = front ++ taken ++ back
  /-- A deletion of selections goes back to normal mode, where an empty line gets a space. -/
  after : (remaining front back).Filled (e.run action count).widget.text
  exactly : action ≠ .deleteSelection →
    (e.run action count).widget.text = remaining front back
  register : e.Registers (e.run action count) (action == .deleteLine) taken extra

section Law

variable {step : Editor → Option Text × Editor} {empties : Prop} {count extra n : Nat}
  {lineWise : Bool} {front taken back : Text} {action : Action}

/-- The same of what is collected, which for two of the three deletions is all there is. -/
structure Collects (step : Editor → Option Text × Editor) (count : Nat) (lineWise : Bool)
    (e : Editor) (front taken back : Text) (extra : Nat) : Prop where
  before : e.widget.text = front ++ taken ++ back
  after : (e.collect count lineWise step).widget.text = remaining front back
  register : e.Registers (e.collect count lineWise step) lineWise taken extra

theorem Extracts.collects
    (extracts : Extracts step empties (e.yankLimit count) e front taken back extra)
    (still : ∀ e, (step e).2.register = e.register) (lineWise : Bool) :
    Collects step count lineWise e front taken back extra := by
  refine ⟨extracts.before, ?_, ?_⟩
  · rw [widget_collect]
    exact extracts.after
  · cases extracts.yield with
    | inl nothing =>
      obtain ⟨nothing, none, _⟩ := nothing
      have same : e.collect count lineWise step = (Editor.gather step (e.yankLimit count) e).2 := by
        simp only [Editor.collect, nothing, yank]
      exact .inl ⟨same ▸ register_gather still _ e, none⟩
    | inr yields => exact .inr (register_collect still yields.1 lineWise)

theorem Emptied.extracts (emptied : Emptied step n e) (empties : Prop) :
    0 < n ∧ Extracts step empties n e [] e.widget.text [] 0 := by
  have positive : 0 < n := by
    cases n with
    | zero => cases emptied.1
    | succ n => exact Nat.succ_pos n
  refine ⟨positive, (List.append_nil _).symm, emptied.2, .inr ⟨?_, positive⟩, ?_⟩
  · rw [List.replicate_zero, List.append_nil]
    exact emptied.1
  · exact fun more => absurd more (Nat.lt_irrefl 0)

theorem yankLimit_of_le_len (positive : 1 ≤ n) (bounded : n ≤ maxCount) (few : n ≤ e.len + 1) :
    e.yankLimit n = n := by
  unfold yankLimit
  omega

theorem yankLimit_of_le (positive : 0 < n) (le : n ≤ e.yankLimit count) : e.yankLimit n = n := by
  unfold yankLimit at *
  omega

/-- Deletions at one place conserve the text, if what is collected is what is deleted. -/
theorem CutsAt.conserves {I : Editor → Prop} (c : CutsAt a empties step I)
    (still : ∀ e, (step e).2.register = e.register) (h : I e)
    (ofCollects : ∀ {count front taken back extra},
      Collects step count (action == .deleteLine) e front taken back extra →
        e.Deletes action count front taken back extra) (count : Nat) :
    ∃ front taken back extra, e.Deletes action count front taken back extra ∧
      (0 < extra → front ++ back = [] ∧ empties ∧
        ∃ n, n + extra ≤ e.yankLimit count ∧ e.Deletes action n [] e.widget.text [] 0) := by
  obtain ⟨taken, back, extra, extracts⟩ := c.extracts (e.yankLimit count) h
  refine ⟨_, taken, back, extra, ofCollects (extracts.collects still _), fun more => ?_⟩
  obtain ⟨empty, allowed, n, bounded, emptied⟩ := extracts.spaces more
  obtain ⟨positive, whole⟩ := emptied.extracts empties
  have le : n ≤ e.yankLimit count := by omega
  rw [← yankLimit_of_le positive le] at whole
  exact ⟨empty, allowed, n, bounded, ofCollects (whole.collects still _)⟩

theorem Collects.deletes
    (collects : Collects step count (action == .deleteLine) e front taken back extra)
    (alone : e.run action count = e.collect count (action == .deleteLine) step) :
    e.Deletes action count front taken back extra where
  before := collects.before
  after := by
    rw [alone, collects.after]
    exact .refl _
  exactly _ := alone ▸ collects.after
  register := alone ▸ collects.register

end Law

/-- A deletion of selections goes back to normal mode with what it has collected. -/
theorem Collects.deleteSelection {count extra : Nat} {front taken back : Text}
    (rope : e.widget.segmentation = .scalars)
    (collects : Collects cutSelection count false e front taken back extra) :
    e.Deletes .deleteSelection count front taken back extra := by
  have rope' : (e.collect count false cutSelection).widget.segmentation = .scalars := by
    rw [widget_collect]
    exact gather_keeps (P := fun d : Editor => d.widget.segmentation = .scalars)
      (fun rope => (segmentation_cutAt _ _ _).trans rope) _ rope
  have fills : Fills (e.collect count false cutSelection) (e.deleteSelection count) :=
    ((fills_kept _).toNormal ⟨rfl, .refl rope'⟩).2
  have register : (e.deleteSelection count).register =
      (e.collect count false cutSelection).register := register_toNormal _
  refine ⟨collects.before, collects.after ▸ fills.text, fun other => absurd rfl other, ?_⟩
  rw [Registers, show e.run .deleteSelection count = e.deleteSelection count from rfl, register]
  exact collects.register

/-- A deletion takes one piece out of the text, and puts it into the register.  A deletion of words
    adds nothing to it.  The others do only with the runs that come after the text has been deleted
    as a whole. -/
theorem conservation_law (rope : e.widget.segmentation = .scalars) (nonempty : e.widget.text ≠ [])
    (ordered : e.widget.selection.start ≤ e.widget.selection.stop)
    (inside : e.widget.selection.stop ≤ e.len) {action : Action} (deleting : action ∈ deletes)
    (count : Nat) :
    ∃ front taken back extra, e.Deletes action count front taken back extra ∧
      (0 < extra → front ++ back = [] ∧ action ≠ .deleteWord ∧
        ∃ n, n + extra ≤ e.yankLimit count ∧ e.Deletes action n [] e.widget.text [] 0) := by
  have place {a : Nat} (le : a ≤ e.len) : e.Place a := by
    rw [len, Widget.len_of_scalars rope] at le
    exact ⟨rope, nonempty, le⟩
  have caret : e.caret ≤ e.len := Nat.le_trans ordered inside
  simp only [deletes, List.mem_cons, List.not_mem_nil, or_false] at deleting
  rcases deleting with rfl | rfl | rfl
  · exact (cutSelection_cutsAt _ (by decide)).conserves (fun _ => rfl) ⟨place caret, rfl, ordered⟩
      (fun collects => collects.deleteSelection rope) count
  · exact (cutLine_cutsAt _ (by decide)).conserves (fun _ => rfl)
      ⟨place (Nat.le_trans (Text.lineStart_le _ _) caret), rfl⟩
      (fun collects => collects.deletes rfl) count
  · exact (cutWord_cutsAt _ _).conserves register_cutWord ⟨place caret, rfl⟩
      (fun collects => collects.deletes rfl) count

/-- Of three lines the first two are deleted, with the line break after them. -/
theorem conservation_law_of_two_lines :
    let e : Editor :=
      { modal := {},
        widget := (Widget.ofText .scalars ['a', lineBreak, 'b', lineBreak, 'c']).select 0 1,
        register := {}, history := .ofLimit 1 }
    (∃ front taken back extra, e.Deletes .deleteLine 2 front taken back extra ∧
      (0 < extra → front ++ back = [] ∧ Action.deleteLine ≠ .deleteWord ∧
        ∃ n, n + extra ≤ e.yankLimit 2 ∧ e.Deletes .deleteLine n [] e.widget.text [] 0)) ∧
      (e.run .deleteLine 2).widget.text = ['c'] ∧
      (e.run .deleteLine 2).register.text? = some ['a', lineBreak, 'b'] := by
  intro e
  exact ⟨conservation_law rfl (by decide) (by decide) (by decide) (by decide) 2, by decide,
    by decide⟩

/-- Two lines are deleted where there is one, and the register gets a space that was not in the
    text. -/
theorem not_conserved_past_the_end :
    let e : Editor :=
      { modal := {}, widget := (Widget.ofText .scalars ['a']).select 0 1, register := {},
        history := .ofLimit 1 }
    ¬∃ front taken back, e.Deletes .deleteLine 2 front taken back 0 := by
  intro e deletion
  obtain ⟨front, taken, back, before, _, _, register⟩ := deletion
  have text : (e.run .deleteLine 2).register.text? = some ['a', ' '] := by decide
  cases register with
  | inl still =>
    rw [still.1] at text
    cases text
  | inr put =>
    rw [put, List.replicate_zero, List.append_nil] at text
    have yanked : dropFinalBreak taken = ['a', ' '] := Option.some.inj text
    have space : ' ' ∈ taken := dropFinalBreak_subset taken (by rw [yanked]; decide)
    have fromText : ' ' ∈ e.widget.text := by
      rw [before]
      exact List.mem_append_left _ (List.mem_append_right _ space)
    exact absurd fromText (by decide)

end ModalEdit.Editor
