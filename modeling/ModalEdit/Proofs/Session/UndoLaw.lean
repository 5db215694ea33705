import ModalEdit.Proofs.Session.Ledger

/-! # The law of undoing

At every point of a run the history of a field is what is left of its ledger, and undoing brings
back the texts of the ledger one by one.  So if the last `k` texts that were saved are still
there, `k` steps of undoing bring back the text that stood before the first of them was saved.
It makes no difference how the steps are asked for, nor what happens in between that saves
nothing.

The argument follows the position of that text in the history.  Every text that is saved pushes
it one deeper (`texts_run_of_unpopped`), and every step of undoing lifts it by one
(`text_run_of_undoes`).
-/

namespace ModalEdit

/-- What a ledger says of an editor: what its history holds, and what one step of undoing does. -/
structure Ledger.AccountsFor (g : Ledger) (limit : Nat) (d : Editor) : Prop where
  suffix : d.history.oldestFirst.map UndoEntry.text <:+ g.texts.reverse
  size_le : d.history.size ≤ limit
  whole : g.evicted = false → d.history.oldestFirst.map UndoEntry.text = g.texts.reverse
  undo_of_empty : d.history.entries = [] → d.undo = d
  undo_of_saved : d.history.entries ≠ [] → g.texts.head? = some d.undo.widget.text

theorem History.Tracks.accountsFor {g : Ledger} {d : Editor} (tracks : d.history.Tracks g) :
    g.AccountsFor d.history.limit d where
  suffix := by
    rw [History.oldestFirst, List.map_reverse]
    exact List.reverse_suffix.mpr tracks.newest
  size_le := d.history.length_le
  whole kept := by
    rw [History.oldestFirst, List.map_reverse, ← tracks.whole kept, History.texts]
  undo_of_empty := Editor.undo_of_nil
  undo_of_saved saved := by
    obtain ⟨entry, rest, entries⟩ := List.exists_cons_of_ne_nil saved
    obtain ⟨older, joined⟩ := tracks.newest
    rw [(Editor.undo_of_cons entries).2.2, ← joined, History.texts, entries]
    rfl

namespace Session

/-! ## Counting -/

def total (q : Session → HostAct → Nat) (s : Session) : List HostAct → Nat
  | [] => 0
  | a :: acts => q s a + total q (s.act a) acts

theorem total_append (q : Session → HostAct → Nat) (s : Session) (acts later : List HostAct) :
    total q s (acts ++ later) = total q s acts + total q (s.run acts) later := by
  induction acts generalizing s with
  | nil => simp [total]
  | cons a acts ih => rw [List.cons_append, total, total, ih, run_cons, Nat.add_assoc]

def recordings (f : FieldId) : Session → List HostAct → Nat :=
  total fun s a => (s.saves f a).toNat

/-- Some acts save `k` texts for a field, the first of them at once, and no step of undoing takes
    any of them back. -/
structure Unpopped (f : FieldId) (s : Session) (acts : List HostAct) (k : Nat) : Prop where
  first : ∃ a later, acts = a :: later ∧ s.saves f a = true
  recorded : recordings f s acts = k
  unpopped : total (fun s a => s.pops f a) s acts = 0

/-- Some acts undo `k` steps on a field and save nothing for it.  The last of them undoes. -/
structure Undoes (f : FieldId) (s : Session) (acts : List HostAct) (k : Nat) : Prop where
  unrecorded : recordings f s acts = 0
  steps : total (fun s a => s.undoSteps f a) s acts = k
  last : ∃ before a, acts = before ++ [a] ∧ 0 < (s.run before).undoSteps f a

/-! ## Saving pushes a text deeper -/

variable {s : Session} {f : FieldId}

/-- An act that takes nothing back, although there is something, does not undo. -/
theorem texts_act_of_unpopped {a : HostAct} (unpopped : s.pops f a = 0)
    (saved : 0 < (s.savedHistory f a).size) :
    ((s.act a).engine.historyOf f).texts = (s.savedHistory f a).texts := by
  -- Of a positive number of steps the first would find an entry.
  have none : s.undoSteps f a = 0 := by
    rw [pops] at unpopped
    omega
  rw [texts_act, none, List.drop_zero]

theorem texts_act_first {a : HostAct} (saves : s.saves f a = true) (unpopped : s.pops f a = 0) :
    ((s.act a).engine.historyOf f).texts[0]? = some s.widget.text := by
  have top : (s.savedHistory f a).texts[0]? = some s.widget.text := by
    rw [savedHistory, if_pos saves, History.texts_record,
      List.getElem?_take_of_lt (s.engine.historyOf f).limit_pos]
    rfl
  have saved : 0 < (s.savedHistory f a).size := by
    rw [← History.length_texts]
    exact (List.getElem?_eq_some_iff.mp top).1
  rw [texts_act_of_unpopped unpopped saved, top]

theorem texts_act_deeper {a : HostAct} {i : Nat} {cs : Text}
    (deep : (s.engine.historyOf f).texts[i]? = some cs) (unpopped : s.pops f a = 0)
    (fits : i + (s.saves f a).toNat < (s.engine.historyOf f).limit) :
    ((s.act a).engine.historyOf f).texts[i + (s.saves f a).toNat]? = some cs := by
  have deeper : (s.savedHistory f a).texts[i + (s.saves f a).toNat]? = some cs := by
    cases saves : s.saves f a with
    | false => rwa [savedHistory, saves]
    | true =>
      rw [saves] at fits
      rw [savedHistory, if_pos saves, History.texts_record, List.getElem?_take_of_lt fits]
      exact deep
  have saved : 0 < (s.savedHistory f a).size := by
    rw [← History.length_texts]
    exact Nat.zero_lt_of_lt (List.getElem?_eq_some_iff.mp deeper).1
  rw [texts_act_of_unpopped unpopped saved, deeper]

theorem texts_run_deeper {i : Nat} {cs : Text} {acts : List HostAct}
    (deep : (s.engine.historyOf f).texts[i]? = some cs)
    (unpopped : total (fun s a => s.pops f a) s acts = 0)
    (fits : i + recordings f s acts < (s.engine.historyOf f).limit) :
    ((s.run acts).engine.historyOf f).texts[i + recordings f s acts]? = some cs := by
  induction acts generalizing s i with
  | nil => exact deep
  | cons a acts ih =>
    rw [total, Nat.add_eq_zero_iff] at unpopped
    rw [recordings, total, ← Nat.add_assoc] at fits ⊢
    have next := texts_act_deeper deep unpopped.1 (by omega)
    exact ih next unpopped.2 (by rw [limit_act]; exact fits)

/-- The text that stood before the first of `k` saved texts is the `k`-th of the history. -/
theorem texts_run_of_unpopped {acts : List HostAct} {k : Nat} (saving : Unpopped f s acts k)
    (fits : k ≤ (s.engine.historyOf f).limit) :
    ((s.run acts).engine.historyOf f).texts[k - 1]? = some s.widget.text := by
  obtain ⟨⟨a, later, rfl, saves⟩, recorded, unpopped⟩ := saving
  rw [total, Nat.add_eq_zero_iff] at unpopped
  rw [recordings, total, saves, Bool.toNat_true] at recorded
  have top := texts_act_first saves unpopped.1
  have deep := texts_run_deeper top unpopped.2 (by
    rw [limit_act, recordings]
    omega)
  rw [Nat.zero_add] at deep
  rwa [← recorded, Nat.add_sub_cancel_left]

/-! ## Undoing lifts it -/

theorem text_run_of_undoes {acts : List HostAct} {k : Nat} {cs : Text} (undoing : Undoes f s acts k)
    (deep : (s.engine.historyOf f).texts[k - 1]? = some cs) : (s.run acts).widget.text = cs := by
  obtain ⟨unrecorded, steps, before, last, rfl, undoes⟩ := undoing
  rw [run_append]
  -- On the acts before the last: each lifts the text by its steps, and the last one takes it out.
  induction before generalizing s k with
  | nil =>
    simp only [List.nil_append, recordings, total, Nat.add_zero, Bool.toNat_eq_zero]
      at unrecorded steps
    subst steps
    exact text_act_of_undo s f unrecorded undoes deep
  | cons a before ih =>
    rw [List.cons_append, total] at steps
    rw [List.cons_append, recordings, total, Nat.add_eq_zero_iff, Bool.toNat_eq_zero] at unrecorded
    -- The steps that are left, of which there is at least the last one.
    have left : 0 < total (fun s a => s.undoSteps f a) (s.act a) (before ++ [last]) := by
      rw [total_append]
      exact Nat.lt_of_lt_of_le undoes (Nat.le_add_left _ _)
    refine ih ?_ undoes unrecorded.2 rfl
    rw [texts_act, savedHistory, unrecorded.1, List.getElem?_drop]
    rwa [show s.undoSteps f a + (_ - 1) = k - 1 by omega]

/-! ## The law -/

theorem Unpopped.pos {acts : List HostAct} {k : Nat} (saving : Unpopped f s acts k) : 0 < k := by
  obtain ⟨⟨a, later, rfl, saves⟩, recorded, _⟩ := saving
  rw [recordings, total, saves, Bool.toNat_true] at recorded
  omega

theorem historyOf_of_built {engine : Engine} (built : engine.Built) (f : FieldId) :
    (engine.historyOf f).texts = [] ∧ (engine.historyOf f).limit = engine.config.undoLimit := by
  obtain ⟨config, keymap, register, faultless, rfl⟩ := built.eq_assemble
  have accepted := (Config.fault?_eq_none_iff.mp faultless).1
  exact ⟨rfl, Nat.max_eq_left accepted⟩

theorem run_undo_eq_repeat {k : Nat} (pos : 0 < k) (d : Editor) :
    d.run .undo k = Nat.repeat Editor.undo k d := by
  rw [Editor.run, Editor.times_undo, Nat.max_eq_left pos]

/-- At every point of a run, and between the steps of undoing with a count too, the ledger of a
    field accounts for its history.  If the last `k` texts that were saved were not taken back,
    `k` steps of undoing bring back the text that stood before the first of them, whether they
    are acts of the host, one command with a count or so many commands. -/
theorem undo_law {engine : Engine} (built : engine.Built) (first : Widget) (others : List Widget)
    (f : FieldId) :
    (∀ acts n,
      let s := (start engine first others).run acts
      let g := (start engine first others).ledger f {} acts
      let d := s.engine.editor f s.widget
      (g.takeBack (min n d.history.size)).AccountsFor engine.config.undoLimit
          (Nat.repeat Editor.undo n d) ∧
        d.run .undo (n + 1) = Nat.repeat Editor.undo (n + 1) d) ∧
    (∀ before saving k,
      let s := (start engine first others).run before
      let d := (s.run saving).engine.editor f (s.run saving).widget
      Unpopped f s saving k → k ≤ engine.config.undoLimit →
        (∀ undoing, Undoes f (s.run saving) undoing k →
          ((s.run saving).run undoing).widget.text = s.widget.text) ∧
        (d.run .undo k).widget.text = s.widget.text ∧
        (Nat.repeat (Editor.run .undo 1) k d).widget.text = s.widget.text) := by
  obtain ⟨empty, limit⟩ := historyOf_of_built built f
  constructor
  · intro acts n s g d
    have begin : (engine.historyOf f).Tracks {} := ⟨empty ▸ List.nil_prefix, fun _ => empty⟩
    -- What the run leaves, and from it what so many steps leave.
    have tracks : d.history.Tracks g :=
      tracks_ledger (s := start engine first others) begin acts
    have undone : (Nat.repeat Editor.undo n d).history.Tracks
        (g.takeBack (min n d.history.size)) := by
      apply tracks.takeBack
      rw [History.texts, Editor.entries_repeat_undo, List.map_drop, History.texts]
    have bounded : (Nat.repeat Editor.undo n d).history.limit = engine.config.undoLimit := by
      rw [Editor.limit_repeat_undo, ← limit]
      exact limit_run acts
    exact ⟨bounded ▸ undone.accountsFor, run_undo_eq_repeat n.succ_pos d⟩
  · intro before saving k s d unpopped fits
    have deep : d.history.texts[k - 1]? = some s.widget.text := by
      apply texts_run_of_unpopped unpopped
      rw [limit_run]
      exact limit.symm ▸ fits
    have undone : (Nat.repeat Editor.undo k d).widget.text = s.widget.text := by
      rw [History.texts, List.getElem?_map, Option.map_eq_some_iff] at deep
      obtain ⟨entry, saved, same⟩ := deep
      rw [← same, ← Editor.text_repeat_undo saved, Nat.sub_add_cancel unpopped.pos]
    have once : Editor.run .undo 1 = Editor.undo := funext (run_undo_eq_repeat Nat.one_pos)
    refine ⟨fun undoing undoes => text_run_of_undoes undoes deep, ?_, ?_⟩
    · rw [run_undo_eq_repeat unpopped.pos, undone]
    · rw [once, undone]

/-- Two deletions, and between them a motion that fills an empty line, undone by one key with a
    count. -/
theorem undo_law_over_filled_line :
    let w : Widget :=
      { segmentation := .scalars, text := ['a', 'b', '\n', '\n', 'c'], selection := ⟨0, 1⟩ }
    let s := start .standard w []
    let saving : List HostAct :=
      [.key (.plain (.char 'x')), .key (.plain (.char 'j')), .key (.plain (.char 'x'))]
    let undoing : List HostAct := [.key (.plain (.char '2')), .key (.plain (.char 'u'))]
    Engine.standard.Built ∧ Unpopped 0 s saving 2 ∧ Undoes 0 (s.run saving) undoing 2 ∧
      ((s.run saving).run undoing).widget.text = w.text := by
  intro w s saving undoing
  have built : Engine.standard.Built := .inl rfl
  have unpopped : Unpopped 0 s saving 2 := ⟨⟨_, _, rfl, by decide⟩, by decide, by decide⟩
  have undoes : Undoes 0 (s.run saving) undoing 2 :=
    ⟨by decide, by decide, [.key (.plain (.char '2'))], .key (.plain (.char 'u')), rfl, by decide⟩
  obtain ⟨restored, _⟩ := (undo_law built w [] 0).2 [] saving 2 unpopped (by decide)
  exact ⟨built, unpopped, undoes, restored undoing undoes⟩

end Session

end ModalEdit
