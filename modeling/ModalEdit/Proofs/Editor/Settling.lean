import ModalEdit.Proofs.Editor.Saved

/-! # Repeated steps that settle

A count repeats a step, but not as often as it says: `whileChanging` stops once nothing seems to
change, and `collect` takes no more steps than there are positions and one more.  Neither leaves
anything out if the step has settled by then, which is to say that once more makes no difference
that can be told (`Settling`).

What cannot be told is how often the focus was asked for, what is in the register, and what was
logged (`Agrees`).
-/

namespace ModalEdit.Editor

variable {d e : Editor}

/-! ## What can be told of an editor -/

/-- The same editor but for requests for the focus, the register and the log. -/
def Agrees (d e : Editor) : Prop :=
  ∃ focusRequests register log, d =
    { e with
      widget := { e.widget with focusRequests := focusRequests }
      register := register
      log := log }

theorem agrees_equivalence : Equivalence Agrees where
  refl e := ⟨e.widget.focusRequests, e.register, e.log, rfl⟩
  symm {d e} same := by
    obtain ⟨_, _, _, rfl⟩ := same
    exact ⟨e.widget.focusRequests, e.register, e.log, rfl⟩
  trans same same' := by
    obtain ⟨_, _, _, rfl⟩ := same
    obtain ⟨_, _, _, rfl⟩ := same'
    exact ⟨_, _, _, rfl⟩

theorem Agrees.modal (same : d.Agrees e) : d.modal = e.modal := by
  obtain ⟨_, _, _, rfl⟩ := same
  rfl

theorem Agrees.chars (same : d.Agrees e) : d.chars = e.chars := by
  obtain ⟨_, _, _, rfl⟩ := same
  rfl

theorem Agrees.caret (same : d.Agrees e) : d.caret = e.caret := by
  obtain ⟨_, _, _, rfl⟩ := same
  rfl

theorem agrees_of_widget {v : Widget} (segmentation : v.segmentation = e.widget.segmentation)
    (text : v.text = e.widget.text) (selection : v.selection = e.widget.selection) :
    Agrees { e with widget := v } e := by
  refine ⟨v.focusRequests, e.register, e.log, ?_⟩
  have same : v = { e.widget with focusRequests := v.focusRequests } :=
    Widget.ext_text segmentation text selection rfl
  rw [← same]

theorem agrees_yank (e : Editor) (gathered : Option Text) (lineWise : Bool) :
    Agrees (e.yank gathered lineWise) e := by
  cases gathered with
  | none => exact agrees_equivalence.refl e
  | some cs => exact ⟨_, _, _, rfl⟩

/-! ## Gathering -/

theorem agrees_collect (e : Editor) (n : Nat) (lineWise : Bool)
    (step : Editor → Option Text × Editor) :
    (e.collect n lineWise step).Agrees (gather step (e.yankLimit n) e).2 :=
  agrees_yank _ _ lineWise

theorem agrees_collect_one (e : Editor) (lineWise : Bool) (step : Editor → Option Text × Editor) :
    (e.collect 1 lineWise step).Agrees (step e).2 := by
  have limit : e.yankLimit 1 = 1 := by
    have positive : 1 ≤ maxCount := by decide
    rw [yankLimit]
    omega
  have one : (gather step 1 e).2 = (step e).2 := by
    rw [gather]
    cases step e with
    | mk piece e' =>
      cases piece with
      | none => rfl
      | some piece => rfl
  have collected := agrees_collect e 1 lineWise step
  rwa [limit, one] at collected

/-- A step that cannot be told from one on an editor that agrees, and that settles before a text
    runs out of positions: each time it makes the text shorter, or it has settled. -/
structure Settling (step : Editor → Option Text × Editor) (I : Editor → Prop) : Prop where
  agrees : ∀ {d e}, d.Agrees e → (step d).2.Agrees (step e).2
  keeps : ∀ {e}, I e → I (step e).2
  /-- What yields nothing has nothing left to do. -/
  halts : ∀ {e}, I e → (step e).1 = none → (step e).2.Agrees e
  settles : ∀ {e}, I e → (step e).1 ≠ none →
    (step (step e).2).2.Agrees (step e).2 ∨ (step e).2.len < e.len

namespace Settling

variable {step : Editor → Option Text × Editor} {I : Editor → Prop} (s : Settling step I)

include s

theorem steady_of_none (h : I e) (nothing : (step e).1 = none) :
    (step (step e).2).2.Agrees (step e).2 := s.agrees (s.halts h nothing)

theorem gather (n : Nat) (h : I e) :
    (gather step n e).2.Agrees (Nat.repeat (fun e => (step e).2) n e) := by
  induction n generalizing e with
  | zero => exact agrees_equivalence.refl e
  | succ n ih =>
    rw [Nat.repeat, ← repeat_apply (fun e => (step e).2) n e]
    have later := ih (s.keeps h)
    cases yielded : (step e).1 with
    | none =>
      rw [gather_succ_of_none yielded]
      -- The gathering ends here, and the steps that are left change nothing.
      exact agrees_equivalence.symm
        (repeat_steady agrees_equivalence s.agrees (s.steady_of_none h yielded) n)
    | some piece =>
      rw [gather_succ_of_some yielded]
      exact later

/-- As many steps as there are positions, and one more, are enough. -/
theorem steady_repeat {n : Nat} (h : I e) (enough : e.len < n) :
    let e' := Nat.repeat (fun e => (step e).2) n e
    (step e').2.Agrees e' := by
  induction n generalizing e with
  | zero => exact absurd enough (Nat.not_lt_zero _)
  | succ n ih =>
    rw [Nat.repeat, ← repeat_apply (fun e => (step e).2) n e]
    have settled : (step (step e).2).2.Agrees (step e).2 ∨ (step e).2.len < e.len := by
      by_cases nothing : (step e).1 = none
      · exact .inl (s.steady_of_none h nothing)
      · exact s.settles h nothing
    -- A step that has not settled takes a position away, as the bound takes a step.
    cases settled with
    | inl steady =>
      have still := repeat_steady agrees_equivalence s.agrees steady n
      exact agrees_equivalence.trans (s.agrees still)
        (agrees_equivalence.trans steady (agrees_equivalence.symm still))
    | inr shorter => exact ih (s.keeps h) (by omega)

/-- So more of them change nothing. -/
theorem repeat_of_le {n m : Nat} (h : I e) (enough : e.len < n) (le : n ≤ m) :
    (Nat.repeat (fun e => (step e).2) m e).Agrees (Nat.repeat (fun e => (step e).2) n e) := by
  obtain ⟨k, rfl⟩ := Nat.exists_eq_add_of_le' le
  rw [repeat_add]
  exact repeat_steady agrees_equivalence s.agrees (s.steady_repeat h enough) k

theorem collect {n : Nat} (bounded : n ≤ maxCount) (lineWise : Bool) (h : I e) :
    (e.collect n lineWise step).Agrees
      (Nat.repeat (·.collect 1 lineWise step) (max n 1) e) := by
  have positive : 1 ≤ maxCount := by decide
  -- The limit is the count, or leaves out what changes nothing.
  have limited : (Nat.repeat (fun e => (step e).2) (max n 1) e).Agrees
      (Nat.repeat (fun e => (step e).2) (e.yankLimit n) e) := by
    by_cases small : max n 1 ≤ e.len + 1
    · have limit : e.yankLimit n = max n 1 := by
        rw [yankLimit]
        omega
      rw [limit]
      exact agrees_equivalence.refl _
    · apply s.repeat_of_le h
      · rw [yankLimit]
        omega
      · exact Nat.min_le_left _ _
  have once : (Nat.repeat (·.collect 1 lineWise step) (max n 1) e).Agrees
      (Nat.repeat (fun e => (step e).2) (max n 1) e) := by
    apply repeat_related _ _ (agrees_equivalence.refl e)
    intro x y same
    exact agrees_equivalence.trans (agrees_collect_one x lineWise step) (s.agrees same)
  have gathered := agrees_equivalence.trans (agrees_collect e n lineWise step)
    (s.gather (e.yankLimit n) h)
  exact agrees_equivalence.trans gathered
    (agrees_equivalence.trans (agrees_equivalence.symm limited) (agrees_equivalence.symm once))

end Settling

end ModalEdit.Editor
