import ModalEdit.Editor.Basic

/-! # Repeated steps

What is known of `Nat.repeat` whatever the step is, of a step that is repeated while it yields, and
of a command that is repeated while something changes.
-/

namespace ModalEdit.Editor

section Repeat

variable {α : Type} {R : α → α → Prop} {f g : α → α} {x y : α}

theorem repeat_apply (f : α → α) (n : Nat) (x : α) :
    Nat.repeat f n (f x) = f (Nat.repeat f n x) := by
  induction n with
  | zero => rfl
  | succ n ih => rw [Nat.repeat, Nat.repeat, ih]

theorem repeat_add (f : α → α) (m n : Nat) (x : α) :
    Nat.repeat f (m + n) x = Nat.repeat f m (Nat.repeat f n x) := by
  induction m with
  | zero =>
    rw [Nat.zero_add]
    rfl
  | succ m ih => rw [Nat.add_right_comm, Nat.repeat, ih, Nat.repeat]

theorem repeat_related (step : ∀ {x y}, R x y → R (f x) (g y)) (n : Nat) (same : R x y) :
    R (Nat.repeat f n x) (Nat.repeat g n y) := by
  induction n with
  | zero => exact same
  | succ n ih => exact step ih

theorem repeat_keeps {P : α → Prop} (keeps : ∀ {x}, P x → P (f x)) (n : Nat) (h : P x) :
    P (Nat.repeat f n x) := by
  induction n with
  | zero => exact h
  | succ n ih => exact keeps ih

theorem foldl_replicate {β : Type} (step : α → β → α) (b : β) (n : Nat) (x : α) :
    (List.replicate n b).foldl step x = Nat.repeat (step · b) n x := by
  induction n with
  | zero => rfl
  | succ n ih =>
    rw [List.replicate_succ', List.foldl_append, ih]
    rfl

/-- A step that makes no difference makes none if it is repeated. -/
theorem repeat_steady (eqv : Equivalence R) (kept : ∀ {x y}, R x y → R (f x) (f y))
    (steady : R (f x) x) (n : Nat) : R (Nat.repeat f n x) x := by
  induction n with
  | zero => exact eqv.refl x
  | succ n ih => exact eqv.trans (kept ih) steady

end Repeat

section Gather

variable {σ : Type} {step : σ → Option Text × σ} {s : σ}

theorem gather_succ_of_none (nothing : (step s).1 = none) (n : Nat) :
    gather step (n + 1) s = (none, (step s).2) := by
  rw [gather]
  generalize step s = result at nothing
  obtain ⟨_, s'⟩ := result
  cases nothing
  rfl

theorem gather_succ_of_some {piece : Text} (yields : (step s).1 = some piece) (n : Nat) :
    gather step (n + 1) s =
      (some (piece ++ (gather step n (step s).2).1.getD []), (gather step n (step s).2).2) := by
  rw [gather]
  generalize step s = result at yields
  obtain ⟨_, s'⟩ := result
  cases yields
  rfl

/-- What yields once yields something in all. -/
theorem fst_gather_eq_some {piece : Text} (yields : (step s).1 = some piece) (n : Nat) :
    (gather step (n + 1) s).1 = some ((gather step (n + 1) s).1.getD []) := by
  rw [gather_succ_of_some yields]
  rfl

theorem gather_keeps {P : σ → Prop} (keeps : ∀ {s}, P s → P (step s).2) (n : Nat) (h : P s) :
    P (gather step n s).2 := by
  induction n generalizing s with
  | zero => exact h
  | succ n ih =>
    cases yielded : (step s).1 with
    | none =>
      rw [gather_succ_of_none yielded]
      exact keeps h
    | some piece =>
      rw [gather_succ_of_some yielded]
      exact ih (keeps h)

end Gather

theorem times_one (d : Editor) (command : Editor → Editor) : d.times 1 command = command d := by
  simp [times, whileChanging]

/-- What changes nothing at all changes nothing when it is repeated. -/
theorem whileChanging_of_steady {e : Editor} {command : Editor → Editor} (steady : command e = e)
    (n : Nat) : whileChanging command n e = e := by
  induction n with
  | zero => rfl
  | succ n ih =>
    rw [whileChanging, steady]
    split
    · rfl
    · exact ih

theorem times_of_steady {e : Editor} {command : Editor → Editor} (steady : command e = e)
    (count : Nat) : e.times count command = e :=
  whileChanging_of_steady steady _

theorem whileChanging_keeps {P : Editor → Prop} {command : Editor → Editor}
    (keeps : ∀ {e}, P e → P (command e)) (n : Nat) {e : Editor} (h : P e) :
    P (whileChanging command n e) := by
  induction n generalizing e with
  | zero => exact h
  | succ n ih =>
    rw [whileChanging]
    split
    · exact keeps h
    · exact ih (keeps h)

/-- Stopping early leaves nothing out where what seems to change nothing makes no difference. -/
theorem whileChanging_repeat {R : Editor → Editor → Prop} (eqv : Equivalence R)
    {command : Editor → Editor} (kept : ∀ {d e}, R d e → R (command d) (command e))
    (settled : ∀ {e}, e.unchanged (command e) = true → R (command e) e) (n : Nat) (e : Editor) :
    R (whileChanging command n e) (Nat.repeat command n e) := by
  induction n generalizing e with
  | zero => exact eqv.refl e
  | succ n ih =>
    rw [whileChanging, Nat.repeat, ← repeat_apply command n e]
    split
    · next same =>
      -- The step that seems to change nothing is still taken, so its outcome is what has settled.
      exact eqv.symm (repeat_steady eqv kept (kept (settled same)) n)
    · exact ih (command e)

end ModalEdit.Editor
