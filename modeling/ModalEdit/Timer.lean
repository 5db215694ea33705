/-! # Deferred tasks

Work that the engine puts off until the host has dealt with a key.  The queue keeps its timers
in the order in which they come due (`Timer.InOrder`), those that come due together in the order
in which they were scheduled.  A timer fires once and cannot be called off.
-/

namespace ModalEdit

/-- A host's name for one of its editable fields. -/
abbrev FieldId := Nat

/-- What is put off. -/
inductive Task
  /-- Finishes an insert command by entering insert mode. -/
  | enterInsert
  /-- Selects the character that was just typed over another one. -/
  | repairAfterReplace
  deriving DecidableEq

namespace Task

def name : Task → String
  | .enterInsert => "EnterInsert"
  | .repairAfterReplace => "RepairAfterReplace"

def ofName? (s : String) : Option Task :=
  [Task.enterInsert, .repairAfterReplace].find? (fun t => t.name == s)

end Task

/-- A task with the instant from which it may run, and the field that it is for. -/
structure Timer where
  due : Nat
  field : FieldId
  task : Task
  deriving DecidableEq

namespace Timer

/-- No timer is due before one that stands in front of it. -/
abbrev InOrder (ts : List Timer) : Prop := ts.Pairwise (fun t u => t.due ≤ u.due)

/-- One more timer among others, behind those that come due no later. -/
def placedIn (t : Timer) (ts : List Timer) : List Timer :=
  ts.takeWhile (fun u => decide (u.due ≤ t.due)) ++
    t :: ts.dropWhile (fun u => decide (u.due ≤ t.due))

variable {t u : Timer} {ts : List Timer}

theorem placedIn_cons_of_le (le : u.due ≤ t.due) : t.placedIn (u :: ts) = u :: t.placedIn ts := by
  simp [placedIn, le]

theorem placedIn_cons_of_lt (lt : t.due < u.due) : t.placedIn (u :: ts) = t :: u :: ts := by
  simp [placedIn, Nat.not_le_of_lt lt]

theorem perm_placedIn (t : Timer) (ts : List Timer) : (t.placedIn ts).Perm (t :: ts) := by
  have whole := List.takeWhile_append_dropWhile (p := fun u : Timer => decide (u.due ≤ t.due)) (l := ts)
  refine List.perm_middle.trans ?_
  rw [whole]

@[simp] theorem mem_placedIn : u ∈ t.placedIn ts ↔ u = t ∨ u ∈ ts :=
  (perm_placedIn t ts).mem_iff.trans List.mem_cons

theorem InOrder.due_le (ordered : InOrder (t :: ts)) (member : u ∈ t :: ts) : t.due ≤ u.due := by
  cases member with
  | head => exact Nat.le_refl _
  | tail _ member => exact List.rel_of_pairwise_cons ordered member

theorem InOrder.placedIn (ordered : InOrder ts) (t : Timer) : InOrder (t.placedIn ts) := by
  induction ordered with
  | nil => exact List.pairwise_singleton _ t
  | @cons u ts before ordered ih =>
    by_cases le : u.due ≤ t.due
    · rw [placedIn_cons_of_le le]
      refine .cons (fun v member => ?_) ih
      cases mem_placedIn.mp member with
      | inl new => exact new ▸ le
      | inr old => exact before v old
    · have lt := Nat.lt_of_not_le le
      rw [placedIn_cons_of_lt lt]
      refine .cons (fun v member => ?_) (.cons before ordered)
      exact Nat.le_trans (Nat.le_of_lt lt) (InOrder.due_le (.cons before ordered) member)

end Timer

/-- The timers that have not fired, in the order in which they will. -/
@[ext] structure TimerQueue where
  pending : List Timer
  inOrder : Timer.InOrder pending
  deriving DecidableEq

namespace TimerQueue

instance : EmptyCollection TimerQueue := ⟨[], .nil⟩

@[simp] theorem pending_empty : ({} : TimerQueue).pending = [] := rfl

def size (q : TimerQueue) : Nat := q.pending.length

/-- Adds a timer behind those that come due no later. -/
def schedule (q : TimerQueue) (t : Timer) : TimerQueue where
  pending := t.placedIn q.pending
  inOrder := q.inOrder.placedIn t

/-- Takes the timers that are due, the earliest first. -/
def takeDue (q : TimerQueue) (now : Nat) : List Timer × TimerQueue :=
  (q.pending.filter (fun t => decide (t.due ≤ now)),
    { pending := q.pending.filter (fun t => !decide (t.due ≤ now))
      inOrder := q.inOrder.filter _ })

variable {q : TimerQueue} {t u : Timer} {now : Nat}

@[simp] theorem mem_pending_schedule : u ∈ (q.schedule t).pending ↔ u = t ∨ u ∈ q.pending :=
  Timer.mem_placedIn

@[simp] theorem pending_schedule_empty (t : Timer) : (schedule {} t).pending = [t] := rfl

@[simp] theorem mem_takeDue_fst : t ∈ (q.takeDue now).1 ↔ t ∈ q.pending ∧ t.due ≤ now := by
  simp [takeDue]

@[simp] theorem mem_pending_takeDue_snd :
    t ∈ (q.takeDue now).2.pending ↔ t ∈ q.pending ∧ now < t.due := by
  simp [takeDue]

theorem takeDue_of_due (due : ∀ t ∈ q.pending, t.due ≤ now) : q.takeDue now = (q.pending, {}) := by
  have fires : q.pending.filter (fun t => decide (t.due ≤ now)) = q.pending :=
    List.filter_eq_self.mpr fun t pending => decide_eq_true (due t pending)
  have stays : q.pending.filter (fun t => !decide (t.due ≤ now)) = [] :=
    List.filter_eq_nil_iff.mpr fun t pending => by simp [due t pending]
  simp only [takeDue, fires, stays]
  rfl

theorem takeDue_of_undue (undue : ∀ t ∈ q.pending, now < t.due) : q.takeDue now = ([], q) := by
  have fires : q.pending.filter (fun t => decide (t.due ≤ now)) = [] :=
    List.filter_eq_nil_iff.mpr fun t pending => by simpa using undue t pending
  have stays : q.pending.filter (fun t => !decide (t.due ≤ now)) = q.pending :=
    List.filter_eq_self.mpr fun t pending => by simpa using undue t pending
  simp only [takeDue, fires, stays]

end TimerQueue

end ModalEdit
