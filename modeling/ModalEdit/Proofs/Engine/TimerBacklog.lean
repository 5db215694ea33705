import ModalEdit.Proofs.Engine.TimerOrder

/-! # Sorting timers when they are taken

A queue need not be in order for its timers to be taken in order.  A backlog adds each timer at its end, and
sorts those that are due as it gives them out, by their due times, those that come due together staying as
they were.  To whoever schedules and takes timers the two are the same (`TimerQueue.replies_eq_backlog`).

A sort of this kind leaves nothing open.  Lists of timers in order are the same if they hold the same timers
in the same order for each instant (`Timer.InOrder.eq_of_together`), so it is enough to follow the timers of
one instant.
-/

namespace ModalEdit

namespace Timer

/-- The timers of a list that come due at one instant. -/
def together (due : Nat) (ts : List Timer) : List Timer := ts.filter (fun t => t.due == due)

def noLater (t u : Timer) : Bool := decide (t.due ≤ u.due)

/-- The timers of a list by their due times, those that come due together in the order of the list. -/
def sort (ts : List Timer) : List Timer := ts.mergeSort noLater

variable {t u : Timer} {ts us : List Timer}

theorem mem_together {due : Nat} : t ∈ together due ts ↔ t ∈ ts ∧ t.due = due := by
  rw [together, List.mem_filter, beq_iff_eq]

theorem mem_iff_of_together (same : ∀ due, together due ts = together due us) : t ∈ ts ↔ t ∈ us := by
  have there : ∀ vs : List Timer, t ∈ vs ↔ t ∈ together t.due vs := fun vs => by simp [mem_together]
  rw [there ts, there us, same]

theorem InOrder.eq_of_together (ordered : InOrder ts) (ordered' : InOrder us)
    (same : ∀ due, together due ts = together due us) : ts = us := by
  induction ts generalizing us with
  | nil =>
    refine (List.eq_nil_iff_forall_not_mem.mpr fun u member => ?_).symm
    exact List.not_mem_nil ((mem_iff_of_together same).mpr member)
  | cons t ts ih =>
    have first := (mem_iff_of_together same).mp List.mem_cons_self
    cases us with
    | nil => cases first
    | cons u us =>
      -- Each list holds the first timer of the other, so that both are due at one instant.
      have first' := (mem_iff_of_together same).mpr (List.mem_cons_self (a := u) (l := us))
      have due : u.due = t.due := Nat.le_antisymm (ordered'.due_le first) (ordered.due_le first')
      have heads := same t.due
      simp only [together, List.filter_cons, due, beq_self_eq_true, if_pos, List.cons.injEq] at heads
      obtain ⟨rfl, _⟩ := heads
      refine congrArg (t :: ·) (ih ordered.of_cons ordered'.of_cons fun due => ?_)
      have rest := same due
      simp only [together, List.filter_cons] at rest
      split at rest
      · exact List.tail_eq_of_cons_eq rest
      · exact rest

/-! ## The sorted list -/

theorem noLater_trans (t u v : Timer) (first : t.noLater u = true) (second : u.noLater v = true) :
    t.noLater v = true :=
  decide_eq_true (Nat.le_trans (of_decide_eq_true first) (of_decide_eq_true second))

theorem noLater_total (t u : Timer) : (t.noLater u || u.noLater t) = true := by
  simpa [noLater] using Nat.le_total t.due u.due

theorem inOrder_sort (ts : List Timer) : InOrder (sort ts) :=
  (List.pairwise_mergeSort noLater_trans noLater_total ts).imp of_decide_eq_true

theorem together_together (due : Nat) (ts : List Timer) :
    together due (together due ts) = together due ts := by
  rw [together, together, List.filter_filter]
  simp only [Bool.and_self]

/-- What comes due at one instant keeps its order. -/
theorem together_sort (due : Nat) (ts : List Timer) : together due (sort ts) = together due ts := by
  -- They are in order already, as none is due before another, so the sort takes them over as they stand.
  have level : (together due ts).Pairwise (fun t u => t.noLater u = true) := by
    refine List.pairwise_of_forall_mem_list fun t first u second => decide_eq_true (Nat.le_of_eq ?_)
    rw [(mem_together.mp first).2, (mem_together.mp second).2]
  have found := List.sublist_mergeSort noLater_trans noLater_total level List.filter_sublist
  have kept := found.filter (fun t => t.due == due)
  have many : (together due (sort ts)).length = (together due ts).length :=
    ((List.mergeSort_perm ts noLater).filter _).length_eq
  refine (List.Sublist.eq_of_length ?_ many.symm).symm
  exact (together_together due ts).symm ▸ kept

theorem together_append (due : Nat) (ts us : List Timer) :
    together due (ts ++ us) = together due ts ++ together due us := List.filter_append _ _

theorem together_placedIn (ordered : InOrder ts) (due : Nat) :
    together due (t.placedIn ts) = together due ts ++ together due [t] := by
  induction ts with
  | nil => rfl
  | cons u ts ih =>
    by_cases le : u.due ≤ t.due
    · rw [placedIn_cons_of_le le, ← List.singleton_append, together_append, ih ordered.of_cons,
        ← List.append_assoc, ← together_append, List.singleton_append]
    · rw [placedIn_cons_of_lt (Nat.lt_of_not_le le), ← List.singleton_append, together_append]
      -- The timers that are there all come due later, so that one of the two holds nothing.
      by_cases same : t.due = due
      · have none : together due (u :: ts) = [] := by
          refine List.eq_nil_iff_forall_not_mem.mpr fun v member => ?_
          obtain ⟨there, due'⟩ := mem_together.mp member
          have := ordered.due_le there
          omega
        rw [none, List.append_nil, List.nil_append]
      · have none : together due [t] = [] := List.filter_eq_nil_iff.mpr (by simpa using same)
        rw [none, List.append_nil, List.nil_append]

theorem InOrder.sort_eq (ordered : InOrder ts) : sort ts = ts :=
  (inOrder_sort ts).eq_of_together ordered fun due => together_sort due ts

/-- To place a timer in a sorted list is to sort the list with the timer at its end. -/
theorem placedIn_sort (t : Timer) (ts : List Timer) : t.placedIn (sort ts) = sort (ts ++ [t]) := by
  refine ((inOrder_sort ts).placedIn t).eq_of_together (inOrder_sort _) fun due => ?_
  rw [together_placedIn (inOrder_sort ts), together_sort, together_sort, together_append]

/-- It makes no difference whether timers are taken out before or after they are sorted. -/
theorem filter_sort (p : Timer → Bool) (ts : List Timer) : (sort ts).filter p = sort (ts.filter p) := by
  refine InOrder.eq_of_together ((inOrder_sort ts).filter p) (inOrder_sort _) fun due => ?_
  have swap : ∀ us : List Timer, together due (us.filter p) = (together due us).filter p := by
    intro us
    rw [together, together, List.filter_filter, List.filter_filter]
    simp only [Bool.and_comm]
  rw [together_sort, swap, swap, together_sort]

end Timer

/-- Timers in the order in which they were scheduled. -/
structure Backlog where
  timers : List Timer

namespace Backlog

def schedule (b : Backlog) (t : Timer) : Backlog := ⟨b.timers ++ [t]⟩

/-- Takes the timers that are due and sorts them; the others stay as they are. -/
def takeDue (b : Backlog) (now : Nat) : List Timer × Backlog :=
  (Timer.sort (b.timers.filter (fun t => decide (t.due ≤ now))),
    ⟨b.timers.filter (fun t => !decide (t.due ≤ now))⟩)

def call (b : Backlog) : TimerCall → List Timer × Backlog
  | .schedule t => ([], b.schedule t)
  | .takeDue now => b.takeDue now

def after (b : Backlog) (calls : List TimerCall) : Backlog :=
  calls.foldl (fun b c => (b.call c).2) b

def replies (b : Backlog) : List TimerCall → List (List Timer)
  | [] => []
  | c :: calls => (b.call c).1 :: (b.call c).2.replies calls

/-- The queue of the same timers. -/
def queue (b : Backlog) : TimerQueue where
  pending := Timer.sort b.timers
  inOrder := Timer.inOrder_sort b.timers

/-- What a call replies, and the queue behind it, is what the backlog replies and leaves. -/
theorem call_queue (b : Backlog) (c : TimerCall) :
    b.queue.call c = ((b.call c).1, (b.call c).2.queue) := by
  cases c with
  | schedule t => exact congrArg (Prod.mk []) (TimerQueue.ext (Timer.placedIn_sort t b.timers))
  | takeDue now =>
    refine Prod.ext (Timer.filter_sort _ b.timers) (TimerQueue.ext ?_)
    exact Timer.filter_sort _ b.timers

theorem replies_queue (b : Backlog) (calls : List TimerCall) :
    b.queue.replies calls = b.replies calls := by
  induction calls generalizing b with
  | nil => rfl
  | cons c calls ih => rw [TimerQueue.replies, replies, call_queue, ih]

theorem after_queue (b : Backlog) (calls : List TimerCall) :
    b.queue.after calls = (b.after calls).queue := by
  induction calls generalizing b with
  | nil => rfl
  | cons c calls ih =>
    show (b.queue.call c).2.after calls = ((b.call c).2.after calls).queue
    rw [call_queue, ih]

theorem queue_pending (q : TimerQueue) : queue ⟨q.pending⟩ = q := TimerQueue.ext q.inOrder.sort_eq

end Backlog

/-- Whatever calls are made, a queue and a backlog of its timers reply the same and stay as long. -/
theorem TimerQueue.replies_eq_backlog (q : TimerQueue) (calls : List TimerCall) :
    q.replies calls = Backlog.replies ⟨q.pending⟩ calls ∧
      (q.after calls).size = (Backlog.after ⟨q.pending⟩ calls).timers.length := by
  have replied := Backlog.replies_queue ⟨q.pending⟩ calls
  have left := Backlog.after_queue ⟨q.pending⟩ calls
  rw [Backlog.queue_pending] at replied left
  rw [left]
  exact ⟨replied, List.length_mergeSort _⟩

end ModalEdit
