import Mathlib.Data.List.Induction
import Mathlib.Data.List.TakeWhile
import Mathlib.Data.Nat.Find
import ModalEdit.Proofs.Engine.Timers

/-! # When timers fire

What becomes of each timer that is handed to a queue, whatever calls are made and whichever way the clock
goes (`timer_law`).  It fires once, at the first instant at which the queue is asked behind its scheduling
and it is due, or it is still pending.  Timers that fire together do so by their due times, and those that
are due together in the order in which they were scheduled.

Two timers may look the same, so a timer is told by its number: the place of the call that scheduled it.
`Arranges` puts numbers to a list of timers, and says which of them the list holds and how they are
ordered.

As the queue is ordered, to ask it twice is to ask it once, and the timers that fire then do not see the
queue.  So it makes no difference to the engine either how often it is asked.
-/

namespace ModalEdit

inductive TimerCall
  | schedule (t : Timer)
  | takeDue (now : Nat)

namespace TimerQueue

/-- What a call replies, and the queue behind it. -/
def call (q : TimerQueue) : TimerCall → List Timer × TimerQueue
  | .schedule t => ([], q.schedule t)
  | .takeDue now => q.takeDue now

def after (q : TimerQueue) (calls : List TimerCall) : TimerQueue :=
  calls.foldl (fun q c => (q.call c).2) q

/-- What each of the calls replies. -/
def replies (q : TimerQueue) : List TimerCall → List (List Timer)
  | [] => []
  | c :: calls => (q.call c).1 :: (q.call c).2.replies calls

theorem after_concat (q : TimerQueue) (calls : List TimerCall) (c : TimerCall) :
    q.after (calls ++ [c]) = ((q.after calls).call c).2 := by
  rw [after, List.foldl_append]
  rfl

/-- A call finds the queue that the calls before it have left. -/
theorem getElem?_replies (q : TimerQueue) (calls : List TimerCall) (j : Nat) :
    (q.replies calls)[j]? = calls[j]?.map fun c => ((q.after (calls.take j)).call c).1 := by
  induction calls generalizing q j with
  | nil => rfl
  | cons c calls ih =>
    cases j with
    | zero => rfl
    | succ j => exact ih (q.call c).2 j

end TimerQueue

/-! ## The timers of a run -/

section Calls

variable {calls : List TimerCall} {i j : Nat} {t u : Timer} {now : Nat}

/-- The timer that the call `i` scheduled has not been taken: the queue was not asked for it when it
    was due. -/
structure Waits (calls : List TimerCall) (i : Nat) (t : Timer) : Prop where
  scheduled : calls[i]? = some (.schedule t)
  early : ∀ k now, i < k → calls[k]? = some (.takeDue now) → now < t.due

/-- The call `j` is the first behind the call `i` that asks for the timer scheduled there when it is
    due. -/
structure FiresAt (calls : List TimerCall) (i : Nat) (t : Timer) (j : Nat) : Prop where
  scheduled : calls[i]? = some (.schedule t)
  later : i < j
  due : ∃ now, calls[j]? = some (.takeDue now) ∧ t.due ≤ now
  first : ∀ k now, i < k → k < j → calls[k]? = some (.takeDue now) → now < t.due

theorem Waits.lt_length (waits : Waits calls i t) : i < calls.length :=
  (List.getElem?_eq_some_iff.mp waits.scheduled).1

theorem waits_concat_schedule :
    Waits (calls ++ [.schedule u]) i t ↔ Waits calls i t ∨ (i = calls.length ∧ t = u) := by
  constructor
  · intro waits
    have inside := waits.lt_length
    rw [List.length_append, List.length_singleton] at inside
    by_cases old : i < calls.length
    · refine .inl ⟨?_, fun k now behind asked => ?_⟩
      · rw [← waits.scheduled, List.getElem?_append_left old]
      · apply waits.early k now behind
        rw [List.getElem?_append_left (List.getElem?_eq_some_iff.mp asked).1, asked]
    · have last : i = calls.length := by omega
      have scheduled := waits.scheduled
      rw [last, List.getElem?_concat_length, Option.some.injEq, TimerCall.schedule.injEq] at scheduled
      exact .inr ⟨last, scheduled.symm⟩
  · rintro (waits | ⟨rfl, rfl⟩)
    · refine ⟨?_, fun k now behind asked => ?_⟩
      · rw [List.getElem?_append_left waits.lt_length, waits.scheduled]
      · by_cases old : k < calls.length
        · rw [List.getElem?_append_left old] at asked
          exact waits.early k now behind asked
        · rw [List.getElem?_append_right (Nat.le_of_not_lt old), List.getElem?_singleton] at asked
          split at asked
          · cases asked
          · cases asked
    · refine ⟨List.getElem?_concat_length, fun k now behind asked => ?_⟩
      -- Nothing stands behind the call that scheduled it.
      rw [List.getElem?_eq_none (by simp; omega)] at asked
      cases asked

theorem waits_concat_takeDue :
    Waits (calls ++ [.takeDue now]) i t ↔ Waits calls i t ∧ now < t.due := by
  constructor
  · intro waits
    have inside := waits.lt_length
    rw [List.length_append, List.length_singleton] at inside
    have old : i < calls.length := by
      refine Nat.lt_of_le_of_ne (Nat.le_of_lt_succ inside) fun last => ?_
      have scheduled := waits.scheduled
      rw [last, List.getElem?_concat_length] at scheduled
      cases scheduled
    refine ⟨⟨?_, fun k instant behind asked => ?_⟩, waits.early _ now old List.getElem?_concat_length⟩
    · rw [← waits.scheduled, List.getElem?_append_left old]
    · apply waits.early k instant behind
      rw [List.getElem?_append_left (List.getElem?_eq_some_iff.mp asked).1, asked]
  · rintro ⟨waits, undue⟩
    refine ⟨?_, fun k instant behind asked => ?_⟩
    · rw [List.getElem?_append_left waits.lt_length, waits.scheduled]
    · by_cases old : k < calls.length
      · rw [List.getElem?_append_left old] at asked
        exact waits.early k instant behind asked
      · rw [List.getElem?_append_right (Nat.le_of_not_lt old), List.getElem?_singleton] at asked
        split at asked
        · cases asked
          exact undue
        · cases asked

/-- A timer fires if it is due when the queue is asked, and was waiting before. -/
theorem firesAt_iff :
    FiresAt calls i t j ↔
      ∃ now, calls[j]? = some (.takeDue now) ∧ t.due ≤ now ∧ Waits (calls.take j) i t := by
  constructor
  · intro fires
    obtain ⟨now, asked, due⟩ := fires.due
    refine ⟨now, asked, due, ?_, fun k instant behind before => ?_⟩
    · rw [List.getElem?_take_of_lt fires.later, fires.scheduled]
    · rw [List.getElem?_take] at before
      split at before
      · next earlier => exact fires.first k instant behind earlier before
      · cases before
  · rintro ⟨now, asked, due, waits⟩
    have later : i < j := by
      have inside := waits.lt_length
      rw [List.length_take] at inside
      omega
    refine ⟨?_, later, ⟨now, asked, due⟩, fun k instant behind earlier before => ?_⟩
    · rw [← waits.scheduled, List.getElem?_take_of_lt later]
    · apply waits.early k instant behind
      rw [List.getElem?_take_of_lt earlier, before]

theorem FiresAt.unique {j' : Nat} (fires : FiresAt calls i t j) (again : FiresAt calls i t j') :
    j' = j := by
  obtain ⟨now, asked, due⟩ := fires.due
  obtain ⟨now', asked', due'⟩ := again.due
  obtain before | same | behind := Nat.lt_trichotomy j' j
  · exact absurd (fires.first j' now' again.later before asked') (Nat.not_lt_of_le due')
  · exact same
  · exact absurd (again.first j now fires.later behind asked) (Nat.not_lt_of_le due)

/-- Of a timer that no longer waits there is a first call that asked for it when it was due. -/
theorem exists_firesAt (scheduled : calls[i]? = some (.schedule t)) (taken : ¬Waits calls i t) :
    ∃ j, FiresAt calls i t j := by
  have asked : ∃ j, i < j ∧ ∃ now, calls[j]? = some (.takeDue now) ∧ t.due ≤ now := by
    by_contra never
    refine taken ⟨scheduled, fun k now behind asked => Nat.lt_of_not_le fun due => never ?_⟩
    exact ⟨k, behind, now, asked, due⟩
  classical
  obtain ⟨later, due⟩ := Nat.find_spec asked
  refine ⟨Nat.find asked, scheduled, later, due, fun k now behind earlier again => ?_⟩
  exact Nat.lt_of_not_le fun due' => Nat.find_min asked earlier ⟨behind, now, again, due'⟩

/-- A timer fires at one call only, or it waits, and not both. -/
theorem fires_or_waits (scheduled : calls[i]? = some (.schedule t)) :
    Xor (∃! j, FiresAt calls i t j) (Waits calls i t) := by
  by_cases waits : Waits calls i t
  · refine .inr ⟨waits, ?_⟩
    rintro ⟨j, fires, _⟩
    obtain ⟨now, asked, due⟩ := fires.due
    exact absurd (waits.early j now fires.later asked) (Nat.not_lt_of_le due)
  · obtain ⟨j, fires⟩ := exists_firesAt scheduled waits
    exact .inl ⟨⟨j, fires, fun _ again => fires.unique again⟩, waits⟩

end Calls

/-! ## The order of a list of timers -/

/-- Of two numbered timers, the first one is due earlier, or as early and was scheduled earlier. -/
def FiresBefore (x y : Nat × Timer) : Prop :=
  x.2.due < y.2.due ∨ x.2.due = y.2.due ∧ x.1 < y.1

theorem FiresBefore.due_le {x y : Nat × Timer} (before : FiresBefore x y) : x.2.due ≤ y.2.due := by
  cases before with
  | inl earlier => exact Nat.le_of_lt earlier
  | inr together => exact Nat.le_of_eq together.1

/-- The list holds the timers that `P` tells of, with their numbers, each of them once and in the order
    in which they fire. -/
def Arranges (P : Nat → Timer → Prop) (ts : List Timer) : Prop :=
  ∃ numbered : List (Nat × Timer), numbered.map Prod.snd = ts ∧ numbered.Pairwise FiresBefore ∧
    ∀ i t, (i, t) ∈ numbered ↔ P i t

namespace Arranges

variable {P Q : Nat → Timer → Prop} {ts : List Timer}

theorem congr (same : ∀ i t, P i t ↔ Q i t) (h : Arranges P ts) : Arranges Q ts := by
  obtain ⟨numbered, timers, ordered, members⟩ := h
  exact ⟨numbered, timers, ordered, fun i t => (members i t).trans (same i t)⟩

theorem nil (none : ∀ i t, ¬P i t) : Arranges P [] :=
  ⟨[], rfl, .nil, fun i t =>
    ⟨fun member => absurd member List.not_mem_nil, fun one => absurd one (none i t)⟩⟩

theorem filter (h : Arranges P ts) (p : Timer → Bool) :
    Arranges (fun i t => P i t ∧ p t = true) (ts.filter p) := by
  obtain ⟨numbered, rfl, ordered, members⟩ := h
  refine ⟨numbered.filter (p ∘ Prod.snd), List.filter_map.symm, ordered.filter _, fun i t => ?_⟩
  rw [List.mem_filter, members]
  rfl

/-- What stands behind the timers that are due by then is due later. -/
theorem due_lt_of_mem_dropWhile {numbered : List (Nat × Timer)} (ordered : numbered.Pairwise FiresBefore)
    {due : Nat} : ∀ x ∈ numbered.dropWhile (fun x => decide (x.2.due ≤ due)), due < x.2.due := by
  induction ordered with
  | nil =>
    intro x member
    cases member
  | @cons x numbered before ordered ih =>
    intro y member
    by_cases early : x.2.due ≤ due
    · rw [List.dropWhile_cons_of_pos (by simpa using early)] at member
      exact ih y member
    · have late := Nat.lt_of_not_le early
      rw [List.dropWhile_cons_of_neg (by simpa using late)] at member
      cases member with
      | head => exact late
      | tail _ member => exact Nat.lt_of_lt_of_le late (before y member).due_le

/-- A timer that is newer than all others finds its place behind those that are due no later. -/
theorem schedule {q : TimerQueue} (h : Arranges P q.pending) {n : Nat} (older : ∀ i t, P i t → i < n)
    (u : Timer) : Arranges (fun i t => P i t ∨ (i = n ∧ t = u)) (q.schedule u).pending := by
  obtain ⟨numbered, timers, ordered, members⟩ := h
  let early : Nat × Timer → Bool := fun x => decide (x.2.due ≤ u.due)
  have whole := List.takeWhile_append_dropWhile (p := early) (l := numbered)
  have inFront : ∀ x ∈ numbered.takeWhile early, FiresBefore x (n, u) := by
    intro x member
    have due : x.2.due ≤ u.due := by simpa [early] using List.mem_takeWhile_imp member
    have old := older x.1 x.2 ((members _ _).mp ((List.takeWhile_sublist _).subset member))
    cases Nat.lt_or_eq_of_le due with
    | inl earlier => exact .inl earlier
    | inr together => exact .inr ⟨together, old⟩
  have behind : ∀ x ∈ numbered.dropWhile early, FiresBefore (n, u) x :=
    fun x member => .inl (due_lt_of_mem_dropWhile ordered x member)
  refine ⟨numbered.takeWhile early ++ (n, u) :: numbered.dropWhile early, ?_, ?_, fun i t => ?_⟩
  · show _ = u.placedIn q.pending
    rw [Timer.placedIn, ← timers, List.takeWhile_map, List.dropWhile_map, List.map_append, List.map_cons]
    rfl
  · rw [← whole] at ordered
    obtain ⟨front, back, across⟩ := List.pairwise_append.mp ordered
    refine List.pairwise_append.mpr ⟨front, List.pairwise_cons.mpr ⟨behind, back⟩, ?_⟩
    intro x first y second
    cases second with
    | head => exact inFront x first
    | tail _ second => exact across x first y second
  · show _ ↔ P i t ∨ (i = n ∧ t = u)
    have split : (i, t) ∈ numbered ↔
        (i, t) ∈ numbered.takeWhile early ∨ (i, t) ∈ numbered.dropWhile early := by
      rw [← List.mem_append, whole]
    rw [← members, split, List.mem_append, List.mem_cons, Prod.mk.injEq]
    constructor
    · rintro (front | new | back)
      · exact .inl (.inl front)
      · exact .inr new
      · exact .inl (.inr back)
    · rintro ((front | back) | new)
      · exact .inl front
      · exact .inr (.inr back)
      · exact .inr (.inl new)

end Arranges

/-! ## The queue of a run -/

/-- After any calls the queue holds the timers that wait, in the order in which they will fire. -/
theorem arranges_after (calls : List TimerCall) :
    Arranges (Waits calls) (TimerQueue.after {} calls).pending := by
  induction calls using List.reverseRecOn with
  | nil =>
    refine .nil fun i t waits => ?_
    exact absurd waits.lt_length (Nat.not_lt_zero i)
  | append_singleton calls c ih =>
    rw [TimerQueue.after_concat]
    cases c with
    | schedule u =>
      have placed := ih.schedule (fun i t waits => waits.lt_length) u
      exact placed.congr fun i t => waits_concat_schedule.symm
    | takeDue now =>
      refine (ih.filter fun t => !decide (t.due ≤ now)).congr fun i t => ?_
      rw [waits_concat_takeDue]
      simp

/-- A timer that is due no earlier than the others goes behind them. -/
theorem TimerQueue.schedule_of_last {q : TimerQueue} {t : Timer}
    (last : ∀ u ∈ q.pending, u.due ≤ t.due) : (q.schedule t).pending = q.pending ++ [t] := by
  have before : ∀ u ∈ q.pending, decide (u.due ≤ t.due) = true :=
    fun u pending => decide_eq_true (last u pending)
  show t.placedIn q.pending = _
  rw [Timer.placedIn, List.takeWhile_eq_self_iff.mpr before, List.dropWhile_eq_nil_iff.mpr before]

/-- Any queue can be come by: it is what its own timers make if they are scheduled one by one. -/
theorem TimerQueue.eq_after_schedule (q : TimerQueue) : q = .after {} (q.pending.map .schedule) := by
  obtain ⟨ts, inOrder⟩ := q
  apply TimerQueue.ext
  induction ts using List.reverseRecOn with
  | nil => rfl
  | append_singleton ts t ih =>
    obtain ⟨front, _, last⟩ := List.pairwise_append.mp inOrder
    have placed := (after {} (ts.map .schedule)).schedule_of_last (t := t)
    rw [← ih front] at placed
    show ts ++ [t] = (after {} ((ts ++ [t]).map .schedule)).pending
    rw [List.map_append, List.map_singleton, after_concat]
    exact (placed fun u member => last u member t List.mem_cons_self).symm

/-- The reply of a call holds the timers that fire at it, in order. -/
theorem exists_reply (calls : List TimerCall) {j : Nat} (inside : j < calls.length) :
    ∃ ts, (TimerQueue.replies {} calls)[j]? = some ts ∧
      Arranges (fun i t => FiresAt calls i t j) ts := by
  rw [TimerQueue.getElem?_replies, List.getElem?_eq_getElem inside]
  refine ⟨_, rfl, ?_⟩
  cases asked : calls[j] with
  | schedule u =>
    refine .nil fun i t fires => ?_
    obtain ⟨now, other, _⟩ := fires.due
    rw [List.getElem?_eq_getElem inside, asked] at other
    cases other
  | takeDue now =>
    refine ((arranges_after (calls.take j)).filter fun t => decide (t.due ≤ now)).congr fun i t => ?_
    rw [firesAt_iff, List.getElem?_eq_getElem inside, asked]
    simp [and_comm]

/-- The timers that are due at the later of two instants are those due at the earlier one, and then
    those of the rest. -/
theorem filter_due_append {ts : List Timer} (ordered : Timer.InOrder ts) {now later : Nat}
    (le : now ≤ later) :
    ts.filter (fun t => decide (t.due ≤ now)) ++
        (ts.filter (fun t => !decide (t.due ≤ now))).filter (fun t => decide (t.due ≤ later)) =
      ts.filter (fun t => decide (t.due ≤ later)) := by
  induction ordered with
  | nil => rfl
  | @cons t ts before ordered ih =>
    by_cases due : t.due ≤ now
    · rw [List.filter_cons_of_pos (by simpa using due), List.filter_cons_of_neg (by simpa using due),
        List.filter_cons_of_pos (by simpa using Nat.le_trans due le), List.cons_append, ih]
    -- From here on nothing is due at the earlier instant.
    · have undue : ∀ u ∈ t :: ts, ¬u.due ≤ now := by
        intro u member due'
        exact due (Nat.le_trans (Timer.InOrder.due_le (.cons before ordered) member) due')
      have none : (t :: ts).filter (fun t => decide (t.due ≤ now)) = [] :=
        List.filter_eq_nil_iff.mpr fun u member => by simpa using undue u member
      have all : (t :: ts).filter (fun t => !decide (t.due ≤ now)) = t :: ts :=
        List.filter_eq_self.mpr fun u member => by simpa using undue u member
      rw [none, all, List.nil_append]

theorem TimerQueue.takeDue_takeDue (q : TimerQueue) {now later : Nat} (le : now ≤ later) :
    (q.takeDue now).1 ++ ((q.takeDue now).2.takeDue later).1 = (q.takeDue later).1 ∧
      ((q.takeDue now).2.takeDue later).2 = (q.takeDue later).2 := by
  refine ⟨filter_due_append q.inOrder le, ?_⟩
  simp only [takeDue, TimerQueue.mk.injEq, List.filter_filter]
  refine List.filter_congr fun t _ => ?_
  by_cases undue : t.due ≤ later
  · simp [undue]
  · have undue' : ¬t.due ≤ now := fun due => undue (Nat.le_trans due le)
    simp [undue, undue']

/-- To run the timers at two instants is to run them at the later one. -/
theorem Engine.pollTimers_pollTimers (e : Engine) (w : Widget) {now later : Nat} (le : now ≤ later) :
    ((e.pollTimers w now).2.1.pollTimers (e.pollTimers w now).2.2 later).2 =
        (e.pollTimers w later).2 ∧
      (e.pollTimers w now).1 +
          ((e.pollTimers w now).2.1.pollTimers (e.pollTimers w now).2.2 later).1 =
        (e.pollTimers w later).1 := by
  obtain ⟨due, left⟩ := e.timers.takeDue_takeDue le
  simp only [pollTimers_eq, fireAll_withTimers]
  rw [left, ← due, fireAll_append, List.length_append]
  exact ⟨rfl, rfl⟩

/-! ## The law -/

/-- Whatever calls are made to a queue, each timer fires at the first call that asks for it when it is
    due, or is still pending; those that fire together do so by their due times and then in the order in
    which they were scheduled.  And it makes no difference to an engine whether the timers are also run at
    some earlier instant. -/
theorem timer_law (calls : List TimerCall) :
    (∀ j < calls.length, ∃ ts, (TimerQueue.replies {} calls)[j]? = some ts ∧
        Arranges (fun i t => FiresAt calls i t j) ts) ∧
      Arranges (Waits calls) (TimerQueue.after {} calls).pending ∧
      (∀ i t, calls[i]? = some (.schedule t) →
        Xor (∃! j, FiresAt calls i t j) (Waits calls i t)) ∧
      ∀ (e : Engine) (w : Widget) (now later : Nat), now ≤ later →
        let once := e.pollTimers w now
        let twice := once.2.1.pollTimers once.2.2 later
        twice.2 = (e.pollTimers w later).2 ∧ once.1 + twice.1 = (e.pollTimers w later).1 := by
  refine ⟨fun j inside => exists_reply calls inside, arranges_after calls,
    fun i t scheduled => fires_or_waits scheduled, fun e w now later le => ?_⟩
  exact e.pollTimers_pollTimers w le

/-- Two timers that fall due together fire in the order of their scheduling.  Then the clock is set back,
    and one that is scheduled later is due and fires before the first of all, which waits. -/
theorem timer_law_of_clock_set_back :
    let slow : Timer := ⟨100, 1, .enterInsert⟩
    let repair : Timer := ⟨50, 1, .repairAfterReplace⟩
    let other : Timer := ⟨50, 2, .enterInsert⟩
    let late : Timer := ⟨30, 1, .repairAfterReplace⟩
    let calls : List TimerCall :=
      [.schedule slow, .schedule repair, .schedule other, .takeDue 60, .takeDue 20, .schedule late,
        .takeDue 40]
    let e : Engine := { Engine.standard with timers := .after {} calls }
    3 < calls.length ∧ Arranges (fun i t => FiresAt calls i t 3) [repair, other] ∧
      6 < calls.length ∧ Arranges (fun i t => FiresAt calls i t 6) [late] ∧
      Arranges (Waits calls) [slow] ∧ calls[0]? = some (.schedule slow) ∧
      Xor (∃! j, FiresAt calls 0 slow j) (Waits calls 0 slow) ∧
      90 ≤ 110 ∧
      ∀ w : Widget,
        ((e.pollTimers w 90).2.1.pollTimers (e.pollTimers w 90).2.2 110).2 =
          (e.pollTimers w 110).2 := by
  intro slow repair other late calls e
  obtain ⟨replied, pending, fate, polled⟩ := timer_law calls
  obtain ⟨ts, reply, together⟩ := replied 3 (by decide)
  cases reply
  obtain ⟨ts, reply, alone⟩ := replied 6 (by decide)
  cases reply
  have left : (TimerQueue.after {} calls).pending = [slow] := rfl
  rw [left] at pending
  exact ⟨by decide, together, by decide, alone, pending, rfl, fate 0 slow rfl, by decide,
    fun w => (polled e w 90 110 (by decide)).1⟩

end ModalEdit
