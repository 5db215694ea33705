import ModalEdit.Proofs.Editor.Repetition
import ModalEdit.Proofs.Text.LineList

/-! # Reaching the bounds of a line in visual mode

In visual mode the motions to the head and to the tail of a line are walks by characters, of as many
steps as the moving end is away from that bound (`toLineHead_eq_walk`, `toLineTail_eq_walk`).  Steps
that are too many are refused at the bound, so they do no harm.

The walk to the head is never too short.  The walk to the tail takes no step if the moving end is one
position before the tail.  That is right where the moving end is on the last character.  Where the ends
lie ahead, it is behind the last character but one, and the last one is missed (`StopsShort`).  From
everywhere else the tail is reached (`line_reach_law`).
-/

namespace ModalEdit

namespace CharMotion

/-- The single steps that motions with counts stand for. -/
def steps (motions : List (CharMotion × Nat)) : List CharMotion :=
  motions.flatMap fun motion => List.replicate (max motion.2 1) motion.1

/-- A walk has come to the last character but one, with the cursor behind it. -/
def StopsShort (cs : Text) (c : Nat) (motions : List CharMotion) : Prop :=
  side cs c motions = .ahead ∧ reached cs c motions + 2 = cs.lineEnd c

theorem action_mem_motions (motion : CharMotion) : motion.action ∈ Action.motions := by
  cases motion with
  | next => decide
  | prev => decide

theorem map_action_steps (motions : List (CharMotion × Nat)) :
    (steps motions).map action = Action.steps (motions.map (Prod.map action id)) := by
  have repeats : ∀ (motion : CharMotion) (count : Nat), motion.action.repeats count = max count 1 := by
    intro motion count
    cases motion with
    | next => rfl
    | prev => rfl
  simp only [steps, Action.steps, List.map_flatMap, List.flatMap_map, List.map_replicate, Prod.map,
    repeats, id]

section Target

variable {cs : Text} {c m : Nat}

theorem foldl_target_replicate_prev (first : cs.lineStart c ≤ m) (n : Nat) :
    (List.replicate n prev).foldl (target cs c) m = max (m - n) (cs.lineStart c) := by
  induction n with
  | zero => exact (Nat.max_eq_left first).symm
  | succ n ih =>
    rw [List.replicate_succ', List.foldl_append, ih]
    simp only [List.foldl_cons, List.foldl_nil, target]
    omega

theorem foldl_target_replicate_next (last : m < cs.lineEnd c) (n : Nat) :
    (List.replicate n next).foldl (target cs c) m = min (m + n) (cs.lineEnd c - 1) := by
  induction n with
  | zero => exact (Nat.min_eq_left (Nat.le_sub_one_of_lt last)).symm
  | succ n ih =>
    rw [List.replicate_succ', List.foldl_append, ih]
    simp only [List.foldl_cons, List.foldl_nil, target]
    omega

end Target

end CharMotion

namespace Editor

variable {e d d' : Editor} {c m : Nat} {side : Side}

/-! ## Motions with counts -/

def travel (e : Editor) (motions : List (CharMotion × Nat)) : Editor :=
  motions.foldl (fun d motion => d.run motion.1.action motion.2) e

theorem travel_eq_runAll (d : Editor) (motions : List (CharMotion × Nat)) :
    d.travel motions = d.runAll (motions.map (Prod.map CharMotion.action id)) := by
  rw [runAll, List.foldl_map]
  rfl

theorem walk_eq_runEach (d : Editor) (motions : List CharMotion) :
    d.walk motions = d.runEach (motions.map CharMotion.action) := by
  rw [runEach, List.foldl_map]
  rfl

/-- Motions with counts are a walk of so many steps. -/
theorem refocused_travel (d : Editor) (motions : List (CharMotion × Nat)) :
    (d.travel motions).Refocused (d.walk (CharMotion.steps motions)) := by
  rw [travel_eq_runAll, walk_eq_runEach, CharMotion.map_action_steps]
  apply refocused_runAll
  intro motion member
  obtain ⟨motion, _, rfl⟩ := List.mem_map.mp member
  exact motion.1.action_mem_motions

/-- Where a walk has come to does not depend on requests for the focus. -/
theorem Walking.of_refocused (h : Walking e c m side d') (same : d.Refocused d') :
    Walking e c m side d := by
  obtain ⟨_, rfl⟩ := same
  refine ⟨⟨h.visual, h.units_eq⟩, h.lineStart_le, h.lt_lineEnd, ?_⟩
  cases h.ends with
  | resting anchor cursor selected here => exact .resting anchor cursor selected here
  | ahead anchor cursor selected beyond => exact .ahead anchor cursor selected beyond
  | behind anchor cursor selected before => exact .behind anchor cursor selected before

theorem walking_travel_toggleVisual (normal : e.modal.mode = .normal)
    (selected : e.widget.selection = ⟨c, c + 1⟩) (inner : c + 1 < e.chars.lineEnd c)
    (motions : List (CharMotion × Nat)) :
    Walking e c (CharMotion.reached e.chars c (CharMotion.steps motions))
      (CharMotion.side e.chars c (CharMotion.steps motions))
      ((e.run .toggleVisual 1).travel motions) :=
  (walking_walk_toggleVisual normal selected inner _).of_refocused (refocused_travel _ motions)

/-! ## Line motions as walks -/

theorem toLineHead_eq_walk (visual : d.inVisual = true) :
    d.toLineHead =
      d.walk (List.replicate (d.movingEnd - d.chars.lineStart d.movingEnd) .prev) := by
  rw [toLineHead, if_pos visual, walk_replicate]
  rfl

theorem toLineTail_eq_walk (visual : d.inVisual = true) :
    let pos := d.movingEnd
    let tail := d.chars.lineEnd pos
    d.toLineTail =
      d.walk (List.replicate ((if pos + 1 = tail then tail - 1 else tail) - pos) .next) := by
  intro pos tail
  rw [toLineTail, if_pos visual, walk_replicate]
  rfl

namespace Walking

/-- The moving end is behind the character of the walk only if the ends lie ahead. -/
theorem movingEnd_eq (h : Walking e c m side d) :
    d.movingEnd = if side = .ahead then m + 1 else m := by
  cases h.ends with
  | resting _ cursor selected here =>
    rw [movingEnd_of_none cursor, caret_of_selection selected, here]
    rfl
  | ahead _ cursor _ _ => exact movingEnd_of_some h.inVisual cursor
  | behind _ cursor _ _ => exact movingEnd_of_some h.inVisual cursor

/-- The moving end is on the line where the walk began, or at its end. -/
theorem bounds_movingEnd (h : Walking e c m side d) :
    d.chars.lineStart d.movingEnd = e.chars.lineStart c ∧
      d.chars.lineEnd d.movingEnd = e.chars.lineEnd c := by
  obtain ⟨above, line, below, here⟩ := Text.exists_lineAt e.chars c
  have first := h.lineStart_le
  have last := h.lt_lineEnd
  have there : Text.LineAt e.chars d.movingEnd above line below := by
    rw [h.movingEnd_eq]
    split
    · exact here.of_between (Nat.le_succ_of_le first) last
    · exact here.of_between first (Nat.le_of_lt last)
  rw [h.chars_eq]
  exact ⟨there.start.trans here.start.symm, there.stop.trans here.stop.symm⟩

/-- The moving end is never before its character, so there are always steps enough. -/
theorem selection_toLineHead (h : Walking e c m side d) (inner : c + 1 < e.chars.lineEnd c) :
    d.toLineHead.widget.selection = ⟨e.chars.lineStart c, c + 1⟩ := by
  have first := h.lineStart_le
  have start := e.chars.lineStart_le c
  have enough : m - (d.movingEnd - e.chars.lineStart c) ≤ e.chars.lineStart c := by
    rw [h.movingEnd_eq]
    split
    · omega
    · omega
  rw [toLineHead_eq_walk h.inVisual, h.bounds_movingEnd.1, (h.walk inner _).ends.selection_eq,
    CharMotion.foldl_target_replicate_prev first, Nat.max_eq_right enough, Nat.min_eq_right start,
    Nat.max_eq_left start]

theorem selection_toLineTail (h : Walking e c m side d) (inner : c + 1 < e.chars.lineEnd c)
    (reaches : ¬(side = .ahead ∧ m + 2 = e.chars.lineEnd c)) :
    d.toLineTail.widget.selection = ⟨c, e.chars.lineEnd c⟩ := by
  have last := h.lt_lineEnd
  have enough : e.chars.lineEnd c - 1 ≤ m +
      ((if d.movingEnd + 1 = e.chars.lineEnd c then e.chars.lineEnd c - 1
        else e.chars.lineEnd c) - d.movingEnd) := by
    rw [h.movingEnd_eq]
    by_cases ahead : side = .ahead
    · rw [if_pos ahead, if_neg fun short => reaches ⟨ahead, short⟩]
      omega
    · rw [if_neg ahead]
      split
      · omega
      · omega
  rw [toLineTail_eq_walk h.inVisual, h.bounds_movingEnd.2, (h.walk inner _).ends.selection_eq,
    CharMotion.foldl_target_replicate_next last, Nat.min_eq_right enough,
    Nat.min_eq_left (by omega), Nat.max_eq_right (by omega), Nat.sub_add_cancel (by omega)]

/-- Before the last character there is no step left to take, if the moving end counts. -/
theorem toLineTail_of_short (h : Walking e c m .ahead d) (short : m + 2 = e.chars.lineEnd c) :
    d.toLineTail = d := by
  have pos : d.movingEnd = m + 1 := h.movingEnd_eq
  have none : e.chars.lineEnd c - 1 - (m + 1) = 0 := by omega
  rw [toLineTail_eq_walk h.inVisual, h.bounds_movingEnd.2, pos, if_pos short, none]
  rfl

end Walking

/-! ## The law -/

/-- In visual mode the head of the line is reached from every character of it, and so is the tail,
    unless the walk before stops short of it. -/
theorem line_reach_law (normal : e.modal.mode = .normal)
    (selected : e.widget.selection = ⟨c, c + 1⟩) (inner : c + 1 < e.chars.lineEnd c)
    (motions : List (CharMotion × Nat)) (count : Nat) :
    let d := (e.run .toggleVisual 1).travel motions
    let short := CharMotion.StopsShort e.chars c (CharMotion.steps motions)
    (d.run .lineHead count).widget.selection = ⟨e.chars.lineStart c, c + 1⟩ ∧
      (¬short → (d.run .lineTail count).widget.selection = ⟨c, e.chars.lineEnd c⟩) ∧
      (short → d.run .lineTail count = d ∧ d.widget.selection = ⟨c, e.chars.lineEnd c - 1⟩) := by
  intro d short
  have here := walking_travel_toggleVisual normal selected inner motions
  refine ⟨here.selection_toLineHead inner, here.selection_toLineTail inner, fun stops => ?_⟩
  obtain ⟨ahead, last⟩ := stops
  rw [ahead] at here
  refine ⟨here.toLineTail_of_short last, ?_⟩
  rw [here.ends.selection_eq, ← last, Nat.min_eq_left (by omega), Nat.max_eq_right (by omega)]
  rfl

/-- From the second character of the line `cdef`, back by one and then forward to the last but one:
    from there the head is reached, and the tail is not. -/
theorem line_reach_law_of_last_but_one :
    let e : Editor :=
      { modal := {}
        widget :=
          { segmentation := .clusters
            text := ['a', lineBreak, 'c', 'd', 'e', 'f', lineBreak, 'g']
            selection := ⟨3, 4⟩ }
        register := {}
        history := .ofLimit 1 }
    let motions := [(CharMotion.prev, 3), (.next, 2)]
    e.modal.mode = .normal ∧ e.widget.selection = ⟨3, 4⟩ ∧ 4 < e.chars.lineEnd 3 ∧
      (((e.run .toggleVisual 1).travel motions).run .lineHead 1).widget.selection = ⟨2, 4⟩ ∧
      (((e.run .toggleVisual 1).travel [(.prev, 3)]).run .lineTail 1).widget.selection = ⟨3, 6⟩ ∧
      ((e.run .toggleVisual 1).travel motions).run .lineTail 1 =
        (e.run .toggleVisual 1).travel motions ∧
      ((e.run .toggleVisual 1).travel motions).widget.selection = ⟨3, 5⟩ := by
  intro e motions
  have normal : e.modal.mode = .normal := rfl
  have selected : e.widget.selection = ⟨3, 4⟩ := rfl
  have inner : 4 < e.chars.lineEnd 3 := by decide
  have short : CharMotion.StopsShort e.chars 3 (CharMotion.steps motions) :=
    ⟨by decide, by decide⟩
  have reaches : ¬CharMotion.StopsShort e.chars 3 (CharMotion.steps [(.prev, 3)]) :=
    fun stops => absurd stops.1 (by decide)
  obtain ⟨head, _, stops⟩ := line_reach_law normal selected inner motions 1
  obtain ⟨_, tail, _⟩ := line_reach_law normal selected inner [(.prev, 3)] 1
  obtain ⟨steady, spanned⟩ := stops short
  exact ⟨normal, selected, inner, head, tail reaches, steady, spanned⟩

/-- The second character of three is the last but one, and the tail is not reached from there. -/
theorem not_always_at_line_tail :
    ¬∀ {e : Editor} {c : Nat}, e.modal.mode = .normal → e.widget.selection = ⟨c, c + 1⟩ →
      c + 1 < e.chars.lineEnd c → ∀ motions : List CharMotion,
        (((e.run .toggleVisual 1).walk motions).run .lineTail 1).widget.selection =
          ⟨c, e.chars.lineEnd c⟩ := by
  intro reaches
  let e : Editor :=
    { modal := {}
      widget := { Widget.ofText .scalars ['a', 'b', 'c'] with selection := ⟨0, 1⟩ }
      register := {}
      history := .ofLimit 1 }
  have tail := @reaches e 0 rfl rfl (by decide) [.next]
  exact absurd tail (by decide)

end Editor

end ModalEdit
