import Mathlib.Data.List.Induction
import ModalEdit.Router

/-! # Runs of a router

A router from the time that it was made: keys are pressed on fields in any state and at any
instant, and now and then the router is told to forget.

What a press does is said once.  `Routes` lists what decides it, and `Follows` what becomes of
it if it gets as far as the chord memory.  Of the router itself only its memory and its count
ever change (`exists_run_eq`).
-/

namespace ModalEdit

/-- What a router is told: that a key is pressed on a field in some state, or to forget. -/
inductive RouterInput
  | press (event : KeyEvent) (now : Nat) (state : ModalState)
  | reset

/-! ## What the chord memory does -/

namespace ChordMemory

variable {previous : ChordMemory} {event : KeyEvent} {now : Nat} {window : Option Nat}

/-- A press makes a chord with the remembered key if it has no modifiers and comes in time. -/
theorem pair_fst_eq_some_iff {t : Trigger} :
    (previous.pair event now window).1 = some t ↔
      ∃ a pressed, previous = some (a, pressed) ∧ event.mods = .none ∧
        (∀ w, window = some w → Time.elapsed pressed now ≤ w) ∧ t = .chord a event.code := by
  unfold pair
  by_cases plain : event.mods = .none
  · rw [if_neg (not_not_intro plain)]
    cases previous with
    | none => simp
    | some p =>
      obtain ⟨a, pressed⟩ := p
      cases window with
      | none => simp [plain, eq_comm]
      | some w =>
        by_cases late : w < Time.elapsed pressed now
        · simp [late, Nat.not_le.mpr late]
        · simp [late, plain, Nat.not_lt.mp late, eq_comm]
  · rw [if_pos plain]
    simp [plain]

/-- A press without modifiers is remembered, unless it doubles the key before it. -/
theorem pair_snd_eq :
    (previous.pair event now window).2 =
      if event.mods = .none ∧
          (previous.pair event now window).1 ≠ some (.chord event.code event.code) then
        some (event.code, now)
      else none := by
  unfold pair
  by_cases plain : event.mods = .none
  · rw [if_neg (not_not_intro plain)]
    cases previous with
    | none => simp [plain]
    | some p =>
      obtain ⟨a, pressed⟩ := p
      dsimp only
      split
      · simp [plain]
      · by_cases double : a = event.code
        · simp [double]
        · simp [double, plain]
  · rw [if_pos plain]
    simp [plain]

end ChordMemory

namespace Router

variable (r : Router)

def feed : RouterInput → Router
  | .press event now state => (r.route event now state).2
  | .reset => r.reset

@[simp] theorem feed_press (event : KeyEvent) (now : Nat) (state : ModalState) :
    r.feed (.press event now state) = (r.route event now state).2 := rfl

@[simp] theorem feed_reset : r.feed .reset = r.reset := rfl

def run (inputs : List RouterInput) : Router := inputs.foldl feed r

@[simp] theorem run_nil : r.run [] = r := rfl

theorem run_append (inputs later : List RouterInput) :
    r.run (inputs ++ later) = (r.run inputs).run later := List.foldl_append

@[simp] theorem run_concat (inputs : List RouterInput) (i : RouterInput) :
    r.run (inputs ++ [i]) = (r.run inputs).feed i := by
  simp [run]

/-- The trigger that a press is resolved to, if it gets as far as the chord memory. -/
def resolved? (event : KeyEvent) (now : Nat) (state : ModalState) : Option Trigger :=
  match r.bypass? event.normalized state with
  | some _ => none
  | none => some (r.trigger event.normalized now).1

theorem trigger_fst (event : KeyEvent) (now : Nat) :
    (r.trigger event now).1 =
      ((r.previous.pair event now r.chordWindow).1.filter r.keymap.contains).getD
        (.key event.code) := rfl

theorem trigger_snd (event : KeyEvent) (now : Nat) :
    (r.trigger event now).2 =
      { r with previous := (r.previous.pair event now r.chordWindow).2 } := rfl

/-- A press triggers its own key, or the chord that it makes if that is bound. -/
theorem trigger_cases (event : KeyEvent) (now : Nat) :
    (r.trigger event now).1 = .key event.code ∨
      ∃ t, (r.trigger event now).1 = t ∧ (r.previous.pair event now r.chordWindow).1 = some t ∧
        r.keymap.contains t = true := by
  rw [trigger_fst]
  cases formed : (r.previous.pair event now r.chordWindow).1 with
  | none => exact .inl rfl
  | some t =>
    cases bound : r.keymap.contains t with
    | false => exact .inl (by simp [Option.filter, bound])
    | true => exact .inr ⟨t, by simp [Option.filter, bound], rfl, bound⟩

/-- A key in which no chord ends triggers itself. -/
theorem trigger_of_alone {event : KeyEvent}
    (alone : ∀ a, r.keymap.contains (.chord a event.code) = false) (now : Nat) :
    (r.trigger event now).1 = .key event.code := by
  rcases r.trigger_cases event now with key | ⟨t, _, formed, bound⟩
  · exact key
  · obtain ⟨a, _, _, _, _, rfl⟩ := ChordMemory.pair_fst_eq_some_iff.mp formed
    rw [alone a] at bound
    cases bound

/-! ## What decides a press -/

/-- The routes that keep a press from the chord memory without clearing it. -/
def aside : List Route := [.passthrough, .text, .replace, .rejected]

section Press

variable {r} {event : KeyEvent} {now : Nat} {state : ModalState} {route : Route}

theorem route_of_aside (decided : r.bypass? event.normalized state = some route)
    (beside : route ∈ aside) : r.route event now state = (route, r) := by
  rw [Router.route, decided]
  cases route with
  | escape => simp [aside] at beside
  | _ => rfl

theorem route_of_escape (decided : r.bypass? event.normalized state = some .escape) :
    r.route event now state = (.escape, r.reset) := by
  rw [Router.route, decided]

theorem route_of_reaches (reaches : r.bypass? event.normalized state = none) :
    r.route event now state =
      (r.trigger event.normalized now).2.follow (r.trigger event.normalized now).1
        event.normalized state.mode := by
  rw [Router.route, reaches]

theorem resolved?_of_reaches (reaches : r.bypass? event.normalized state = none) :
    r.resolved? event now state = some (r.trigger event.normalized now).1 := by
  rw [resolved?, reaches]

theorem bypass?_cases (decided : r.bypass? event state = some route) :
    route = .escape ∨ route ∈ aside := by
  unfold bypass? at decided
  -- The tests in their order: passing through, insert mode, replacing, composition, escape.
  split at decided
  · cases decided
    exact .inr (by simp [aside])
  · split at decided
    · split at decided
      · cases decided
        exact .inl rfl
      · cases decided
        exact .inr (by simp [aside])
    · split at decided
      · cases decided
        exact .inr (by simp [aside])
      · split at decided
        · cases decided
          exact .inr (by simp [aside])
        · split at decided
          · cases decided
            exact .inl rfl
          · cases decided

/-- Only keys that are commands reach the chord memory, and never the key that replaces a
    character. -/
theorem commands_of_reaches (reaches : r.bypass? event state = none) :
    state.mode.isCommandMode = true ∧ state.replacing = false := by
  unfold bypass? at reaches
  split at reaches
  · cases reaches
  · split at reaches
    · split at reaches
      · cases reaches
      · cases reaches
    · next commands =>
      split at reaches
      · cases reaches
      · next replacing =>
        exact ⟨by simpa using commands, by simpa using replacing⟩

end Press

/-! ## What becomes of a press that is not decided before -/

/-- The ways in which a trigger is followed: the route, and the router after it. -/
inductive Follows (t : Trigger) (event : KeyEvent) : Route → Router → Prop
  | digit {d : Nat} (counted : r.countDigit? t event.shifted = some d) :
      Follows t event .absorbed { r with count := some (pushDigit r.count d) }
  /-- The key may begin a chord, and the count waits for it. -/
  | opening (uncounted : r.countDigit? t event.shifted = none)
      (keeps : keepsCount t event.shifted = true) : Follows t event .unbound r
  | openingCommand (uncounted : r.countDigit? t event.shifted = none)
      (keeps : keepsCount t event.shifted = true) {d : Dispatch} (once : d.count = 1) :
      Follows t event (.dispatch d) { r with count := none }
  | unbound (uncounted : r.countDigit? t event.shifted = none)
      (keeps : keepsCount t event.shifted = false) :
      Follows t event .unbound { r with count := none }
  | command (uncounted : r.countDigit? t event.shifted = none)
      (keeps : keepsCount t event.shifted = false) {d : Dispatch}
      (repeated : d.count = max 1 (r.count.getD 1)) :
      Follows t event (.dispatch d) { r with count := none }

theorem lookup_cases (t : Trigger) (event : KeyEvent) (mode : Mode) (count : Nat) :
    r.lookup t event mode count = .unbound ∨
      ∃ d, r.lookup t event mode count = .dispatch d ∧ d.count = count := by
  unfold lookup
  cases r.keymap.get? t with
  | none => exact .inl rfl
  | some b =>
    dsimp only
    split
    · cases b.resolve event.mods with
      | none => exact .inl rfl
      | some action => exact .inr ⟨_, rfl, rfl⟩
    · exact .inl rfl

theorem follows_follow (t : Trigger) (event : KeyEvent) (mode : Mode) :
    r.Follows t event (r.follow t event mode).1 (r.follow t event mode).2 := by
  unfold follow
  cases counted : r.countDigit? t event.shifted with
  | some d => exact .digit counted
  | none =>
    dsimp only
    split
    · next keeps =>
      rcases r.lookup_cases t event mode 1 with found | ⟨d, found, once⟩
      · rw [found]
        exact .opening counted keeps
      · rw [found]
        exact .openingCommand counted keeps once
    · next keeps =>
      have keeps := Bool.eq_false_iff.mpr keeps
      rcases r.lookup_cases t event mode (max 1 (r.count.getD 1)) with found | ⟨d, found, repeated⟩
      · rw [found]
        exact .unbound counted keeps
      · rw [found]
        exact .command counted keeps repeated

/-- The ways in which a press is routed: the route, and the router after it. -/
inductive Routes (event : KeyEvent) (now : Nat) (state : ModalState) : Route → Router → Prop
  | aside {route : Route} (decided : r.bypass? event.normalized state = some route)
      (beside : route ∈ aside) : Routes event now state route r
  | escape (decided : r.bypass? event.normalized state = some .escape) :
      Routes event now state .escape r.reset
  | reaches (undecided : r.bypass? event.normalized state = none) {route : Route} {r' : Router}
      (follows : (r.trigger event.normalized now).2.Follows (r.trigger event.normalized now).1
        event.normalized route r') : Routes event now state route r'

theorem exists_routes (event : KeyEvent) (now : Nat) (state : ModalState) :
    ∃ route r', r.route event now state = (route, r') ∧ r.Routes event now state route r' := by
  cases decided : r.bypass? event.normalized state with
  | some route =>
    rcases bypass?_cases decided with rfl | beside
    · exact ⟨.escape, r.reset, route_of_escape decided, .escape decided⟩
    · exact ⟨route, r, route_of_aside decided beside, .aside decided beside⟩
  | none => exact ⟨_, _, route_of_reaches decided, .reaches decided (follows_follow _ _ _ _)⟩

/-! ## What stays -/

/-- The router after a press differs in what it remembers and in its count at most. -/
theorem exists_feed_eq (i : RouterInput) :
    ∃ previous count, r.feed i = { r with previous := previous, count := count } := by
  cases i with
  | reset => exact ⟨_, _, rfl⟩
  | press event now state =>
    rw [feed]
    obtain ⟨route, r', routed, routes⟩ := r.exists_routes event now state
    rw [routed]
    cases routes with
    | aside _ _ => exact ⟨r.previous, r.count, rfl⟩
    | escape _ => exact ⟨none, none, rfl⟩
    | reaches _ follows =>
      cases follows with
      | digit _ => exact ⟨_, _, rfl⟩
      | opening _ _ => exact ⟨_, r.count, rfl⟩
      | openingCommand _ _ _ => exact ⟨_, none, rfl⟩
      | unbound _ _ => exact ⟨_, none, rfl⟩
      | command _ _ _ => exact ⟨_, none, rfl⟩

theorem exists_run_eq (inputs : List RouterInput) :
    ∃ previous count, r.run inputs = { r with previous := previous, count := count } := by
  induction inputs using List.reverseRecOn with
  | nil => exact ⟨r.previous, r.count, rfl⟩
  | append_singleton inputs i ih =>
    obtain ⟨previous, count, ran⟩ := ih
    obtain ⟨previous', count', fed⟩ := exists_feed_eq (r.run inputs) i
    exact ⟨previous', count', by rw [run_concat, fed, ran]⟩

theorem bypass?_run (inputs : List RouterInput) (event : KeyEvent) (state : ModalState) :
    (r.run inputs).bypass? event state = r.bypass? event state := by
  obtain ⟨previous, count, ran⟩ := r.exists_run_eq inputs
  rw [ran]
  rfl

theorem keymap_run (inputs : List RouterInput) : (r.run inputs).keymap = r.keymap := by
  obtain ⟨previous, count, ran⟩ := r.exists_run_eq inputs
  rw [ran]

theorem passthrough_run (inputs : List RouterInput) :
    (r.run inputs).passthrough = r.passthrough := by
  obtain ⟨previous, count, ran⟩ := r.exists_run_eq inputs
  rw [ran]

theorem chordWindow_run (inputs : List RouterInput) :
    (r.run inputs).chordWindow = r.chordWindow := by
  obtain ⟨previous, count, ran⟩ := r.exists_run_eq inputs
  rw [ran]

end Router

end ModalEdit
