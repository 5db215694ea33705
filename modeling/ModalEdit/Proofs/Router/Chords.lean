import ModalEdit.Keymap.Standard
import ModalEdit.Proofs.Router.Run

/-! # Chords

A router remembers one key, and chords are formed with it.  Here the chords are read off the
history of a router instead: `Pairs` says of two points of a run that the presses there form a
chord, by what was pressed at them and between them.  The only look further back is at whether
the first press was itself the second half of a pair of equal keys (`Doubled`), in which case
it is used up.

`remembers_run` says that the remembered key is the press that still waits for a partner.  From it
follow both directions: every chord that a router resolves to is one of the history
(`chord_sound`), and every chord of the history that is bound is resolved to (`chord_complete`).
-/

namespace ModalEdit

theorem KeyEvent.eq_plain_iff {event : KeyEvent} {code : KeyCode} :
    event = .plain code ↔ event.code = code ∧ event.mods = .none := by
  cases event
  simp [plain]

namespace Router

variable (r : Router) (inputs : List RouterInput)

/-! ## The history -/

/-- A key is pressed without modifiers where keys are commands, and nothing else takes it. -/
def PressedAt (n : Nat) (code : KeyCode) (now : Nat) : Prop :=
  ∃ event state, inputs[n]? = some (.press event now state) ∧ event.normalized = .plain code ∧
    state.mode.isCommandMode = true ∧ r.bypass? event.normalized state = none

/-- A key is pressed that is not a matter of chords: it passes through, is text, replaces a
    character, or belongs to an input method. -/
def PassesBy (n : Nat) : Prop :=
  ∃ event now state, inputs[n]? = some (.press event now state) ∧
    ∃ route ∈ aside, r.bypass? event.normalized state = some route

/-- Two instants are not too far apart for a chord. -/
def InTime (pressed now : Nat) : Prop :=
  ∀ w, r.chordWindow = some w → Time.elapsed pressed now ≤ w

/-- The press at `n` is the second of two presses of one key that form a chord. -/
def Doubled (n : Nat) : Prop :=
  -- The first must not be used up either, which looks back from an earlier point.
  ∃ m, ∃ _ : m < n, ∃ code pressed now,
    r.PressedAt inputs m code pressed ∧ r.PressedAt inputs n code now ∧
      (∀ k, m < k → k < n → r.PassesBy inputs k) ∧ r.InTime pressed now ∧ ¬Doubled m
termination_by n

/-- The press at `m` is still waiting for a partner before the input at `n`. -/
def Waits (m n : Nat) (code : KeyCode) (pressed : Nat) : Prop :=
  m < n ∧ r.PressedAt inputs m code pressed ∧ (∀ k, m < k → k < n → r.PassesBy inputs k) ∧
    ¬r.Doubled inputs m

/-- The presses at `m` and `n` form a chord. -/
def Pairs (m n : Nat) (first second : KeyCode) : Prop :=
  ∃ pressed now, r.Waits inputs m n first pressed ∧ r.PressedAt inputs n second now ∧
    r.InTime pressed now

section History

variable {r inputs} {m n : Nat} {code : KeyCode} {pressed now : Nat}

theorem doubled_iff : r.Doubled inputs n ↔ ∃ m code, r.Pairs inputs m n code code := by
  rw [Doubled]
  constructor
  · rintro ⟨m, before, code, pressed, now, first, second, between, inTime, single⟩
    exact ⟨m, code, pressed, now, ⟨before, first, between, single⟩, second, inTime⟩
  · rintro ⟨m, code, pressed, now, ⟨before, first, between, single⟩, second, inTime⟩
    exact ⟨m, before, code, pressed, now, first, second, between, inTime, single⟩

theorem not_passesBy_of_pressedAt (here : r.PressedAt inputs n code now) :
    ¬r.PassesBy inputs n := by
  rintro ⟨event, now, state, input, route, _, decided⟩
  obtain ⟨event', state', input', _, _, undecided⟩ := here
  cases input'.symm.trans input
  rw [undecided] at decided
  cases decided

/-- A press waits for as long as others only pass by. -/
theorem waits_succ_iff : r.Waits inputs m (n + 1) code pressed ↔
    (r.Waits inputs m n code pressed ∧ r.PassesBy inputs n) ∨
      (m = n ∧ r.PressedAt inputs n code pressed ∧ ¬r.Doubled inputs n) := by
  constructor
  · -- The press at `n` is the last one between, unless it is the one that waits.
    rintro ⟨before, first, between, single⟩
    rcases Nat.lt_succ_iff_lt_or_eq.mp before with before | rfl
    · have shorter : ∀ k, m < k → k < n → r.PassesBy inputs k :=
        fun k after below => between k after (Nat.lt_succ_of_lt below)
      exact .inl ⟨⟨before, first, shorter, single⟩, between n before (Nat.lt_succ_self n)⟩
    · exact .inr ⟨rfl, first, single⟩
  · rintro (⟨⟨before, first, between, single⟩, passes⟩ | ⟨rfl, first, single⟩)
    · refine ⟨Nat.lt_succ_of_lt before, first, fun k after below => ?_, single⟩
      rcases Nat.lt_succ_iff_lt_or_eq.mp below with below | rfl
      · exact between k after below
      · exact passes
    · exact ⟨Nat.lt_succ_self m, first, fun k after below => by omega, single⟩

end History

/-! ## What is remembered -/

theorem Follows.previous_eq {r r' : Router} {t : Trigger} {event : KeyEvent} {route : Route}
    (follows : r.Follows t event route r') : r'.previous = r.previous := by
  cases follows with
  | digit _ => rfl
  | opening _ _ => rfl
  | openingCommand _ _ _ => rfl
  | unbound _ _ => rfl
  | command _ _ _ => rfl

/-- What is remembered before the input at `n` is a press that waits for a partner. -/
def Remembers (n : Nat) : Prop :=
  ∀ code pressed, (r.run (inputs.take n)).previous = some (code, pressed) ↔
    ∃ m, r.Waits inputs m n code pressed

section Memory

variable {r inputs} {n : Nat} {event : KeyEvent} {now : Nat} {state : ModalState}

theorem pressedAt_iff (input : inputs[n]? = some (.press event now state))
    (undecided : r.bypass? event.normalized state = none) {code : KeyCode} {instant : Nat} :
    r.PressedAt inputs n code instant ↔ event.normalized = .plain code ∧ instant = now := by
  constructor
  · rintro ⟨event', state', input', plain, _, _⟩
    cases input.symm.trans input'
    exact ⟨plain, rfl⟩
  · rintro ⟨plain, rfl⟩
    exact ⟨event, state, input, plain, (commands_of_reaches undecided).1, undecided⟩

theorem passesBy_iff (input : inputs[n]? = some (.press event now state)) :
    r.PassesBy inputs n ↔ ∃ route ∈ aside, r.bypass? event.normalized state = some route := by
  constructor
  · rintro ⟨event', now', state', input', passes⟩
    cases input.symm.trans input'
    exact passes
  · intro passes
    exact ⟨event, now, state, input, passes⟩

/-- Where the right press is remembered, a chord is formed if the history has one. -/
theorem pair_fst_eq_some_iff (remembers : r.Remembers inputs n)
    (input : inputs[n]? = some (.press event now state))
    (undecided : r.bypass? event.normalized state = none) {t : Trigger} :
    ((r.run (inputs.take n)).previous.pair event.normalized now r.chordWindow).1 = some t ↔
      ∃ m first second, t = .chord first second ∧ r.Pairs inputs m n first second := by
  rw [ChordMemory.pair_fst_eq_some_iff]
  constructor
  · rintro ⟨first, pressed, remembered, plain, inTime, rfl⟩
    obtain ⟨m, waits⟩ := (remembers first pressed).mp remembered
    have second := (pressedAt_iff input undecided).mpr ⟨KeyEvent.eq_plain_iff.mpr ⟨rfl, plain⟩, rfl⟩
    exact ⟨m, first, _, rfl, pressed, now, waits, second, inTime⟩
  · rintro ⟨m, first, second, rfl, pressed, instant, waits, pressedAt, inTime⟩
    obtain ⟨plain, rfl⟩ := (pressedAt_iff input undecided).mp pressedAt
    obtain ⟨rfl, unmodified⟩ := KeyEvent.eq_plain_iff.mp plain
    have remembered := (remembers first pressed).mpr ⟨m, waits⟩
    exact ⟨first, pressed, remembered, unmodified, inTime, rfl⟩

theorem doubled_iff_pair (remembers : r.Remembers inputs n)
    (input : inputs[n]? = some (.press event now state))
    (undecided : r.bypass? event.normalized state = none) :
    r.Doubled inputs n ↔
      ((r.run (inputs.take n)).previous.pair event.normalized now r.chordWindow).1 =
        some (.chord event.normalized.code event.normalized.code) := by
  rw [doubled_iff, pair_fst_eq_some_iff remembers input undecided]
  constructor
  · rintro ⟨m, code, pairs⟩
    obtain ⟨_, _, _, pressedAt, _⟩ := id pairs
    have plain := ((pressedAt_iff input undecided).mp pressedAt).1
    rw [KeyEvent.eq_plain_iff] at plain
    exact ⟨m, code, code, by rw [plain.1], pairs⟩
  · rintro ⟨m, first, second, chord, pairs⟩
    cases chord
    exact ⟨m, _, pairs⟩

/-- A press that gets as far as the chord memory is remembered unless it is used up. -/
theorem remembered_iff_of_reaches (remembers : r.Remembers inputs n)
    (input : inputs[n]? = some (.press event now state))
    (undecided : r.bypass? event.normalized state = none) {code : KeyCode} {pressed : Nat} :
    ((r.run (inputs.take n)).trigger event.normalized now).2.previous = some (code, pressed) ↔
      ∃ m, (r.Waits inputs m n code pressed ∧ r.PassesBy inputs n) ∨
        (m = n ∧ r.PressedAt inputs n code pressed ∧ ¬r.Doubled inputs n) := by
  have passes : ¬r.PassesBy inputs n := by
    rw [passesBy_iff input, undecided]
    rintro ⟨_, _, decided⟩
    cases decided
  simp only [trigger_snd, passes, and_false, false_or, pressedAt_iff input undecided,
    exists_eq_left, doubled_iff_pair remembers input undecided, ChordMemory.pair_snd_eq,
    chordWindow_run]
  constructor
  · intro remembered
    split at remembered
    · next kept =>
      cases remembered
      exact ⟨⟨KeyEvent.eq_plain_iff.mpr ⟨rfl, kept.1⟩, rfl⟩, kept.2⟩
    · cases remembered
  · rintro ⟨⟨plain, rfl⟩, single⟩
    obtain ⟨rfl, unmodified⟩ := KeyEvent.eq_plain_iff.mp plain
    rw [if_pos ⟨unmodified, single⟩]

/-- Every input keeps the memory right: it lets the press wait on, forgets it, or takes its
    place. -/
theorem remembers_succ (remembers : r.Remembers inputs n) (below : n < inputs.length) :
    r.Remembers inputs (n + 1) := by
  intro code pressed
  have input := List.getElem?_eq_getElem below
  rw [List.take_succ_eq_append_getElem below, run_concat]
  simp only [waits_succ_iff]
  -- Only a press that passes by lets an earlier one wait, and only one that does not can wait.
  cases i : inputs[n] with
  | reset =>
    rw [i] at input
    have passes : ¬r.PassesBy inputs n := by
      rintro ⟨_, _, _, input', _⟩
      cases input.symm.trans input'
    have here : ¬r.PressedAt inputs n code pressed := by
      rintro ⟨_, _, input', _⟩
      cases input.symm.trans input'
    simp [passes, here, reset]
  | press event now state =>
    rw [i] at input
    obtain ⟨route, r', routed, routes⟩ := (r.run (inputs.take n)).exists_routes event now state
    rw [feed_press, routed]
    cases routes with
    | aside decided beside =>
      rw [bypass?_run] at decided
      have passes := (passesBy_iff input).mpr ⟨route, beside, decided⟩
      have here : ¬r.PressedAt inputs n code pressed :=
        fun here => not_passesBy_of_pressedAt here passes
      simpa [passes, here] using remembers code pressed
    | escape decided =>
      rw [bypass?_run] at decided
      have passes : ¬r.PassesBy inputs n := by
        rw [passesBy_iff input, decided]
        rintro ⟨route, beside, escape⟩
        cases escape
        simp [aside] at beside
      have here : ¬r.PressedAt inputs n code pressed := by
        rintro ⟨_, _, input', _, _, undecided⟩
        cases input.symm.trans input'
        cases decided.symm.trans undecided
      simp [passes, here, reset]
    | reaches undecided follows =>
      rw [bypass?_run] at undecided
      rw [follows.previous_eq]
      exact remembered_iff_of_reaches remembers input undecided

/-- The key that a router remembers is the press that still waits for a partner. -/
theorem remembers_run (fresh : r.previous = none) (below : n ≤ inputs.length) :
    r.Remembers inputs n := by
  induction n with
  | zero =>
    intro code pressed
    simp [fresh, Waits]
  | succ n ih => exact remembers_succ (ih (Nat.le_of_lt below)) below

end Memory

/-! ## Chords are sound -/

section Pairs

variable {r inputs} {m n n' : Nat} {first second first' second' : KeyCode}

/-- A press waits for the next one that is a matter of chords, and for no other. -/
theorem Pairs.second_unique (pairs : r.Pairs inputs m n first second)
    (pairs' : r.Pairs inputs m n' first' second') : n = n' := by
  obtain ⟨_, _, ⟨before, _, between, _⟩, here, _⟩ := pairs
  obtain ⟨_, _, ⟨before', _, between', _⟩, here', _⟩ := pairs'
  rcases Nat.lt_trichotomy n n' with less | rfl | more
  · exact absurd (between' n before less) (not_passesBy_of_pressedAt here)
  · rfl
  · exact absurd (between n' before' more) (not_passesBy_of_pressedAt here')

/-- The second press of a pair of equal keys is used up. -/
theorem Pairs.not_pairs_of_double {code : KeyCode} (double : r.Pairs inputs m n code code) :
    ¬r.Pairs inputs n n' first second := by
  rintro ⟨_, _, ⟨_, _, _, single⟩, _, _⟩
  exact single (doubled_iff.mpr ⟨m, code, double⟩)

end Pairs

/-- The press at `n` is resolved to a trigger. -/
def ResolvesAt (n : Nat) (t : Trigger) : Prop :=
  ∃ event now state, inputs[n]? = some (.press event now state) ∧
    (r.run (inputs.take n)).resolved? event now state = some t

/-- A press that is resolved to a chord pairs with one before it. -/
theorem exists_pairs_of_resolvesAt {r : Router} {inputs : List RouterInput}
    (fresh : r.previous = none) {n : Nat} {first second : KeyCode}
    (resolved : r.ResolvesAt inputs n (.chord first second)) :
    ∃ m, r.Pairs inputs m n first second := by
  obtain ⟨event, now, state, input, resolved⟩ := resolved
  have below : n < inputs.length := (List.getElem?_eq_some_iff.mp input).1
  cases undecided : r.bypass? event.normalized state with
  | some route =>
    rw [resolved?, bypass?_run, undecided] at resolved
    cases resolved
  | none =>
    rw [resolved?_of_reaches (by rwa [bypass?_run]), Option.some_inj] at resolved
    rcases trigger_cases (r.run (inputs.take n)) event.normalized now with
      key | ⟨t, triggered, formed, _⟩
    · cases key.symm.trans resolved
    · obtain rfl := triggered.symm.trans resolved
      rw [chordWindow_run, pair_fst_eq_some_iff (remembers_run fresh (Nat.le_of_lt below)) input
        undecided] at formed
      obtain ⟨m, first, second, chord, pairs⟩ := formed
      cases chord
      exact ⟨m, pairs⟩

/-- Every chord that a router resolves to is formed by two presses of its history that pair, and
    no press is counted in two chords of equal keys. -/
theorem chord_sound (keymap : Keymap) (config : Config) (inputs : List RouterInput) :
    let r := ofConfig keymap config
    (∀ n first second, r.ResolvesAt inputs n (.chord first second) →
      ∃ m, r.Pairs inputs m n first second) ∧
    ∀ p n n' code code',
      r.ResolvesAt inputs n (.chord code code) → (p = n ∨ r.Pairs inputs p n code code) →
      r.ResolvesAt inputs n' (.chord code' code') → (p = n' ∨ r.Pairs inputs p n' code' code') →
      n = n' := by
  intro r
  have sound : ∀ n first second, r.ResolvesAt inputs n (.chord first second) →
      ∃ m, r.Pairs inputs m n first second :=
    fun _ _ _ resolved => exists_pairs_of_resolvesAt rfl resolved
  refine ⟨sound, fun p n n' code code' resolved counted resolved' counted' => ?_⟩
  obtain ⟨m, pairs⟩ := sound n code code resolved
  obtain ⟨m', pairs'⟩ := sound n' code' code' resolved'
  rcases counted with rfl | first
  · rcases counted' with rfl | first'
    · rfl
    · exact absurd first' pairs.not_pairs_of_double
  · rcases counted' with rfl | first'
    · exact absurd first pairs'.not_pairs_of_double
    · exact first.second_unique first'

/-- Of four presses of `d` with a key between them that passes through, the first two are one
    chord and the last two another. -/
theorem chord_sound_of_two_doubles :
    let r := ofConfig Keymap.standard {}
    let inputs := [KeyCode.char 'd', .tab, .char 'd', .char 'd', .char 'd'].map
      fun code => .press (.plain code) 0 {}
    (∃ m, r.Pairs inputs m 2 (.char 'd') (.char 'd')) ∧
      ∀ p, (p = 2 ∨ r.Pairs inputs p 2 (.char 'd') (.char 'd')) →
        ¬(p = 4 ∨ r.Pairs inputs p 4 (.char 'd') (.char 'd')) := by
  intro r inputs
  obtain ⟨sound, once⟩ := chord_sound Keymap.standard {} inputs
  have second : r.ResolvesAt inputs 2 (.chord (.char 'd') (.char 'd')) :=
    ⟨_, _, _, rfl, by decide⟩
  have fourth : r.ResolvesAt inputs 4 (.chord (.char 'd') (.char 'd')) :=
    ⟨_, _, _, rfl, by decide⟩
  refine ⟨sound 2 _ _ second, fun p counted counted' => ?_⟩
  exact absurd (once p 2 4 _ _ second counted fourth counted') (by decide)

/-! ## Chords are complete -/

section Resolution

variable {r : Router} {inputs : List RouterInput} {n : Nat} {t : Trigger}

/-- A press is resolved to one trigger at most. -/
theorem ResolvesAt.unique {t' : Trigger} (resolved : r.ResolvesAt inputs n t)
    (resolved' : r.ResolvesAt inputs n t') : t = t' := by
  obtain ⟨_, _, _, input, found⟩ := resolved
  obtain ⟨_, _, _, input', found'⟩ := resolved'
  cases input.symm.trans input'
  exact Option.some.inj (found.symm.trans found')

/-- Two presses that pair are resolved to their chord, if that is bound. -/
theorem resolvesAt_of_pairs (fresh : r.previous = none) {m : Nat} {first second : KeyCode}
    (pairs : r.Pairs inputs m n first second)
    (bound : r.keymap.contains (.chord first second) = true) :
    r.ResolvesAt inputs n (.chord first second) := by
  obtain ⟨_, now, _, ⟨event, state, input, _, _, undecided⟩, _⟩ := id pairs
  have below : n < inputs.length := (List.getElem?_eq_some_iff.mp input).1
  refine ⟨event, now, state, input, ?_⟩
  have formed : ((r.run (inputs.take n)).previous.pair event.normalized now r.chordWindow).1 =
      some (.chord first second) := by
    rw [pair_fst_eq_some_iff (remembers_run fresh (Nat.le_of_lt below)) input undecided]
    exact ⟨m, first, second, rfl, pairs⟩
  rw [resolved?_of_reaches (by rwa [bypass?_run]), trigger_fst, chordWindow_run, formed, keymap_run]
  simp [Option.filter, bound]

/-- A press waits for the next one that is a matter of chords, so it is the only one that this can
    pair with. -/
theorem Pairs.first_unique {m m' : Nat} {first second first' : KeyCode} {pressed : Nat}
    (pairs : r.Pairs inputs m' n first' second) (before : m < n)
    (here : r.PressedAt inputs m first pressed)
    (between : ∀ k, m < k → k < n → r.PassesBy inputs k) : m' = m := by
  obtain ⟨_, _, ⟨before', here', between', _⟩, _, _⟩ := pairs
  rcases Nat.lt_trichotomy m' m with less | rfl | more
  · exact absurd (between' m less before) (not_passesBy_of_pressedAt here)
  · rfl
  · exact absurd (between m' more before') (not_passesBy_of_pressedAt here')

/-- A press that pairs with none is resolved to its own key. -/
theorem resolvesAt_key (fresh : r.previous = none) {code : KeyCode} {now : Nat}
    (here : r.PressedAt inputs n code now)
    (alone : ∀ m first, ¬r.Pairs inputs m n first code) : r.ResolvesAt inputs n (.key code) := by
  obtain ⟨event, state, input, plain, _, undecided⟩ := id here
  have below : n < inputs.length := (List.getElem?_eq_some_iff.mp input).1
  refine ⟨event, now, state, input, ?_⟩
  rw [resolved?_of_reaches (by rwa [bypass?_run]), Option.some_inj]
  rcases trigger_cases (r.run (inputs.take n)) event.normalized now with key | ⟨t, _, formed, _⟩
  · rw [key, plain]
    rfl
  · rw [chordWindow_run, pair_fst_eq_some_iff (remembers_run fresh (Nat.le_of_lt below)) input
      undecided] at formed
    obtain ⟨m, first, second, _, pairs⟩ := formed
    obtain ⟨_, _, _, there, _⟩ := id pairs
    obtain ⟨same, _⟩ := (pressedAt_iff input undecided).mp there
    obtain rfl : code = second := congrArg KeyEvent.code (plain.symm.trans same)
    exact absurd pairs (alone m first)

end Resolution

/-- Where two presses follow each other in time and their chord is bound, the second is resolved to
    that chord and to nothing else, if the first was still there to wait for it.  If the first was
    itself the second of two presses of one key it was used up, whether those are a chord that is
    bound or not, and the second is resolved to its own key. -/
theorem chord_complete (keymap : Keymap) (config : Config) (inputs : List RouterInput)
    {m n : Nat} {first second : KeyCode} {pressed now : Nat} :
    let r := ofConfig keymap config
    m < n → r.PressedAt inputs m first pressed → r.PressedAt inputs n second now →
      (∀ k, m < k → k < n → r.PassesBy inputs k) → r.InTime pressed now →
      keymap.contains (.chord first second) = true →
      (¬r.Doubled inputs m → ∀ t, r.ResolvesAt inputs n t ↔ t = .chord first second) ∧
        (r.Doubled inputs m → ∀ t, r.ResolvesAt inputs n t ↔ t = .key second) := by
  intro r before here there between inTime bound
  have only : ∀ {t}, r.ResolvesAt inputs n t → ∀ t', r.ResolvesAt inputs n t' ↔ t' = t := by
    intro t resolved t'
    constructor
    · intro found
      exact found.unique resolved
    · rintro rfl
      exact resolved
  constructor
  · intro single
    have pairs : r.Pairs inputs m n first second :=
      ⟨pressed, now, ⟨before, here, between, single⟩, there, inTime⟩
    exact only (resolvesAt_of_pairs rfl pairs bound)
  · intro double
    apply only
    apply resolvesAt_key rfl there
    intro m' first' pairs
    obtain rfl := pairs.first_unique before here between
    obtain ⟨_, _, ⟨_, _, _, single⟩, _, _⟩ := pairs
    exact single double

/-- The standard keymap with a chord of `j` and `k`.  It has none of two presses of `j`. -/
def jkKeymap : Keymap where
  entries := Keymap.standard.entries ++
    [(.chord (.char 'j') (.char 'k'), { name := "jk", plain := some .toggleVisual })]

/-- Of three presses of `j` the last one waits for a `k`, also over a key that passes through. -/
theorem chord_complete_after_double :
    let r := ofConfig jkKeymap {}
    let inputs := [KeyCode.char 'j', .char 'j', .char 'j', .tab, .char 'k'].map
      fun code => .press (.plain code) 0 {}
    ¬r.Doubled inputs 2 ∧
      r.ResolvesAt inputs 4 (.chord (.char 'j') (.char 'k')) := by
  intro r inputs
  have here : r.PressedAt inputs 2 (.char 'j') 0 :=
    ⟨_, _, rfl, rfl, rfl, by decide⟩
  have there : r.PressedAt inputs 4 (.char 'k') 0 :=
    ⟨_, _, rfl, rfl, rfl, by decide⟩
  have between : ∀ k, 2 < k → k < 4 → r.PassesBy inputs k := by
    intro k after below
    obtain rfl : k = 3 := by omega
    exact ⟨_, _, _, rfl, .passthrough, by decide, by decide⟩
  have inTime : r.InTime 0 0 := fun w _ => Nat.zero_le w
  -- The first two presses are used up together, so the third begins anew.
  have single : ¬r.Doubled inputs 2 := by
    rw [doubled_iff_pair (remembers_run rfl (by decide)) rfl (by decide)]
    decide
  have complete := chord_complete jkKeymap {} inputs (by decide) here there between inTime
    (by decide)
  exact ⟨single, (complete.1 single _).mpr rfl⟩

/-- That the first press is not the second of a chord that is bound is not enough: the second of
    two presses of `j` is used up although no chord of these is bound. -/
theorem not_complete_after_unbound_double :
    ¬∀ (keymap : Keymap) (config : Config) (inputs : List RouterInput) (m n : Nat)
        (first second : KeyCode) (pressed now : Nat),
      let r := ofConfig keymap config
      m < n → r.PressedAt inputs m first pressed → r.PressedAt inputs n second now →
        (∀ k, m < k → k < n → r.PassesBy inputs k) → r.InTime pressed now →
        keymap.contains (.chord first second) = true →
        (∀ code, ¬r.ResolvesAt inputs m (.chord code first)) →
        r.ResolvesAt inputs n (.chord first second) := by
  intro law
  let inputs := [KeyCode.char 'j', .char 'j', .char 'k'].map
    fun code => RouterInput.press (.plain code) 0 {}
  have lone : (ofConfig jkKeymap {}).ResolvesAt inputs 1 (.key (.char 'j')) :=
    ⟨_, _, _, rfl, by decide⟩
  have single : (ofConfig jkKeymap {}).ResolvesAt inputs 2 (.key (.char 'k')) :=
    ⟨_, _, _, rfl, by decide⟩
  have chord := law jkKeymap {} inputs 1 2 (.char 'j') (.char 'k') 0 0 (by decide)
    ⟨_, _, rfl, rfl, rfl, by decide⟩ ⟨_, _, rfl, rfl, rfl, by decide⟩
    (fun k after below => by omega) (fun w _ => Nat.zero_le w) (by decide)
    (fun code bound => by cases lone.unique bound)
  cases single.unique chord

end Router

end ModalEdit
