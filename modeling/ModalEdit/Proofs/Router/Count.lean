import Mathlib.Data.List.DropRight
import Mathlib.Data.Nat.Digits.Defs
import ModalEdit.Keymap.Standard
import ModalEdit.Proofs.Router.Run

/-! # Counts

The count of a router is the number that is spelled by the digits typed for it, as far as the
largest count.  Which digits those are is told by looking back over the run: the ones that were
counted after the last input that cleared the count (`digits`).  A key that may begin a chord
clears nothing unless it is a command by itself, and keys that are none of the router's business
clear nothing either.

The router keeps one number only.  `count_run` says that it is the one that the digits spell,
and `count_law` adds which keys are counted and what a command is given.
-/

namespace ModalEdit.Router

variable (r : Router)

/-! ## Looking back over a run -/

/-- The inputs of a run, each with the router that it meets. -/
def trace (r : Router) : List RouterInput → List (Router × RouterInput)
  | [] => []
  | i :: inputs => (r, i) :: trace (r.feed i) inputs

theorem trace_concat (inputs : List RouterInput) (i : RouterInput) :
    r.trace (inputs ++ [i]) = r.trace inputs ++ [(r.run inputs, i)] := by
  induction inputs generalizing r with
  | nil => rfl
  | cons j inputs ih =>
    rw [List.cons_append, trace, trace, ih]
    rfl

/-- A press is resolved to `d` or `y` alone, without shift. -/
def IsLoneOpener (event : KeyEvent) (now : Nat) (state : ModalState) : Prop :=
  (r.resolved? event now state = some (.key (.char 'd')) ∨
    r.resolved? event now state = some (.key (.char 'y'))) ∧ event.normalized.shifted = false

instance (event : KeyEvent) (now : Nat) (state : ModalState) :
    Decidable (r.IsLoneOpener event now state) :=
  inferInstanceAs (Decidable (_ ∧ _))

/-- Whether an input ends the count that was typed. -/
def clears : RouterInput → Bool
  | .reset => true
  | .press event now state =>
    match (r.route event now state).1 with
    | .escape | .dispatch _ => true
    | .unbound => decide (¬r.IsLoneOpener event now state)
    | .passthrough | .replace | .text | .rejected | .absorbed => false

/-- The digit that an input adds to the count. -/
def counted? : RouterInput → Option Nat
  | .reset => none
  | .press event now state =>
    if (r.route event now state).1 = .absorbed then event.normalized.code.digit? else none

/-- The digits that were counted since the count was cleared last, in order. -/
def digits (inputs : List RouterInput) : List Nat :=
  ((r.trace inputs).rtakeWhile fun step => !step.1.clears step.2).filterMap
    fun step => step.1.counted? step.2

/-- The count that digits spell, if there are any. -/
def spelled (ds : List Nat) : Option Nat :=
  if ds = [] then none else some (min (Nat.ofDigits 10 ds.reverse) maxCount)

@[simp] theorem digits_nil : r.digits [] = [] := by simp [digits, trace]

theorem digits_concat (inputs : List RouterInput) (i : RouterInput) :
    r.digits (inputs ++ [i]) =
      if (r.run inputs).clears i then []
      else r.digits inputs ++ ((r.run inputs).counted? i).toList := by
  rw [digits, trace_concat]
  split
  · next clears =>
    rw [List.rtakeWhile_concat_neg _ _ _ (by simp [clears]), List.filterMap_nil]
  · next clears =>
    rw [List.rtakeWhile_concat_pos _ _ _ (by simpa using clears), List.filterMap_append, digits]
    cases counted : (r.run inputs).counted? i with
    | none => simp [counted]
    | some d => simp [counted]

/-- A counter that stops at the largest count shows the whole number as far as that count. -/
theorem pushDigit_spelled (ds : List Nat) (d : Nat) :
    some (pushDigit (spelled ds) d) = spelled (ds ++ [d]) := by
  have numeral : Nat.ofDigits 10 (ds ++ [d]).reverse = Nat.ofDigits 10 ds.reverse * 10 + d := by
    rw [List.reverse_concat, Nat.ofDigits_cons, Nat.mul_comm, Nat.add_comm]
  rw [spelled.eq_def (ds ++ [d]), if_neg (by simp), numeral, pushDigit, spelled]
  split
  · next empty => simp [empty]
  · rw [Option.getD_some]
    congr 1
    omega

/-! ## What a press does to the count -/

section Press

variable {r} {event : KeyEvent} {now : Nat} {state : ModalState}

theorem keepsCount_iff {t : Trigger} {shifted : Bool} :
    keepsCount t shifted = true ↔
      (t = .key (.char 'd') ∨ t = .key (.char 'y')) ∧ shifted = false := by
  simp [keepsCount]

theorem isLoneOpener_iff (r : Router) (now : Nat)
    (reaches : r.bypass? event.normalized state = none) :
    r.IsLoneOpener event now state ↔
      keepsCount (r.trigger event.normalized now).1 event.normalized.shifted = true := by
  rw [keepsCount_iff, IsLoneOpener, resolved?_of_reaches reaches, Option.some_inj, Option.some_inj]

theorem countDigit?_key_eq_some_iff {code : KeyCode} {shifted : Bool} {d : Nat} :
    r.countDigit? (.key code) shifted = some d ↔
      code.digit? = some d ∧ shifted = false ∧ (d ≠ 0 ∨ r.count.isSome = true) := by
  cases shifted with
  | true => simp [countDigit?]
  | false => simp [countDigit?, Option.filter_eq_some_iff]

/-- Only a digit key on its own is counted. -/
theorem digit?_of_countDigit? {d : Nat}
    (counted : (r.trigger event now).2.countDigit? (r.trigger event now).1 event.shifted = some d) :
    event.code.digit? = some d ∧ event.shifted = false ∧ (d ≠ 0 ∨ r.count.isSome = true) := by
  rcases r.trigger_cases event now with key | ⟨t, triggered, formed, _⟩
  · rwa [key, countDigit?_key_eq_some_iff] at counted
  · obtain ⟨a, _, _, _, _, rfl⟩ := ChordMemory.pair_fst_eq_some_iff.mp formed
    rw [triggered] at counted
    cases counted

/-- An input does to the count what it does to the digits. -/
theorem count_feed {ds : List Nat} (tracks : r.count = spelled ds) (i : RouterInput) :
    (r.feed i).count =
      spelled (if r.clears i then [] else ds ++ (r.counted? i).toList) := by
  cases i with
  | reset => rfl
  | press event now state =>
    obtain ⟨route, r', routed, routes⟩ := r.exists_routes event now state
    simp only [feed_press, clears, counted?, routed]
    cases routes with
    | aside _ beside =>
      simp only [aside, List.mem_cons, List.not_mem_nil, or_false] at beside
      rcases beside with rfl | rfl | rfl | rfl <;> simp [tracks]
    | escape _ => rfl
    | reaches undecided follows =>
      have lone := r.isLoneOpener_iff now undecided
      cases follows with
      | digit counted =>
        rw [if_pos rfl, (digit?_of_countDigit? counted).1, trigger_snd, tracks]
        exact pushDigit_spelled ds _
      | opening _ keeps => simp [lone, keeps, trigger_snd, tracks]
      | openingCommand _ _ _ => rfl
      | unbound _ keeps => simp [lone, keeps, spelled]
      | command _ _ _ => rfl

/-- A count that is pending is not zero. -/
theorem one_le_count_feed (pos : ∀ c, r.count = some c → 1 ≤ c) (i : RouterInput) :
    ∀ c, (r.feed i).count = some c → 1 ≤ c := by
  intro c pending
  cases i with
  | reset => cases pending
  | press event now state =>
    obtain ⟨route, r', routed, routes⟩ := r.exists_routes event now state
    rw [feed_press, routed] at pending
    cases routes with
    | aside _ _ => exact pos c pending
    | escape _ => cases pending
    | reaches _ follows =>
      cases follows with
      | digit counted =>
        cases pending
        have nonzero := (digit?_of_countDigit? counted).2.2
        -- Either the digit is not zero, or it comes behind a number that is not.
        cases before : r.count with
        | none =>
          simp only [before, Option.isSome_none, Bool.false_eq_true, or_false] at nonzero
          simp only [trigger_snd, before, pushDigit, maxCount, Option.getD_none]
          omega
        | some c =>
          have := pos c before
          simp only [trigger_snd, before, pushDigit, maxCount, Option.getD_some]
          omega
      | opening _ _ => exact pos c pending
      | openingCommand _ _ _ => cases pending
      | unbound _ _ => cases pending
      | command _ _ _ => cases pending

theorem bypass?_of_digit {d : Nat} (digit : event.code.digit? = some d)
    (passed : ∀ k ∈ r.passthrough, k.digit? = none) (commands : state.mode.isCommandMode = true)
    (notReplacing : state.replacing = false) : r.bypass? event state = none := by
  have notPassed : event.code ∉ r.passthrough := by
    intro member
    rw [passed _ member] at digit
    cases digit
  have notComposition : event.code ≠ .composition := by
    intro same
    rw [same] at digit
    cases digit
  have notEscape : event.code ≠ .esc := by
    intro same
    rw [same] at digit
    cases digit
  simp [bypass?, notPassed, commands, notReplacing, notComposition, notEscape]

/-- Where no chord ends in a digit and no digit passes through, an unshifted digit is added to the count,
    unless it is a zero that would begin it. -/
theorem route_of_digit
    (chords : ∀ a b, r.keymap.contains (.chord a b) = true → b.digit? = none)
    (passed : ∀ k ∈ r.passthrough, k.digit? = none) (commands : state.mode.isCommandMode = true)
    (notReplacing : state.replacing = false) {d : Nat}
    (digit : event.normalized.code.digit? = some d) (unshifted : event.normalized.shifted = false)
    (nonzero : d ≠ 0 ∨ r.count.isSome = true) :
    r.route event now state =
      (.absorbed,
        { (r.trigger event.normalized now).2 with count := some (pushDigit r.count d) }) := by
  have reaches := bypass?_of_digit digit passed commands notReplacing
  -- A chord that ends in the digit would take it from the count.
  have alone : ∀ a, r.keymap.contains (.chord a event.normalized.code) = false := by
    intro a
    refine Bool.eq_false_iff.mpr fun bound => ?_
    rw [chords a _ bound] at digit
    cases digit
  have key := r.trigger_of_alone alone now
  have counted : (r.trigger event.normalized now).2.countDigit?
      (r.trigger event.normalized now).1 event.normalized.shifted = some d := by
    rw [key, countDigit?_key_eq_some_iff]
    exact ⟨digit, unshifted, nonzero⟩
  rw [route_of_reaches reaches, follow, counted]
  rfl

theorem route_eq_absorbed_iff
    (chords : ∀ a b, r.keymap.contains (.chord a b) = true → b.digit? = none)
    (passed : ∀ k ∈ r.passthrough, k.digit? = none) (commands : state.mode.isCommandMode = true)
    (notReplacing : state.replacing = false) :
    (r.route event now state).1 = .absorbed ↔
      ∃ d, event.normalized.code.digit? = some d ∧ event.normalized.shifted = false ∧
        (d ≠ 0 ∨ r.count.isSome = true) := by
  constructor
  · intro absorbed
    obtain ⟨route, r', routed, routes⟩ := r.exists_routes event now state
    rw [routed] at absorbed
    cases absorbed
    cases routes with
    | aside _ beside => simp [aside] at beside
    | reaches _ follows =>
      cases follows with
      | digit counted => exact ⟨_, digit?_of_countDigit? counted⟩
  · rintro ⟨d, digit, unshifted, nonzero⟩
    rw [route_of_digit chords passed commands notReplacing digit unshifted nonzero]

/-- A command is given the count, and one if there is none.  What a lone `d` or `y` does is done
    once. -/
theorem count_of_dispatch {d : Dispatch} (pos : ∀ c, r.count = some c → 1 ≤ c)
    (dispatched : (r.route event now state).1 = .dispatch d) :
    1 ≤ d.count ∧ (¬r.IsLoneOpener event now state → d.count = r.count.getD 1) := by
  obtain ⟨route, r', routed, routes⟩ := r.exists_routes event now state
  rw [routed] at dispatched
  cases dispatched
  cases routes with
  | aside _ beside => simp [aside] at beside
  | reaches undecided follows =>
    rw [r.isLoneOpener_iff now undecided]
    cases follows with
    | openingCommand _ keeps once => exact ⟨by omega, fun other => absurd keeps other⟩
    | command _ keeps repeated =>
      rw [repeated, trigger_snd]
      dsimp only
      cases pending : r.count with
      | none => exact ⟨Nat.le_refl 1, fun _ => rfl⟩
      | some c =>
        have := pos c pending
        exact ⟨Nat.le_max_left _ _, fun _ => Nat.max_eq_right this⟩

end Press

/-! ## Whole runs -/

/-- The count after a run is the one that its digits spell. -/
theorem count_run (fresh : r.count = none) (inputs : List RouterInput) :
    (r.run inputs).count = spelled (r.digits inputs) := by
  induction inputs using List.reverseRecOn with
  | nil => simpa [spelled] using fresh
  | append_singleton inputs i ih =>
    rw [run_concat, digits_concat]
    exact count_feed ih i

theorem one_le_count_run (fresh : r.count = none) (inputs : List RouterInput) :
    ∀ c, (r.run inputs).count = some c → 1 ≤ c := by
  induction inputs using List.reverseRecOn with
  | nil => simp [fresh]
  | append_singleton inputs i ih =>
    rw [run_concat]
    exact one_le_count_feed ih i

/-- At every point of a run the count is the number that the digits spell.  Which of the keys
    pressed then is a digit of it does not depend on what came before, but for a zero.  A command
    takes the count, one if there is none, unless it is a lone `d` or `y`. -/
theorem count_law {keymap : Keymap} {config : Config}
    (chords : ∀ a b, keymap.contains (.chord a b) = true → b.digit? = none)
    (passed : ∀ k ∈ config.passthrough, k.digit? = none) (inputs : List RouterInput) :
    let fresh := ofConfig keymap config
    let r := fresh.run inputs
    r.count = spelled (fresh.digits inputs) ∧
      ∀ event now state,
        (state.mode.isCommandMode = true → state.replacing = false →
          ((r.route event now state).1 = .absorbed ↔
            ∃ d, event.normalized.code.digit? = some d ∧ event.normalized.shifted = false ∧
              (d ≠ 0 ∨ r.count.isSome = true))) ∧
        ∀ d, (r.route event now state).1 = .dispatch d →
          1 ≤ d.count ∧ (¬r.IsLoneOpener event now state → d.count = r.count.getD 1) := by
  intro fresh r
  have keymap_eq : r.keymap = keymap := keymap_run _ _
  have passthrough_eq : r.passthrough = config.passthrough := passthrough_run _ _
  refine ⟨count_run fresh rfl inputs, fun event now state => ⟨?_, ?_⟩⟩
  · intro commands notReplacing
    exact route_eq_absorbed_iff (by rwa [keymap_eq]) (by rwa [passthrough_eq]) commands notReplacing
  · intro d dispatched
    exact count_of_dispatch (one_le_count_run fresh rfl inputs) dispatched

/-- The keys in which the chords of the standard keymap end. -/
theorem second_of_contains_standard {a b : KeyCode}
    (bound : Keymap.standard.contains (.chord a b) = true) :
    b ∈ [KeyCode.char 'y', .char 'w', .char 'd', .char 'g'] := by
  have ends : ∀ entry ∈ Keymap.standard.entries,
      ∀ second ∈ entry.1.keys[1]?, second ∈ [KeyCode.char 'y', .char 'w', .char 'd', .char 'g'] := by
    decide
  rw [Keymap.contains, Keymap.get?, Option.isSome_iff_exists] at bound
  obtain ⟨binding, found⟩ := bound
  obtain ⟨before, after, entries, _⟩ := List.lookup_eq_some_iff.mp found
  exact ends (.chord a b, binding) (by simp [entries]) b rfl

/-- The standard keymap has no chord that ends in a digit. -/
theorem digit?_of_contains_standard (a b : KeyCode)
    (bound : Keymap.standard.contains (.chord a b) = true) : b.digit? = none := by
  have undigited : ∀ second ∈ [KeyCode.char 'y', .char 'w', .char 'd', .char 'g'],
      second.digit? = none := by
    decide
  exact undigited b (second_of_contains_standard bound)

/-- A count too large to be held is typed before a `dd`, and a key that passes through does not
    interrupt it. -/
theorem count_law_of_large_count :
    let fresh := ofConfig Keymap.standard {}
    let keys := "4294".toList.map KeyCode.char ++ .tab :: "967299d".toList.map KeyCode.char
    let r := fresh.run (keys.map fun code => .press (.plain code) 0 {})
    r.count = some maxCount ∧
      ∃ d, (r.route (.plain (.char 'd')) 0 {}).1 = .dispatch d ∧ d.action = .deleteLine ∧
        d.count = maxCount := by
  intro fresh keys r
  obtain ⟨counted, after⟩ := count_law digit?_of_contains_standard
    (by decide : ∀ k ∈ ({} : Config).passthrough, k.digit? = none)
    (keys.map fun code => .press (.plain code) 0 {})
  have pending : r.count = some maxCount := by
    have typed : fresh.digits (keys.map fun code => .press (.plain code) 0 {}) =
        [4, 2, 9, 4, 9, 6, 7, 2, 9, 9] := by
      decide
    rw [counted, typed]
    rfl
  have dispatched : (r.route (.plain (.char 'd')) 0 {}).1 =
      .dispatch ⟨"dd", .deleteLine, maxCount, true⟩ := by
    decide
  have chord : ¬r.IsLoneOpener (.plain (.char 'd')) 0 {} := by decide
  refine ⟨pending, _, dispatched, rfl, ?_⟩
  rw [((after _ _ _).2 _ dispatched).2 chord, pending]
  rfl

end ModalEdit.Router
