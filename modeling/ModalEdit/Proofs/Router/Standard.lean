import ModalEdit.Proofs.Router.Count

/-! # Character keys under the standard keymap

How a character key is routed where the standard bindings hold and no character passes through
(`Stock`).  The mode of the field decides first: in insert mode every character is text, and a
character that is awaited takes the place of another one, be it a digit, a letter that is bound, or a
shifted one.  Otherwise a digit goes to the count (`route_digit`), and a letter in which no chord ends
is the command that it is bound to, with the count that was typed (`route_command`).
-/

namespace ModalEdit

/-- Shift changes the letter of a key and not its kind. -/
theorem KeyEvent.exists_normalized_char {event : KeyEvent} {c : Char} (char : event.code = .char c) :
    ∃ c', event.normalized.code = .char c' := by
  rw [normalized, char]
  dsimp only
  split
  · exact ⟨_, rfl⟩
  · exact ⟨c, char⟩

theorem KeyEvent.normalized_plain {c : Char} (lower : c.isUpper = false) :
    (plain (.char c)).normalized = plain (.char c) := by
  simp [normalized, plain, lower]

namespace Router

/-- The bindings are the standard ones, and no character passes through. -/
structure Stock (r : Router) : Prop where
  keymap_eq : r.keymap = .standard
  unpassed : ∀ c, KeyCode.char c ∉ r.passthrough

/-- The last digit of a number after the others. -/
theorem pushDigit_tenth (n : Nat) : pushDigit (some (min (n / 10) maxCount)) (n % 10) = min n maxCount := by
  rw [pushDigit, Option.getD_some, maxCount]
  omega

variable {r : Router} {event : KeyEvent} {now : Nat} {state : ModalState} {c : Char}

/-- A letter that is neither shifted nor in a chord, and its binding. -/
structure Single (c : Char) (b : Binding) (action : Action) : Prop where
  bound : Keymap.standard.get? (.key (.char c)) = some b
  plain_eq : b.plain = some action
  anywhere : b.mode = none
  lower : c.isUpper = false
  undigited : (KeyCode.char c).digit? = none
  unchorded : KeyCode.char c ∉ [KeyCode.char 'y', .char 'w', .char 'd', .char 'g']

theorem single_i :
    Single 'i' { name := "i", plain := some .insert, shifted := some .insertAtLineHead } .insert :=
  ⟨rfl, rfl, rfl, rfl, rfl, by decide⟩

theorem single_r : Single 'r' { name := "r", plain := some .replaceChar } .replaceChar :=
  ⟨rfl, rfl, rfl, rfl, rfl, by decide⟩

theorem single_u : Single 'u' { name := "u", plain := some .undo } .undo :=
  ⟨rfl, rfl, rfl, rfl, rfl, by decide⟩

namespace Stock

/-- The memory of a router has no part in it. -/
theorem withMemory (stock : r.Stock) (previous : ChordMemory) (count : Option Nat) :
    Stock { r with previous := previous, count := count } := ⟨stock.keymap_eq, stock.unpassed⟩

theorem bypass?_char (stock : r.Stock) (char : event.code = .char c) (state : ModalState) :
    r.bypass? event.normalized state =
      if state.mode.isCommandMode = false then some .text
      else if state.replacing then some .replace else none := by
  obtain ⟨c', char'⟩ := KeyEvent.exists_normalized_char char
  have unpassed := stock.unpassed c'
  cases commands : state.mode.isCommandMode with
  | false => simp [bypass?, char', unpassed, commands]
  | true => simp [bypass?, char', unpassed, commands]

theorem route_text (stock : r.Stock) (char : event.code = .char c)
    (inserting : state.mode.isCommandMode = false) :
    r.route event now state = (.text, r) := by
  apply route_of_aside _ (by simp [aside])
  rw [stock.bypass?_char char, if_pos inserting]

/-- Neither a count nor a chord nor a binding has a say in what is awaited. -/
theorem route_replace (stock : r.Stock) (char : event.code = .char c)
    (commands : state.mode.isCommandMode = true) (replacing : state.replacing = true) :
    r.route event now state = (.replace, r) := by
  apply route_of_aside _ (by simp [aside])
  rw [stock.bypass?_char char, commands, if_neg (by decide), if_pos replacing]

theorem digit?_of_passthrough (stock : r.Stock) : ∀ k ∈ r.passthrough, k.digit? = none := by
  intro k member
  cases k with
  | char c => exact absurd member (stock.unpassed c)
  | _ => rfl

theorem route_digit (stock : r.Stock) (commands : state.mode.isCommandMode = true)
    (resting : state.replacing = false) {d : Nat} (single : d < 10)
    (counts : d ≠ 0 ∨ r.count.isSome = true) (now : Nat) :
    ∃ previous, r.route (.plain (.char d.digitChar)) now state =
      (.absorbed, { r with previous := previous, count := some (pushDigit r.count d) }) := by
  have chords := digit?_of_contains_standard
  rw [← stock.keymap_eq] at chords
  have numerals : ∀ n < 10, n.digitChar.isUpper = false ∧
      (KeyCode.char n.digitChar).digit? = some n := by
    decide
  obtain ⟨lower, digit⟩ := numerals d single
  have normalized := KeyEvent.normalized_plain lower
  refine ⟨_, route_of_digit chords stock.digit?_of_passthrough commands resting (d := d) ?_ ?_ counts⟩
  · rw [normalized]
    exact digit
  · rw [normalized]
    rfl

theorem lookup_single (stock : r.Stock) {b : Binding} {action : Action} (single : Single c b action)
    (mode : Mode) (count : Nat) :
    r.lookup (.key (.char c)) (.plain (.char c)) mode count =
      .dispatch ⟨b.name, action, count, b.recordsUndo⟩ := by
  simp [lookup, stock.keymap_eq, single.bound, Binding.allows, single.anywhere, Binding.resolve,
    KeyEvent.plain, Modifiers.none, single.plain_eq]

theorem trigger_single (stock : r.Stock) {b : Binding} {action : Action} (single : Single c b action)
    (now : Nat) : (r.trigger (.plain (.char c)) now).1 = .key (.char c) := by
  have alone (a : KeyCode) :
      r.keymap.contains (.chord a (KeyEvent.plain (.char c)).code) = false := by
    rw [stock.keymap_eq]
    exact Bool.eq_false_iff.mpr fun chord => single.unchorded (second_of_contains_standard chord)
  exact r.trigger_of_alone alone now

theorem route_command (stock : r.Stock) (commands : state.mode.isCommandMode = true)
    (resting : state.replacing = false) {b : Binding} {action : Action} (single : Single c b action)
    (now : Nat) :
    ∃ previous, r.route (.plain (.char c)) now state =
      (.dispatch ⟨b.name, action, max 1 (r.count.getD 1), b.recordsUndo⟩,
        { r with previous := previous, count := none }) := by
  have normalized := KeyEvent.normalized_plain single.lower
  have reaches : r.bypass? (KeyEvent.plain (.char c)).normalized state = none := by
    rw [stock.bypass?_char rfl, commands, resting]
    rfl
  have uncounted : (r.trigger (.plain (.char c)) now).2.countDigit? (.key (.char c)) false = none := by
    simp [countDigit?, single.undigited]
  have closing : ¬keepsCount (.key (.char c)) false = true := by
    have other := single.unchorded
    simp only [List.mem_cons, KeyCode.char.injEq, List.not_mem_nil, or_false, not_or] at other
    simp [keepsCount, other]
  have unshifted : (KeyEvent.plain (.char c)).shifted = false := rfl
  -- What the press leaves in the chord memory is of no account to the lookup.
  have stock' : (r.trigger (.plain (.char c)) now).2.Stock := stock.withMemory _ r.count
  refine ⟨(r.trigger (.plain (.char c)) now).2.previous, ?_⟩
  rw [route_of_reaches reaches, normalized, stock.trigger_single single, follow, unshifted, uncounted]
  dsimp only
  rw [if_neg closing, stock'.lookup_single single]
  rfl

end Stock

end Router

end ModalEdit
