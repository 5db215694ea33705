import ModalEdit.Config
import ModalEdit.Keymap.Standard
import ModalEdit.Route

/-! # The router

Turns key presses into routes.  A press goes through two stages.

* `bypass?` decides the routes that look at neither counts nor chords nor bindings: keys that
  pass through, text, a pending replacement, an input method's keys, and the escape key.
* The other presses reach the chord memory (`pair`), which remembers the last key pressed
  without modifiers and when; together they may form a chord that is bound.  What they resolve
  to is then a digit of the pending count, or is looked up in the keymap (`follow`).

A count is collected over any number of digits and is used up by the next command.
-/

namespace ModalEdit

/-- The key that may begin a chord, and when it was pressed. -/
abbrev ChordMemory := Option (KeyCode × Nat)

/-- The state of a router. -/
structure Router where
  keymap : Keymap
  passthrough : List KeyCode
  chordWindow : Option Nat
  previous : ChordMemory := none
  /-- The count typed so far. -/
  count : Option Nat := none
  deriving DecidableEq

/-- The chord that a press makes with the remembered key, and what is remembered after it.  A
    press with modifiers is forgotten and forgets the key before it.  A key pressed twice is
    used up, so that a third press begins anew. -/
def ChordMemory.pair (previous : ChordMemory) (event : KeyEvent) (now : Nat)
    (window : Option Nat) : Option Trigger × ChordMemory :=
  if event.mods ≠ .none then (none, none)
  else
    match previous with
    | none => (none, some (event.code, now))
    | some (code, pressed) =>
      if window.any (fun w => decide (w < Time.elapsed pressed now)) then
        (none, some (event.code, now))
      else
        (some (.chord code event.code),
          if code = event.code then none else some (event.code, now))

namespace Router

def ofConfig (keymap : Keymap) (config : Config) : Router where
  keymap := keymap
  passthrough := config.passthrough
  chordWindow := config.chordWindow

/-- Forgets the pending count and the remembered key. -/
def reset (r : Router) : Router := { r with previous := none, count := none }

/-- The routes that are decided before counts, chords and bindings are looked at. -/
def bypass? (r : Router) (event : KeyEvent) (state : ModalState) : Option Route :=
  if r.passthrough.contains event.code then some .passthrough
  else if !state.mode.isCommandMode then
    if event.code = .esc then some .escape else some .text
  else if state.replacing then some .replace
  else if event.code = .composition then some .rejected
  else if event.code = .esc then some .escape
  else none

/-- What a press triggers: the chord that it completes, if that is bound, or its own key. -/
def trigger (r : Router) (event : KeyEvent) (now : Nat) : Trigger × Router :=
  let (chord, previous) := r.previous.pair event now r.chordWindow
  let r := { r with previous := previous }
  ((chord.filter r.keymap.contains).getD (.key event.code), r)

/-- The digit that a trigger adds to the count.  A zero that would begin a count is none. -/
def countDigit? (r : Router) (t : Trigger) (shifted : Bool) : Option Nat :=
  match t with
  | .chord _ _ => none
  | .key code =>
    if shifted then none
    else code.digit?.filter (fun d => decide (d ≠ 0) || r.count.isSome)

def pushDigit (count : Option Nat) (d : Nat) : Nat := min (count.getD 0 * 10 + d) maxCount

/-- Whether a trigger is a key on its own that begins the chords on lines and words, for which
    a pending count is kept. -/
def keepsCount (t : Trigger) (shifted : Bool) : Bool :=
  (t == .key (.char 'd') || t == .key (.char 'y')) && !shifted

def lookup (r : Router) (t : Trigger) (event : KeyEvent) (mode : Mode) (count : Nat) : Route :=
  match r.keymap.get? t with
  | none => .unbound
  | some b =>
    if b.allows mode then
      match b.resolve event.mods with
      | none => .unbound
      | some action => .dispatch ⟨b.name, action, count, b.recordsUndo⟩
    else .unbound

def follow (r : Router) (t : Trigger) (event : KeyEvent) (mode : Mode) : Route × Router :=
  match r.countDigit? t event.shifted with
  | some d => (.absorbed, { r with count := some (pushDigit r.count d) })
  | none =>
    -- The count is used up only if the key is a command by itself.
    if keepsCount t event.shifted then
      let route := r.lookup t event mode 1
      (route, if route.dispatch?.isSome then { r with count := none } else r)
    else
      (r.lookup t event mode (max 1 (r.count.getD 1)), { r with count := none })

/-- The route of a key press on a field in a given state. -/
def route (r : Router) (event : KeyEvent) (now : Nat) (state : ModalState) :
    Route × Router :=
  match r.bypass? event.normalized state with
  | some .escape => (.escape, r.reset)
  | some route => (route, r)
  | none =>
    let (t, r) := r.trigger event.normalized now
    r.follow t event.normalized state.mode

end Router

end ModalEdit
