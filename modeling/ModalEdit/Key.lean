import ModalEdit.Text.Quoted

/-! # Keys

Keys, the modifiers held with them, and key events.  A host may report a shifted letter as an
uppercase character or as a lowercase one with shift held; `KeyEvent.normalized` makes both
the same event.

`KeyCode.display`, `Modifiers.display` and `KeyEvent.display` are the spellings of messages
and of the log.
-/

namespace ModalEdit

/-- A key, whatever is held with it. -/
inductive KeyCode
  | char (c : Char)
  | esc
  | enter
  | backspace
  | tab
  | delete
  | insert
  | home
  | endKey
  | left
  | right
  | up
  | down
  /-- A function key. -/
  | function (n : UInt8)
  /-- A keystroke that belongs to an input method's composition. -/
  | composition
  deriving DecidableEq

namespace KeyCode

/-- The keys that have a name of their own, with it. -/
def named : List (String × KeyCode) :=
  [("Esc", .esc), ("Enter", .enter), ("Backspace", .backspace), ("Tab", .tab),
   ("Delete", .delete), ("Insert", .insert), ("Home", .home), ("End", .endKey),
   ("Left", .left), ("Right", .right), ("Up", .up), ("Down", .down),
   ("Composition", .composition)]

def ofName? (s : String) : Option KeyCode := named.lookup s

def name? (k : KeyCode) : Option String := (named.find? (fun p => p.2 == k)).map Prod.fst

/-- The spelling of a key in messages: its name, or its kind with what tells it from the others
    of that kind. -/
def display : KeyCode → String
  | .char c => "Char(" ++ Quoted.char c ++ ")"
  | .function n => "F(" ++ toString n.toNat ++ ")"
  | k => k.name?.getD ""

def digit? : KeyCode → Option Nat
  | .char c => if c.isDigit then some (c.toNat - '0'.toNat) else none
  | _ => none

end KeyCode

/-! ## Modifiers -/

/-- The modifiers held with a key. -/
structure Modifiers where
  shift : Bool := false
  ctrl : Bool := false
  alt : Bool := false
  metaKey : Bool := false
  deriving DecidableEq

namespace Modifiers

def none : Modifiers := {}

/-- The modifiers by name, in the order in which they are listed. -/
def held (m : Modifiers) : List String :=
  [("SHIFT", m.shift), ("CTRL", m.ctrl), ("ALT", m.alt), ("META", m.metaKey)].filterMap
    (fun p => if p.2 then some p.1 else Option.none)

/-- The modifiers as one number, a bit for each. -/
def bits (m : Modifiers) : Nat :=
  m.shift.toNat + 2 * m.ctrl.toNat + 4 * m.alt.toNat + 8 * m.metaKey.toNat

def ofNames (names : List String) : Modifiers where
  shift := names.contains "SHIFT"
  ctrl := names.contains "CTRL"
  alt := names.contains "ALT"
  metaKey := names.contains "META"

def display (m : Modifiers) : String :=
  "Modifiers(" ++ (if m = none then "0x0" else " | ".intercalate m.held) ++ ")"

end Modifiers

/-! ## Key events -/

/-- A key press. -/
structure KeyEvent where
  code : KeyCode
  mods : Modifiers := .none
  deriving DecidableEq

namespace KeyEvent

def plain (code : KeyCode) : KeyEvent := ⟨code, .none⟩

/-- An uppercase letter of ASCII becomes its lowercase key with shift held. -/
def normalized (e : KeyEvent) : KeyEvent :=
  match e.code with
  | .char c =>
    if c.isUpper then ⟨.char c.toLower, { e.mods with shift := true }⟩ else e
  | _ => e

def ofChar (c : Char) : KeyEvent := (plain (.char c)).normalized

def shifted (e : KeyEvent) : Bool := e.mods.shift

/-- The character that a text widget types for a press that is left to it: the key's, in upper
    case (of ASCII) with shift. -/
def typed? (e : KeyEvent) : Option Char :=
  match e.code with
  | .char c => some (if e.shifted then c.toUpper else c)
  | _ => none

def display (e : KeyEvent) : String :=
  "KeyEvent \x7b code: " ++ e.code.display ++ ", mods: " ++ e.mods.display ++ " \x7d"

end KeyEvent

/-! ## Triggers -/

/-- What a binding listens to. -/
inductive Trigger
  | key (code : KeyCode)
  /-- Two keys pressed one after the other. -/
  | chord (first second : KeyCode)
  deriving DecidableEq

namespace Trigger

def keys : Trigger → List KeyCode
  | .key k => [k]
  | .chord a b => [a, b]

def display (t : Trigger) : String := " ".intercalate (t.keys.map KeyCode.display)

end Trigger

end ModalEdit
