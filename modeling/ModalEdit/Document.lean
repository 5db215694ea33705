import ModalEdit.Config
import ModalEdit.Mode

/-! # Stored settings

Settings are stored as documents: trees of lists and named fields over texts, numbers and
truth values.  This module fixes their stored form and reads it back.

* A key or a mode without further content is stored as its name; a character or a function key
  as a field of its kind's name.  A name may also be read from a field of that name that holds
  nothing.
* A pause is stored as whole seconds and the nanoseconds beyond them.
* A configuration is stored with all its fields.  When it is read, a missing field has its
  default value, and fields that are not known are ignored.  It can also be read from a list
  of its fields in their order.

Reading fails where a value has the wrong shape or is out of range.  Whether the settings make
sense is not looked at; that is `Config.fault?`.
-/

namespace ModalEdit

/-- A stored value. -/
inductive Document
  | null
  | bool (b : Bool)
  | number (n : Nat)
  /-- A number that is negative or has a fraction; no setting takes one. -/
  | otherNumber
  | string (s : String)
  | array (items : List Document)
  /-- Named fields, no name twice. -/
  | object (fields : List (String × Document))
  deriving Inhabited

namespace Document

/-! ## Plain values -/

def bool? : Document → Option Bool
  | .bool b => some b
  | _ => none

def below? (bound : Nat) : Document → Option Nat
  | .number n => if n < bound then some n else none
  | _ => none

def list? {α : Type} (read : Document → Option α) : Document → Option (List α)
  | .array items => items.mapM read
  | _ => none

def option? {α : Type} (read : Document → Option α) : Document → Option (Option α)
  | .null => some none
  | d => (read d).map some

/-- Reads a name that stands alone. -/
def name? : Document → Option String
  | .string s => some s
  | .object [(s, .null)] => some s
  | _ => none

/-! ## Modes and keys -/

def ofMode (m : Mode) : Document := .string m.name

def mode? (d : Document) : Option Mode := d.name?.bind Mode.ofName?

def ofKey : KeyCode → Document
  | .char c => .object [("Char", .string (String.singleton c))]
  | .function n => .object [("F", .number n.toNat)]
  | k => .string (k.name?.getD "")

def key? : Document → Option KeyCode
  | .object [("Char", .string s)] =>
    match s.toList with
    | [c] => some (.char c)
    | _ => none
  | .object [("F", d)] => (d.below? 256).map (fun n => .function n.toUInt8)
  | d => d.name?.bind KeyCode.ofName?

theorem mode?_ofMode (m : Mode) : (ofMode m).mode? = some m := by
  cases m <;> decide

theorem key?_ofKey (k : KeyCode) : (ofKey k).key? = some k := by
  cases k with
  | char c => simp only [ofKey, key?, String.toList_singleton]
  | function n =>
    have h : n.toNat < 256 := n.toNat_lt
    simp only [ofKey, key?, below?, if_pos h, Option.map_some, Nat.toUInt8_eq, UInt8.ofNat_toNat]
  | _ => decide

/-! ## Pauses -/

/-- One more than the largest number of seconds that can be stored. -/
def secondsBound : Nat := Nat.pow 2 64

/-- One more than the largest number of nanoseconds that can be stored. -/
def nanosBound : Nat := Nat.pow 2 32

def ofDuration (d : Nat) : Document :=
  .object [("secs", .number (d / Time.second)), ("nanos", .number (d % Time.second))]

/-- Reads a pause from its two numbers.  Nanoseconds beyond a second are carried over. -/
def durationOf? (secs nanos : Document) : Option Nat := do
  let secs ← secs.below? secondsBound
  let nanos ← nanos.below? nanosBound
  let d := secs * Time.second + nanos
  if d / Time.second < secondsBound then some d else none

/-- Reads a pause: both numbers and nothing else. -/
def duration? : Document → Option Nat
  | .object [("secs", secs), ("nanos", nanos)] => durationOf? secs nanos
  | .object [("nanos", nanos), ("secs", secs)] => durationOf? secs nanos
  | .array [secs, nanos] => durationOf? secs nanos
  | _ => none

/-! ## Configurations -/

/-- The names of the fields of a configuration, in their order. -/
def configFields : List String :=
  ["debug", "passthrough", "chord_window", "undo_limit", "mode_switch_delay",
   "replace_repair_delay"]

def ofConfig (c : Config) : Document :=
  .object
    [("debug", .bool c.debug),
     ("passthrough", .array (c.passthrough.map ofKey)),
     ("chord_window", (c.chordWindow.map ofDuration).getD .null),
     ("undo_limit", .number c.undoLimit),
     ("mode_switch_delay", ofDuration c.modeSwitchDelay),
     ("replace_repair_delay", ofDuration c.replaceRepairDelay)]

/-- Reads one of several fields, which has a default value if it is missing. -/
def field? {α : Type} (fields : List (String × Document)) (name : String) (default : α)
    (read : Document → Option α) : Option α :=
  match fields.lookup name with
  | none => some default
  | some d => read d

def configOf? (fields : List (String × Document)) : Option Config := do
  let stock : Config := {}
  let debug ← field? fields "debug" stock.debug bool?
  let passthrough ← field? fields "passthrough" stock.passthrough (list? key?)
  let chordWindow ← field? fields "chord_window" stock.chordWindow (option? duration?)
  let undoLimit ← field? fields "undo_limit" stock.undoLimit (below? (Nat.pow 2 64))
  let modeSwitchDelay ← field? fields "mode_switch_delay" stock.modeSwitchDelay duration?
  let replaceRepairDelay ←
    field? fields "replace_repair_delay" stock.replaceRepairDelay duration?
  return { debug, passthrough, chordWindow, undoLimit, modeSwitchDelay, replaceRepairDelay }

def config? : Document → Option Config
  | .object fields => configOf? fields
  | .array items =>
    if items.length ≤ configFields.length then configOf? (configFields.zip items) else none
  | _ => none

end Document

end ModalEdit
