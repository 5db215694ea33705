import ModalEdit.Text.Cluster

/-! # The register

The one place that yanked and deleted text goes to, shared by all fields, and whether that
text is to be pasted as whole lines.  The text itself is kept by a clipboard of the host's
choice.
-/

namespace ModalEdit

/-- Where the text of a register is kept. -/
inductive Clipboard
  /-- Keeps the last text written. -/
  | memory (content : Option Text)
  /-- Keeps every text written, in order, and gives back the last. -/
  | recording (writes : List Text)
  /-- Keeps nothing. -/
  | discarding
  deriving DecidableEq

namespace Clipboard

def get? : Clipboard → Option Text
  | .memory content => content
  | .recording writes => writes.getLast?
  | .discarding => none

def put : Clipboard → Text → Clipboard
  | .memory _, cs => .memory (some cs)
  | .recording writes, cs => .recording (writes ++ [cs])
  | .discarding, _ => .discarding

/-- Every text written so far, where the clipboard keeps them. -/
def writes? : Clipboard → Option (List Text)
  | .recording writes => some writes
  | .memory _ | .discarding => none

/-- What was written last is what is read, unless it was thrown away. -/
theorem get?_put (c : Clipboard) (cs : Text) :
    (c.put cs).get? = if c = .discarding then none else some cs := by
  cases c <;> simp [put, get?]

end Clipboard

/-- The register. -/
structure Register where
  clipboard : Clipboard := .memory none
  /-- The text is pasted as whole lines. -/
  lineWise : Bool := false
  deriving DecidableEq

namespace Register

/-- The text in the register, if anything was ever put there. -/
def text? (r : Register) : Option Text := r.clipboard.get?

def write (r : Register) (cs : Text) : Register := { r with clipboard := r.clipboard.put cs }

/-- The register's description in messages, which keeps its text private. -/
def display (r : Register) : String :=
  "Register \x7b line_wise: " ++ toString r.lineWise ++ ", .. \x7d"

end Register

end ModalEdit
