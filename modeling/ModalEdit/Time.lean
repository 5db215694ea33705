/-! # Time

Instants and pauses are numbers of nanoseconds.  An instant counts from an origin that the
host chooses, and the host's clock may go back: `elapsed` is zero then.
-/

namespace ModalEdit.Time

/-- The nanoseconds of one second. -/
def second : Nat := 1000000000

/-- A pause given in milliseconds. -/
def ofMillis (n : Nat) : Nat := n * 1000000

/-- The whole milliseconds of a pause. -/
def toMillis (d : Nat) : Nat := d / 1000000

theorem toMillis_ofMillis (n : Nat) : toMillis (ofMillis n) = n := by
  simp [toMillis, ofMillis]

/-- The time from one instant to a later one, and zero to an earlier one. -/
def elapsed (earlier later : Nat) : Nat := later - earlier

end ModalEdit.Time
