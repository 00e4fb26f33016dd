import Mathlib.Algebra.Group.Int.Defs
import Mathlib.Algebra.Group.Nat.Defs
import Mathlib.Data.Int.Notation
import Mathlib.Data.Nat.Notation
import Mathlib.Order.Defs.PartialOrder
import Mathlib.Order.Lattice

/-!
The two clocks of the director.

* `OffsetDateTime`: a wall-clock time, an instant in UTC together with the offset
  it is written in. Comparisons read the instant alone; an addition is made on
  the local date, so `checkedAddSeconds` fails exactly beyond the last local
  date of the year 9999;
* `Instant`: a reading of the monotonic clock in nanoseconds;
  `Instant.checkedAdd` fails beyond `i64::MAX` seconds.
-/

namespace UdpDirector

/-! ### Wall-clock time -/

/-- `time::OffsetDateTime`. -/
structure OffsetDateTime where
  /-- Nanoseconds since the epoch, in UTC. -/
  unixNanos : ℤ
  /-- Seconds east of UTC. -/
  offset : ℤ
  deriving DecidableEq, Repr

namespace OffsetDateTime

/-- Times are ordered by their instants, whatever their offsets. -/
instance : Preorder OffsetDateTime where
  le s t := s.unixNanos ≤ t.unixNanos
  lt s t := s.unixNanos < t.unixNanos
  le_refl s := Int.le_refl s.unixNanos
  le_trans _ _ _ := Int.le_trans
  lt_iff_le_not_ge _ _ := Int.lt_iff_le_and_not_ge

lemma le_def {s t : OffsetDateTime} : s ≤ t ↔ s.unixNanos ≤ t.unixNanos := Iff.rfl

lemma lt_def {s t : OffsetDateTime} : s < t ↔ s.unixNanos < t.unixNanos := Iff.rfl

lemma not_lt_iff {s t : OffsetDateTime} : ¬s < t ↔ t ≤ s := by
  rw [lt_def, le_def, not_lt]

lemma not_le_iff {s t : OffsetDateTime} : ¬s ≤ t ↔ t < s := by
  rw [lt_def, le_def, not_le]

instance (s t : OffsetDateTime) : Decidable (s ≤ t) :=
  inferInstanceAs (Decidable (s.unixNanos ≤ t.unixNanos))

instance (s t : OffsetDateTime) : Decidable (s < t) :=
  inferInstanceAs (Decidable (s.unixNanos < t.unixNanos))

/-- The last representable local date, `9999-12-31 23:59:59.999999999`. -/
def maxLocalNanos : ℤ := 253402300799999999999

/-- The time some seconds later, unless its local date is out of range. -/
def checkedAddSeconds (t : OffsetDateTime) (seconds : ℤ) : Option OffsetDateTime :=
  if t.unixNanos + (t.offset + seconds) * 10 ^ 9 ≤ maxLocalNanos then
    some { t with unixNanos := t.unixNanos + seconds * 10 ^ 9 }
  else
    none

end OffsetDateTime

/-! ### Monotonic time -/

/-- A reading of the monotonic clock, in nanoseconds. -/
abbrev Instant := ℕ

namespace Instant

/-- `Instant + Duration::from_secs`, unless it leaves the range of seconds. -/
def checkedAdd (t : Instant) (seconds : ℕ) : Option Instant :=
  if t / 10 ^ 9 + seconds < 2 ^ 63 then some (t + seconds * 10 ^ 9) else none

end Instant

end UdpDirector
