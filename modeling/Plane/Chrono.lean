import Mathlib.Order.Basic

/-! # Instants and durations

The controller and the drone compute with chrono's `DateTime<Utc>` and `Duration` and with
`std::time::Duration`. All three count nanoseconds here: an instant is an `Int` from the Unix
epoch, a `chrono::Duration` an `Int`, a `std::time::Duration` a `Nat`. The operations the code
calls are checked: they return `None` (or an `OutOfRangeError`) when the result leaves the range
of the target type. The bounds of those ranges belong to chrono, not to this repository, so they
are a `TimeRange` that every result below leaves open.
-/

namespace Plane

/-- `chrono::Duration::seconds`. -/
def seconds (n : Int) : Int := n * 1000000000

/-- The bounds of chrono's types. -/
structure TimeRange where
  /-- The earliest instant a `DateTime<Utc>` can hold. -/
  minUtc : Int
  /-- The latest instant a `DateTime<Utc>` can hold. -/
  maxUtc : Int
  /-- The longest `chrono::Duration`. -/
  maxDuration : Int

namespace TimeRange

variable (range : TimeRange)

/-- An instant that `DateTime<Utc>` can hold. -/
def Represents (t : Int) : Prop := range.minUtc ≤ t ∧ t ≤ range.maxUtc

instance (t : Int) : Decidable (range.Represents t) :=
  inferInstanceAs (Decidable (_ ∧ _))

/-- `DateTime::checked_add_signed`. -/
def checkedAddSigned (t d : Int) : Option Int :=
  if range.Represents (t + d) then some (t + d) else none

/-- `DateTime::checked_sub_signed`. -/
def checkedSubSigned (t d : Int) : Option Int :=
  if range.Represents (t - d) then some (t - d) else none

/-- `chrono::Duration::from_std`: fails above the longest `chrono::Duration`. -/
def fromStd (d : Nat) : Option Int :=
  if (d : Int) ≤ range.maxDuration then some d else none

variable {range}

@[simp] theorem checkedAddSigned_eq_some {t d u : Int} :
    range.checkedAddSigned t d = some u ↔ range.Represents (t + d) ∧ t + d = u := by
  unfold checkedAddSigned; split <;> simp_all

@[simp] theorem checkedSubSigned_eq_some {t d u : Int} :
    range.checkedSubSigned t d = some u ↔ range.Represents (t - d) ∧ t - d = u := by
  unfold checkedSubSigned; split <;> simp_all

@[simp] theorem fromStd_eq_some {d : Nat} {e : Int} :
    range.fromStd d = some e ↔ (d : Int) ≤ range.maxDuration ∧ (d : Int) = e := by
  unfold fromStd; split <;> simp_all

end TimeRange

/-- `chrono::Duration::to_std`: fails on a negative duration. -/
def toStd (d : Int) : Option Nat :=
  if 0 ≤ d then some d.toNat else none

@[simp] theorem toStd_eq_none {d : Int} : toStd d = none ↔ d < 0 := by
  unfold toStd; split <;> simp_all [Int.not_lt, Int.not_le]

end Plane
