import Mathlib.Data.Int.Init

/-!
# Instants

A `datetime` of Python's standard library in UTC. An instant is counted in microseconds since the
epoch, and the years go from 1 to 9999: an instant that is moved out of them is none.
-/

/-- A `datetime` in UTC, in microseconds since the epoch: from the year 1 to the year 9999. -/
structure Datetime where
  micros : Int
  inRange : -62135596800000000 ≤ micros ∧ micros ≤ 253402300799999999

/-- The microseconds of a second. -/
abbrev microsPerSecond : Int := 1000000

namespace Datetime

/-- `datetime + timedelta`. A result out of range is an `OverflowError`. -/
def add (start : Datetime) (delta : Int) : Option Datetime :=
  if h : -62135596800000000 ≤ start.micros + delta ∧
      start.micros + delta ≤ 253402300799999999 then
    some ⟨start.micros + delta, h⟩
  else none

/-- The second in which an instant lies. -/
def second (instant : Datetime) : Int := instant.micros / microsPerSecond

/-- An instant is moved exactly if the result is an instant. -/
theorem add_isSome_iff {start : Datetime} {delta : Int} :
    (start.add delta).isSome ↔ -62135596800000000 ≤ start.micros + delta ∧
      start.micros + delta ≤ 253402300799999999 := by
  unfold add
  split
  case isTrue h => exact iff_of_true rfl h
  case isFalse h => exact iff_of_false (by simp) h

end Datetime
