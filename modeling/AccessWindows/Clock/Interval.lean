import AccessWindows.Clock.Time

/-!
# Intervals and windows within a day

An `Interval` runs from a start up to, and not including, a later stop on the same day. Intervals
are ordered by start, then by stop.

A `HalfHours` stands at a time within a window and hands out intervals of thirty minutes, one after
the other, until the window is used up. The cuts count from where the window starts, not from full
hours, and the last interval is clipped to the end of the window. `remaining` says beforehand how
many intervals are still to come, and `toList` lists them.
-/

set_option autoImplicit false

namespace AccessWindows

/-! ## Intervals -/

/-- The minutes of a day from `start` on and before `stop`; there is at least one. -/
@[ext] structure Interval where
  start : ClockTime
  stop : ClockTime
  start_lt_stop : start < stop
deriving DecidableEq

namespace Interval

/-- Length in minutes. -/
def minutes (i : Interval) : Nat := i.stop.minutes - i.start.minutes

/-- Whether all of `other` lies within `i`. -/
def covers (i other : Interval) : Bool := decide (i.start ≤ other.start ∧ other.stop ≤ i.stop)

instance : LT Interval := ⟨fun a b => a.start < b.start ∨ a.start = b.start ∧ a.stop < b.stop⟩

instance : LE Interval := ⟨fun a b => a.start < b.start ∨ a.start = b.start ∧ a.stop ≤ b.stop⟩

instance : DecidableLT Interval := fun a b =>
  inferInstanceAs (Decidable (a.start < b.start ∨ a.start = b.start ∧ a.stop < b.stop))

instance : DecidableLE Interval := fun a b =>
  inferInstanceAs (Decidable (a.start < b.start ∨ a.start = b.start ∧ a.stop ≤ b.stop))

/-- The interval between two times, if the first is before the second. -/
def ofTimes? (start stop : ClockTime) : Option Interval :=
  if h : start < stop then some ⟨start, stop, h⟩ else none

/-- Start and stop with a tilde between. -/
def text (i : Interval) : List Char := i.start.text ++ '~' :: i.stop.text

instance : ToString Interval := ⟨fun i => String.ofList i.text⟩

/-- The intervals of a list in order; equal ones are kept. -/
def sort (is : List Interval) : List Interval :=
  is.mergeSort fun a b => decide (a ≤ b)

end Interval

/-! ## Half hours -/

/-- Minutes in one cell of the week grid. -/
def slotMinutes : Nat := 30

/-- What is left of a window that is cut into half hours. -/
structure HalfHours where
  next : ClockTime
  stop : ClockTime
deriving DecidableEq

namespace HalfHours

/-- The end of the half hour that begins at `next`, clipped to the end of the window. -/
def cut (h : HalfHours) : ClockTime :=
  ⟨min (h.next.minutes + slotMinutes) h.stop.minutes,
    Nat.lt_of_le_of_lt (Nat.min_le_right _ _) h.stop.inDay⟩

theorem next_lt_cut {h : HalfHours} (left : h.next < h.stop) : h.next < h.cut := by
  simp only [ClockTime.lt_iff, cut, slotMinutes] at *
  omega

/-- The next interval and what is left after it, or nothing once the window is used up. -/
def next? (h : HalfHours) : Option (Interval × HalfHours) :=
  if left : h.next < h.stop then some (⟨h.next, h.cut, next_lt_cut left⟩, ⟨h.cut, h.stop⟩)
  else none

/-- How many intervals are still to come. -/
def remaining (h : HalfHours) : Nat :=
  -- rounded up, since a clipped half hour counts; a reversed window has none
  (h.stop.minutes - h.next.minutes + (slotMinutes - 1)) / slotMinutes

/-- The first `n` of the intervals still to come. -/
def take : Nat → HalfHours → List Interval
  | 0, _ => []
  | n + 1, h =>
      match h.next? with
      | none => []
      | some (i, h') => i :: take n h'

/-- The intervals still to come. -/
def toList (h : HalfHours) : List Interval := take h.remaining h

end HalfHours

end AccessWindows
