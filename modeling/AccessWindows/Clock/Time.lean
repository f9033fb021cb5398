import AccessWindows.Text.Basic

/-!
# Times of day

A `ClockTime` is a minute of a day, from 00:00 through 23:59. 24:00 is none, so a window that lasts
to the end of the day ends at 23:59. The text of a time is always five characters, two digits of
the hour, a colon and two digits of the minute, and times are ordered as they follow each other.

Clocks outside this library tell time to the nanosecond. A `PreciseTime` holds what such a clock
shows, so that a time can be handed over to it and a refused one can be quoted.
-/

set_option autoImplicit false

namespace AccessWindows

/-! ## Minutes of a day -/

/-- Minutes in a day. -/
def minutesPerDay : Nat := 1440

/-- A minute of a day, counted from midnight. -/
@[ext] structure ClockTime where
  minutes : Nat
  inDay : minutes < minutesPerDay
deriving DecidableEq

namespace ClockTime

/-- 00:00. -/
def midnight : ClockTime := ⟨0, by decide⟩

/-- 23:59, where the last cell of every day ends. -/
def dayEnd : ClockTime := ⟨1439, by decide⟩

instance : Inhabited ClockTime := ⟨midnight⟩

/-- The hour, 0 through 23. -/
def hour (t : ClockTime) : Nat := t.minutes / 60

/-- The minute within the hour, 0 through 59. -/
def minute (t : ClockTime) : Nat := t.minutes % 60

instance : LT ClockTime := ⟨fun a b => a.minutes < b.minutes⟩

instance : LE ClockTime := ⟨fun a b => a.minutes ≤ b.minutes⟩

instance : DecidableLT ClockTime := fun a b => Nat.decLt a.minutes b.minutes

instance : DecidableLE ClockTime := fun a b => Nat.decLe a.minutes b.minutes

theorem lt_iff {a b : ClockTime} : a < b ↔ a.minutes < b.minutes := Iff.rfl

theorem le_iff {a b : ClockTime} : a ≤ b ↔ a.minutes ≤ b.minutes := Iff.rfl

/-- The time that a number of minutes after midnight gives, if the day has that many. -/
def ofMinutes? (minutes : Nat) : Option ClockTime :=
  if h : minutes < minutesPerDay then some ⟨minutes, h⟩ else none

/-- The time at an hour and a minute, if a clock shows it. -/
def ofParts? (hour minute : Nat) : Option ClockTime :=
  if h : hour < 24 ∧ minute < 60 then some ⟨60 * hour + minute, by simp [minutesPerDay]; omega⟩
  else none

/-- The full hour, if a day has it. -/
def atHour? (hour : Nat) : Option ClockTime := ofParts? hour 0

/-- Hour and minute in two digits each, parted by a colon. -/
def text (t : ClockTime) : List Char :=
  Digits.padded 2 t.hour ++ ':' :: Digits.padded 2 t.minute

instance : ToString ClockTime := ⟨fun t => String.ofList t.text⟩

/-- The times of a list, earliest first; equal ones are kept. -/
def sort (ts : List ClockTime) : List ClockTime :=
  ts.mergeSort fun a b => decide (a ≤ b)

end ClockTime

/-! ## Times finer than a minute -/

/-- What a fine clock shows. During a leap second the nanoseconds run on past one billion. -/
structure PreciseTime where
  hour : Nat
  minute : Nat
  second : Nat
  nanosecond : Nat
deriving DecidableEq

namespace PreciseTime

/-- Nanoseconds in a second. -/
def billion : Nat := 1000000000

/-- The part of a second after the point: nothing when it is zero, else three, six or nine digits,
the fewest that are exact. -/
def fraction (nanosecond : Nat) : List Char :=
  if nanosecond = 0 then []
  else if nanosecond % 1000000 = 0 then '.' :: Digits.padded 3 (nanosecond / 1000000)
  else if nanosecond % 1000 = 0 then '.' :: Digits.padded 6 (nanosecond / 1000)
  else '.' :: Digits.padded 9 nanosecond

/-- Hour, minute and second in two digits each, then the fraction. A leap second shows as the second
after the last. -/
def text (t : PreciseTime) : List Char :=
  let leap := decide (billion ≤ t.nanosecond)
  let second := if leap then t.second + 1 else t.second
  let nanosecond := if leap then t.nanosecond - billion else t.nanosecond
  Digits.padded 2 t.hour ++ ':' :: Digits.padded 2 t.minute ++ ':' :: Digits.padded 2 second ++
    fraction nanosecond

instance : ToString PreciseTime := ⟨fun t => String.ofList t.text⟩

end PreciseTime

/-- The same time of day on a fine clock, on the full minute. -/
def ClockTime.toPrecise (t : ClockTime) : PreciseTime := ⟨t.hour, t.minute, 0, 0⟩

end AccessWindows
