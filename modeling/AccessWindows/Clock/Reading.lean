import AccessWindows.Clock.Interval
import AccessWindows.Clock.Weekday
import AccessWindows.Fault

/-!
# Reading times, weekdays and intervals

Values of the clock from outside: from numbers, from a fine clock, and from text. Reading accepts
exactly the texts that the library writes, so every value has one text. Whatever is refused comes
with the `Fault` that says why.
-/

set_option autoImplicit false

namespace AccessWindows

namespace ClockTime

/-- The time at an hour and a minute. -/
def ofParts (hour minute : Nat) : Except Fault ClockTime :=
  orFault (.noSuchTime hour minute) (ofParts? hour minute)

/-- The time some minutes after midnight. -/
def ofMinutes (minutes : Nat) : Except Fault ClockTime :=
  orFault (.pastDay minutes) (ofMinutes? minutes)

/-- The time that a fine clock shows, if it stands on a full minute. -/
def ofPrecise (t : PreciseTime) : Except Fault ClockTime :=
  if t.second ≠ 0 ∨ t.nanosecond ≠ 0 then .error (.subMinute t) else ofParts t.hour t.minute

/-- The hour and the minute that a text of five characters in the shape of a time holds. -/
def parts? : List Char → Option (Nat × Nat)
  | [h₁, h₂, ':', m₁, m₂] => do
      let a ← Digits.value? h₁
      let b ← Digits.value? h₂
      let c ← Digits.value? m₁
      let d ← Digits.value? m₂
      return (10 * a + b, 10 * c + d)
  | _ => none

/-- Read a time: exactly two digits, a colon and two digits, in the bounds of a day. -/
def read (s : List Char) : Except Fault ClockTime :=
  match parts? s with
  | none => .error (.timeShape (String.ofList s))
  | some (hour, minute) => orFault (.timeOutside (String.ofList s)) (ofParts? hour minute)

/-- Read a time from a string. -/
def ofString (s : String) : Except Fault ClockTime := read s.toList

end ClockTime

namespace Weekday

/-- The weekday with a number. -/
def ofNumber (n : Nat) : Except Fault Weekday := orFault (.noSuchWeekday n) (ofNumber? n)

end Weekday

namespace Interval

/-- The interval between two times. -/
def ofTimes (start stop : ClockTime) : Except Fault Interval :=
  orFault (.intervalOrder start stop) (ofTimes? start stop)

/-- Read an interval: a time, a tilde and a time. The first tilde parts the two, the first time is
looked at first, and the order of the two times last. -/
def read (s : List Char) : Except Fault Interval :=
  match s.dropWhile (· ≠ '~') with
  | [] => .error (.intervalShape (String.ofList s))
  | _ :: after => do
      let start ← ClockTime.read (s.takeWhile (· ≠ '~'))
      let stop ← ClockTime.read after
      ofTimes start stop

/-- Read an interval from a string. -/
def ofString (s : String) : Except Fault Interval := read s.toList

end Interval

end AccessWindows
