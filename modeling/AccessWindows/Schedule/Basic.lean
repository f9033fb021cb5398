import AccessWindows.Ascending
import AccessWindows.Clock.Interval
import AccessWindows.Clock.Reading

/-!
# Selections and grants

A `Selection` is what a person picks on one day of the week grid: a weekday and intervals of it, in
any order and possibly overlapping. A schedule may list a weekday in several selections.

A `Grant` gives access on some weekdays during one window of the day. The record itself promises
nothing: a grant put together by hand may hold on no weekday, repeat weekdays, list them out of
order, or end before it starts. `Grant.make` builds only sound ones (`Grant.Sound`). Grants are
ordered by their weekday key as text, then by start, then by stop.
-/

set_option autoImplicit false

namespace AccessWindows

/-! ## Selections -/

/-- The intervals picked on one weekday. -/
structure Selection where
  day : Weekday
  intervals : List Interval
deriving DecidableEq

namespace Selection

/-- Whether the selection picks an interval on a day. -/
def picks (s : Selection) (d : Weekday) (i : Interval) : Bool :=
  decide (s.day = d ∧ i ∈ s.intervals)

end Selection

/-- The weekdays on which some selection of a list picks an interval, in the order of the week. -/
def daysPicking (sels : List Selection) (i : Interval) : List Weekday :=
  Weekday.all.filter fun d => sels.any fun s => s.picks d i

theorem mem_daysPicking {sels : List Selection} {i : Interval} {d : Weekday} :
    d ∈ daysPicking sels i ↔ ∃ s ∈ sels, s.day = d ∧ i ∈ s.intervals := by
  simp [daysPicking, Selection.picks, Weekday.mem_all]

/-! ## Grants -/

/-- The numbers of weekdays, joined by commas. -/
def weekdayKey (days : List Weekday) : List Char :=
  List.intercalate [','] (days.map Weekday.text)

/-- Access on some weekdays during one window. -/
structure Grant where
  weekdays : List Weekday
  start : ClockTime
  stop : ClockTime
deriving DecidableEq

namespace Grant

/-- A sound grant holds on at least one weekday, lists its weekdays in order and each once, and
starts before it stops. -/
structure Sound (g : Grant) : Prop where
  weekdays_ne_nil : g.weekdays ≠ []
  weekdays_ascend : g.weekdays.Pairwise (· < ·)
  start_lt_stop : g.start < g.stop

instance : DecidablePred Sound := fun g =>
  decidable_of_iff (g.weekdays ≠ [] ∧ g.weekdays.Pairwise (· < ·) ∧ g.start < g.stop)
    ⟨fun h => ⟨h.1, h.2.1, h.2.2⟩, fun h => ⟨h.1, h.2, h.3⟩⟩

/-- The sound grant on the weekdays of a list, which may repeat them in any order. That there is a
weekday is looked at first, the order of the times after it. -/
def make (days : List Weekday) (start stop : ClockTime) : Except Fault Grant :=
  if days = [] then .error (.noWeekday start stop)
  else if start < stop then .ok ⟨Ascending.ofList days, start, stop⟩
  else .error (.rangeOrder start stop)

/-- Build a grant anew from its parts. -/
def remake (g : Grant) : Except Fault Grant := make g.weekdays g.start g.stop

/-- The weekday key of the grant. -/
def key (g : Grant) : List Char := weekdayKey g.weekdays

/-- The window, unless it is empty. -/
def window? (g : Grant) : Option Interval := Interval.ofTimes? g.start g.stop

/-- The half hours of the window, counted from its start. -/
def halfHours (g : Grant) : List Interval := (HalfHours.mk g.start g.stop).toList

instance : LT Grant :=
  ⟨fun a b => a.key < b.key ∨
    a.key = b.key ∧ (a.start < b.start ∨ a.start = b.start ∧ a.stop < b.stop)⟩

instance : DecidableLT Grant := fun a b =>
  inferInstanceAs (Decidable (a.key < b.key ∨
    a.key = b.key ∧ (a.start < b.start ∨ a.start = b.start ∧ a.stop < b.stop)))

end Grant

end AccessWindows
