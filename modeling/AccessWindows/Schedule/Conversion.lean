import AccessWindows.Grid.Edit

/-!
# Schedules and their conversions

A `Schedule` is either a list of selections or a list of grants. The four steps lead from one form
to the other or keep the form; a step that does not fit the form of a schedule is not defined on it.

The meaning of a schedule, in either form, is the set of minutes of the week at which it gives
access. Conversions are judged by it: `Schedule.Covers` does not depend on how a schedule is cut
into intervals, grouped or ordered. A window is aligned if it consists of whole cells of the week
grid.
-/

set_option autoImplicit false

namespace AccessWindows

/-- A week's access in either form. -/
inductive Schedule where
  | selections (sels : List Selection)
  | grants (gs : List Grant)
deriving DecidableEq

/-- One conversion. -/
inductive Step where
  /-- Selections to grants. -/
  | merge
  /-- Grants to selections. -/
  | split
  /-- Grants to grants in normal form. -/
  | normalize
  /-- Either form through the week grid and back. -/
  | grid
deriving DecidableEq, Repr

namespace Schedule

/-- The schedule after a step, if the step fits its form. -/
def step? : Step → Schedule → Option Schedule
  | .merge, .selections sels => some (.grants (Grant.ofSelections sels))
  | .split, .grants gs => some (.selections (Selection.ofGrants gs))
  | .normalize, .grants gs => some (.grants (Grant.normalize gs))
  | .grid, .selections sels => some (.selections (WeekGrid.ofSelections sels).toSelections)
  | .grid, .grants gs => some (.grants (WeekGrid.ofGrants gs).toGrants)
  | _, _ => none

/-- The schedules after each step of a series, if every step fits. -/
def run? : List Step → Schedule → Option (List Schedule)
  | [], _ => some []
  | s :: steps, schedule => do
      let next ← step? s schedule
      let later ← run? steps next
      return next :: later

end Schedule

/-! ## What a schedule grants -/

/-- Whether a minute lies in an interval. -/
def Interval.Holds (i : Interval) (minute : Nat) : Prop :=
  i.start.minutes ≤ minute ∧ minute < i.stop.minutes

instance (i : Interval) (minute : Nat) : Decidable (i.Holds minute) :=
  inferInstanceAs (Decidable (i.start.minutes ≤ minute ∧ minute < i.stop.minutes))

/-- Whether a selection gives access on a weekday at a minute. -/
def Selection.Covers (s : Selection) (d : Weekday) (minute : Nat) : Prop :=
  s.day = d ∧ ∃ i ∈ s.intervals, i.Holds minute

instance (s : Selection) (d : Weekday) (minute : Nat) : Decidable (s.Covers d minute) :=
  inferInstanceAs (Decidable (s.day = d ∧ ∃ i ∈ s.intervals, i.Holds minute))

/-- Whether a grant gives access on a weekday at a minute. -/
def Grant.Covers (g : Grant) (d : Weekday) (minute : Nat) : Prop :=
  d ∈ g.weekdays ∧ g.start.minutes ≤ minute ∧ minute < g.stop.minutes

instance (g : Grant) (d : Weekday) (minute : Nat) : Decidable (g.Covers d minute) :=
  inferInstanceAs (Decidable (d ∈ g.weekdays ∧ g.start.minutes ≤ minute ∧ minute < g.stop.minutes))

/-- Whether a schedule gives access on a weekday at a minute. -/
def Schedule.Covers (schedule : Schedule) (d : Weekday) (minute : Nat) : Prop :=
  match schedule with
  | .selections sels => ∃ s ∈ sels, s.Covers d minute
  | .grants gs => ∃ g ∈ gs, g.Covers d minute

/-- Whether a window from one time to another consists of whole cells: it starts on a half hour, and
ends on one or with the day. -/
def AlignedWindow (start stop : ClockTime) : Prop :=
  start.minutes % slotMinutes = 0 ∧ (stop.minutes % slotMinutes = 0 ∨ stop = .dayEnd)

instance (start stop : ClockTime) : Decidable (AlignedWindow start stop) :=
  inferInstanceAs (Decidable (start.minutes % slotMinutes = 0 ∧
    (stop.minutes % slotMinutes = 0 ∨ stop = .dayEnd)))

/-- Whether all intervals and all windows that are not empty consist of whole cells. -/
def Schedule.Aligned : Schedule → Prop
  | .selections sels => ∀ s ∈ sels, ∀ i ∈ s.intervals, AlignedWindow i.start i.stop
  | .grants gs => ∀ g ∈ gs, g.start < g.stop → AlignedWindow g.start g.stop

end AccessWindows
