import AccessWindows.Schedule.Basic

/-!
# From one form to the other

Every interval that is picked on some day becomes a grant on exactly the weekdays that pick it. In
the order of grants, neighbours on the same weekdays of which one stops where the other starts are
joined to one. Nothing is joined across different weekdays, and no gap is filled.

The other way each weekday gets the half hours of all grants that list it, in order and each once. A
weekday that gets none is left out, and the weekdays come in the order of the week. A grant with an
empty window gives nothing.

Grants that overlap, repeat or come in fragments are brought into normal form by going both ways. A
list of grants is canonical when nothing about it could be written differently: all grants are
sound, no two share a minute of the day, no two on the same weekdays could be joined, and they stand
in order.
-/

set_option autoImplicit false

namespace AccessWindows

/-! ## Grants from selections -/

namespace Grant

/-- The intervals picked on any day, in order and each once. -/
def windows (sels : List Selection) : List Interval :=
  Ascending.ofList (sels.flatMap (·.intervals))

/-- One grant for each interval picked, on all the weekdays that pick it, in the order of grants. -/
def picked (sels : List Selection) : List Grant :=
  Ascending.ofList ((windows sels).map fun i => ⟨daysPicking sels i, i.start, i.stop⟩)

/-- Whether `h` goes on where `g` stops, on the same weekdays. -/
def Continues (g h : Grant) : Prop := g.weekdays = h.weekdays ∧ g.stop = h.start

instance (g h : Grant) : Decidable (g.Continues h) :=
  inferInstanceAs (Decidable (g.weekdays = h.weekdays ∧ g.stop = h.start))

/-- Put a grant in front of a list, joined to the first entry if that continues it. -/
def join (g : Grant) : List Grant → List Grant
  | [] => [g]
  -- `h` may stand for a whole run that is joined already; it still starts where the run did
  | h :: rest => if g.Continues h then { g with stop := h.stop } :: rest else g :: h :: rest

/-- Join every run of neighbours that continue each other. -/
def fuse (gs : List Grant) : List Grant := gs.foldr join []

/-- The grants that give the same access as the selections. -/
def ofSelections (sels : List Selection) : List Grant := fuse (picked sels)

end Grant

/-! ## Selections from grants -/

namespace Selection

/-- The half hours that grants give on a weekday, in order and each once. -/
def slotsOn (grants : List Grant) (d : Weekday) : List Interval :=
  Ascending.ofList ((grants.filter fun g => d ∈ g.weekdays).flatMap Grant.halfHours)

/-- The selection of intervals on a weekday, unless there is none. -/
def onDay? (d : Weekday) : List Interval → Option Selection
  | [] => none
  | i :: is => some ⟨d, i :: is⟩

/-- The half hours that give the same access as the grants. -/
def ofGrants (grants : List Grant) : List Selection :=
  Weekday.all.filterMap fun d => onDay? d (slotsOn grants d)

end Selection

/-! ## Normal form -/

/-- Grants cut into half hours and put together again. -/
def Grant.normalize (grants : List Grant) : List Grant :=
  Grant.ofSelections (Selection.ofGrants grants)

namespace Grant

/-- Whether the windows of two grants share no minute, whatever the weekdays. -/
def Apart (g h : Grant) : Prop := g.stop ≤ h.start ∨ h.stop ≤ g.start

instance (g h : Grant) : Decidable (g.Apart h) :=
  inferInstanceAs (Decidable (g.stop ≤ h.start ∨ h.stop ≤ g.start))

/-- Whether a grant comes before another by its weekday key, or by its start if the keys agree. -/
def Precedes (g h : Grant) : Prop := g.key < h.key ∨ g.key = h.key ∧ g.start < h.start

instance (g h : Grant) : Decidable (g.Precedes h) :=
  inferInstanceAs (Decidable (g.key < h.key ∨ g.key = h.key ∧ g.start < h.start))

/-- A list of grants that could not be written differently. -/
structure Canonical (gs : List Grant) : Prop where
  sound : ∀ g ∈ gs, g.Sound
  apart : gs.Pairwise Apart
  separate : ∀ g ∈ gs, ∀ h ∈ gs, ¬ g.Continues h
  ordered : gs.Pairwise Precedes

end Grant

end AccessWindows
