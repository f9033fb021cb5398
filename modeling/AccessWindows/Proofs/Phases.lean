import AccessWindows.Proofs.Cutting
import AccessWindows.Proofs.Painting

/-!
# Painting windows off the half hour

A grid is painted from grants by cutting them into half hours first, and a cell is selected if one half
hour covers it. Half hours are counted from the start of the window and last no longer than a cell, so they
cover cells only if they begin together with them; the last cell, which is a minute short, may also be
covered by a half hour that begins a minute before it (`Grant.exists_mem_halfHours_covers`). So painting
from grants selects the cells that a window in phase with them covers (`isSelected_ofGrants_iff`).

Painting from the uncut windows (`Selection.ofWindows`) has no such condition: it selects all the cells
that a window covers (`ofSelections_ofWindows`). The two agree if the windows start on half hours. They do
not for other windows, whatever their ends (`ofGrants_quarterPast`).
-/

set_option autoImplicit false

namespace AccessWindows

/-! ## Half hours and cells -/

namespace Grant

/-- Whether half hours counted from the start of a window begin together with the cell of a column, or one
minute before the last cell. -/
def InPhase (g : Grant) (column : Nat) : Prop :=
  g.start.minutes % slotMinutes = 0 ∨ column = 47 ∧ g.start.minutes % slotMinutes = 29

/-- A cell within a window is covered by one of its half hours exactly if the window is in phase with
it. -/
theorem exists_mem_halfHours_covers {g : Grant} {c : Nat} {slot : Interval}
    (hslot : slotAt? c = some slot) :
    (∃ i ∈ g.halfHours, i.covers slot = true) ↔
      g.start ≤ slot.start ∧ slot.stop ≤ g.stop ∧ g.InPhase c := by
  obtain ⟨hc, hfrom, hto⟩ := slotAt?_eq_some_iff.1 hslot
  unfold InPhase slotMinutes
  constructor
  · rintro ⟨i, hi, hcovers⟩
    obtain ⟨k, hstart, hlt, hstop⟩ := mem_halfHours.1 hi
    obtain ⟨hle, hle'⟩ := of_decide_eq_true hcovers
    rw [ClockTime.le_iff] at hle hle'
    -- a cell that is not the last is as long as the half hour, which leaves no room before it
    refine ⟨ClockTime.le_iff.2 (by omega), ClockTime.le_iff.2 (by omega), ?_⟩
    by_cases hlast : c = 47
    · have := g.stop.minutes_lt
      omega
    · omega
  · rintro ⟨hle, hle', hphase⟩
    rw [ClockTime.le_iff] at hle hle'
    obtain ⟨i, hi, hstart, hstop⟩ :=
      exists_mem_halfHours (g := g) (k := (30 * c - g.start.minutes) / 30) (by omega)
    refine ⟨i, hi, decide_eq_true ⟨?_, ?_⟩⟩
    · rw [ClockTime.le_iff]
      omega
    · rw [ClockTime.le_iff]
      omega

end Grant

/-! ## Cut and uncut windows -/

namespace Selection

/-- The window of each grant as one interval on each of its weekdays. -/
def ofWindows (gs : List Grant) : List Selection :=
  gs.flatMap fun g => g.weekdays.map fun d => ⟨d, g.window?.toList⟩

theorem mem_daysPicking_ofWindows {gs : List Grant} {i : Interval} {d : Weekday} :
    d ∈ daysPicking (ofWindows gs) i ↔ ∃ g ∈ gs, d ∈ g.weekdays ∧ g.window? = some i := by
  rw [mem_daysPicking]
  constructor
  · rintro ⟨s, hs, rfl, hi⟩
    obtain ⟨g, hg, hs⟩ := List.mem_flatMap.1 hs
    obtain ⟨d, hd, rfl⟩ := List.mem_map.1 hs
    exact ⟨g, hg, hd, Option.mem_toList.1 hi⟩
  · rintro ⟨g, hg, hd, hw⟩
    refine ⟨⟨d, g.window?.toList⟩, ?_, rfl, Option.mem_toList.2 hw⟩
    exact List.mem_flatMap.2 ⟨g, hg, List.mem_map.2 ⟨d, hd, rfl⟩⟩

end Selection

namespace Schedule

/-- Cut grants cover the slots of the grid that a window in phase covers. -/
theorem coversSlot_ofGrants {gs : List Grant} {d : Weekday} {c : Nat} {slot : Interval}
    (hslot : slotAt? c = some slot) :
    (Schedule.selections (Selection.ofGrants gs)).CoversSlot d slot ↔
      ∃ g ∈ gs, d ∈ g.weekdays ∧ g.start ≤ slot.start ∧ slot.stop ≤ g.stop ∧ g.InPhase c := by
  rw [coversSlot_selections]
  constructor
  · rintro ⟨i, hi, hcovers⟩
    obtain ⟨g, hg, hd, hi⟩ := Selection.mem_daysPicking_ofGrants.1 hi
    exact ⟨g, hg, hd, (Grant.exists_mem_halfHours_covers hslot).1 ⟨i, hi, hcovers⟩⟩
  · rintro ⟨g, hg, hd, hcovered⟩
    obtain ⟨i, hi, hcovers⟩ := (Grant.exists_mem_halfHours_covers hslot).2 hcovered
    exact ⟨i, Selection.mem_daysPicking_ofGrants.2 ⟨g, hg, hd, hi⟩, hcovers⟩

/-- Uncut windows cover the slots that the grants do. -/
theorem coversSlot_ofWindows {gs : List Grant} {d : Weekday} {slot : Interval} :
    (Schedule.selections (Selection.ofWindows gs)).CoversSlot d slot ↔
      (Schedule.grants gs).CoversSlot d slot := by
  rw [coversSlot_selections]
  constructor
  · rintro ⟨i, hi, hcovers⟩
    obtain ⟨g, hg, hd, hw⟩ := Selection.mem_daysPicking_ofWindows.1 hi
    obtain ⟨hstart, hstop⟩ := Grant.window?_eq_some_iff.1 hw
    obtain ⟨hle, hle'⟩ := of_decide_eq_true hcovers
    exact ⟨g, hg, hd, hstart ▸ hle, hstop ▸ hle'⟩
  · rintro ⟨g, hg, hd, hle, hle'⟩
    -- a window around a slot is not empty
    have hproper : g.start < g.stop := by
      have := slot.minutes_lt
      rw [ClockTime.le_iff] at hle hle'
      rw [ClockTime.lt_iff]
      omega
    refine ⟨⟨g.start, g.stop, hproper⟩, ?_, decide_eq_true ⟨hle, hle'⟩⟩
    exact Selection.mem_daysPicking_ofWindows.2 ⟨g, hg, hd, Grant.window?_eq_some_iff.2 ⟨rfl, rfl⟩⟩

end Schedule

namespace WeekGrid

/-- Painting from uncut windows selects the cells that a window covers. -/
theorem ofSelections_ofWindows (gs : List Grant) :
    ofSelections (Selection.ofWindows gs) = (Schedule.grants gs).cellGrid := by
  rw [ofSelections_eq_cellGrid]
  exact Schedule.cellGrid_eq_of_coversSlot_iff fun d c slot _ => Schedule.coversSlot_ofWindows

/-- Painting from grants selects the cells that a window in phase with them covers. -/
theorem isSelected_ofGrants_iff {gs : List Grant} {d : Weekday} {c : Nat} :
    (ofGrants gs).isSelected d c = true ↔ ∃ slot, slotAt? c = some slot ∧
      ∃ g ∈ gs, d ∈ g.weekdays ∧ g.start ≤ slot.start ∧ slot.stop ≤ g.stop ∧ g.InPhase c := by
  rw [ofGrants, ofSelections_eq_cellGrid, Schedule.isSelected_cellGrid]
  exact exists_congr fun slot => and_congr_right fun hslot => Schedule.coversSlot_ofGrants hslot

/-- **Painting from grants selects the covered cells that a window is in phase with**, and no others. If
all windows start on a half hour, these are all the cells that a window covers, and the grid is the one
painted from the uncut windows. -/
theorem ofGrants_paints_in_phase (gs : List Grant) :
    (∀ d c, (ofGrants gs).isSelected d c = true ↔ ∃ slot, slotAt? c = some slot ∧
      ∃ g ∈ gs, d ∈ g.weekdays ∧ g.start ≤ slot.start ∧ slot.stop ≤ g.stop ∧ g.InPhase c) ∧
    ((∀ g ∈ gs, g.start.minutes % slotMinutes = 0) →
      (∀ d c, (ofGrants gs).isSelected d c = true ↔ ∃ slot, slotAt? c = some slot ∧
        ∃ g ∈ gs, d ∈ g.weekdays ∧ g.start ≤ slot.start ∧ slot.stop ≤ g.stop) ∧
      ofGrants gs = ofSelections (Selection.ofWindows gs)) := by
  refine ⟨fun d c => isSelected_ofGrants_iff, fun starts => ?_⟩
  have covered : ∀ d c, (ofGrants gs).isSelected d c = true ↔ ∃ slot, slotAt? c = some slot ∧
      ∃ g ∈ gs, d ∈ g.weekdays ∧ g.start ≤ slot.start ∧ slot.stop ≤ g.stop := by
    intro d c
    rw [isSelected_ofGrants_iff]
    constructor
    · rintro ⟨slot, hslot, g, hg, hd, hle, hle', -⟩
      exact ⟨slot, hslot, g, hg, hd, hle, hle'⟩
    · rintro ⟨slot, hslot, g, hg, hd, hle, hle'⟩
      exact ⟨slot, hslot, g, hg, hd, hle, hle', Or.inl (starts g hg)⟩
  refine ⟨covered, ?_⟩
  rw [ofSelections_ofWindows]
  apply (narrow_ofSelections _).ext_isSelected (Schedule.narrow_cellGrid _)
  intro d c
  rw [Schedule.isSelected_cellGrid]
  exact covered d c

/-- Windows from half hours on, one of which stops within a cell and one with the day. -/
def oddStops : List Grant :=
  [⟨[.monday, .friday], ⟨510, by decide⟩, ⟨620, by decide⟩⟩, ⟨[.friday], ⟨1380, by decide⟩, .dayEnd⟩]

theorem ofGrants_paints_oddStops :
    (∀ g ∈ oddStops, g.start.minutes % slotMinutes = 0) ∧
    (∀ d c, (ofGrants oddStops).isSelected d c = true ↔ ∃ slot, slotAt? c = some slot ∧
      ∃ g ∈ oddStops, d ∈ g.weekdays ∧ g.start ≤ slot.start ∧ slot.stop ≤ g.stop) ∧
    ofGrants oddStops = ofSelections (Selection.ofWindows oddStops) := by
  have starts : ∀ g ∈ oddStops, g.start.minutes % slotMinutes = 0 := by decide
  exact ⟨starts, (ofGrants_paints_in_phase oddStops).2 starts⟩

/-- From a quarter past nine to a quarter past ten on Monday. -/
def quarterPast : Grant := ⟨[.monday], ⟨555, by decide⟩, ⟨615, by decide⟩⟩

/-- A sound grant off the half hour is not painted. The cell from half past nine to ten lies within its
window, and painting from the uncut window selects it. -/
theorem ofGrants_quarterPast :
    quarterPast.remake = .ok quarterPast ∧
    (∃ slot, slotAt? 19 = some slot ∧ quarterPast.start ≤ slot.start ∧
      slot.stop ≤ quarterPast.stop) ∧
    (ofGrants [quarterPast]).isSelected .monday 19 = false ∧
    (ofSelections (Selection.ofWindows [quarterPast])).isSelected .monday 19 = true :=
  ⟨rfl, ⟨_, rfl, by decide, by decide⟩, by decide, by decide⟩

end WeekGrid

end AccessWindows
