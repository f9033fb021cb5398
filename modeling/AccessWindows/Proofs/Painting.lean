import AccessWindows.Proofs.Cells

/-!
# Painted grids and their lists

The cells that the intervals or windows of a schedule cover make a grid (`Schedule.cellGrid`); painting
from selections gives just this grid, and painting from grants does if their windows are aligned
(`Schedule.paint_eq_cellGrid`). An aligned schedule covers the cells whose first minute it grants
(`Schedule.isSelected_cellGrid_of_aligned`), so aligned schedules that grant the same have the same grid.

The way back is exact. Listing the cells of a narrow grid and painting the list gives the grid again
(`WeekGrid.Narrow.ofSelections_toSelections`), and cutting aligned grants gives the listed cells of
their grid (`ofGrants_of_aligned`). The round trips of every grid that edits can make follow
(`WeekGrid.ofEdits_round_trips`).
-/

set_option autoImplicit false

namespace AccessWindows

namespace WeekGrid

/-! ## Listing the cells -/

theorem toSelections_eq_perDay (g : WeekGrid) :
    g.toSelections = Selection.perDay g.slotsOn := rfl

theorem mem_slotsOn {g : WeekGrid} {d : Weekday} {i : Interval} :
    i ∈ g.slotsOn d ↔ ∃ c, g.isSelected d c = true ∧ slotAt? c = some i := by
  rw [slotsOn, List.mem_filterMap]
  constructor
  · rintro ⟨c, hc, hslot⟩
    exact ⟨c, (List.mem_filter.1 hc).2, hslot⟩
  · rintro ⟨c, hc, hslot⟩
    exact ⟨c, List.mem_filter.2 ⟨List.mem_range.2 (lt_of_isSelected hc), hc⟩, hslot⟩

/-- The cells of a weekday are listed in order. -/
theorem pairwise_slotsOn (g : WeekGrid) (d : Weekday) : (g.slotsOn d).Pairwise (· < ·) := by
  have columns : ((List.range columns).filter fun c => g.isSelected d c).Pairwise (· < ·) :=
    List.pairwise_lt_range.sublist List.filter_sublist
  apply columns.filterMap slotAt?
  intro c c' hlt slot hslot slot' hslot'
  exact slot_lt_slot hslot hslot' hlt

/-- The listed cells of a grid are aligned. -/
theorem aligned_toSelections (g : WeekGrid) : (Schedule.selections g.toSelections).Aligned := by
  intro s hs i hi
  rw [(Selection.mem_perDay.1 hs).2] at hi
  obtain ⟨c, -, hslot⟩ := mem_slotsOn.1 hi
  exact alignedWindow_of_slotAt? hslot

theorem aligned_toGrants (g : WeekGrid) : (Schedule.grants g.toGrants).Aligned :=
  aligned_ofSelections g.aligned_toSelections

end WeekGrid

/-! ## The grid of a schedule -/

namespace Schedule

/-- Whether one interval or window of a schedule on a weekday covers all of a slot. -/
def CoversSlot (d : Weekday) (slot : Interval) : Schedule → Prop
  | .selections sels => ∃ s ∈ sels, s.day = d ∧ ∃ i ∈ s.intervals, i.covers slot = true
  | .grants gs => ∃ g ∈ gs, d ∈ g.weekdays ∧ g.start ≤ slot.start ∧ slot.stop ≤ g.stop

instance (d : Weekday) (slot : Interval) : DecidablePred (CoversSlot d slot)
  | .selections sels =>
      inferInstanceAs (Decidable (∃ s ∈ sels, s.day = d ∧ ∃ i ∈ s.intervals, i.covers slot = true))
  | .grants gs =>
      inferInstanceAs (Decidable (∃ g ∈ gs, d ∈ g.weekdays ∧ g.start ≤ slot.start ∧
        slot.stop ≤ g.stop))

/-- The cells that one interval or window of a schedule covers, weekday by weekday. -/
def cellGrid (schedule : Schedule) : WeekGrid :=
  WeekGrid.fill fun d => columnMask fun c =>
    (slotAt? c).any fun slot => decide (schedule.CoversSlot d slot)

/-- The grid painted from a schedule in either form. -/
def paint : Schedule → WeekGrid
  | .selections sels => WeekGrid.ofSelections sels
  | .grants gs => WeekGrid.ofGrants gs

theorem narrow_cellGrid (schedule : Schedule) : schedule.cellGrid.Narrow :=
  WeekGrid.narrow_fill _

theorem isSelected_cellGrid {schedule : Schedule} {d : Weekday} {c : Nat} :
    schedule.cellGrid.isSelected d c = true ↔
      ∃ slot, slotAt? c = some slot ∧ schedule.CoversSlot d slot := by
  rw [cellGrid, WeekGrid.isSelected_fill, Option.any_eq_true]
  simp only [decide_eq_true_eq]
  constructor
  · rintro ⟨-, h⟩
    exact h
  · rintro ⟨slot, hslot, h⟩
    exact ⟨(slotAt?_eq_some_iff.1 hslot).1, slot, hslot, h⟩

/-- Which slots selections cover depends on which intervals they pick on which days. -/
theorem coversSlot_selections {sels : List Selection} {d : Weekday} {slot : Interval} :
    (Schedule.selections sels).CoversSlot d slot ↔
      ∃ i, d ∈ daysPicking sels i ∧ i.covers slot = true := by
  constructor
  · rintro ⟨s, hs, hday, i, hi, hcovers⟩
    exact ⟨i, mem_daysPicking.2 ⟨s, hs, hday, hi⟩, hcovers⟩
  · rintro ⟨i, hi, hcovers⟩
    obtain ⟨s, hs, hday, hi⟩ := mem_daysPicking.1 hi
    exact ⟨s, hs, hday, i, hi, hcovers⟩

/-- An aligned schedule covers the cells whose first minute it grants. -/
theorem coversSlot_iff_of_aligned {schedule : Schedule} (aligned : schedule.Aligned) {d : Weekday}
    {c : Nat} {slot : Interval} (hslot : slotAt? c = some slot) :
    schedule.CoversSlot d slot ↔ schedule.Covers d (30 * c) := by
  cases schedule with
  | selections sels =>
      constructor
      · rintro ⟨s, hs, hday, i, hi, hcovers⟩
        exact ⟨s, hs, hday, i, hi,
          ((aligned s hs i hi).covers_slot_iff hslot).1 (of_decide_eq_true hcovers)⟩
      · rintro ⟨s, hs, hday, i, hi, hholds⟩
        exact ⟨s, hs, hday, i, hi,
          decide_eq_true (((aligned s hs i hi).covers_slot_iff hslot).2 hholds)⟩
  | grants gs =>
      -- an empty window neither covers a slot nor grants a minute, so its alignment is not asked for
      have slotProper := slot.minutes_lt
      constructor
      · rintro ⟨g, hg, hd, hfrom, hto⟩
        have proper : g.start < g.stop := by
          rw [ClockTime.le_iff] at hfrom hto
          rw [ClockTime.lt_iff]
          omega
        exact ⟨g, hg, hd, ((aligned g hg proper).covers_slot_iff hslot).1 ⟨hfrom, hto⟩⟩
      · rintro ⟨g, hg, hd, hfrom, hto⟩
        have proper : g.start < g.stop := by
          rw [ClockTime.lt_iff]
          omega
        exact ⟨g, hg, hd, ((aligned g hg proper).covers_slot_iff hslot).2 ⟨hfrom, hto⟩⟩

theorem isSelected_cellGrid_of_aligned {schedule : Schedule} (aligned : schedule.Aligned)
    {d : Weekday} {c : Nat} :
    schedule.cellGrid.isSelected d c = true ↔ c < 48 ∧ schedule.Covers d (30 * c) := by
  rw [isSelected_cellGrid]
  constructor
  · rintro ⟨slot, hslot, hcovers⟩
    exact ⟨(slotAt?_eq_some_iff.1 hslot).1, (coversSlot_iff_of_aligned aligned hslot).1 hcovers⟩
  · rintro ⟨hc, hcovers⟩
    obtain ⟨slot, hslot⟩ := exists_slotAt? hc
    exact ⟨slot, hslot, (coversSlot_iff_of_aligned aligned hslot).2 hcovers⟩

/-- The grid of a schedule depends on which slots it covers. -/
theorem cellGrid_eq_of_coversSlot_iff {v w : Schedule}
    (same : ∀ d c slot, slotAt? c = some slot → (v.CoversSlot d slot ↔ w.CoversSlot d slot)) :
    v.cellGrid = w.cellGrid := by
  apply v.narrow_cellGrid.ext_isSelected w.narrow_cellGrid
  intro d c
  rw [isSelected_cellGrid, isSelected_cellGrid]
  exact exists_congr fun slot => and_congr_right fun hslot => same d c slot hslot

/-- Aligned schedules that grant the same cover the same cells. -/
theorem cellGrid_eq_of_covers_iff {v w : Schedule} (hv : v.Aligned) (hw : w.Aligned)
    (same : ∀ d m, v.Covers d m ↔ w.Covers d m) : v.cellGrid = w.cellGrid := by
  apply cellGrid_eq_of_coversSlot_iff
  intro d c slot hslot
  rw [coversSlot_iff_of_aligned hv hslot, coversSlot_iff_of_aligned hw hslot, same]

end Schedule

/-! ## Round trips -/

/-- Painting from selections selects the cells that one interval covers. -/
theorem ofSelections_eq_cellGrid (sels : List Selection) :
    WeekGrid.ofSelections sels = (Schedule.selections sels).cellGrid := by
  apply (WeekGrid.narrow_ofSelections sels).ext_isSelected (Schedule.narrow_cellGrid _)
  intro d c
  rw [WeekGrid.ofSelections, WeekGrid.isSelected_fill, Schedule.isSelected_cellGrid]
  constructor
  · rintro ⟨hc, hcovered⟩
    obtain ⟨slot, hslot⟩ := exists_slotAt? hc
    refine ⟨slot, hslot, ?_⟩
    simpa [WeekGrid.covered, hslot, Schedule.CoversSlot] using hcovered
  · rintro ⟨slot, hslot, hcovers⟩
    refine ⟨(slotAt?_eq_some_iff.1 hslot).1, ?_⟩
    simpa [WeekGrid.covered, hslot, Schedule.CoversSlot] using hcovers

/-- Listing the cells of a grid loses none and adds none. -/
theorem cellGrid_toSelections {g : WeekGrid} (narrow : g.Narrow) :
    (Schedule.selections g.toSelections).cellGrid = g := by
  apply (Schedule.narrow_cellGrid _).ext_isSelected narrow
  intro d c
  rw [Schedule.isSelected_cellGrid]
  constructor
  · rintro ⟨slot, hslot, hcovered⟩
    obtain ⟨i, hpicked, hcovers⟩ := Schedule.coversSlot_selections.1 hcovered
    obtain ⟨c', hselected, hslot'⟩ :=
      WeekGrid.mem_slotsOn.1 (Selection.mem_daysPicking_perDay.1 hpicked)
    -- every listed interval is a cell, and a cell covers no other
    rw [← column_eq_of_covers hslot' hslot hcovers]
    exact hselected
  · intro hselected
    obtain ⟨slot, hslot⟩ := exists_slotAt? (WeekGrid.lt_of_isSelected hselected)
    have hpicked := Selection.mem_daysPicking_perDay.2 (WeekGrid.mem_slotsOn.2 ⟨c, hselected, hslot⟩)
    exact ⟨slot, hslot, Schedule.coversSlot_selections.2 ⟨slot, hpicked, slot.covers_self⟩⟩

/-- The grants made of aligned selections cover the same cells. -/
theorem cellGrid_ofSelections {sels : List Selection}
    (aligned : (Schedule.selections sels).Aligned) :
    (Schedule.grants (Grant.ofSelections sels)).cellGrid = (Schedule.selections sels).cellGrid :=
  Schedule.cellGrid_eq_of_covers_iff (aligned_ofSelections aligned) aligned (covers_ofSelections sels)

theorem cellGrid_toGrants {g : WeekGrid} (narrow : g.Narrow) :
    (Schedule.grants g.toGrants).cellGrid = g :=
  (cellGrid_ofSelections g.aligned_toSelections).trans (cellGrid_toSelections narrow)

/-- Cutting aligned grants gives the listed cells of their grid. -/
theorem ofGrants_of_aligned {gs : List Grant} (aligned : (Schedule.grants gs).Aligned) :
    Selection.ofGrants gs = (Schedule.grants gs).cellGrid.toSelections := by
  rw [Selection.ofGrants_eq_perDay, WeekGrid.toSelections_eq_perDay]
  refine Selection.perDay_eq_of_mem_iff (Selection.pairwise_slotsOn gs)
    (WeekGrid.pairwise_slotsOn _) fun d i => ?_
  rw [Selection.mem_slotsOn, WeekGrid.mem_slotsOn]
  constructor
  · rintro ⟨g, hg, hd, hi⟩
    obtain ⟨c, hslot, hholds⟩ := (mem_halfHours_of_aligned (aligned g hg)).1 hi
    exact ⟨c, (Schedule.isSelected_cellGrid_of_aligned aligned).2
      ⟨(slotAt?_eq_some_iff.1 hslot).1, g, hg, hd, hholds⟩, hslot⟩
  · rintro ⟨c, hselected, hslot⟩
    obtain ⟨-, g, hg, hd, hholds⟩ := (Schedule.isSelected_cellGrid_of_aligned aligned).1 hselected
    exact ⟨g, hg, hd, (mem_halfHours_of_aligned (aligned g hg)).2 ⟨c, hslot, hholds⟩⟩

/-- Painting an aligned schedule selects the cells that it covers. -/
theorem Schedule.paint_eq_cellGrid {schedule : Schedule} (aligned : schedule.Aligned) :
    schedule.paint = schedule.cellGrid := by
  cases schedule with
  | selections sels => exact ofSelections_eq_cellGrid sels
  | grants gs =>
      show WeekGrid.ofSelections (Selection.ofGrants gs) = _
      rw [ofSelections_eq_cellGrid, ofGrants_of_aligned aligned,
        cellGrid_toSelections (narrow_cellGrid _)]

namespace WeekGrid

theorem Narrow.ofSelections_toSelections {g : WeekGrid} (narrow : g.Narrow) :
    ofSelections g.toSelections = g :=
  (ofSelections_eq_cellGrid _).trans (cellGrid_toSelections narrow)

theorem Narrow.ofGrants_toGrants {g : WeekGrid} (narrow : g.Narrow) : ofGrants g.toGrants = g :=
  (Schedule.paint_eq_cellGrid g.aligned_toGrants).trans (cellGrid_toGrants narrow)

theorem Narrow.cut_toGrants {g : WeekGrid} (narrow : g.Narrow) :
    Selection.ofGrants g.toGrants = g.toSelections := by
  rw [ofGrants_of_aligned g.aligned_toGrants, cellGrid_toGrants narrow]

/-- **Grids survive the way through their lists.** A grid that any edits have made of the empty one,
refused edits included, is painted again from its selections and from its grants, and its grants are cut
into its selections. -/
theorem ofEdits_round_trips (edits : List Edit) :
    ofSelections (ofEdits edits).toSelections = ofEdits edits ∧
      ofGrants (ofEdits edits).toGrants = ofEdits edits ∧
      Selection.ofGrants (ofEdits edits).toGrants = (ofEdits edits).toSelections := by
  have narrow := narrow_ofEdits edits
  exact ⟨narrow.ofSelections_toSelections, narrow.ofGrants_toGrants, narrow.cut_toGrants⟩

end WeekGrid

end AccessWindows
