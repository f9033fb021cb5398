import AccessWindows.Proofs.Cutting
import AccessWindows.Proofs.Painting

/-!
# Order and grouping of the input

Two lists of selections pick the same if every weekday has the same intervals in both, whether the
entries are permuted, repeated, split or padded with empty ones (`Selection.SamePicks`). All that a
conversion takes from such a list is on which weekdays an interval is picked, and that does not tell the
two apart (`SamePicks.daysPicking_eq`). What is taken from grants are the windows of each weekday that
are not empty (`Grant.SameWindows`): only these have half hours (`Grant.mem_halfHours_iff_window`), and
the half hours of a weekday are listed in order. So no conversion depends on how its input was ordered
or grouped (`conversions_ignore_grouping`).
-/

set_option autoImplicit false

namespace AccessWindows

/-! ## Selections -/

/-- Whether two lists of selections pick the same intervals on every weekday. -/
def Selection.SamePicks (sels sels' : List Selection) : Prop :=
  ∀ d i, (∃ s ∈ sels, s.day = d ∧ i ∈ s.intervals) ↔ ∃ s ∈ sels', s.day = d ∧ i ∈ s.intervals

namespace Selection.SamePicks

variable {sels sels' : List Selection}

/-- An interval is picked on the same weekdays. -/
theorem daysPicking_eq (same : SamePicks sels sels') (i : Interval) :
    daysPicking sels i = daysPicking sels' i := by
  refine Ascending.eq_of_mem_iff (fun _ _ => Weekday.lt_asymm) (Grant.pairwise_daysPicking sels i)
    (Grant.pairwise_daysPicking sels' i) ?_
  intro d
  rw [mem_daysPicking, mem_daysPicking]
  exact same d i

theorem windows_eq (same : SamePicks sels sels') : Grant.windows sels = Grant.windows sels' := by
  refine Ascending.eq_of_mem_iff Interval.lt_asymm (Interval.pairwise_ofList _)
    (Interval.pairwise_ofList _) ?_
  intro i
  rw [Grant.mem_windows, Grant.mem_windows, same.daysPicking_eq i]

/-- The picked intervals become the same grants. -/
theorem picked_eq (same : SamePicks sels sels') : Grant.picked sels = Grant.picked sels' := by
  simp only [Grant.picked, same.windows_eq, same.daysPicking_eq]

/-- The same cells are covered. -/
theorem paint_eq (same : SamePicks sels sels') :
    WeekGrid.ofSelections sels = WeekGrid.ofSelections sels' := by
  rw [ofSelections_eq_cellGrid, ofSelections_eq_cellGrid]
  apply Schedule.cellGrid_eq_of_coversSlot_iff
  intro d c slot _
  simp only [Schedule.coversSlot_selections, same.daysPicking_eq]

end Selection.SamePicks

/-! ## Grants -/

namespace Grant

/-- Whether two lists of grants have the same windows on every weekday, empty ones aside. -/
def SameWindows (gs gs' : List Grant) : Prop :=
  ∀ d w, (∃ g ∈ gs, d ∈ g.weekdays ∧ g.window? = some w) ↔
    ∃ g ∈ gs', d ∈ g.weekdays ∧ g.window? = some w

/-- A grant has the half hours of its window, and none if that is empty. -/
theorem mem_halfHours_iff_window {g : Grant} {i : Interval} :
    i ∈ g.halfHours ↔ ∃ w, g.window? = some w ∧ i ∈ (HalfHours.mk w.start w.stop).toList := by
  constructor
  · intro hi
    have proper := exists_mem_halfHours_iff.1 ⟨i, hi⟩
    exact ⟨⟨g.start, g.stop, proper⟩, window?_eq_some_iff.2 ⟨rfl, rfl⟩, hi⟩
  · rintro ⟨w, hw, hi⟩
    obtain ⟨hstart, hstop⟩ := window?_eq_some_iff.1 hw
    rwa [hstart, hstop] at hi

/-- The half hours of a weekday are those of its windows. -/
theorem mem_slotsOn_iff_window {gs : List Grant} {d : Weekday} {i : Interval} :
    i ∈ Selection.slotsOn gs d ↔ ∃ w, (∃ g ∈ gs, d ∈ g.weekdays ∧ g.window? = some w) ∧
      i ∈ (HalfHours.mk w.start w.stop).toList := by
  rw [Selection.mem_slotsOn]
  constructor
  · rintro ⟨g, hg, hd, hi⟩
    obtain ⟨w, hw, hi⟩ := mem_halfHours_iff_window.1 hi
    exact ⟨w, ⟨g, hg, hd, hw⟩, hi⟩
  · rintro ⟨w, ⟨g, hg, hd, hw⟩, hi⟩
    exact ⟨g, hg, hd, mem_halfHours_iff_window.2 ⟨w, hw, hi⟩⟩

/-- The same windows are cut into the same selections. -/
theorem SameWindows.cut_eq {gs gs' : List Grant} (same : SameWindows gs gs') :
    Selection.ofGrants gs = Selection.ofGrants gs' := by
  rw [Selection.ofGrants_eq_perDay, Selection.ofGrants_eq_perDay]
  refine Selection.perDay_eq_of_mem_iff (Selection.pairwise_slotsOn gs)
    (Selection.pairwise_slotsOn gs') fun d i => ?_
  rw [mem_slotsOn_iff_window, mem_slotsOn_iff_window]
  exact exists_congr fun w => and_congr_left fun _ => same d w

end Grant

/-! ## Conversions -/

/-- **No conversion depends on the order or grouping of its input.** Selections that pick the same
intervals on every weekday are merged to the same grants and painted as the same grid. Grants that have
the same windows on every weekday are cut into the same selections, normalized to the same grants and
painted as the same grid. -/
theorem conversions_ignore_grouping :
    (∀ sels sels', Selection.SamePicks sels sels' →
      Grant.ofSelections sels = Grant.ofSelections sels' ∧
        WeekGrid.ofSelections sels = WeekGrid.ofSelections sels') ∧
    ∀ gs gs', Grant.SameWindows gs gs' →
      Selection.ofGrants gs = Selection.ofGrants gs' ∧
        Grant.normalize gs = Grant.normalize gs' ∧ WeekGrid.ofGrants gs = WeekGrid.ofGrants gs' := by
  constructor
  · intro sels sels' same
    exact ⟨congrArg Grant.fuse same.picked_eq, same.paint_eq⟩
  · intro gs gs' same
    have cut := same.cut_eq
    exact ⟨cut, congrArg Grant.ofSelections cut, congrArg WeekGrid.ofSelections cut⟩

/-- From five past nine to twenty to eleven. -/
def lateMorning : Interval := ⟨⟨545, by decide⟩, ⟨640, by decide⟩, by decide⟩

/-- From twenty-five to ten to five to twelve. -/
def restOfMorning : Interval := ⟨⟨575, by decide⟩, ⟨715, by decide⟩, by decide⟩

/-- Monday has both intervals and Tuesday the first. -/
def tidyPicks : List Selection :=
  [⟨.monday, [lateMorning, restOfMorning]⟩, ⟨.tuesday, [lateMorning]⟩]

/-- The same, with Tuesday first and repeating itself, an empty entry, and Monday in two entries. -/
def strewnPicks : List Selection :=
  [⟨.tuesday, [lateMorning, lateMorning]⟩, ⟨.sunday, []⟩, ⟨.monday, [restOfMorning]⟩,
    ⟨.monday, [lateMorning]⟩]

/-- Both days have the first window and Monday the other one. -/
def tidyGrants : List Grant :=
  [⟨[.monday, .tuesday], lateMorning.start, lateMorning.stop⟩,
    ⟨[.monday], restOfMorning.start, restOfMorning.stop⟩]

/-- The same by weekday, with Monday repeated and a reversed window on Sunday. -/
def strewnGrants : List Grant :=
  [⟨[.tuesday], lateMorning.start, lateMorning.stop⟩,
    ⟨[.sunday], restOfMorning.stop, restOfMorning.start⟩,
    ⟨[.monday, .monday], restOfMorning.start, restOfMorning.stop⟩,
    ⟨[.monday], lateMorning.start, lateMorning.stop⟩]

theorem conversions_ignore_grouping_strewn :
    Selection.SamePicks tidyPicks strewnPicks ∧ Grant.SameWindows tidyGrants strewnGrants ∧
      (Grant.ofSelections tidyPicks = Grant.ofSelections strewnPicks ∧
        WeekGrid.ofSelections tidyPicks = WeekGrid.ofSelections strewnPicks) ∧
      Selection.ofGrants tidyGrants = Selection.ofGrants strewnGrants ∧
        Grant.normalize tidyGrants = Grant.normalize strewnGrants ∧
          WeekGrid.ofGrants tidyGrants = WeekGrid.ofGrants strewnGrants := by
  have picks : Selection.SamePicks tidyPicks strewnPicks := by
    intro d i
    cases d <;> simp [tidyPicks, strewnPicks, or_comm]
  have windows : Grant.SameWindows tidyGrants strewnGrants := by
    intro d w
    have reversed : Interval.ofTimes? restOfMorning.stop restOfMorning.start = none := rfl
    cases d <;> simp [tidyGrants, strewnGrants, reversed, Grant.window?, or_comm]
  exact ⟨picks, windows, conversions_ignore_grouping.1 _ _ picks,
    conversions_ignore_grouping.2 _ _ windows⟩

end AccessWindows
