import AccessWindows.Proofs.Fusion

/-!
# Rows, cells and aligned windows

A row is a word of 64 bits, and the grid has forty-eight columns. A grid is narrow if no row has a bit
beyond the last column. Every edit keeps this (`WeekGrid.Narrow.edit`), although clearing cells
complements a mask and so sets the bits beyond the columns on the way; hence every grid that edits make
of the empty one is narrow (`WeekGrid.narrow_ofEdits`). A narrow grid is known from its selected cells
(`WeekGrid.Narrow.ext_isSelected`); on other grids the stray bits are not shown by any cell.

The cell of column `c` starts `30 * c` minutes after midnight and lasts half an hour, the last one to
23:59 (`slotAt?_eq_some_iff`). A window is aligned if it consists of whole cells. For such a window
the cells inside it are those whose first minute it holds (`AlignedWindow.covers_slot_iff`), and its
half hours are exactly these cells (`mem_halfHours_of_aligned`). So all that an aligned schedule grants
is known from the first minutes of the cells.
-/

set_option autoImplicit false

namespace AccessWindows

/-! ## Rows -/

namespace WeekGrid

/-- No row has a bit beyond the last column. -/
def Narrow (g : WeekGrid) : Prop := ∀ d c, (g.row d).getLsbD c = true → c < columns

/-! ### What keeps rows narrow -/

/-- A grid filled with masks is narrow. -/
theorem narrow_fill (mask : Weekday → Nat → Bool) :
    (fill fun d => columnMask (mask d)).Narrow := by
  intro d c hc
  rw [row_fill, getLsbD_columnMask, Bool.and_eq_true] at hc
  exact of_decide_eq_true hc.1

theorem narrow_empty : empty.Narrow := by
  intro d c hc
  rw [empty, row_fill, BitVec.getLsbD_zero] at hc
  exact absurd hc Bool.false_ne_true

/-- The bits of a painted row. -/
theorem getLsbD_paint {bits : BitVec 64} {p : Nat → Bool} {on : Bool} {c : Nat} :
    (paint bits (columnMask p) on).getLsbD c =
      if c < columns ∧ p c = true then on else bits.getLsbD c := by
  -- the complement of the mask has every bit beyond the columns, but only those of the row are kept
  have hwide : bits.getLsbD c = true → c < 64 := fun h => BitVec.lt_of_getLsbD h
  cases on with
  | false =>
      rw [paint, if_neg Bool.false_ne_true, BitVec.getLsbD_and, BitVec.getLsbD_not,
        getLsbD_columnMask]
      by_cases hc : c < columns ∧ p c = true
      · simp [hc]
      · rw [if_neg hc]
        have hmask : (decide (c < columns) && p c) = false := by
          simpa [Bool.and_eq_false_iff] using hc
        rw [hmask]
        cases hbit : bits.getLsbD c with
        | false => simp
        | true => simp [hwide hbit]
  | true =>
      rw [paint, if_pos rfl, BitVec.getLsbD_or, getLsbD_columnMask]
      by_cases hc : c < columns ∧ p c = true
      · simp [hc]
      · rw [if_neg hc]
        have hmask : (decide (c < columns) && p c) = false := by
          simpa [Bool.and_eq_false_iff] using hc
        rw [hmask, Bool.or_false]

/-- Painting columns keeps a grid narrow, whether it selects or clears. -/
theorem Narrow.paintRows {g : WeekGrid} (hg : g.Narrow) (days : Weekday → Bool) (p : Nat → Bool)
    (on : Bool) : (g.paintRows days (columnMask p) on).Narrow := by
  intro d c hc
  rw [WeekGrid.paintRows, row_fill] at hc
  cases hd : days d with
  | false =>
      rw [hd] at hc
      exact hg d c hc
  | true =>
      rw [hd, if_pos rfl, getLsbD_paint] at hc
      by_cases hmask : c < columns ∧ p c = true
      · exact hmask.1
      · rw [if_neg hmask] at hc
        exact hg d c hc

theorem narrow_ofSelections (sels : List Selection) : (ofSelections sels).Narrow :=
  narrow_fill _

/-! ### Runs of edits -/

/-- An edit that is made keeps a grid narrow. -/
theorem Narrow.edit {g g' : WeekGrid} (hg : g.Narrow) {e : Edit} (h : g.edit e = .ok g') :
    g'.Narrow := by
  cases e with
  | set day column on =>
      rw [WeekGrid.edit, WeekGrid.set] at h
      split at h
      · cases h
        exact hg.paintRows _ _ _
      · cases h
  | block day₁ day₂ column₁ column₂ on =>
      rw [WeekGrid.edit, selectBlock] at h
      split at h
      · cases h
        exact hg.paintRows _ _ _
      · cases h
  | clear =>
      cases h
      exact narrow_empty
  | paint sels =>
      cases h
      exact narrow_ofSelections sels
  | paintGrants grants =>
      cases h
      exact narrow_ofSelections _

theorem Narrow.apply {g : WeekGrid} (hg : g.Narrow) (e : Edit) : (g.apply e).Narrow := by
  rw [WeekGrid.apply]
  cases h : g.edit e with
  | ok g' => exact hg.edit h
  | error fault => exact hg

/-- Every grid that edits make of the empty one is narrow. -/
theorem narrow_ofEdits (edits : List Edit) : (ofEdits edits).Narrow := by
  -- the series may set out from any narrow grid, for the later edits do not start at the empty one
  have fromAny : ∀ g : WeekGrid, g.Narrow → (edits.foldl WeekGrid.apply g).Narrow := by
    induction edits with
    | nil =>
        intro g hg
        exact hg
    | cons e edits ih =>
        intro g hg
        exact ih (g.apply e) (hg.apply e)
  exact fromAny empty narrow_empty

/-! ### Cells of a grid -/

/-- The grid has no column beyond its last. -/
theorem lt_of_isSelected {g : WeekGrid} {d : Weekday} {c : Nat} (h : g.isSelected d c = true) :
    c < 48 := by
  rw [isSelected, Bool.and_eq_true] at h
  exact of_decide_eq_true h.1

theorem isSelected_fill {mask : Weekday → Nat → Bool} {d : Weekday} {c : Nat} :
    (fill fun d => columnMask (mask d)).isSelected d c = true ↔ c < 48 ∧ mask d c = true := by
  rw [isSelected, row_fill, getLsbD_columnMask, Bool.and_eq_true, Bool.and_eq_true,
    decide_eq_true_eq, ← and_assoc, and_self_iff]
  exact Iff.rfl

/-- The bits of a narrow row are its selected cells. -/
theorem Narrow.getLsbD_row {g : WeekGrid} (hg : g.Narrow) (d : Weekday) (c : Nat) :
    (g.row d).getLsbD c = g.isSelected d c := by
  rw [isSelected]
  by_cases hc : c < columns
  · rw [decide_eq_true hc, Bool.true_and]
  · rw [decide_eq_false hc, Bool.false_and]
    cases hbit : (g.row d).getLsbD c with
    | false => rfl
    | true => exact absurd (hg d c hbit) hc

/-- Narrow grids with the same selected cells are equal. -/
theorem Narrow.ext_isSelected {g h : WeekGrid} (hg : g.Narrow) (hh : h.Narrow)
    (same : ∀ d c, g.isSelected d c = true ↔ h.isSelected d c = true) : g = h := by
  apply ext_row
  intro d
  apply BitVec.eq_of_getLsbD_eq
  intro c _
  rw [hg.getLsbD_row, hh.getLsbD_row]
  exact Bool.eq_iff_iff.2 (same d c)

end WeekGrid

/-! ## Cells -/

/-- Start and end of the cell of a column. -/
theorem slotAt?_eq_some_iff {c : Nat} {i : Interval} :
    slotAt? c = some i ↔
      c < 48 ∧ i.start.minutes = 30 * c ∧ i.stop.minutes = min (30 * c + 30) 1439 := by
  show (HalfHours.mk .midnight .dayEnd).toList[c]? = some i ↔ _
  rw [HalfHours.getElem?_toList_eq_some_iff]
  show (i.start.minutes = 0 + 30 * c ∧ i.start.minutes < 1439 ∧
    i.stop.minutes = min (i.start.minutes + 30) 1439) ↔ _
  omega

/-- Each of the forty-eight columns has a cell. -/
theorem exists_slotAt? {c : Nat} (hc : c < 48) : ∃ slot, slotAt? c = some slot := by
  have hlength : daySlots.length = 48 := HalfHours.length_toList _
  exact ⟨_, List.getElem?_eq_getElem (by omega)⟩

/-- A cell inside a cell is the same cell. -/
theorem column_eq_of_covers {c c' : Nat} {slot slot' : Interval} (hslot : slotAt? c = some slot)
    (hslot' : slotAt? c' = some slot') (hcovers : slot.covers slot' = true) : c = c' := by
  obtain ⟨hc, hstart, hstop⟩ := slotAt?_eq_some_iff.1 hslot
  obtain ⟨hc', hstart', hstop'⟩ := slotAt?_eq_some_iff.1 hslot'
  obtain ⟨hle, hle'⟩ := of_decide_eq_true hcovers
  rw [ClockTime.le_iff] at hle hle'
  omega

theorem Interval.covers_self (i : Interval) : i.covers i = true :=
  decide_eq_true ⟨Nat.le_refl _, Nat.le_refl _⟩

/-- Cells ascend with their columns. -/
theorem slot_lt_slot {c c' : Nat} {slot slot' : Interval} (hslot : slotAt? c = some slot)
    (hslot' : slotAt? c' = some slot') (hlt : c < c') : slot < slot' := by
  obtain ⟨-, hstart, -⟩ := slotAt?_eq_some_iff.1 hslot
  obtain ⟨-, hstart', -⟩ := slotAt?_eq_some_iff.1 hslot'
  rw [Interval.lt_iff]
  omega

/-! ## Aligned windows -/

/-- An aligned window starts on a half hour, and ends on one or at 23:59. -/
theorem AlignedWindow.minutes {start stop : ClockTime} (aligned : AlignedWindow start stop) :
    start.minutes % 30 = 0 ∧ (stop.minutes % 30 = 0 ∨ stop.minutes = 1439) := by
  obtain ⟨hstart, hstop⟩ := aligned
  refine ⟨hstart, ?_⟩
  rcases hstop with hstop | rfl
  · exact Or.inl hstop
  · exact Or.inr rfl

/-- A cell is an aligned window. -/
theorem alignedWindow_of_slotAt? {c : Nat} {slot : Interval} (hslot : slotAt? c = some slot) :
    AlignedWindow slot.start slot.stop := by
  obtain ⟨hc, hstart, hstop⟩ := slotAt?_eq_some_iff.1 hslot
  refine ⟨?_, ?_⟩
  · show slot.start.minutes % 30 = 0
    omega
  · by_cases hlast : c = 47
    · exact Or.inr (ClockTime.ext (by show slot.stop.minutes = 1439; omega))
    · apply Or.inl
      show slot.stop.minutes % 30 = 0
      omega

/-- The cells within an aligned window are those whose first minute lies in it. -/
theorem AlignedWindow.covers_slot_iff {start stop : ClockTime} (aligned : AlignedWindow start stop)
    {c : Nat} {slot : Interval} (hslot : slotAt? c = some slot) :
    (start ≤ slot.start ∧ slot.stop ≤ stop) ↔ start.minutes ≤ 30 * c ∧ 30 * c < stop.minutes := by
  obtain ⟨hc, hstart, hstop⟩ := slotAt?_eq_some_iff.1 hslot
  obtain ⟨hfrom, hto⟩ := aligned.minutes
  have hday := stop.minutes_lt
  rw [ClockTime.le_iff, ClockTime.le_iff]
  omega

/-- The half hours of an aligned window are the cells whose first minute lies in it. -/
theorem mem_halfHours_of_aligned {g : Grant}
    (aligned : g.start < g.stop → AlignedWindow g.start g.stop) {i : Interval} :
    i ∈ g.halfHours ↔ ∃ c, slotAt? c = some i ∧ g.Holds (30 * c) := by
  have hday := g.stop.minutes_lt
  -- an aligned window starts with a cell, so its half hours and the cells run in step; both clip only
  -- the one that would end after 23:59
  rw [Grant.mem_halfHours]
  constructor
  · rintro ⟨k, hstart, hlt, hstop⟩
    obtain ⟨hfrom, hto⟩ := (aligned (ClockTime.lt_iff.2 (by omega))).minutes
    refine ⟨g.start.minutes / 30 + k, slotAt?_eq_some_iff.2 ⟨?_, ?_, ?_⟩, ?_, ?_⟩ <;> omega
  · rintro ⟨c, hslot, hfirst, hlast⟩
    obtain ⟨hc, hstart, hstop⟩ := slotAt?_eq_some_iff.1 hslot
    obtain ⟨hfrom, hto⟩ := (aligned (ClockTime.lt_iff.2 (by omega))).minutes
    refine ⟨c - g.start.minutes / 30, ?_, ?_, ?_⟩ <;> omega

/-- Joining keeps windows aligned. -/
theorem aligned_of_mem_fuse {gs : List Grant}
    (aligned : ∀ g ∈ gs, AlignedWindow g.start g.stop) :
    ∀ f ∈ Grant.fuse gs, AlignedWindow f.start f.stop :=
  Grant.forall_mem_fuse (fun _ _ hg hh _ => ⟨hg.1, hh.2⟩) aligned

/-- Grants made of aligned selections are aligned. -/
theorem aligned_ofSelections {sels : List Selection} (aligned : (Schedule.selections sels).Aligned) :
    (Schedule.grants (Grant.ofSelections sels)).Aligned := by
  intro f hf _
  apply aligned_of_mem_fuse ?_ f hf
  intro g hg
  obtain ⟨i, hi, rfl⟩ := Grant.mem_picked.1 hg
  obtain ⟨d, hd⟩ := Grant.mem_windows.1 hi
  obtain ⟨s, hs, -, hi⟩ := mem_daysPicking.1 hd
  exact aligned s hs i hi

end AccessWindows
