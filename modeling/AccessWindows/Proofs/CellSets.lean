import Mathlib.Algebra.BigOperators.Group.Finset.Basic
import Mathlib.Data.Finset.Prod
import AccessWindows.Proofs.Cells

/-!
# The grid as a set of cells

What the words of a grid stand for is a plain set of cells, pairs of a weekday and a column, and an
edit of the grid is an edit of this set: a cell or a rectangle is added or taken away, all cells are
taken away, or the set is replaced (`CellSet.apply`). One edit of a grid does to its cells what the
edit of the set does (`WeekGrid.cells_apply`), so a series of edits does as well
(`WeekGrid.cells_ofEdits`). As every grid that edits make is narrow, it is known from its cells
(`WeekGrid.ofEdits_eq_iff`), its bits are as many as its cells
(`WeekGrid.Narrow.selectedCount_eq_card`), and dragging over a rectangle comes to the same as setting
its cells one by one (`WeekGrid.ofEdits_append_rectangle`).
-/

set_option autoImplicit false

namespace AccessWindows

/-! ## Sets of cells -/

/-- A set of cells, each a weekday and a column. -/
abbrev CellSet : Type := Finset (Weekday × Nat)

namespace CellSet

/-- All cells of a week. -/
def week : CellSet := Weekday.all.toFinset ×ˢ Finset.range columns

theorem mem_week {p : Weekday × Nat} : p ∈ week ↔ p.2 < columns := by
  simp [week, Weekday.mem_all]

/-- Whether a number lies between two others, which may come in either order. -/
def Between (a b n : Nat) : Prop := a ≤ n ∧ n ≤ b ∨ b ≤ n ∧ n ≤ a

instance (a b n : Nat) : Decidable (Between a b n) :=
  inferInstanceAs (Decidable (a ≤ n ∧ n ≤ b ∨ b ≤ n ∧ n ≤ a))

theorem between_iff {a b n : Nat} : Between a b n ↔ min a b ≤ n ∧ n ≤ max a b := by
  unfold Between
  omega

/-- The cells between two weekdays and two columns. -/
def rectangle (d₁ d₂ : Weekday) (c₁ c₂ : Nat) : CellSet :=
  week.filter fun p => Between d₁.number d₂.number p.1.number ∧ Between c₁ c₂ p.2

/-- The cells that lie within one of the intervals given for their weekday. -/
def coveredBy (intervalsOn : Weekday → List Interval) : CellSet :=
  week.filter fun p => (slotAt? p.2).any fun slot => (intervalsOn p.1).any fun i => i.covers slot

/-- The set with some cells added or taken away. -/
def change (cells target : CellSet) (on : Bool) : CellSet :=
  if on then cells ∪ target else cells \ target

theorem mem_change {cells target : CellSet} {on : Bool} {p : Weekday × Nat} :
    p ∈ cells.change target on ↔ p ∈ target ∧ on = true ∨ p ∉ target ∧ p ∈ cells := by
  cases on <;> by_cases hp : p ∈ target <;> simp [change, hp]

end CellSet

/-! ## Edits of a set -/

/-- Whether an edit names a column that the grid does not have. -/
def Edit.OffGrid : Edit → Prop
  | .set _ column _ => columns ≤ column
  | .block _ _ column₁ column₂ _ => columns ≤ max column₁ column₂
  | _ => False

instance : DecidablePred Edit.OffGrid
  | .set _ column _ => inferInstanceAs (Decidable (columns ≤ column))
  | .block _ _ column₁ column₂ _ => inferInstanceAs (Decidable (columns ≤ max column₁ column₂))
  | .clear => inferInstanceAs (Decidable False)
  | .paint _ => inferInstanceAs (Decidable False)
  | .paintGrants _ => inferInstanceAs (Decidable False)

namespace CellSet

/-- The cells that an edit makes of a set. -/
def edited (cells : CellSet) : Edit → CellSet
  | .set day column on => cells.change {(day, column)} on
  | .block day₁ day₂ column₁ column₂ on => cells.change (rectangle day₁ day₂ column₁ column₂) on
  | .clear => ∅
  | .paint sels => coveredBy fun d => (sels.filter fun s => s.day = d).flatMap (·.intervals)
  | .paintGrants gs => coveredBy fun d => (gs.filter fun g => d ∈ g.weekdays).flatMap Grant.halfHours

/-- The cells after an edit; one that names a column beyond the grid changes nothing. -/
def apply (cells : CellSet) (e : Edit) : CellSet := if e.OffGrid then cells else cells.edited e

/-- The cells that a series of edits makes of none. -/
def ofEdits (edits : List Edit) : CellSet := edits.foldl apply ∅

end CellSet

namespace WeekGrid

/-- The selected cells of a grid. -/
def cells (g : WeekGrid) : CellSet := CellSet.week.filter fun p => g.isSelected p.1 p.2

theorem mem_cells {g : WeekGrid} {d : Weekday} {c : Nat} :
    (d, c) ∈ g.cells ↔ g.isSelected d c = true := by
  rw [cells, Finset.mem_filter, CellSet.mem_week]
  exact ⟨fun h => h.2, fun h => ⟨lt_of_isSelected h, h⟩⟩

theorem cells_empty : empty.cells = ∅ := by
  ext ⟨d, c⟩
  rw [mem_cells]
  simp [isSelected, empty]

/-! ## One edit -/

/-- Painting rows changes the cells on the grid that it is for. -/
theorem cells_paintRows (g : WeekGrid) (days : Weekday → Bool) (p : Nat → Bool) (on : Bool) :
    (g.paintRows days (columnMask p) on).cells =
      g.cells.change (CellSet.week.filter fun q => days q.1 = true ∧ p q.2 = true) on := by
  ext ⟨d, c⟩
  rw [mem_cells, CellSet.mem_change, Finset.mem_filter, CellSet.mem_week, mem_cells, isSelected,
    isSelected, paintRows, row_fill, Bool.and_eq_true, Bool.and_eq_true, decide_eq_true_eq]
  cases hd : days d with
  | false => simp
  | true =>
      rw [if_pos rfl, getLsbD_paint]
      by_cases hmask : c < columns ∧ p c = true
      · simp [hmask]
      · rw [if_neg hmask]
        constructor
        · intro h
          exact Or.inr ⟨fun htarget => hmask ⟨htarget.1, htarget.2.2⟩, h⟩
        · rintro (⟨htarget, -⟩ | ⟨-, h⟩)
          · exact absurd ⟨htarget.1, htarget.2.2⟩ hmask
          · exact h

/-- An edit is refused exactly if it names a column beyond the grid. -/
theorem edit_eq_error_iff {g : WeekGrid} {e : Edit} :
    (∃ fault, g.edit e = .error fault) ↔ e.OffGrid := by
  cases e with
  | set day column on =>
      show (∃ fault, g.set day column on = .error fault) ↔ columns ≤ column
      rw [WeekGrid.set]
      split
      · next h => simp [h]
      · next h => simp [Nat.not_lt.1 h]
  | block day₁ day₂ column₁ column₂ on =>
      show (∃ fault, g.selectBlock day₁ day₂ column₁ column₂ on = .error fault) ↔
        columns ≤ max column₁ column₂
      rw [selectBlock]
      split
      · next h => simp only [reduceCtorEq, exists_false, false_iff, Nat.not_le, h]
      · next h => simp only [Except.error.injEq, exists_eq', Nat.not_lt.1 h]
  | clear => simp [edit, Edit.OffGrid]
  | paint sels => simp [edit, Edit.OffGrid]
  | paintGrants grants => simp [edit, Edit.OffGrid]

/-- A refused edit leaves the grid as it was. -/
theorem apply_of_offGrid {g : WeekGrid} {e : Edit} (off : e.OffGrid) : g.apply e = g := by
  obtain ⟨fault, h⟩ := edit_eq_error_iff.2 off
  rw [apply, h]

theorem apply_of_edit {g g' : WeekGrid} {e : Edit} (h : g.edit e = .ok g') : g.apply e = g' := by
  rw [apply, h]

/-- Painting from selections selects the cells that lie within an interval of their weekday. -/
theorem cells_ofSelections (sels : List Selection) :
    (ofSelections sels).cells =
      CellSet.coveredBy fun d => (sels.filter fun s => s.day = d).flatMap (·.intervals) := by
  ext ⟨d, c⟩
  rw [mem_cells, ofSelections, isSelected_fill, CellSet.coveredBy, Finset.mem_filter,
    CellSet.mem_week]
  apply and_congr_right
  intro hc
  obtain ⟨slot, hslot⟩ := exists_slotAt? hc
  simp [covered, hslot]

/-- Painting from grants selects the cells that lie within a half hour of their weekday. -/
theorem cells_ofGrants (gs : List Grant) :
    (ofGrants gs).cells =
      CellSet.coveredBy fun d => (gs.filter fun g => d ∈ g.weekdays).flatMap Grant.halfHours := by
  rw [ofGrants, cells_ofSelections]
  ext ⟨d, c⟩
  rw [CellSet.coveredBy, CellSet.coveredBy, Finset.mem_filter, Finset.mem_filter, CellSet.mem_week]
  apply and_congr_right
  intro hc
  obtain ⟨slot, hslot⟩ := exists_slotAt? hc
  have same : ∀ i : Interval,
      (∃ s ∈ Selection.ofGrants gs, s.day = d ∧ i ∈ s.intervals) ↔
        ∃ g ∈ gs, d ∈ g.weekdays ∧ i ∈ g.halfHours := by
    intro i
    rw [← mem_daysPicking, Selection.mem_daysPicking_ofGrants]
  simp only [hslot, Option.any_some, List.any_eq_true, List.mem_flatMap, List.mem_filter,
    decide_eq_true_eq, and_assoc]
  exact exists_congr fun i => and_congr_left fun _ => same i

/-- **An edit of a grid is an edit of its cells.** -/
theorem cells_apply (g : WeekGrid) (e : Edit) : (g.apply e).cells = g.cells.apply e := by
  by_cases off : e.OffGrid
  · rw [apply_of_offGrid off, CellSet.apply, if_pos off]
  · rw [CellSet.apply, if_neg off]
    cases e with
    | set day column on =>
        have hcolumn : column < columns := Nat.not_le.1 off
        rw [apply_of_edit (e := .set day column on) (if_pos hcolumn), cells_paintRows, CellSet.edited]
        congr 1
        ext ⟨d, c⟩
        simp only [Finset.mem_filter, CellSet.mem_week, decide_eq_true_eq, Finset.mem_singleton,
          Prod.mk.injEq]
        exact ⟨fun h => h.2, fun h => ⟨h.2 ▸ hcolumn, h⟩⟩
    | block day₁ day₂ column₁ column₂ on =>
        have hcolumns : max column₁ column₂ < columns := Nat.not_le.1 off
        rw [apply_of_edit (e := .block day₁ day₂ column₁ column₂ on) (if_pos hcolumns), cells_paintRows,
          CellSet.edited]
        congr 1
        ext ⟨d, c⟩
        simp only [CellSet.rectangle, Finset.mem_filter, CellSet.mem_week, decide_eq_true_eq,
          CellSet.between_iff]
    | clear => exact (congrArg cells (apply_of_edit rfl)).trans cells_empty
    | paint sels => exact (congrArg cells (apply_of_edit rfl)).trans (cells_ofSelections sels)
    | paintGrants grants => exact (congrArg cells (apply_of_edit rfl)).trans (cells_ofGrants grants)

/-! ## A series of edits -/

theorem cells_foldl (edits : List Edit) (g : WeekGrid) :
    (edits.foldl apply g).cells = edits.foldl CellSet.apply g.cells := by
  induction edits generalizing g with
  | nil => rfl
  | cons e edits ih => rw [List.foldl_cons, List.foldl_cons, ih, cells_apply]

/-- **The cells of a grid go through the same edits as the grid.** -/
theorem cells_ofEdits (edits : List Edit) : (ofEdits edits).cells = CellSet.ofEdits edits := by
  rw [ofEdits, cells_foldl, cells_empty, CellSet.ofEdits]

/-- Narrow grids with the same cells are equal. -/
theorem Narrow.ext_cells {g h : WeekGrid} (hg : g.Narrow) (hh : h.Narrow)
    (same : g.cells = h.cells) : g = h := by
  apply hg.ext_isSelected hh
  intro d c
  rw [← mem_cells, same, mem_cells]

/-- Two series of edits make the same grid if they make the same set of cells. -/
theorem ofEdits_eq_iff {edits edits' : List Edit} :
    ofEdits edits = ofEdits edits' ↔ CellSet.ofEdits edits = CellSet.ofEdits edits' := by
  rw [← cells_ofEdits, ← cells_ofEdits]
  exact ⟨congrArg cells, (narrow_ofEdits edits).ext_cells (narrow_ofEdits edits')⟩

/-! ## Counting -/

/-- The bits that are set below a place are as many as the columns that they stand for. -/
theorem cpopNatRec_eq_card {w : Nat} (x : BitVec w) (n : Nat) :
    x.cpopNatRec n 0 = ((Finset.range n).filter fun c => x.getLsbD c = true).card := by
  induction n with
  | zero => rfl
  | succ n ih =>
      rw [BitVec.cpopNatRec_succ, BitVec.cpopNatRec_add, ih, Finset.range_add_one,
        Finset.filter_insert]
      cases hbit : x.getLsbD n with
      | false => simp
      | true => simp

/-- A row of a narrow grid has as many bits as the grid has cells on the weekday. -/
theorem Narrow.cpop_row {g : WeekGrid} (hg : g.Narrow) (d : Weekday) :
    (g.row d).cpop.toNat = (g.cells.filter fun p => p.1 = d).card := by
  rw [BitVec.toNat_cpop, cpopNatRec_eq_card,
    ← Finset.card_image_of_injective _ (Prod.mk_right_injective d)]
  congr 1
  ext ⟨e, c⟩
  rw [Finset.mem_image, Finset.mem_filter, mem_cells]
  constructor
  · rintro ⟨c', hc', heq⟩
    obtain ⟨rfl, rfl⟩ := Prod.mk.inj heq
    rw [Finset.mem_filter, hg.getLsbD_row] at hc'
    exact ⟨hc'.2, rfl⟩
  · rintro ⟨hselected, rfl⟩
    have hc : c < 48 := lt_of_isSelected hselected
    refine ⟨c, Finset.mem_filter.2 ⟨Finset.mem_range.2 (by omega), ?_⟩, rfl⟩
    rw [hg.getLsbD_row]
    exact hselected

/-- A narrow grid counts its cells. -/
theorem Narrow.selectedCount_eq_card {g : WeekGrid} (hg : g.Narrow) :
    g.selectedCount = g.cells.card := by
  have hweek : Set.MapsTo Prod.fst (g.cells : Set (Weekday × Nat))
      (Weekday.all.toFinset : Set Weekday) := by
    intro p _
    simp [Weekday.mem_all]
  rw [Finset.card_eq_sum_card_fiberwise hweek, List.sum_toFinset _ (by decide), selectedCount]
  simp only [← hg.cpop_row, Weekday.all, List.foldl_cons, List.foldl_nil, List.map_cons, List.map_nil,
    List.sum_cons, List.sum_nil]
  omega

theorem Narrow.isEmpty_iff {g : WeekGrid} (hg : g.Narrow) : g.isEmpty = true ↔ g.cells = ∅ := by
  constructor
  · intro h
    ext ⟨d, c⟩
    have hrow : g.row d = 0#64 := eq_of_beq (List.all_eq_true.1 h d (Weekday.mem_all d))
    rw [mem_cells, ← hg.getLsbD_row, hrow]
    simp
  · intro h
    apply List.all_eq_true.2
    intro d _
    apply beq_iff_eq.2
    apply BitVec.eq_of_getLsbD_eq
    intro c _
    rw [hg.getLsbD_row, BitVec.getLsbD_zero, ← Bool.not_eq_true, ← mem_cells, h]
    simp

/-- A word without bits beyond the columns is less than the power of two of their number. -/
theorem Narrow.row_lt {g : WeekGrid} (hg : g.Narrow) (d : Weekday) : (g.row d).toNat < 2 ^ 48 := by
  apply Nat.lt_pow_two_of_testBit
  intro c hc
  rw [BitVec.testBit_toNat, ← Bool.not_eq_true]
  intro hbit
  exact absurd (hg d c hbit) (Nat.not_lt.2 hc)

/-! ## Rectangles -/

/-- The corners of a block may be given in any order. -/
theorem selectBlock_comm_days (g : WeekGrid) (d₁ d₂ : Weekday) (c₁ c₂ : Nat) (on : Bool) :
    g.selectBlock d₂ d₁ c₁ c₂ on = g.selectBlock d₁ d₂ c₁ c₂ on := by
  rw [selectBlock, selectBlock, Nat.min_comm d₂.number, Nat.max_comm d₂.number]

theorem selectBlock_comm_columns (g : WeekGrid) (d₁ d₂ : Weekday) (c₁ c₂ : Nat) (on : Bool) :
    g.selectBlock d₁ d₂ c₂ c₁ on = g.selectBlock d₁ d₂ c₁ c₂ on := by
  rw [selectBlock, selectBlock, Nat.min_comm c₂, Nat.max_comm c₂]

/-- Setting the cells of a list one by one changes just these cells. -/
theorem mem_foldl_set {on : Bool} {targets : List (Weekday × Nat)}
    (onGrid : ∀ p ∈ targets, p.2 < columns) {cells : CellSet} {p : Weekday × Nat} :
    p ∈ (targets.map fun q => Edit.set q.1 q.2 on).foldl CellSet.apply cells ↔
      p ∈ targets ∧ on = true ∨ p ∉ targets ∧ p ∈ cells := by
  induction targets generalizing cells with
  | nil => simp
  | cons q targets ih =>
      obtain ⟨hq, htargets⟩ := List.forall_mem_cons.1 onGrid
      have hstep : cells.apply (.set q.1 q.2 on) = cells.change {q} on := if_neg (Nat.not_le.2 hq)
      rw [List.map_cons, List.foldl_cons, hstep, ih htargets, CellSet.mem_change]
      by_cases hp : p ∈ targets
      · simp [hp]
      · by_cases hpq : p = q
        · subst hpq
          simp [hp]
        · simp [hp, hpq]

/-- Dragging over a rectangle comes to the same as setting its cells one by one, in any order. -/
theorem ofEdits_append_rectangle (edits : List Edit) {d₁ d₂ : Weekday} {c₁ c₂ : Nat} {on : Bool}
    (onGrid : max c₁ c₂ < columns) {targets : List (Weekday × Nat)}
    (all : ∀ p, p ∈ targets ↔ p ∈ CellSet.rectangle d₁ d₂ c₁ c₂) :
    ofEdits (edits ++ targets.map fun q => Edit.set q.1 q.2 on) =
      ofEdits (edits ++ [.block d₁ d₂ c₁ c₂ on]) := by
  have htargets : ∀ p ∈ targets, p.2 < columns := fun p hp =>
    CellSet.mem_week.1 (Finset.mem_filter.1 ((all p).1 hp)).1
  have hstep : (CellSet.ofEdits edits).apply (.block d₁ d₂ c₁ c₂ on) =
      (CellSet.ofEdits edits).change (CellSet.rectangle d₁ d₂ c₁ c₂) on :=
    if_neg (Nat.not_le.2 onGrid)
  rw [ofEdits_eq_iff, CellSet.ofEdits, CellSet.ofEdits, List.foldl_append, List.foldl_append]
  ext p
  rw [mem_foldl_set htargets, List.foldl_cons, List.foldl_nil]
  show _ ↔ p ∈ (CellSet.ofEdits edits).apply (.block d₁ d₂ c₁ c₂ on)
  rw [hstep, CellSet.mem_change, all]
  rfl

/-! ## The grid and its set -/

/-- What a grid says if it stands for a set of cells. -/
structure Represents (g : WeekGrid) (cells : CellSet) : Prop where
  row_lt : ∀ d, (g.row d).toNat < 2 ^ 48
  isSelected_iff : ∀ d c, g.isSelected d c = true ↔ (d, c) ∈ cells
  lt_columns : ∀ p ∈ cells, p.2 < 48
  selectedCount_eq : g.selectedCount = cells.card
  isEmpty_iff : g.isEmpty = true ↔ cells = ∅

/-- A narrow grid stands for its cells. -/
theorem Narrow.represents_cells {g : WeekGrid} (hg : g.Narrow) : g.Represents g.cells where
  row_lt := hg.row_lt
  isSelected_iff _ _ := mem_cells.symm
  lt_columns _ hp := CellSet.mem_week.1 (Finset.mem_filter.1 hp).1
  selectedCount_eq := hg.selectedCount_eq_card
  isEmpty_iff := hg.isEmpty_iff

/-- **The grid is a set of cells, through all edits.** The grid that any edits have made of the
empty one stands for the set that they make of none. An edit of it is refused exactly if it names a
column beyond the grid, and then changes nothing. Grids that edits make are equal if they select
the same cells. The corners of a block come in any order, and a block on the grid is the same as
its cells set one by one. -/
theorem ofEdits_represents (edits : List Edit) :
    (ofEdits edits).Represents (CellSet.ofEdits edits) ∧
      (∀ e, ((∃ fault, (ofEdits edits).edit e = .error fault) ↔ e.OffGrid) ∧
        (e.OffGrid → (ofEdits edits).apply e = ofEdits edits)) ∧
      (∀ edits', ofEdits edits = ofEdits edits' ↔
        ∀ d, ∀ c < 48, (ofEdits edits).isSelected d c = (ofEdits edits').isSelected d c) ∧
      ∀ d₁ d₂ c₁ c₂ on,
        ((ofEdits edits).edit (.block d₂ d₁ c₁ c₂ on) = (ofEdits edits).edit (.block d₁ d₂ c₁ c₂ on) ∧
          (ofEdits edits).edit (.block d₁ d₂ c₂ c₁ on) = (ofEdits edits).edit (.block d₁ d₂ c₁ c₂ on) ∧
          (ofEdits edits).edit (.block d₂ d₁ c₂ c₁ on) =
            (ofEdits edits).edit (.block d₁ d₂ c₁ c₂ on)) ∧
        (max c₁ c₂ < 48 → ∀ targets : List (Weekday × Nat),
          (∀ p, p ∈ targets ↔ p ∈ CellSet.rectangle d₁ d₂ c₁ c₂) →
            ofEdits (edits ++ targets.map fun p => Edit.set p.1 p.2 on) =
              ofEdits (edits ++ [.block d₁ d₂ c₁ c₂ on])) := by
  have narrow := narrow_ofEdits edits
  refine ⟨cells_ofEdits edits ▸ narrow.represents_cells,
    fun e => ⟨edit_eq_error_iff, apply_of_offGrid⟩, ?_, ?_⟩
  · intro edits'
    constructor
    · intro h d c _
      rw [h]
    · intro same
      apply narrow.ext_isSelected (narrow_ofEdits edits')
      intro d c
      constructor
      · intro h
        exact same d c (lt_of_isSelected h) ▸ h
      · intro h
        exact (same d c (lt_of_isSelected h)).symm ▸ h
  · intro d₁ d₂ c₁ c₂ on
    have hdays := selectBlock_comm_days (ofEdits edits) d₁ d₂ c₁ c₂ on
    have hcolumns := selectBlock_comm_columns (ofEdits edits) d₁ d₂ c₁ c₂ on
    have hboth := selectBlock_comm_columns (ofEdits edits) d₂ d₁ c₁ c₂ on
    exact ⟨⟨hdays, hcolumns, hboth.trans hdays⟩,
      fun onGrid _ all => ofEdits_append_rectangle edits onGrid all⟩

end WeekGrid

end AccessWindows
