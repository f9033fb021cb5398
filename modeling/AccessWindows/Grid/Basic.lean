import AccessWindows.Clock.Interval
import AccessWindows.Clock.Weekday
import AccessWindows.Fault

/-!
# The week grid

The grid has seven rows, Monday on top, of forty-eight cells. Column `c` is the half hour that begins
`30 * c` minutes after midnight. Only the last cell is shorter: it ends at 23:59, so that every cell
lies within one day.

A `WeekGrid` says for each of the 336 cells of a week whether it is selected: seven words of 64 bits,
bit `c` of a word being column `c`. The sixteen bits beyond the last column belong to no cell, and no
operation sets them. `row` is the view through which every operation is described: `row_fill` says
what `fill` does to it, and two grids with the same rows are equal (`ext_row`).
-/

set_option autoImplicit false

namespace AccessWindows

/-! ## Layout -/

/-- Cells in one row. -/
def columns : Nat := 48

/-- The intervals of a row, column 0 first. -/
def daySlots : List Interval := (HalfHours.mk .midnight .dayEnd).toList

/-- The interval of a column, if the grid has that column. -/
def slotAt? (column : Nat) : Option Interval := daySlots[column]?

/-- A cell of the grid as it is shown. -/
structure Cell where
  day : Weekday
  column : Nat
  slot : Interval
deriving DecidableEq

/-- A row of the grid as it is shown. -/
structure Row where
  day : Weekday
  cells : List Cell
deriving DecidableEq

/-- The cells of a weekday, column 0 first. -/
def Row.ofDay (d : Weekday) : Row :=
  ⟨d, daySlots.mapIdx fun column slot => ⟨d, column, slot⟩⟩

/-- The whole grid, Monday first. -/
def weekRows : List Row := Weekday.all.map Row.ofDay

/-- The cell in a row and a column, if the grid has it. -/
def cellAt? (row column : Nat) : Option Cell := do
  let r ← weekRows[row]?
  r.cells[column]?

/-! ## Selected cells -/

/-- Which cells of the week are selected. -/
structure WeekGrid where
  rows : Vector (BitVec 64) 7
deriving DecidableEq

/-- A row in which exactly the columns that satisfy `p` are selected. -/
def columnMask (p : Nat → Bool) : BitVec 64 :=
  (List.range columns).foldl (fun row c => if p c then row ||| BitVec.twoPow 64 c else row) 0#64

/-- The columns of a mask are those that satisfy the predicate. -/
@[simp] theorem getLsbD_columnMask (p : Nat → Bool) (c : Nat) :
    (columnMask p).getLsbD c = (decide (c < columns) && p c) := by
  have upTo : ∀ n, n ≤ 64 →
      ((List.range n).foldl (fun row c => if p c then row ||| BitVec.twoPow 64 c else row)
        0#64).getLsbD c = (decide (c < n) && p c) := by
    intro n
    induction n with
    | zero => simp
    | succ n ih =>
        intro hn
        have before := ih (Nat.le_of_succ_le hn)
        rw [List.range_succ, List.foldl_append]
        simp only [List.foldl_cons, List.foldl_nil]
        by_cases hp : p n = true
        · rw [if_pos hp, BitVec.getLsbD_or, before, BitVec.getLsbD_twoPow]
          by_cases hc : n = c
          · subst hc
            simp [hp, Nat.lt_of_succ_le hn]
          · have : (c < n + 1) = (c < n) := propext ⟨fun h => by omega, fun h => by omega⟩
            simp [hc, this]
        · rw [if_neg hp, before]
          by_cases hc : n = c
          · subst hc
            simp [hp]
          · have : (c < n + 1) = (c < n) := propext ⟨fun h => by omega, fun h => by omega⟩
            simp [this]
  exact upTo columns (by decide)

namespace WeekGrid

/-- The bits of a weekday. -/
def row (g : WeekGrid) (d : Weekday) : BitVec 64 := g.rows[d.row]

/-- The grid with given rows. -/
def fill (rowOf : Weekday → BitVec 64) : WeekGrid :=
  ⟨Vector.ofFn fun r : Fin 7 => rowOf (Weekday.ofRow r)⟩

@[simp] theorem row_fill (rowOf : Weekday → BitVec 64) (d : Weekday) :
    (fill rowOf).row d = rowOf d := by
  simp [row, fill]

/-- Grids with the same rows are equal. -/
theorem ext_row {g h : WeekGrid} (same : ∀ d, g.row d = h.row d) : g = h := by
  obtain ⟨gs⟩ := g
  obtain ⟨hs⟩ := h
  congr
  refine Vector.ext fun i hi => ?_
  have := same (Weekday.ofRow ⟨i, hi⟩)
  simpa [row] using this

/-- The grid with no cell selected. -/
def empty : WeekGrid := fill fun _ => 0#64

instance : Inhabited WeekGrid := ⟨empty⟩

/-- Whether a cell is selected; columns that the grid does not have never are. -/
def isSelected (g : WeekGrid) (d : Weekday) (column : Nat) : Bool :=
  decide (column < columns) && (g.row d).getLsbD column

/-- Select or clear the masked columns of a row. -/
def paint (bits mask : BitVec 64) (on : Bool) : BitVec 64 :=
  -- the complement also has the bits beyond the last column, which are clear in `bits`
  if on then bits ||| mask else bits &&& ~~~mask

/-- Select or clear the masked columns on every weekday that satisfies `days`. -/
def paintRows (g : WeekGrid) (days : Weekday → Bool) (mask : BitVec 64) (on : Bool) :
    WeekGrid :=
  fill fun d => if days d then paint (g.row d) mask on else g.row d

/-- Select or clear one cell. -/
def set (g : WeekGrid) (d : Weekday) (column : Nat) (on : Bool) : Except Fault WeekGrid :=
  if column < columns then
    .ok (g.paintRows (fun e => decide (e = d)) (columnMask fun c => decide (c = column)) on)
  else .error (.noSuchColumn column)

/-- Select or clear a rectangle of cells. Two weekdays and two columns are its corners, in any
order. -/
def selectBlock (g : WeekGrid) (d₁ d₂ : Weekday) (c₁ c₂ : Nat) (on : Bool) :
    Except Fault WeekGrid :=
  if max c₁ c₂ < columns then
    .ok (g.paintRows (fun d => decide (min d₁.number d₂.number ≤ d.number ∧
        d.number ≤ max d₁.number d₂.number))
      (columnMask fun c => decide (min c₁ c₂ ≤ c ∧ c ≤ max c₁ c₂)) on)
  else .error (.noSuchColumn (max c₁ c₂))

/-- Number of selected cells, counted as the bits that are set. -/
def selectedCount (g : WeekGrid) : Nat :=
  Weekday.all.foldl (fun count d => count + (g.row d).cpop.toNat) 0

/-- Whether no cell is selected. -/
def isEmpty (g : WeekGrid) : Bool := Weekday.all.all fun d => g.row d == 0#64

end WeekGrid

end AccessWindows
