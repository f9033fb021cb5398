import AccessWindows.Grid.Basic
import AccessWindows.Schedule.Normal

/-!
# Painting and editing a week grid

A grid is painted from selections by selecting each cell that lies within one picked interval of its
weekday, and from grants by cutting them into half hours first. The way back lists the selected
cells of each weekday, or the grants made of them.

What a person at the grid can do: select or clear a cell or a dragged rectangle, clear everything,
or paint the grid anew. An edit that is refused leaves the grid as it was.
-/

set_option autoImplicit false

namespace AccessWindows

/-! ## Painting -/

namespace WeekGrid

/-- Whether one interval that the selections pick on a weekday covers all of a column. -/
def covered (sels : List Selection) (d : Weekday) (column : Nat) : Bool :=
  match slotAt? column with
  | none => false
  | some slot => sels.any fun s => decide (s.day = d) && s.intervals.any fun i => i.covers slot

/-- Select the cells that selections cover. -/
def ofSelections (sels : List Selection) : WeekGrid :=
  fill fun d => columnMask (covered sels d)

/-- Select the cells that grants cover once they are cut into half hours. -/
def ofGrants (grants : List Grant) : WeekGrid := ofSelections (Selection.ofGrants grants)

/-- The intervals of the selected cells of a weekday, column 0 first. -/
def slotsOn (g : WeekGrid) (d : Weekday) : List Interval :=
  ((List.range columns).filter fun c => g.isSelected d c).filterMap slotAt?

/-- The selected cells as selections, Monday first, without weekdays that have none. -/
def toSelections (g : WeekGrid) : List Selection :=
  Weekday.all.filterMap fun d => Selection.onDay? d (g.slotsOn d)

/-- The selected cells as grants. -/
def toGrants (g : WeekGrid) : List Grant := Grant.ofSelections g.toSelections

end WeekGrid

/-! ## Edits -/

/-- One change to a week grid. -/
inductive Edit where
  | set (day : Weekday) (column : Nat) (on : Bool)
  | block (day₁ day₂ : Weekday) (column₁ column₂ : Nat) (on : Bool)
  | clear
  | paint (sels : List Selection)
  | paintGrants (grants : List Grant)

namespace WeekGrid

/-- The grid after an edit, or why it was refused. -/
def edit (g : WeekGrid) : Edit → Except Fault WeekGrid
  | .set day column on => g.set day column on
  | .block day₁ day₂ column₁ column₂ on => g.selectBlock day₁ day₂ column₁ column₂ on
  | .clear => .ok empty
  | .paint sels => .ok (ofSelections sels)
  | .paintGrants grants => .ok (ofGrants grants)

/-- The grid after an edit; one that is refused changes nothing. -/
def apply (g : WeekGrid) (e : Edit) : WeekGrid :=
  match g.edit e with
  | .ok g' => g'
  | .error _ => g

/-- The grid that a series of edits makes of the empty one. -/
def ofEdits (edits : List Edit) : WeekGrid := edits.foldl apply empty

end WeekGrid

end AccessWindows
