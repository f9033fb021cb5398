import AccessWindows.Grid.Edit
import AccessWindows.Log.Event
import AccessWindows.Schedule.Conversion

/-!
# Conversions with their events

A `Traced` value comes with the events of its making, in the order in which they happened. The
conversions of the library are repeated here with their events; the values are the same, as the
lemmas beside them say.
-/

set_option autoImplicit false

namespace AccessWindows.Log

/-- A value and the events of its making. -/
structure Traced (α : Type) where
  value : α
  events : List Event

namespace Traced

/-- One thing after another: the events of the second follow those of the first. -/
instance : Monad Traced where
  pure a := ⟨a, []⟩
  bind x f := ⟨(f x.value).value, x.events ++ (f x.value).events⟩

/-- A single event. -/
def emit (e : Event) : Traced Unit := ⟨(), [e]⟩

@[simp] theorem value_pure {α : Type} (a : α) : (pure a : Traced α).value = a := rfl

@[simp] theorem events_pure {α : Type} (a : α) : (pure a : Traced α).events = [] := rfl

@[simp] theorem value_bind {α β : Type} (x : Traced α) (f : α → Traced β) :
    (x >>= f).value = (f x.value).value := rfl

@[simp] theorem events_bind {α β : Type} (x : Traced α) (f : α → Traced β) :
    (x >>= f).events = x.events ++ (f x.value).events := rfl

end Traced

/-- Selections to grants. -/
def merge (sels : List Selection) : Traced (List Grant) :=
  let grants := Grant.ofSelections sels
  ⟨grants, [.merged sels.length grants.length]⟩

/-- The warning about a grant whose window is empty. -/
def warning? (g : Grant) : Option Event :=
  if g.start < g.stop then none else some (.skippedEmpty g.start g.stop)

/-- Grants to selections, with a warning for each empty window first. -/
def split (grants : List Grant) : Traced (List Selection) :=
  let sels := Selection.ofGrants grants
  ⟨sels, grants.filterMap warning? ++ [.split grants.length sels.length]⟩

/-- Grants to normal form. -/
def normalize (grants : List Grant) : Traced (List Grant) := do
  merge (← split grants)

/-- A grid from selections. -/
def paint (sels : List Selection) : Traced WeekGrid :=
  let grid := WeekGrid.ofSelections sels
  ⟨grid, [.painted sels.length grid.selectedCount]⟩

/-- A grid from grants. -/
def paintGrants (grants : List Grant) : Traced WeekGrid := do
  paint (← split grants)

/-- A grid to grants. -/
def toGrants (grid : WeekGrid) : Traced (List Grant) := merge grid.toSelections

/-- One step of a conversion, if it fits the form of the schedule. -/
def step? : Step → Schedule → Option (Traced Schedule)
  | .merge, .selections sels => some (Schedule.grants <$> merge sels)
  | .split, .grants gs => some (Schedule.selections <$> split gs)
  | .normalize, .grants gs => some (Schedule.grants <$> normalize gs)
  | .grid, .selections sels =>
      some ((fun g : WeekGrid => Schedule.selections g.toSelections) <$> paint sels)
  | .grid, .grants gs => some do
      let grid ← paintGrants gs
      return Schedule.grants (← toGrants grid)
  | _, _ => none

/-- One edit of a grid, or why it was refused. -/
def edit (grid : WeekGrid) : Edit → Except Fault (Traced WeekGrid)
  | .paint sels => .ok (paint sels)
  | .paintGrants grants => .ok (paintGrants grants)
  | e => (grid.edit e).map pure

@[simp] theorem value_merge (sels : List Selection) :
    (merge sels).value = Grant.ofSelections sels := rfl

@[simp] theorem value_split (grants : List Grant) :
    (split grants).value = Selection.ofGrants grants := rfl

@[simp] theorem value_normalize (grants : List Grant) :
    (normalize grants).value = Grant.normalize grants := rfl

@[simp] theorem value_paint (sels : List Selection) :
    (paint sels).value = WeekGrid.ofSelections sels := rfl

@[simp] theorem value_paintGrants (grants : List Grant) :
    (paintGrants grants).value = WeekGrid.ofGrants grants := rfl

@[simp] theorem value_toGrants (grid : WeekGrid) : (toGrants grid).value = grid.toGrants := rfl

/-- The schedules are those of the conversion without events. -/
theorem map_value_step? (s : Step) (schedule : Schedule) :
    (step? s schedule).map (·.value) = Schedule.step? s schedule := by
  cases s <;> cases schedule <;> rfl

/-- The grids are those of the edits without events. -/
theorem map_value_edit (grid : WeekGrid) (e : Edit) :
    (edit grid e).map (·.value) = grid.edit e := by
  cases e <;> simp only [edit, WeekGrid.edit, Except.map, value_paint, value_paintGrants]
  case set => cases grid.set _ _ _ <;> rfl
  case block => cases grid.selectBlock _ _ _ _ _ <;> rfl
  case clear => rfl

end AccessWindows.Log
