import AccessWindows.Grid.Basic
import AccessWindows.Json.Record
import AccessWindows.Json.Write
import AccessWindows.Template.Basic

/-!
# Values of the library as JSON

Times, intervals and categories are strings, weekdays are numbers, and all else is an object with
its fields in a fixed order.

The readers take what the writers write, and accept more than that: blanks, fields in any order,
fields of other names, and arrays in the place of objects. Every value that the library refuses to
build is refused here as well, with the same fault.
-/

set_option autoImplicit false

namespace AccessWindows

/-! ## Writing -/

section Writing

open Json (Writer)

/-- A time, as a string. -/
def ClockTime.toJson (t : ClockTime) : Writer := .string t.text

/-- A weekday, as its number. -/
def Weekday.toJson (d : Weekday) : Writer := .number d.number

/-- An interval, as a string. -/
def Interval.toJson (i : Interval) : Writer := .string i.text

/-- A selection: its day and its intervals. -/
def Selection.toJson (s : Selection) : Writer :=
  .object [("day", s.day.toJson), ("value", .array (s.intervals.map Interval.toJson))]

/-- A grant: its weekdays, its start and its stop. -/
def Grant.toJson (g : Grant) : Writer :=
  .object [("weekdays", .array (g.weekdays.map Weekday.toJson)), ("start_time", g.start.toJson),
    ("end_time", g.stop.toJson)]

/-- A category, as its name. -/
def Category.toJson (c : Category) : Writer := .string c.name.toList

/-- A template, with all its fields. -/
def Template.toJson (t : Template) : Writer :=
  .object [("name", .string t.name.toList), ("description", .string t.description.toList),
    ("category", t.category.toJson), ("time_ranges", .array (t.grants.map Grant.toJson)),
    ("timezone", .string t.zone.toList)]

/-- A cell: where it stands and its interval, in parts and whole. -/
def Cell.toJson (c : Cell) : Writer :=
  .object [("day", c.day.toJson), ("row", .number c.day.row), ("col", .number c.column),
    ("begin", c.slot.start.toJson), ("end", c.slot.stop.toJson), ("value", c.slot.toJson)]

/-- A row and its cells. -/
def Row.toJson (r : Row) : Writer :=
  .object [("day", r.day.toJson), ("row", .number r.day.row),
    ("cells", .array (r.cells.map Cell.toJson))]

end Writing

/-! ## Reading -/

section Reading

open Json (Reader Field Record required)

/-- Read a time. -/
def ClockTime.reader : Reader ClockTime := do
  Reader.accept (ClockTime.read (← Reader.string))

/-- Read a weekday. -/
def Weekday.reader : Reader Weekday := do
  Reader.accept (Weekday.ofNumber (← Reader.byte))

/-- Read an interval. -/
def Interval.reader : Reader Interval := do
  Reader.accept (Interval.read (← Reader.string))

/-! ### Selections -/

/-- A selection whose fields are still being read. -/
structure SelectionDraft where
  day : Option Weekday
  intervals : Option (List Interval)

/-- The fields of a selection. -/
def SelectionDraft.record : Record SelectionDraft Selection where
  name := "DaySelection"
  blank := ⟨none, none⟩
  fields :=
    [{ name := "day", optional := false, isSet := fun d => d.day.isSome,
       read := fun d => do return { d with day := some (← Weekday.reader) } },
     { name := "value", optional := false, isSet := fun d => d.intervals.isSome,
       read := fun d => do
        return { d with intervals := some (← Reader.array Interval.reader) } }]
  finish := fun d => do
    let day ← required "day" d.day
    let intervals ← required "value" d.intervals
    return ⟨day, intervals⟩

/-- Read a selection. -/
def Selection.reader : Reader Selection := SelectionDraft.record.read

/-! ### Grants -/

/-- A grant whose fields are still being read. -/
structure GrantDraft where
  weekdays : Option (List Weekday)
  start : Option ClockTime
  stop : Option ClockTime

/-- The fields of a grant. What has been read may still be unsound. -/
def GrantDraft.record : Record GrantDraft Grant where
  name := "RawMergedRange"
  blank := ⟨none, none, none⟩
  fields :=
    [{ name := "weekdays", optional := false, isSet := fun d => d.weekdays.isSome,
       read := fun d => do return { d with weekdays := some (← Reader.array Weekday.reader) } },
     { name := "start_time", optional := false, isSet := fun d => d.start.isSome,
       read := fun d => do return { d with start := some (← ClockTime.reader) } },
     { name := "end_time", optional := false, isSet := fun d => d.stop.isSome,
       read := fun d => do return { d with stop := some (← ClockTime.reader) } }]
  finish := fun d => do
    let weekdays ← required "weekdays" d.weekdays
    let start ← required "start_time" d.start
    let stop ← required "end_time" d.stop
    return ⟨weekdays, start, stop⟩

/-- Read a grant. It is built anew from its parts, so only sound grants are read. -/
def Grant.reader : Reader Grant := do
  Reader.accept (← GrantDraft.record.read).remake

/-! ### Templates -/

/-- Read the name of a category, written exactly. -/
def Category.nameReader : Reader Category := do
  let s ← Reader.stringFor .variant
  match Category.ofName? s with
  | some c => return c
  | none =>
      throw (.mismatch (.unknownVariant (String.ofList s) (Category.all.map Category.name)))

/-- Read a category: its name, or an object with its name as the only key and `null` as the value. An
object without a key counts as no value at all. -/
def Category.reader : Reader Category := do
  let c ← Reader.start
  if c = '"' then Category.nameReader
  else if c = '{' then
    Reader.advance
    match ← Reader.peek with
    | none => throw (.eof .object)
    | some '}' => throw (.malformed .value)
    | some c => if c ≠ '"' then throw (.malformed .keyNotString)
    let category ← Category.nameReader
    Record.colon
    Reader.unit
    match ← Reader.peek with
    | none => throw (.eof .object)
    | some c =>
        if c = '}' then
          Reader.advance
          return category
        else throw (.malformed .value)
  else throw (.malformed .value)

/-- A template whose fields are still being read. -/
structure TemplateDraft where
  name : Option String
  description : Option String
  category : Option Category
  grants : Option (List Grant)
  zone : Option String

/-- The fields of a template. Without a description it is empty, and without a zone the standard one
is meant. -/
def TemplateDraft.record : Record TemplateDraft Template where
  name := "TimeTemplate"
  blank := ⟨none, none, none, none, none⟩
  fields :=
    [{ name := "name", optional := false, isSet := fun d => d.name.isSome,
       read := fun d => do return { d with name := some (← Reader.text) } },
     { name := "description", optional := true, isSet := fun d => d.description.isSome,
       read := fun d => do return { d with description := some (← Reader.text) } },
     { name := "category", optional := false, isSet := fun d => d.category.isSome,
       read := fun d => do return { d with category := some (← Category.reader) } },
     { name := "time_ranges", optional := false, isSet := fun d => d.grants.isSome,
       read := fun d => do return { d with grants := some (← Reader.array Grant.reader) } },
     { name := "timezone", optional := true, isSet := fun d => d.zone.isSome,
       read := fun d => do return { d with zone := some (← Reader.text) } }]
  finish := fun d => do
    let name ← required "name" d.name
    let category ← required "category" d.category
    let grants ← required "time_ranges" d.grants
    return ⟨name, d.description.getD "", category, grants, d.zone.getD Zone.standard⟩

/-- Read a template. -/
def Template.reader : Reader Template := TemplateDraft.record.read

end Reading

end AccessWindows
