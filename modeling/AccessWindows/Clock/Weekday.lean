import AccessWindows.Text.Basic

/-!
# Weekdays

The week starts on Monday. Weekdays are numbered 1 through 7 in texts and 0 through 6 as rows of the
week grid, and are ordered as they follow each other.
-/

set_option autoImplicit false

namespace AccessWindows

/-- A day of the week. -/
inductive Weekday where
  | monday
  | tuesday
  | wednesday
  | thursday
  | friday
  | saturday
  | sunday
deriving DecidableEq, Repr

namespace Weekday

/-- The week, Monday first. -/
def all : List Weekday := [monday, tuesday, wednesday, thursday, friday, saturday, sunday]

/-- Row of the week grid, Monday on top. -/
def row : Weekday → Fin 7
  | monday => 0
  | tuesday => 1
  | wednesday => 2
  | thursday => 3
  | friday => 4
  | saturday => 5
  | sunday => 6

/-- The weekday of a row of the week grid. -/
def ofRow : Fin 7 → Weekday
  | 0 => monday
  | 1 => tuesday
  | 2 => wednesday
  | 3 => thursday
  | 4 => friday
  | 5 => saturday
  | 6 => sunday

@[simp] theorem ofRow_row (d : Weekday) : ofRow d.row = d := by cases d <;> rfl

@[simp] theorem row_ofRow (r : Fin 7) : (ofRow r).row = r := by revert r; decide

/-- Number of the weekday: Monday is 1 and Sunday 7. -/
def number (d : Weekday) : Nat := d.row.val + 1

/-- The weekday with a number, if there is one. -/
def ofNumber? (n : Nat) : Option Weekday :=
  if h : 1 ≤ n ∧ n ≤ 7 then some (ofRow ⟨n - 1, by omega⟩) else none

instance : LT Weekday := ⟨fun a b => a.number < b.number⟩

instance : LE Weekday := ⟨fun a b => a.number ≤ b.number⟩

instance : DecidableLT Weekday := fun a b => Nat.decLt a.number b.number

instance : DecidableLE Weekday := fun a b => Nat.decLe a.number b.number

theorem mem_all (d : Weekday) : d ∈ all := by cases d <;> decide

/-- The number, as text. -/
def text (d : Weekday) : List Char := Digits.plain d.number

instance : ToString Weekday := ⟨fun d => String.ofList d.text⟩

/-- Three letters of the English name. -/
def abbreviation : Weekday → String
  | monday => "Mon"
  | tuesday => "Tue"
  | wednesday => "Wed"
  | thursday => "Thu"
  | friday => "Fri"
  | saturday => "Sat"
  | sunday => "Sun"

/-- The weekday with an abbreviation, if there is one. -/
def ofAbbreviation? (s : String) : Option Weekday := all.find? fun d => d.abbreviation = s

end Weekday

end AccessWindows
