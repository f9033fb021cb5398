import AccessWindows.Template.Basic

/-!
# Built-in templates

One template for each category but the custom one. All are in the standard zone.
-/

set_option autoImplicit false

namespace AccessWindows

namespace Template

/-- A template of one grant in the standard zone. -/
def single (name description : String) (category : Category) (g : Grant) : Template :=
  ⟨name, description, category, [g], Zone.standard⟩

/-- A grant from one full hour to another. -/
def hours (days : List Weekday) (start stop : Fin 24) : Grant :=
  ⟨days, ⟨60 * start, by simp [minutesPerDay]; omega⟩, ⟨60 * stop, by simp [minutesPerDay]; omega⟩⟩

/-- Monday to Friday. -/
def workdays : List Weekday := [.monday, .tuesday, .wednesday, .thursday, .friday]

/-- The built-in templates, in the order in which they are offered. -/
def builtins : List Template :=
  [single "Business Hours" "Standard business hours: Monday to Friday 9:00-18:00" .work
      (hours workdays 9 18),
    single "Weekend Duty" "Weekend duty hours: Saturday and Sunday 10:00-16:00" .duty
      (hours [.saturday, .sunday] 10 16),
    single "Maintenance Window" "System maintenance window: Sunday 2:00-6:00" .maintenance
      (hours [.sunday] 2 6),
    single "24x7 Access" "24x7 around the clock access" .always
      ⟨Weekday.all, .midnight, .dayEnd⟩,
    single "Emergency Response" "Emergency response hours: weekdays 18:00-22:00" .emergency
      (hours workdays 18 22)]

/-- The built-in template of a category, if there is one. -/
def builtin? (c : Category) : Option Template := builtins.find? fun t => t.category = c

end Template

end AccessWindows
