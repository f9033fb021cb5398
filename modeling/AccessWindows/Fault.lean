import AccessWindows.Clock.Time

/-!
# Faults

A `Fault` is the reason why a value was refused. Each constructor is one cause and holds what its
message quotes; quoted text stands between single quotes as it is. `Fault.kind` groups the causes by
what was being built.
-/

set_option autoImplicit false

namespace AccessWindows

/-- What was being built when a fault arose. -/
inductive FaultKind where
  | time
  | weekday
  | interval
  | range
  | slot
  | timezone
  | template
deriving DecidableEq, Repr

/-- How a message about this kind of fault begins. -/
def FaultKind.title : FaultKind → String
  | time => "Invalid time of day"
  | weekday => "Invalid weekday"
  | interval => "Invalid interval"
  | range => "Invalid range"
  | slot => "Invalid grid slot"
  | timezone => "Invalid timezone"
  | template => "Invalid template"

/-- The reason why a value was refused. -/
inductive Fault where
  /-- No clock shows this hour and minute. -/
  | noSuchTime (hour minute : Nat)
  /-- A day has fewer minutes. -/
  | pastDay (minutes : Nat)
  /-- The text is not two digits, a colon and two digits. -/
  | timeShape (text : String)
  /-- The text has the shape of a time, but no clock shows it. -/
  | timeOutside (text : String)
  /-- The fine clock is not on a full minute. -/
  | subMinute (time : PreciseTime)
  /-- No weekday has this number. -/
  | noSuchWeekday (number : Nat)
  /-- The text has no tilde. -/
  | intervalShape (text : String)
  /-- The interval would not start before it stops. -/
  | intervalOrder (start stop : ClockTime)
  /-- The grant would hold on no weekday. -/
  | noWeekday (start stop : ClockTime)
  /-- The grant would not start before it stops. -/
  | rangeOrder (start stop : ClockTime)
  /-- The week grid has no such column. -/
  | noSuchColumn (column : Nat)
  /-- No time zone has this name. -/
  | noSuchZone (name : String)
  /-- No template category has this name. -/
  | noSuchCategory (text : String)
  /-- The template has no name. -/
  | blankName
  /-- The template grants nothing. -/
  | noRanges (name : String)
deriving DecidableEq

namespace Fault

/-- What was being built. -/
def kind : Fault → FaultKind
  | noSuchTime .. | pastDay .. | timeShape .. | timeOutside .. | subMinute .. => .time
  | noSuchWeekday .. => .weekday
  | intervalShape .. | intervalOrder .. => .interval
  | noWeekday .. | rangeOrder .. => .range
  | noSuchColumn .. => .slot
  | noSuchZone .. => .timezone
  | noSuchCategory .. | blankName | noRanges .. => .template

/-- Text between single quotes. -/
def quoted (text : String) : String := "'" ++ text ++ "'"

/-- What is wrong, without what was being built. -/
def detail : Fault → String
  | noSuchTime hour minute =>
      String.ofList (Digits.padded 2 hour ++ ':' :: Digits.padded 2 minute) ++
        " is outside 00:00-23:59"
  | pastDay minutes => toString minutes ++ " minutes is past the end of the day"
  | timeShape text => quoted text ++ ": expected zero-padded HH:mm"
  | timeOutside text => quoted text ++ ": outside 00:00-23:59"
  | subMinute time => quoted (toString time) ++ ": sub-minute precision is not supported"
  | noSuchWeekday number => toString number ++ " is outside 1 (Monday) - 7 (Sunday)"
  | intervalShape text => quoted text ++ ": expected HH:mm~HH:mm"
  | intervalOrder start stop =>
      toString start ++ "~" ++ toString stop ++ ": start must be before end"
  | noWeekday start stop => toString start ++ "-" ++ toString stop ++ " applies to no weekday"
  | rangeOrder start stop =>
      "start_time " ++ toString start ++ " must be before end_time " ++ toString stop
  | noSuchColumn column => "column " ++ toString column ++ " is outside 0-47"
  | noSuchZone name => quoted name
  | noSuchCategory text => "unknown category " ++ quoted text
  | blankName => "name must not be empty"
  | noRanges name => quoted name ++ " has no time ranges"

/-- The whole message. -/
def message (f : Fault) : String := f.kind.title ++ ": " ++ f.detail

end Fault

/-- The value, or else the fault. -/
def orFault {α : Type} (f : Fault) : Option α → Except Fault α
  | some a => .ok a
  | none => .error f

end AccessWindows
