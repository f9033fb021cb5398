import AccessWindows.Clock.Time

/-!
# Log events

What the library has to say about its work. An event is what happened; its level, its target and its
text follow from that.
-/

set_option autoImplicit false

namespace AccessWindows.Log

/-- How important an event is, the gravest first. -/
inductive Level where
  | error
  | warn
  | info
  | debug
  | trace
deriving DecidableEq, Repr

namespace Level

/-- Rank of a level; graver levels come first. -/
def rank : Level → Nat
  | error => 1
  | warn => 2
  | info => 3
  | debug => 4
  | trace => 5

/-- The name in front of a line. -/
def name : Level → String
  | error => "ERROR"
  | warn => "WARN"
  | info => "INFO"
  | debug => "DEBUG"
  | trace => "TRACE"

end Level

/-- Something that happened. -/
inductive Event where
  /-- Selections were made into grants. -/
  | merged (selections ranges : Nat)
  /-- Grants were cut into selections. -/
  | split (ranges days : Nat)
  /-- A grant with an empty window was left out. -/
  | skippedEmpty (start stop : ClockTime)
  /-- A grid was painted, with so many cells selected. -/
  | painted (selections cells : Nat)
  /-- A file is about to be read. -/
  | readingFile (path : String)
deriving DecidableEq

namespace Event

/-- An empty window deserves a warning; all else is detail. -/
def level : Event → Level
  | skippedEmpty .. => .warn
  | _ => .debug

/-- The part of the program that an event comes from. -/
def target : Event → String
  | merged .. => "weektime_engine::merge"
  | split .. => "weektime_engine::split"
  | skippedEmpty .. => "weektime_engine::split"
  | painted .. => "weektime_engine::grid"
  | readingFile .. => "weektime"

/-- What happened, in words. -/
def words : Event → String
  | merged .. => "merged day selections"
  | split .. => "split merged ranges"
  | skippedEmpty .. => "skipping empty range"
  | painted .. => "painted grid from selections"
  | readingFile .. => "reading input file"

/-- The values that belong to it, by name. -/
def values : Event → List (String × String)
  | merged selections ranges =>
      [("selections", toString selections), ("ranges", toString ranges)]
  | split ranges days => [("ranges", toString ranges), ("days", toString days)]
  | skippedEmpty start stop => [("start_time", toString start), ("end_time", toString stop)]
  | painted selections cells => [("selections", toString selections), ("cells", toString cells)]
  | readingFile path => [("path", path)]

/-- The names under which an event can be asked for. The words themselves are a field as well. -/
def fields (e : Event) : List String := "message" :: e.values.map (·.1)

/-- What happened, and the values that belong to it. -/
def text (e : Event) : String :=
  e.words ++ String.join (e.values.map fun v => " " ++ v.1 ++ "=" ++ v.2)

/-- The line of an event: level, target and text. -/
def line (e : Event) : String := e.level.name ++ " " ++ e.target ++ ": " ++ e.text

end Event

end AccessWindows.Log
