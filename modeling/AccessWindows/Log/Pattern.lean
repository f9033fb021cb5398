import AccessWindows.Log.Pattern.Bracket
import AccessWindows.Log.Pattern.Flags

/-!
# Patterns

A pattern is a regular expression. Patterns are never compared with anything here: a rule with a
pattern speaks of spans, and the program opens none. But a rule whose pattern is malformed cannot be
read, so all there is to know is whether a text is a pattern, and that is a matter of its form, of
its flags and of its height as a tree.

Repetition by numbers cannot be written, because a rule ends a value at the closing brace.
-/

set_option autoImplicit false

namespace AccessWindows.Log.Pattern

/-- A group that is being read, or the whole pattern. -/
structure Level where
  /-- The heights of the branches that are complete. -/
  branches : List Nat
  /-- The heights of the parts of the branch that is being read, last first. -/
  parts : List Nat
  /-- Whether something stands here that can be repeated. -/
  ready : Bool

namespace Level

/-- A level of which nothing has been read. -/
def empty : Level := ⟨[], [], false⟩

/-- The height of what has been read. -/
def height (l : Level) : Nat := joined (joined l.parts :: l.branches)

/-- The level with one part more. -/
def add (l : Level) (h : Nat) : Level := { l with parts := h :: l.parts, ready := true }

/-- The level behind flags. They count as a part, but cannot be repeated. -/
def addFlags (l : Level) : Level := { l with parts := 0 :: l.parts, ready := false }

/-- The level behind a bar. -/
def branch (l : Level) : Level := ⟨joined l.parts :: l.branches, [], false⟩

/-- The level with its last part repeated. -/
def repeat? (l : Level) : Option Level :=
  match l.ready, l.parts with
  | true, h :: parts => some { l with parts := (h + 1) :: parts }
  | _, _ => none

end Level

/-- Where a pattern is being read. -/
structure Reading where
  flags : Flags
  /-- The names of groups so far. -/
  names : List (List Char)
  level : Level
  /-- The levels around this one, innermost first, each with its flags. -/
  outer : List (Level × Flags)

namespace Reading

/-- The beginning of a pattern. -/
def start : Reading := ⟨.standard, [], .empty, []⟩

/-- One part more. -/
def add (r : Reading) (h : Nat) : Reading := { r with level := r.level.add h }

/-- What has been read, with an opening parenthesis more. A name can be given once. -/
def open? (r : Reading) : Opening → Option Reading
  | .flags flags => some { r with flags, level := r.level.addFlags }
  | .group flags none => some ⟨flags, r.names, .empty, (r.level, r.flags) :: r.outer⟩
  | .group flags (some name) =>
      if r.names.contains name then none
      else some ⟨flags, name :: r.names, .empty, (r.level, r.flags) :: r.outer⟩

/-- What has been read, with a closing parenthesis more. -/
def close? (r : Reading) : Option Reading :=
  match r.outer with
  | [] => none
  | (level, flags) :: outer =>
      some ⟨flags, r.names, level.add (r.level.height + 1), outer⟩

/-- Read one part of a pattern, of which `c` is the first character. -/
def part? (r : Reading) (c : Char) (s : List Char) : Option (Reading × List Char) :=
  match c with
  | '(' => do
      let (opening, rest) ← Opening.read? r.flags s
      return (← r.open? opening, rest)
  | ')' => r.close?.map fun r => (r, s)
  | '|' => some ({ r with level := r.level.branch }, s)
  | '[' => (class? r.flags s).map fun (h, rest) => (r.add h, rest)
  | '{' => none
  | '.' => if r.flags.unicode then some (r.add 0, s) else none
  | '^' => some (r.add 0, s)
  | '$' => some (r.add 0, s)
  | c =>
      if c = '?' ∨ c = '*' ∨ c = '+' then
        -- A question mark behind it asks for few repetitions instead of many.
        r.level.repeat?.map fun level =>
          ({ r with level }, if s.head? = some '?' then s.tail else s)
      else do
        let (e, rest) ← Escape.item? r.flags (c :: s)
        if e.standsAlone r.flags then return (r.add 0, rest) else none

/-- Read a pattern to its end; `steps` bounds the number of its parts. -/
def finish? : Nat → Reading → List Char → Option Reading
  | 0, _, _ => none
  | steps + 1, r, s =>
      match r.flags.skip s with
      | [] => if r.outer.isEmpty then some r else none
      | c :: s => do
          let (r, rest) ← r.part? c s
          finish? steps r rest

end Reading

/-- Whether a text is a pattern. Every part takes up at least one character. -/
def isPattern (s : List Char) : Bool :=
  (Reading.start.finish? (s.length + 1) s).any fun r => decide (r.level.height ≤ greatestHeight)

end AccessWindows.Log.Pattern
