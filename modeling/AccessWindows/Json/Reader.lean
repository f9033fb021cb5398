import AccessWindows.Json.Lexeme

/-!
# Readers

A `Reader` takes a value from the front of a text and leaves the rest. Readers are put together from
these: values without parts, and arrays, whose elements all come from one reader. Where another kind
of value stands than wanted, that value is read as well, as far as it has a text of its own, so that
the message can quote it; if it is no JSON itself, that is the failure.
-/

set_option autoImplicit false

namespace AccessWindows.Json

/-- A way to take a value from the front of a text. -/
abbrev Reader : Type → Type := StateT (List Char) (Except ReadError)

namespace Reader

variable {α : Type}

/-- Read one lexeme. -/
def lexeme (f : List Char → Lexed α) : Reader α := f

/-- Leave out blanks and look at the next character. -/
def peek : Reader (Option Char) := do
  modify skipSpace
  return (← get).head?

/-- Leave out one character. -/
def advance : Reader Unit := modify List.tail

/-- The first character of a value, behind blanks. -/
def start : Reader Char := do
  match ← peek with
  | none => throw (.eof .value)
  | some c => return c

/-- Fail at the value that stands here, because another kind was wanted. -/
def unexpected (wanted : Expected) : Reader α := do
  let c ← start
  if c = 'n' then
    advance
    lexeme (word ['u', 'l', 'l'])
    throw (.mismatch (.kind .null wanted))
  else if c = 't' then
    advance
    lexeme (word ['r', 'u', 'e'])
    throw (.mismatch (.kind (.boolean true) wanted))
  else if c = 'f' then
    advance
    lexeme (word ['a', 'l', 's', 'e'])
    throw (.mismatch (.kind (.boolean false) wanted))
  else if c = '-' ∨ Digits.isDigit c then
    let n ← lexeme Number.read
    throw (.mismatch (.kind n.found wanted))
  else if c = '"' then
    advance
    let s ← lexeme stringRest
    throw (.mismatch (.kind (.string s) wanted))
  else if c = '[' then throw (.mismatch (.kind .sequence wanted))
  else if c = '{' then throw (.mismatch (.kind .map wanted))
  else throw (.malformed .value)

/-- Read a whole number from 0 through 255. -/
def byte : Reader Nat := do
  let c ← start
  if c = '-' ∨ Digits.isDigit c then
    match ← lexeme Number.read with
    | .integer n =>
        if 0 ≤ n ∧ n ≤ 255 then return n.toNat
        else throw (.mismatch (.bounds (.integer n) .byte))
    | .floating negative x => throw (.mismatch (.kind (.floating negative x) .byte))
  else unexpected .byte

/-- Read a string; `wanted` is what the message speaks of if there is none. -/
def stringFor (wanted : Expected) : Reader (List Char) := do
  if (← start) = '"' then
    advance
    lexeme stringRest
  else unexpected wanted

/-- Read a string. -/
def string : Reader (List Char) := stringFor .string

/-- Read a string as it is. -/
def text : Reader String := do return String.ofList (← string)

/-- Read `null`. -/
def unit : Reader Unit := do
  if (← start) = 'n' then
    advance
    lexeme (word ['u', 'l', 'l'])
  else unexpected .unit

/-- Pass a value of the library on, or fail with its fault. -/
def accept : Except Fault α → Reader α
  | .ok a => return a
  | .error f => throw (.mismatch (.refused f))

/-! ## Arrays -/

/-- Whether another element follows in an array. A comma is read, the closing bracket is not. -/
def hasElement (first : Bool) : Reader Bool := do
  match ← peek with
  | none => throw (.eof .list)
  | some c =>
      if c = ']' then return false
      else if first then return true
      else if c = ',' then
        advance
        match ← peek with
        | none => throw (.eof .value)
        | some c => if c = ']' then throw (.malformed .trailingComma) else return true
      else throw (.malformed .commaOrBracket)

/-- Read elements up to the closing bracket; `steps` bounds their number. -/
def elements (item : Reader α) : Nat → Bool → Reader (List α)
  | 0, _ => throw (.eof .list)
  | steps + 1, first => do
      if ← hasElement first then
        let a ← item
        return a :: (← elements item steps false)
      else return []

/-- Read the closing bracket of an array. -/
def closeList : Reader Unit := do
  match ← peek with
  | none => throw (.eof .list)
  | some c =>
      if c = ']' then advance
      else if c = ',' then
        advance
        if (← peek) = some ']' then throw (.malformed .trailingComma)
        else throw (.malformed .trailingText)
      else throw (.malformed .trailingText)

/-- Read an array. An element takes up at least one character, so the length of the text bounds
their number. -/
def array (item : Reader α) : Reader (List α) := do
  if (← start) = '[' then
    advance
    let xs ← elements item ((← get).length + 1) true
    closeList
    return xs
  else unexpected .sequence

/-- Read a whole text; only blanks may follow the value. -/
def readAll (r : Reader α) (s : List Char) : Except ReadError α :=
  match r.run s with
  | .error e => .error e
  | .ok (a, rest) => if skipSpace rest = [] then .ok a else .error (.malformed .trailingText)

end Reader

end AccessWindows.Json
