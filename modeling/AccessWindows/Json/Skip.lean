import AccessWindows.Json.Lexeme

/-!
# Leaving out a value

A value that nobody asks for is left out, but it has to be JSON. It may be of any depth: the arrays
and objects that are open are kept on a list. Numbers may be of any size, and surrogates need not
come in pairs.
-/

set_option autoImplicit false

namespace AccessWindows.Json.Skip

/-- What the characters of a string before the next one have announced. -/
inductive InString where
  | plain
  | escape
  /-- The four digits of an escape, of which `count` have been read. -/
  | hex (count : Nat)

/-- Leave out a string up to its closing quote. -/
def stringBody : InString → List Char → Except ReadError (List Char)
  | _, [] => .error (.eof .string)
  | .plain, c :: s =>
      if c = '"' then .ok s
      else if c = '\\' then stringBody .escape s
      else if c.toNat < 0x20 then .error (.malformed .controlCharacter)
      else stringBody .plain s
  | .escape, c :: s =>
      if c = 'u' then stringBody (.hex 0) s
      else if (unescape? c).isSome then stringBody .plain s
      else .error (.malformed .escape)
  | .hex count, c :: s =>
      if (Digits.hexValue? c).isNone then .error (hexError count (c :: s))
      else if count < 3 then stringBody (.hex (count + 1)) s
      else stringBody .plain s

/-- Leave out digits, at least one. -/
def digits (s : List Char) : Except ReadError (List Char) :=
  if Number.startsWithDigit s then .ok (s.dropWhile Digits.isDigit)
  else .error (.malformed .number)

/-- Leave out an exponent if there is one. -/
def exponent (s : List Char) : Except ReadError (List Char) :=
  match s with
  | 'e' :: '+' :: s => digits s
  | 'e' :: '-' :: s => digits s
  | 'e' :: s => digits s
  | 'E' :: '+' :: s => digits s
  | 'E' :: '-' :: s => digits s
  | 'E' :: s => digits s
  | s => .ok s

/-- Leave out a number without its sign. -/
def unsigned (s : List Char) : Except ReadError (List Char) := do
  let s ← match s with
    | '0' :: s => if Number.startsWithDigit s then .error (.malformed .number) else .ok s
    | s => digits s
  match s with
  | '.' :: s => exponent (← digits s)
  | s => exponent s

/-- A value without parts. -/
def scalar (c : Char) (s : List Char) : Except ReadError (List Char) :=
  if c = 'n' then (word ['u', 'l', 'l'] s).map (·.2)
  else if c = 't' then (word ['r', 'u', 'e'] s).map (·.2)
  else if c = 'f' then (word ['a', 'l', 's', 'e'] s).map (·.2)
  else if c = '-' then unsigned s
  else if Digits.isDigit c then unsigned (c :: s)
  else if c = '"' then stringBody .plain s
  else .error (.malformed .value)

/-- An array or object that is open. -/
inductive Container where
  | list
  | object
deriving DecidableEq

namespace Container

/-- The character that closes it. -/
def closing : Container → Char
  | list => ']'
  | object => '}'

/-- The failure when the text ends inside it. -/
def unfinished : Container → ReadError
  | list => .eof .list
  | object => .eof .object

/-- The failure when an entry is followed by neither a comma nor the closing character. -/
def unparted : Container → ReadError
  | list => .malformed .commaOrBracket
  | object => .malformed .commaOrBrace

/-- Leave out what precedes a value in it: in an object, the key and its colon. -/
def entry : Container → List Char → Except ReadError (List Char)
  | list, s => .ok s
  | object, s =>
      match skipSpace s with
      | [] => .error (.eof .object)
      | '"' :: s => do
          match skipSpace (← stringBody .plain s) with
          | [] => .error (.eof .object)
          | ':' :: s => .ok s
          | _ => .error (.malformed .colon)
      | _ => .error (.malformed .keyNotString)

end Container

/-- What comes next. -/
inductive Place where
  /-- A value. -/
  | value
  /-- What follows a value. -/
  | after
  /-- The first entry of a container, or its end. -/
  | opened
deriving DecidableEq

/-- Leave out everything up to the end of the outermost value. The containers that are open come
innermost first, and `steps` bounds the number of steps. -/
def run : Nat → Place → List Container → List Char → Except ReadError (List Char)
  | 0, _, _, _ => .error (.eof .value)
  | steps + 1, .value, outer, s =>
      match skipSpace s with
      | [] => .error (.eof .value)
      | '[' :: s => run steps .opened (.list :: outer) s
      | '{' :: s => run steps .opened (.object :: outer) s
      | c :: s => do run steps .after outer (← scalar c s)
  | _ + 1, .after, [], s => .ok s
  | steps + 1, .after, inner :: outer, s =>
      match skipSpace s with
      | [] => .error inner.unfinished
      | c :: s =>
          if c = ',' then do run steps .value (inner :: outer) (← inner.entry s)
          else if c = inner.closing then run steps .after outer s
          else .error inner.unparted
  | _ + 1, .opened, [], s => .ok s
  | steps + 1, .opened, inner :: outer, s =>
      match skipSpace s with
      | [] => .error inner.unfinished
      | c :: rest =>
          if c = inner.closing then run steps .after outer rest
          else do run steps .value (inner :: outer) (← inner.entry (c :: rest))

/-- Leave out a value. Every two steps use up a character, which bounds their number. -/
def value (s : List Char) : Except ReadError (List Char) := run (2 * s.length + 2) .value [] s

end AccessWindows.Json.Skip
