import AccessWindows.Json.Error

/-!
# Lexemes of JSON

A lexeme is read from the front of a text; what it stands for comes with the rest of the text.
Blanks may stand between lexemes.

A number without point and exponent is whole if it fits into 64 bits. Any other is a floating-point
number: the digits that fit make up a significand, the place of the point and the exponent a power
of ten.

A string is read character by character in a `StringState`, which says what the characters before
have announced. An escape may stand for half of a character, a surrogate; the other half has to
follow at once.
-/

set_option autoImplicit false

namespace AccessWindows.Json

/-- The result of reading a lexeme: its value and the rest of the text. -/
abbrev Lexed (α : Type) : Type := Except ReadError (α × List Char)

/-- The characters that may stand between lexemes. -/
def isSpace (c : Char) : Bool := c = ' ' ∨ c = '\n' ∨ c = '\t' ∨ c = '\r'

/-- Leave out blanks in front. -/
def skipSpace (s : List Char) : List Char := s.dropWhile isSpace

/-- Read the rest of a word whose beginning has been seen. -/
def word : List Char → List Char → Lexed Unit
  | [], s => .ok ((), s)
  | _ :: _, [] => .error (.eof .value)
  | w :: ws, c :: s => if c = w then word ws s else .error (.malformed .keyword)

/-! ## Numbers -/

/-- A number: whole if it is written so and fits, floating-point otherwise. -/
inductive Number where
  | integer (n : Int)
  | floating (negative : Bool) (magnitude : Binary64)
deriving DecidableEq

/-- The value in a message. -/
def Number.found : Number → Found
  | integer n => .integer n
  | floating negative x => .floating negative x

namespace Number

/-- Bound of the significands that are kept exactly. -/
def significandBound : Nat := Nat.pow 2 64

/-- Greatest exponent that is looked at. -/
def exponentBound : Nat := Nat.pow 2 31 - 1

/-- Take digits into a significand for as long as it stays below its bound. The result is the
significand, the number of digits taken, and the rest. -/
def gather (significand : Nat) : List Char → Nat × Nat × List Char
  | [] => (significand, 0, [])
  | c :: s =>
      match Digits.value? c with
      | none => (significand, 0, c :: s)
      | some d =>
          if 10 * significand + d < significandBound then
            let (n, count, rest) := gather (10 * significand + d) s
            (n, count + 1, rest)
          else (significand, 0, c :: s)

/-- The floating-point number `significand * 10 ^ exponent`. -/
def float (negative : Bool) (significand : Nat) (exponent : Int) (rest : List Char) :
    Lexed Number :=
  match Binary64.ofDecimal? significand exponent with
  | some x => .ok (.floating negative x, rest)
  | none => .error (.malformed .numberTooLarge)

/-- Read the digits of an exponent, at least one. -/
def exponentDigits (s : List Char) : Lexed Nat :=
  match s with
  | [] => .error (.eof .value)
  | c :: _ =>
      if Digits.isDigit c then
        .ok (Digits.toNat (s.takeWhile Digits.isDigit), s.dropWhile Digits.isDigit)
      else .error (.malformed .number)

/-- Read what follows the letter of an exponent. -/
def exponentPart (negative : Bool) (significand : Nat) (exponent : Int) (s : List Char) :
    Lexed Number :=
  let (down, digits) := match s with
    | '+' :: s => (false, s)
    | '-' :: s => (true, s)
    | s => (false, s)
  match exponentDigits digits with
  | .error e => .error e
  | .ok (e, rest) =>
      if exponentBound < e then
        if significand ≠ 0 ∧ !down then .error (.malformed .numberTooLarge)
        else .ok (.floating negative .zero, rest)
      else float negative significand (if down then exponent - e else exponent + e) rest

/-- Read an exponent if there is one. -/
def finish (negative : Bool) (significand : Nat) (exponent : Int) (s : List Char) :
    Lexed Number :=
  match s with
  | 'e' :: s => exponentPart negative significand exponent s
  | 'E' :: s => exponentPart negative significand exponent s
  | s => float negative significand exponent s

/-- Whether a text begins with a digit. -/
def startsWithDigit (s : List Char) : Bool := s.head?.any Digits.isDigit

/-- Read what follows the decimal point. At least one digit does; those for which the significand
has no room are left out. -/
def fractionPart (negative : Bool) (significand : Nat) (exponent : Int) (s : List Char) :
    Lexed Number :=
  let (n, count, rest) := gather significand s
  if startsWithDigit rest then
    finish negative n (exponent - count) (rest.dropWhile Digits.isDigit)
  else if count = 0 then
    .error (if rest = [] then .eof .value else .malformed .number)
  else finish negative n (exponent - count) rest

/-- The number that a significand alone writes. Negative ones are whole down to `-2 ^ 63`; minus
zero is a floating-point number. -/
def whole (negative : Bool) (n : Nat) (rest : List Char) : Lexed Number :=
  if !negative then .ok (.integer n, rest)
  else if 0 < n ∧ 2 * n ≤ significandBound then .ok (.integer (-n), rest)
  else float true n 0 rest

/-- Read on after the significand. Digits for which it has no room count as zeros. -/
def afterSignificand (negative : Bool) (n : Nat) (s : List Char) : Lexed Number :=
  let more := s.takeWhile Digits.isDigit
  let rest := s.dropWhile Digits.isDigit
  match rest with
  | '.' :: rest => fractionPart negative n more.length rest
  | 'e' :: rest => exponentPart negative n more.length rest
  | 'E' :: rest => exponentPart negative n more.length rest
  | rest => if more = [] then whole negative n rest else float negative n more.length rest

/-- Read a number without its sign. A zero in front is the whole significand. -/
def unsigned (negative : Bool) (s : List Char) : Lexed Number :=
  match s with
  | [] => .error (.eof .value)
  | '0' :: rest =>
      if startsWithDigit rest then .error (.malformed .number) else afterSignificand negative 0 rest
  | c :: _ =>
      if Digits.isDigit c then
        let (n, _, rest) := gather 0 s
        afterSignificand negative n rest
      else .error (.malformed .number)

/-- Read a number. -/
def read (s : List Char) : Lexed Number :=
  match s with
  | '-' :: s => unsigned true s
  | s => unsigned false s

end Number

/-! ## Strings -/

/-- What the characters before the next one have announced. -/
inductive StringState where
  /-- Nothing: the next character stands for itself. -/
  | plain
  /-- An escape, by a backslash. -/
  | escape
  /-- The code unit of an escape, after `count` digits worth `value`, behind a leading surrogate or
  not. -/
  | hex (leading : Option Nat) (count value : Nat)
  /-- The escape of a trailing surrogate, by a leading one. -/
  | leading (unit : Nat)
  /-- The same, with its backslash read. -/
  | leadingEscape (unit : Nat)

/-- The character that a letter after a backslash stands for. -/
def unescape? (c : Char) : Option Char :=
  if c = '"' ∨ c = '\\' ∨ c = '/' then some c
  else if c = 'b' then some '\x08'
  else if c = 'f' then some '\x0C'
  else if c = 'n' then some '\n'
  else if c = 'r' then some '\r'
  else if c = 't' then some '\t'
  else none

/-- Why the four digits of an escape are not there: `count` of them have been read and `s` follows.
With fewer than four bytes left since the first, the text has ended; otherwise the escape is bad. -/
def hexError (count : Nat) (s : List Char) : ReadError :=
  if count + (String.ofList s).utf8ByteSize < 4 then .eof .string else .malformed .escape

/-- A leading surrogate. -/
def isLeading (unit : Nat) : Bool := decide (0xD800 ≤ unit ∧ unit ≤ 0xDBFF)

/-- A trailing surrogate. -/
def isTrailing (unit : Nat) : Bool := decide (0xDC00 ≤ unit ∧ unit ≤ 0xDFFF)

/-- The character of a pair of surrogates. -/
def joinSurrogates (leading trailing : Nat) : Char :=
  Char.ofNat (0x10000 + (leading - 0xD800) * 0x400 + (trailing - 0xDC00))

/-- Put a character in front of a string that has been read. -/
def prepend (c : Char) : Lexed (List Char) → Lexed (List Char)
  | .ok (cs, rest) => .ok (c :: cs, rest)
  | .error e => .error e

/-- Read a string up to its closing quote. -/
def stringBody : StringState → List Char → Lexed (List Char)
  | _, [] => .error (.eof .string)
  | .plain, c :: s =>
      if c = '"' then .ok ([], s)
      else if c = '\\' then stringBody .escape s
      else if c.toNat < 0x20 then .error (.malformed .controlCharacter)
      else prepend c (stringBody .plain s)
  | .escape, c :: s =>
      if c = 'u' then stringBody (.hex none 0 0) s
      else
        match unescape? c with
        | some d => prepend d (stringBody .plain s)
        | none => .error (.malformed .escape)
  | .hex leading count value, c :: s =>
      match Digits.hexValue? c with
      | none => .error (hexError count (c :: s))
      | some d =>
          let unit := 16 * value + d
          if count < 3 then stringBody (.hex leading (count + 1) unit) s
          else
            match leading with
            | none =>
                if isTrailing unit then .error (.malformed .lonelySurrogate)
                else if isLeading unit then stringBody (.leading unit) s
                else prepend (Char.ofNat unit) (stringBody .plain s)
            | some first =>
                if isTrailing unit then prepend (joinSurrogates first unit) (stringBody .plain s)
                else .error (.malformed .lonelySurrogate)
  | .leading unit, c :: s =>
      if c = '\\' then stringBody (.leadingEscape unit) s
      else .error (.malformed .unpairedSurrogate)
  | .leadingEscape unit, c :: s =>
      if c = 'u' then stringBody (.hex (some unit) 0 0) s
      else .error (.malformed .unpairedSurrogate)

/-- Read a string whose opening quote has been read. -/
def stringRest (s : List Char) : Lexed (List Char) := stringBody .plain s

end AccessWindows.Json
