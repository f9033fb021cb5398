import AccessWindows.Text.Basic

/-!
# Writing JSON

A `Writer` is a value on its way to text: given the style and how deep it stands, it yields the
characters. Compact text has no blanks at all. Pretty text puts every element and member on a line
of its own, two spaces further in than what holds it, and a space behind the colon of a member.
-/

set_option autoImplicit false

namespace AccessWindows.Json

/-- How a text is laid out. -/
inductive Style where
  | compact
  | pretty
deriving DecidableEq, Repr

/-- A value that can be written in a style at a depth. -/
abbrev Writer : Type := Style → Nat → List Char

namespace Writer

/-- Digits of a number below sixteen; letters are small. -/
def hexDigit (n : Nat) : Char := Nat.digitChar n

/-- A character inside a string. Quotes, backslashes and control characters are escaped, and nothing
else is. -/
def escape (c : Char) : List Char :=
  if c = '"' then ['\\', '"']
  else if c = '\\' then ['\\', '\\']
  else if c = '\x08' then ['\\', 'b']
  else if c = '\t' then ['\\', 't']
  else if c = '\n' then ['\\', 'n']
  else if c = '\x0C' then ['\\', 'f']
  else if c = '\r' then ['\\', 'r']
  else if c.toNat < 0x20 then
    ['\\', 'u', '0', '0', hexDigit (c.toNat / 16), hexDigit (c.toNat % 16)]
  else [c]

/-- A string. -/
def string (s : List Char) : Writer := fun _ _ => '"' :: (s.flatMap escape ++ ['"'])

/-- A whole number. -/
def number (n : Nat) : Writer := fun _ _ => Digits.plain n

/-- The end of a line and the blanks before what follows; nothing in compact style. -/
def newline : Style → Nat → List Char
  | .compact, _ => []
  | .pretty, depth => '\n' :: List.replicate (2 * depth) ' '

/-- Values in a row between brackets; without values, just the brackets. -/
def bracketed (opening closing : Char) (items : List Writer) : Writer := fun style depth =>
  match items with
  | [] => [opening, closing]
  | first :: more =>
      opening :: (newline style (depth + 1) ++ first style (depth + 1)) ++
        more.flatMap (fun w => ',' :: (newline style (depth + 1) ++ w style (depth + 1))) ++
        newline style depth ++ [closing]

/-- An array. -/
def array (items : List Writer) : Writer := bracketed '[' ']' items

/-- A member of an object. -/
def member (key : String) (value : Writer) : Writer := fun style depth =>
  string key.toList style depth ++
    (match style with
      | .compact => [':']
      | .pretty => [':', ' ']) ++
    value style depth

/-- An object with these members. -/
def object (members : List (String × Writer)) : Writer :=
  bracketed '{' '}' (members.map fun m => member m.1 m.2)

/-- The whole text of a value. -/
def text (w : Writer) (style : Style) : List Char := w style 0

end Writer

end AccessWindows.Json
