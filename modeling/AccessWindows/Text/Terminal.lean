/-!
# Texts for a terminal

A terminal takes an escape character and what belongs to it as a sequence that it carries out and
does not show. `emphasized` puts such sequences around a text. `plain` takes all sequences out of a
text, for where there is no terminal, and with them the control characters that show nothing. Texts
from outside may hold sequences too, complete or not; an unfinished one swallows what follows it.

Sequences are told apart byte by byte in the encoding of the text: outside of them a character is
shown whole, inside each of its bytes counts.
-/

set_option autoImplicit false

namespace AccessWindows.Terminal

/-- Where in a sequence a text stands. -/
inductive Place where
  /-- Outside of any sequence. -/
  | text
  /-- Behind an escape character. -/
  | escape
  /-- Behind an escape character and further characters that do not end the sequence. -/
  | escapeMiddle
  /-- In a control sequence, which a letter ends. -/
  | control
  /-- At the head of a device string. -/
  | deviceHead
  /-- In the parameters of a device string. -/
  | deviceParameters
  /-- Behind the parameters of a device string. -/
  | deviceMiddle
  /-- In a string that only the string terminator or another sequence ends. -/
  | string
  /-- In a command to the system, which a bell ends too. -/
  | command
deriving DecidableEq, Repr

namespace Place

/-- Whether a number lies between two others, the ends included. -/
def within (low high b : Nat) : Bool := decide (low ≤ b ∧ b ≤ high)

/-- The place behind the character that follows an escape character. -/
def afterEscape (b : Nat) : Place :=
  if within 0x20 0x2F b then .escapeMiddle
  else if b = 0x50 then .deviceHead
  else if b = 0x5B then .control
  else if b = 0x5D then .command
  else if b = 0x58 ∨ b = 0x5E ∨ b = 0x5F then .string
  else if within 0x30 0x7E b then .text
  else .escape

/-- The place behind one more byte. An escape character begins a sequence wherever it stands, and
the characters cancel and substitute end one. -/
def next (p : Place) (b : Nat) : Place :=
  if b = 0x1B then .escape
  else if b = 0x18 ∨ b = 0x1A then .text
  else
    match p with
    | .text => .text
    | .escape => afterEscape b
    | .escapeMiddle => if within 0x30 0x7E b then .text else .escapeMiddle
    | .control => if within 0x40 0x7E b then .text else .control
    | .deviceHead =>
        if within 0x20 0x2F b then .deviceMiddle
        else if within 0x30 0x3F b then .deviceParameters
        else if within 0x40 0x7E b then .string
        else .deviceHead
    | .deviceParameters =>
        if within 0x20 0x2F b then .deviceMiddle
        else if within 0x3C 0x7E b then .string
        else .deviceParameters
    | .deviceMiddle => if within 0x30 0x7E b then .string else .deviceMiddle
    | .string => if b = 0x9C then .text else .string
    | .command => if b = 0x07 then .text else .command

/-- Whether a control character that moves the cursor is carried out at once, as it is in the short
sequences. -/
def movesCursor (p : Place) (c : Char) : Bool :=
  (c = '\t' || c = '\n' || c = '\x0C' || c = '\r') &&
    (p = .text || p = .escape || p = .escapeMiddle || p = .control)

/-- Whether an ASCII character shows at a place. -/
def shows (p : Place) (c : Char) : Bool :=
  p.movesCursor c || (p = .text && within 0x20 0x7E c.toNat)

end Place

/-- Take the sequences out of a text that begins at a place. A control character that is carried out
within a sequence suspends it: what follows is shown as if it stood outside, up to the next ASCII
character that does not show there. -/
def strip : Bool → Place → List Char → List Char
  | _, _, [] => []
  | suspended, p, c :: cs =>
      let here := if suspended then .text else p
      if 0x80 ≤ c.toNat then
        -- Within a sequence every byte of the character moves on by itself.
        if here = .text then c :: strip false .text cs
        else strip false ((String.singleton c).toUTF8.toList.foldl (fun q b => q.next b.toNat) p) cs
      else if here.shows c then c :: strip true p cs
      else strip false (p.next c.toNat) cs

/-- The text without sequences. -/
def plain (s : List Char) : List Char := strip false .text s

/-- The text between two sequences that turn emphasis on and off. -/
def emphasized (s : List Char) : List Char :=
  '\x1B' :: '[' :: '1' :: 'm' :: (s ++ ['\x1B', '[', '0', 'm'])

end AccessWindows.Terminal
