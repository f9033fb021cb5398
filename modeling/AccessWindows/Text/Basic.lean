/-!
# Digits and parts of texts

Whole numbers as decimal text, plain or filled up with zeros to a least width, and the value of a
digit. Only the ten ASCII digits count as digits, and with them the letters `a` to `f` where a number
is hexadecimal. The value of the digit that is written for a number is that number.

Blank characters are those with the Unicode property `White_Space`; `Blank.trim` takes them from the
ends of a text.

The places in a text are counted in the bytes of its encoding, and a text can be parted only between
two characters (`Bytes.split?`).

A line feed ends a line, and so do a carriage return and a line feed together. `Lines.ofText` gives
the lines as a reader sees them; `Lines.parts` only cuts at the line feeds.
-/

set_option autoImplicit false

namespace AccessWindows.Digits

/-- Decimal digits of `n`, without leading zeros. -/
def plain (n : Nat) : List Char :=
  Nat.toDigits 10 n

/-- Decimal digits of `n`, filled up with zeros in front to at least `width` places. -/
def padded (width n : Nat) : List Char :=
  (plain n).leftpad width '0'

/-- The value of a decimal digit. -/
def value? (c : Char) : Option Nat :=
  if '0' ≤ c ∧ c ≤ '9' then some (c.toNat - '0'.toNat) else none

/-- Whether a character is a decimal digit. -/
def isDigit (c : Char) : Bool :=
  (value? c).isSome

/-- The number that a run of digits writes; characters that are no digits count as zero. -/
def toNat (ds : List Char) : Nat :=
  ds.foldl (fun n c => 10 * n + (value? c).getD 0) 0

/-- The value of a hexadecimal digit. -/
def hexValue? (c : Char) : Option Nat :=
  if '0' ≤ c ∧ c ≤ '9' then some (c.toNat - '0'.toNat)
  else if 'a' ≤ c ∧ c ≤ 'f' then some (c.toNat - 'a'.toNat + 10)
  else if 'A' ≤ c ∧ c ≤ 'F' then some (c.toNat - 'A'.toNat + 10)
  else none

theorem value?_digitChar {k : Nat} (hk : k < 10) : value? (Nat.digitChar k) = some k := by
  have all : ∀ k : Fin 10, value? (Nat.digitChar k) = some k.val := by decide
  exact all ⟨k, hk⟩

/-- Digits are in the order of what they stand for. -/
theorem digitChar_lt_iff {j k : Nat} (hj : j < 10) (hk : k < 10) :
    Nat.digitChar j < Nat.digitChar k ↔ j < k := by
  have all : ∀ j k : Fin 10, Nat.digitChar j < Nat.digitChar k ↔ j.val < k.val := by decide
  exact all ⟨j, hj⟩ ⟨k, hk⟩

theorem digitChar_inj {j k : Nat} (hj : j < 10) (hk : k < 10) :
    Nat.digitChar j = Nat.digitChar k ↔ j = k := by
  refine ⟨fun h => ?_, congrArg Nat.digitChar⟩
  exact Option.some.inj ((value?_digitChar hj).symm.trans (h ▸ value?_digitChar hk))

theorem isDigit_digitChar {k : Nat} (hk : k < 10) : isDigit (Nat.digitChar k) = true := by
  rw [isDigit, value?_digitChar hk]
  rfl

theorem hexValue?_digitChar {k : Nat} (hk : k < 16) : hexValue? (Nat.digitChar k) = some k := by
  have all : ∀ k : Fin 16, hexValue? (Nat.digitChar k) = some k.val := by decide
  exact all ⟨k, hk⟩

end AccessWindows.Digits

namespace AccessWindows.Blank

/-- Ranges of code points of the blank characters, both ends included. -/
def ranges : List (Nat × Nat) :=
  [(0x0009, 0x000D), (0x0020, 0x0020), (0x0085, 0x0085), (0x00A0, 0x00A0), (0x1680, 0x1680),
    (0x2000, 0x200A), (0x2028, 0x2029), (0x202F, 0x202F), (0x205F, 0x205F), (0x3000, 0x3000)]

/-- Whether a character is blank. -/
def isBlank (c : Char) : Bool := ranges.any fun r => decide (r.1 ≤ c.toNat ∧ c.toNat ≤ r.2)

/-- The text from its first to its last character that is not blank. -/
def trim (s : List Char) : List Char :=
  ((s.dropWhile isBlank).reverse.dropWhile isBlank).reverse

end AccessWindows.Blank

namespace AccessWindows.Bytes

/-- The number of bytes of a text. -/
def size : List Char → Nat
  | [] => 0
  | c :: s => c.utf8Size + size s

/-- Part a text behind its first `n` bytes. -/
def split? : List Char → Nat → Option (List Char × List Char)
  | s, 0 => some ([], s)
  | [], _ + 1 => none
  | c :: s, n + 1 =>
      if c.utf8Size ≤ n + 1 then
        (split? s (n + 1 - c.utf8Size)).map fun (before, after) => (c :: before, after)
      else none

/-- The bytes of a text between two places. -/
def slice? (s : List Char) (start stop : Nat) : Option (List Char) := do
  let (_, rest) ← split? s start
  let (part, _) ← split? rest (stop - start)
  return part

end AccessWindows.Bytes

namespace AccessWindows.Lines

/-- The parts of a text between line feeds. -/
def parts (s : String) : List String := (s.toList.splitOn '\n').map String.ofList

/-- A part without the carriage return at its end, if there is one. -/
def dropReturn (part : List Char) : List Char :=
  if part.getLast? = some '\r' then part.dropLast else part

/-- The lines of a text. What follows the last line feed is a line only if there is something, and
then its end is not looked at. -/
def ofText (s : String) : List String :=
  let cut := s.toList.splitOn '\n'
  let ended := cut.dropLast.map fun part => String.ofList (dropReturn part)
  match cut.getLast? with
  | none => ended
  | some [] => ended
  | some rest => ended ++ [String.ofList rest]

end AccessWindows.Lines
