import AccessWindows.Log.Pattern.Flags
import AccessWindows.Text.Basic

/-!
# Escapes in patterns

What stands behind a backslash: a character by its number or by a letter, a class of characters, a
place in the text, or a character of punctuation that is meant as itself. Classes by a property are
not known here, and neither are numbers in braces, because a value ends at a closing brace.

Whether a character or an escape can stand where it does depends on the flags. There are no tables of
letters by case and of classes for Unicode, and without Unicode nothing may stand for bytes that are
no character.
-/

set_option autoImplicit false

namespace AccessWindows.Log.Pattern

/-- What an escape stands for. -/
inductive Escape where
  | literal (c : Char)
  /-- A character beyond ASCII whose number is written with two digits. Without Unicode it would be a
  byte. -/
  | octet (c : Char)
  /-- One of the classes of digits, blanks and word characters, or the complement of one. -/
  | letterClass (complement : Bool)
  /-- A place at the edge of a word, or at none. -/
  | boundary
  /-- An end of the text. -/
  | edge
deriving DecidableEq

namespace Escape

/-- The character that an escape stands for. -/
def char? : Escape → Option Char
  | .literal c => some c
  | .octet c => some c
  | _ => none

/-- Whether an escape, or a character, may stand outside of classes. -/
def standsAlone (flags : Flags) : Escape → Bool
  | .literal _ => !(flags.unicode && flags.anyCase)
  | .octet _ => flags.unicode && !flags.anyCase
  | .letterClass complement => !flags.unicode && !complement
  | .boundary => !flags.unicode
  | .edge => true

/-- Whether an escape, or a character, may stand in a class. -/
def standsInClass (flags : Flags) : Escape → Bool
  | .literal c => if flags.unicode then !flags.anyCase else c.toNat < 0x80
  | .octet _ => flags.unicode && !flags.anyCase
  | .letterClass complement => !flags.unicode && !complement
  | .boundary => false
  | .edge => false

/-! ## Reading -/

/-- Read some hexadecimal digits. -/
def hexDigits? (flags : Flags) : Nat → List Char → Option (List Nat × List Char)
  | 0, s => some ([], s)
  | count + 1, s =>
      match flags.skip s with
      | [] => none
      | c :: s => do
          let d ← Digits.hexValue? c
          let (ds, rest) ← hexDigits? flags count s
          return (d :: ds, rest)

/-- Read a character by its number of `width` digits, and leave out what does not count behind it. -/
def hexChar? (flags : Flags) (width : Nat) (s : List Char) : Option (Char × List Char) := do
  let (ds, rest) ← hexDigits? flags width s
  let n := ds.foldl (fun n d => 16 * n + d) 0
  if n.isValidChar then return (Char.ofNat n, flags.skip rest) else none

/-- Whether a character may stand behind a backslash and be meant as itself. -/
def isPunctuation (c : Char) : Bool := decide (c.toNat < 0x80) && !c.isAlphanum

/-- The escapes of one letter. -/
def ofLetter? (c : Char) : Option Escape :=
  match c with
  | 'd' => some (.letterClass false)
  | 's' => some (.letterClass false)
  | 'w' => some (.letterClass false)
  | 'D' => some (.letterClass true)
  | 'S' => some (.letterClass true)
  | 'W' => some (.letterClass true)
  | 'b' => some .boundary
  | 'B' => some .boundary
  | '<' => some .boundary
  | '>' => some .boundary
  | 'A' => some .edge
  | 'z' => some .edge
  | 'a' => some (.literal '\x07')
  | 'f' => some (.literal '\x0C')
  | 't' => some (.literal '\t')
  | 'n' => some (.literal '\n')
  | 'r' => some (.literal '\r')
  | 'v' => some (.literal '\x0B')
  | _ => none

/-- Read an escape behind its backslash. -/
def read? (flags : Flags) : List Char → Option (Escape × List Char)
  | [] => none
  | 'x' :: s =>
      (hexChar? flags 2 s).map fun (c, rest) =>
        (if c.toNat < 0x80 then .literal c else .octet c, rest)
  | 'u' :: s => (hexChar? flags 4 s).map fun (c, rest) => (.literal c, rest)
  | 'U' :: s => (hexChar? flags 8 s).map fun (c, rest) => (.literal c, rest)
  | c :: s =>
      match ofLetter? c with
      | some e => some (e, s)
      | none => if isPunctuation c then some (.literal c, s) else none

/-- Read a character, or an escape with its backslash. -/
def item? (flags : Flags) : List Char → Option (Escape × List Char)
  | [] => none
  | '\\' :: s => read? flags s
  | c :: s => some (.literal c, s)

end Escape

end AccessWindows.Log.Pattern
