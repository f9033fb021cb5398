import AccessWindows.Log.Pattern.Escape

/-!
# Classes in brackets

A class lists characters, ranges of characters, named classes and further classes in brackets.
Between such lists may stand operations on sets, two equal signs each. A class without an item is
possible only as the operand of an operation.

A pattern is a tree. A character and a class that is named are leaves; repetition, a group and a class
in brackets stand above what they hold; several parts in a row, several branches and several items of
a class stand below a node of their own, which a single one does without (`joined`). A pattern whose
tree is too high is refused.
-/

set_option autoImplicit false

namespace AccessWindows.Log.Pattern

/-! ## Heights -/

/-- The greatest height of a pattern. -/
def greatestHeight : Nat := 250

/-- The greatest of some heights. -/
def greatest (heights : List Nat) : Nat := heights.foldr max 0

/-- The height of parts that stand side by side. -/
def joined : List Nat → Nat
  | [] => 0
  | [h] => h
  | heights => greatest heights + 1

/-! ## Classes -/

/-- The names of classes that may stand in brackets and colons. -/
def classNames : List String :=
  ["alnum", "alpha", "ascii", "blank", "cntrl", "digit", "graph", "lower", "print", "punct",
    "space", "upper", "word", "xdigit"]

/-- Leave out a class by name, behind its opening bracket. The result says whether its complement is
meant. -/
def named? : List Char → Option (Bool × List Char)
  | ':' :: s =>
      let complement := s.head? = some '^'
      let s := if complement then s.tail else s
      let name := s.takeWhile (· ≠ ':')
      if String.ofList name ∈ classNames then
        match s.drop name.length with
        | ':' :: ']' :: rest => some (complement, rest)
        | _ => none
      else none
  | _ => none

/-- A class that is being read. -/
structure Bracket where
  /-- The heights of the items so far, since the last operation. -/
  items : List Nat
  /-- The height of what stands in front of the last operation. -/
  left : Option Nat
  /-- Whether only dashes have been read. They are meant as themselves at the beginning of a class,
  and so is a closing bracket. -/
  fresh : Bool

namespace Bracket

/-- A class of which nothing has been read. -/
def opened : Bracket := ⟨[], none, true⟩

/-- The height of what has been read. -/
def height (b : Bracket) : Nat :=
  match b.left with
  | none => joined b.items
  | some h => max h (joined b.items) + 1

/-- The class with one item more. -/
def add (b : Bracket) (h : Nat) : Bracket := { b with items := h :: b.items, fresh := false }

/-- The class behind the sign of an operation. -/
def operation (b : Bracket) : Bracket := ⟨[], some b.height, false⟩

/-- Whether a character is meant as itself because the class has only begun. -/
def takes (b : Bracket) (c : Char) : Bool :=
  b.fresh && (c = '-' || c = ']' && b.items = [])

/-- Leave out the sign for the complement behind an opening bracket. Without Unicode there is no
complement. -/
def sign? (flags : Flags) (s : List Char) : Option (List Char) :=
  let s := flags.skip s
  if s.head? = some '^' then if flags.unicode then some s.tail else none else some s

/-- Leave out one item, a character or a range of characters. A dash in front of the closing bracket
or of another dash makes no range. -/
def range? (flags : Flags) (s : List Char) : Option (List Char) := do
  let (first, rest) ← Escape.item? flags s
  let rest := flags.skip rest
  let alone := if first.standsInClass flags then some rest else none
  match rest with
  | [] => none
  | '-' :: more =>
      if flags.ahead? more = some ']' ∨ flags.ahead? more = some '-' then alone
      else do
        let (last, rest) ← Escape.item? flags (flags.skip more)
        let a ← first.char?
        let b ← last.char?
        if a ≤ b ∧ first.standsInClass flags ∧ last.standsInClass flags then some rest else none
  | _ => alone

/-- Read a class to the end of its outermost bracket. The result is its height and what follows it.
The further classes around the one that is being read stand in `outer`, innermost first; `steps`
bounds the number of parts. -/
def read? (flags : Flags) : Nat → Bracket → List Bracket → List Char → Option (Nat × List Char)
  | 0, _, _, _ => none
  | steps + 1, b, outer, s =>
      match flags.skip s with
      | [] => none
      | c :: rest =>
          if b.takes c then
            if (Escape.literal c).standsInClass flags then
              read? flags steps { b with items := 0 :: b.items, fresh := c = '-' } outer rest
            else none
          else if c = '[' then
            match named? rest with
            | some (complement, rest) =>
                if if flags.unicode then flags.anyCase else complement then none
                else read? flags steps (b.add 0) outer rest
            | none => do read? flags steps opened (b :: outer) (← sign? flags rest)
          else if c = ']' then
            match outer with
            | [] => some (b.height + 1, rest)
            | around :: outer => read? flags steps (around.add (b.height + 1)) outer rest
          else if (c = '&' ∨ c = '-' ∨ c = '~') ∧ rest.head? = some c then
            read? flags steps b.operation outer rest.tail
          else do read? flags steps (b.add 0) outer (← range? flags (c :: rest))

end Bracket

/-- Read a class behind its opening bracket. -/
def class? (flags : Flags) (s : List Char) : Option (Nat × List Char) := do
  let rest ← Bracket.sign? flags s
  Bracket.read? flags (rest.length + 1) .opened [] rest

end AccessWindows.Log.Pattern
