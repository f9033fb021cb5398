import AccessWindows.Text.Alphanumeric
import AccessWindows.Text.Basic

/-!
# Flags and groups of a pattern

Flags are set by letters between parentheses and change how what follows is read. Three of them
decide whether a text is a pattern at all: whether characters are those of Unicode or of ASCII,
whether letters stand for themselves in either case, and free spacing, under which blanks and
comments are left out.

Behind an opening parenthesis stands nothing in particular, the name of the group, flags for the
group, or flags for what follows.
-/

set_option autoImplicit false

namespace AccessWindows.Log.Pattern

/-- What flags are set. -/
structure Flags where
  unicode : Bool
  anyCase : Bool
  /-- Whether blanks count for nothing, nor what stands between a number sign and the end of the
  line. -/
  freeSpacing : Bool
deriving DecidableEq

namespace Flags

/-- The flags at the beginning of a pattern. -/
def standard : Flags := ⟨true, false, false⟩

/-- The letters of flags. -/
def letters : List Char := ['i', 'm', 's', 'U', 'u', 'R', 'x']

/-- Whether the letters of flags can be set: each known and once, with at most one dash between them
and none at the end. -/
def canSet (s : List Char) : Bool :=
  s.all (fun c => c = '-' || letters.contains c) && s.Nodup && s.getLast? ≠ some '-'

/-- The flags after letters: those behind a dash are taken away. -/
def set (flags : Flags) (s : List Char) : Flags :=
  let on := s.takeWhile (· ≠ '-')
  let off := s.drop on.length
  let after (old : Bool) (c : Char) : Bool := (old || on.contains c) && !off.contains c
  ⟨after flags.unicode 'u', after flags.anyCase 'i', after flags.freeSpacing 'x'⟩

/-! ## Free spacing -/

/-- The text behind blanks and comments. The flag says whether the text begins within a comment. -/
def skipFrom : Bool → List Char → List Char
  | _, [] => []
  | true, c :: s => skipFrom (c ≠ '\n') s
  | false, c :: s =>
      if Blank.isBlank c then skipFrom false s else if c = '#' then skipFrom true s else c :: s

/-- Leave out what does not count at the front of a text. -/
def skip (flags : Flags) (s : List Char) : List Char :=
  if flags.freeSpacing then skipFrom false s else s

/-- The first character of a text that is no blank, where one number sign is passed over too. -/
def aheadFrom : Bool → List Char → Option Char
  | _, [] => none
  | passed, c :: s =>
      if Blank.isBlank c then aheadFrom passed s
      else if !passed && c = '#' then aheadFrom true s
      else some c

/-- The character that decides what a dash in front of a text means. Under free spacing comments are
looked into. -/
def ahead? (flags : Flags) (s : List Char) : Option Char :=
  if flags.freeSpacing then aheadFrom false s else s.head?

end Flags

/-! ## Groups -/

/-- Whether a text can name a group. -/
def isGroupName : List Char → Bool
  | [] => false
  | c :: s =>
      (c = '_' || Alphanumeric.isAlphabetic c) &&
        s.all fun d => d = '_' || d = '.' || d = '[' || d = ']' || Alphanumeric.isAlphanumeric d

/-- What stands behind an opening parenthesis. -/
inductive Opening where
  /-- A group, with the flags inside it and its name. -/
  | group (flags : Flags) (name : Option (List Char))
  /-- Flags for what follows, without a group. -/
  | flags (flags : Flags)

namespace Opening

/-- Read the name of a group up to the sign that ends it. -/
def named? (flags : Flags) (s : List Char) : Option (Opening × List Char) :=
  let name := s.takeWhile (· ≠ '>')
  match s.drop name.length with
  | [] => none
  | _ :: rest => if isGroupName name then some (.group flags (some name), rest) else none

/-- Read flags up to the sign that ends them. -/
def flagged? (flags : Flags) (s : List Char) : Option (Opening × List Char) :=
  let letters := s.takeWhile fun c => c ≠ ':' ∧ c ≠ ')'
  match s.drop letters.length with
  | [] => none
  | c :: rest =>
      if !Flags.canSet letters then none
      else if c = ':' then some (.group (flags.set letters) none, rest)
      else if letters = [] then none
      else some (.flags (flags.set letters), rest)

/-- Read what stands behind an opening parenthesis. -/
def read? (flags : Flags) (s : List Char) : Option (Opening × List Char) :=
  match flags.skip s with
  | '?' :: 'P' :: '<' :: s => named? flags s
  | '?' :: '<' :: s => named? flags s
  | '?' :: s => flagged? flags s
  | s => some (.group flags none, s)

end Opening

end AccessWindows.Log.Pattern
