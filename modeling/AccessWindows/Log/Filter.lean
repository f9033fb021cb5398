import AccessWindows.Log.Event
import AccessWindows.Log.Pattern
import AccessWindows.Text.Basic

/-!
# Which events are shown

A filter is a list of rules. A rule lets events through up to a level: all of them, or those whose
target begins with a text, or those that have a field, or both. Of the rules that speak of an event,
the one with the longest text decides, then one that asks for a field, and of equal ones the last.
An event of which no rule speaks is not shown. A rule may also be about what happens within a span,
or where a field of a span has a value, which is a truth value, a number or a pattern; no span is ever
open here, so such a rule speaks of nothing.

A setting writes a filter as rules parted by commas: a level, or a target, or a target with span and
field in brackets, and behind it perhaps an equals sign and a level.
-/

set_option autoImplicit false

namespace AccessWindows.Log.FieldValue

/-- Whether a text is a number behind its sign: digits with a point and an exponent perhaps, or the
word for infinity or for no number. -/
def isUnsignedNumber (s : List Char) : Bool :=
  let lower := String.ofList (s.map Char.toLower)
  let whole := s.takeWhile Digits.isDigit
  let rest := s.drop whole.length
  let fraction := if rest.head? = some '.' then rest.tail.takeWhile Digits.isDigit else []
  let rest := if rest.head? = some '.' then rest.tail.drop fraction.length else rest
  let exponent := match rest with
    | [] => true
    | c :: s =>
        let digits := if s.head? = some '+' ∨ s.head? = some '-' then s.tail else s
        (c = 'e' || c = 'E') && digits ≠ [] && digits.all Digits.isDigit
  lower = "inf" || lower = "infinity" || lower = "nan" ||
    (whole ≠ [] || fraction ≠ []) && exponent

/-- Whether a text can be the value of a field. Truth values, and numbers without a plus sign in
front, are patterns as well. -/
def isValue (s : List Char) : Bool :=
  Pattern.isPattern s || match s with
    | '+' :: s => isUnsignedNumber s
    | _ => false

end AccessWindows.Log.FieldValue

namespace AccessWindows.Log

/-- The greatest level that a rule lets through, or nothing to let no event through. -/
abbrev Limit : Type := Option Level

/-- A rule about the events whose target begins with `target`, and that have the field and stand in
the span if it names them. -/
structure Rule where
  target : List Char
  span : Option (List Char)
  field : Option (List Char)
  /-- The value of the field. -/
  value : Option (List Char)
  limit : Limit
deriving DecidableEq

/-- A list of rules. -/
abbrev Filter : Type := List Rule

namespace Limit

/-- The limits in order of their numbers, nothing first. -/
def all : List Limit :=
  [none, some .error, some .warn, some .info, some .debug, some .trace]

/-- The name of a limit. -/
def name : Limit → List Char
  | none => ['o', 'f', 'f']
  | some l => l.name.toList.map Char.toLower

/-- A number that stands for a limit, perhaps behind a plus sign. -/
def ofDigits? (s : List Char) : Option Limit :=
  let ds := match s with
    | '+' :: ds => ds
    | ds => ds
  if ds ≠ [] ∧ ds.all Digits.isDigit then all[Digits.toNat ds]? else none

/-- The limit that a text names: a name in any mixture of cases, or a number. -/
def ofText? (s : List Char) : Option Limit :=
  match ofDigits? s with
  | some l => some l
  | none => all.find? fun l => l.name = s.map Char.toLower

/-- Whether a limit lets a level through. -/
def admits (limit : Limit) (level : Level) : Bool :=
  limit.any fun l => decide (level.rank ≤ l.rank)

end Limit

/-! ## Rules -/

namespace Rule

/-- The rule about all events. -/
def everything (limit : Limit) : Rule := ⟨[], none, none, none, limit⟩

/-- Whether the rule speaks of an event. -/
def concerns (r : Rule) (e : Event) : Bool :=
  r.span.isNone && r.value.isNone && r.target.isPrefixOf e.target.toList &&
    r.field.all fun f => e.fields.contains (String.ofList f)

/-- Whether a rule may begin with a character. -/
def mayStart (c : Char) : Bool :=
  c = '-' || c = ':' || c = '_' || Alphanumeric.isAlphanumeric c

/-- The text of a rule that is being read. The rule is taken apart without the blanks around it, but
its parts are cut from the whole text at the same places. -/
structure Source where
  /-- The whole text. -/
  whole : List Char
  /-- What is left to read of the text without the blanks around it. -/
  inner : List Char
  /-- The place in that text, in bytes. -/
  place : Nat

namespace Source

/-- The text of a rule from its beginning. -/
def ofText (s : List Char) : Source := ⟨s, Blank.trim s, 0⟩

/-- Go on to the first character that satisfies `p`, or to the end. -/
def goTo (s : Source) (p : Char → Bool) : Source :=
  let passed := s.inner.takeWhile fun c => !p c
  ⟨s.whole, s.inner.drop passed.length, s.place + Bytes.size passed⟩

/-- Go on by one character. -/
def next (s : Source) : Source :=
  ⟨s.whole, s.inner.tail, s.place + Bytes.size (s.inner.take 1)⟩

/-- The part from an earlier place to this one. There is none if a character stands across one of
the two. -/
def since (s : Source) (start : Nat) : Option (List Char) := Bytes.slice? s.whole start s.place

/-- The part from this place on. -/
def rest (s : Source) : Option (List Char) := (Bytes.split? s.whole s.place).map Prod.snd

end Source

/-- The level behind an equals sign; without one, everything is let through. -/
def limitOf? (s : Source) : Option Limit := do
  let text ← s.rest
  if text = [] then return some .trace else Limit.ofText? text

/-- Read what stands behind the brackets of a rule: nothing, or an equals sign and a level. -/
def afterBrackets? (s : Source) : Option Limit :=
  match s.inner with
  | [] => some (some .trace)
  | '=' :: _ => limitOf? s.next
  | _ => none

/-- The name of a field, and its value if there is one, which ends at a further equals sign. -/
def fieldParts (s : List Char) : List Char × Option (List Char) :=
  match s.dropWhile (· ≠ '=') with
  | [] => (s, none)
  | _ :: rest => (s.takeWhile (· ≠ '='), some (rest.takeWhile (· ≠ '=')))

/-- Read the field of a rule behind its opening brace. -/
def field? (target : List Char) (span : Option (List Char)) (s : Source) : Option Rule := do
  let close := s.goTo (· = '}')
  let text ← close.since s.place
  let (name, value) := fieldParts text
  let bracket := close.next
  if text = [] ∨ bracket.inner.head? ≠ some ']' ∨ !value.all FieldValue.isValue then none
  else return ⟨target, span, some name, value, ← afterBrackets? bracket.next⟩

/-- Read the brackets of a rule, behind the opening one. A span without a name counts if no field
follows. -/
def brackets? (target : List Char) (s : Source) : Option Rule := do
  let stop := s.goTo fun c => c = ']' ∨ c = '{'
  let span ← stop.since s.place
  match stop.inner with
  | [] => none
  | ']' :: _ => return ⟨target, some span, none, none, ← afterBrackets? stop.next⟩
  | _ => field? target (if span = [] then none else some span) stop.next

/-- Read a rule. -/
def ofText? (s : List Char) : Option Rule :=
  let source := Source.ofText s
  match source.inner with
  | [] => none
  | '[' :: _ => brackets? [] source.next
  | c :: _ =>
      if !mayStart c then none
      else
        let stop := source.goTo fun c => c = '=' ∨ c = '['
        match stop.inner with
        | [] =>
            -- One word: a level if it is the name of one, else a target.
            match Limit.ofText? s with
            | some limit => some (everything limit)
            | none => some ⟨s, none, none, none, some .trace⟩
        | '=' :: _ => do
            return ⟨← stop.since 0, none, none, none, ← limitOf? stop.next⟩
        | _ => do brackets? (← stop.since 0) stop.next

/-- Whether a rule gives way to another that speaks of the same event: a shorter one to a longer
one, then one without a field to one with a field, and then by the name of the field. -/
def Weaker (r s : Rule) : Prop :=
  r.target.length < s.target.length ∨
    r.target.length = s.target.length ∧ r.field.toList < s.field.toList

instance (r s : Rule) : Decidable (r.Weaker s) :=
  inferInstanceAs (Decidable (r.target.length < s.target.length ∨
    r.target.length = s.target.length ∧ r.field.toList < s.field.toList))

end Rule

/-! ## Filters -/

namespace Filter

/-- Everything up to a level. -/
def upTo (l : Level) : Filter := [.everything (some l)]

/-- The parts of a text between commas, without empty ones. -/
def parts (s : List Char) : List (List Char) := (s.splitOn ',').filter (· ≠ [])

/-- Read a filter. Without any rule, errors are shown. If one rule cannot be read, there is no
filter. -/
def ofText? (s : List Char) : Option Filter :=
  match parts s with
  | [] => some (upTo .error)
  | rules => rules.mapM Rule.ofText?

/-- The rule that decides between two that speak of the same event: the one to which the other gives
way, or else the later one. -/
def stronger (earlier later : Rule) : Rule := if later.Weaker earlier then earlier else later

/-- The rule that decides about an event, if one speaks of it. -/
def deciding? (f : Filter) (e : Event) : Option Rule :=
  match f.filter fun r => r.concerns e with
  | [] => none
  | r :: rs => some (rs.foldl stronger r)

/-- Whether an event is shown. -/
def shows (f : Filter) (e : Event) : Bool :=
  (f.deciding? e).any fun r => r.limit.admits e.level

/-- The filter of a run: everything but traces when details are asked for; else what the setting
says; and warnings when there is no setting, or one that cannot be read. -/
def ofSetting (verbose : Bool) (setting : Option String) : Filter :=
  if verbose then upTo .debug
  else
    match setting with
    | none => upTo .warn
    | some s => (ofText? s.toList).getD (upTo .warn)

/-- The lines of the events that are shown. -/
def lines (f : Filter) (events : List Event) : List String :=
  (events.filter f.shows).map Event.line

end Filter

end AccessWindows.Log
