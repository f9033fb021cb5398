import AccessWindows.Console.Command
import AccessWindows.Console.Folder

/-!
# Command-line arguments

A command line is flags, a command and what belongs to the command. `--pretty` and `--verbose` may
stand before the command and behind it, once each in both places. Words are read from left to right.
A value that waits for its check, a file name or a category, is checked when the next known flag or
the end of the line is reached; a word that nothing takes is reported at once, whatever waits.
-/

set_option autoImplicit false

namespace AccessWindows.Console

/-- What may stand at one level of a command line: the whole line, or what follows a command. -/
structure Grammar where
  hasVersion : Bool
  hasCommands : Bool
  takesInput : Bool
  takesCategory : Bool

namespace Grammar

/-- The whole line. -/
def line : Grammar := ⟨true, true, false, false⟩

/-- What follows a command. -/
def ofCommand : CommandName → Grammar
  | .merge | .split | .normalize => ⟨false, false, true, false⟩
  | .templates => ⟨false, false, false, true⟩
  | .grid | .help => ⟨false, false, false, false⟩

end Grammar

/-- A value that waits for its check. -/
inductive Pending where
  | nothing
  | input (path : String)
  /-- A category; nothing while its value is still to come. -/
  | category (value : Option String)

/-- What has been read at one level. -/
structure Progress where
  pretty : Bool
  verbose : Bool
  input : Option String
  category : Option Category
  pending : Pending
  /-- Whether two dashes have ended the options. -/
  trailing : Bool

namespace Progress

/-- Nothing has been read. -/
def start : Progress := ⟨false, false, none, none, .nothing, false⟩

/-- How the file name is called in messages. -/
def inputName : String := "[INPUT]"

/-- How the category option is called in messages. -/
def categoryName : String := "--category <CATEGORY>"

/-- Take the value of the category option. -/
def setCategory (p : Progress) (value : String) : Except UsageError Progress :=
  if p.category.isSome then .error (.repeated categoryName)
  else
    match Category.ofString value with
    | .ok c => .ok { p with category := some c, pending := .nothing }
    | .error f => .error (.invalidValue value categoryName f)

/-- Check the value that waits. -/
def settle (p : Progress) : Except UsageError Progress :=
  match p.pending with
  | .nothing => .ok p
  | .input path =>
      if path = "" then .error (.missingValue inputName)
      else .ok { p with input := some path, pending := .nothing }
  | .category none => .error (.missingValue categoryName)
  | .category (some value) => p.setCategory value

/-- Check the value that waits; a fault ends the reading. -/
def settled (p : Progress) : Except Ending Progress := p.settle.mapError .usage

end Progress

/-- A flag without value. -/
inductive Flag where
  | pretty
  | verbose
  | help
  | version
deriving DecidableEq

namespace Flag

/-- The long name. -/
def long : Flag → String
  | pretty => "--pretty"
  | verbose => "--verbose"
  | help => "--help"
  | version => "--version"

/-- The flag with a long name, among those that a level has. -/
def ofLong? (g : Grammar) (s : String) : Option Flag :=
  [pretty, verbose, help, version].find? fun f => f.long = s ∧ (f ≠ version ∨ g.hasVersion)

/-- The flag with a short name, among those that a level has. -/
def ofShort? (g : Grammar) (c : Char) : Option Flag :=
  if c = 'v' then some verbose
  else if c = 'h' then some help
  else if c = 'V' ∧ g.hasVersion then some version
  else none

/-- Take a flag. Help and version end the reading at once. -/
def take (p : Progress) (f : Flag) : Except Ending Progress := do
  let p ← p.settled
  match f with
  | pretty =>
      if p.pretty then .error (.usage (.repeated f.long)) else .ok { p with pretty := true }
  | verbose =>
      if p.verbose then .error (.usage (.repeated f.long)) else .ok { p with verbose := true }
  | help => .error .help
  | version => .error .version

/-- Take the flags of a word with one dash, one letter each. -/
def takeShort (g : Grammar) : Progress → List Char → Except Ending Progress
  | p, [] => .ok p
  | p, c :: cs =>
      match ofShort? g c with
      | none => .error (.usage (.unexpectedWord (String.ofList ['-', c])))
      | some f => do takeShort g (← take p f) cs

end Flag

namespace Progress

/-- Take a word with two dashes: its name, and its value if it has an equals sign. -/
def takeLong (g : Grammar) (p : Progress) (name : String) (value : Option String) :
    Except Ending Progress :=
  match Flag.ofLong? g name with
  | some f =>
      match value with
      | none => f.take p
      | some v => .error (.usage (.unexpectedValue v f.long))
  | none =>
      if g.takesCategory ∧ name = "--category" then do
        let p ← p.settled
        match value with
        | some v => (p.setCategory v).mapError .usage
        | none => .ok { p with pending := .category none }
      else .error (.usage (.unexpectedWord name))

/-- Whether the file name has been given. -/
def hasInput (p : Progress) : Bool :=
  match p.pending with
  | .input _ => true
  | _ => p.input.isSome

/-- Take a word that is no option. -/
def takePlain (g : Grammar) (p : Progress) (word : String) : Except Ending Progress :=
  if g.takesInput ∧ !p.hasInput then do
    let p ← p.settled
    .ok { p with pending := .input word }
  else if g.hasCommands ∧ !(p.trailing ∧ (CommandName.ofWord? word).isSome) then
    .error (.usage (.unknownCommand word))
  else .error (.usage (.unexpectedWord word))

/-- Take a word that names no command. -/
def take (g : Grammar) (p : Progress) (word : String) : Except Ending Progress :=
  if p.trailing then p.takePlain g word
  else
    match word.toList with
    | ['-', '-'] => .ok { p with trailing := true }
    | '-' :: '-' :: name =>
        let long := "--" ++ String.ofList (name.takeWhile (· ≠ '='))
        match name.dropWhile (· ≠ '=') with
        | [] => p.takeLong g long none
        | _ :: value => p.takeLong g long (some (String.ofList value))
    | '-' :: c :: cs => Flag.takeShort g p (c :: cs)
    | _ =>
        match p.pending with
        | .category none => .ok { p with pending := .category (some word) }
        | _ => p.takePlain g word

end Progress

/-- Read the words of a level up to the end of the line, or up to a command; the result is what has
been read, and the command with the words behind it. -/
def scan (g : Grammar) : Progress → List String →
    Except Ending (Progress × Option (CommandName × List String))
  | p, [] => do return (← p.settled, none)
  | p, word :: words =>
      match if g.hasCommands ∧ !p.trailing then CommandName.ofWord? word else none with
      | some c => .ok (p, some (c, words))
      | none => do scan g (← p.take g word) words

/-- Whether a file name is a single dash. Slashes and single dots behind it lead nowhere else. -/
def isDash (path : String) : Bool :=
  match Folder.parts path with
  | "-" :: rest => rest.all fun part => part = "" || part = "."
  | _ => false

/-- Where the file name of a command leads: a single dash is the standard input, as is no name. -/
def Source.ofInput : Option String → Source
  | none => .stdin
  | some path => if isDash path then .stdin else .file path

/-- The word behind the help command has to name a command, and no command has further ones. -/
def helpTopic : List String → Ending
  | [] => .help
  | word :: words =>
      if (CommandName.ofWord? word).isNone then .usage (.unknownCommand word)
      else
        match words with
        | [] => .help
        | next :: _ => .usage (.unknownCommand next)

/-- The command, with what was read behind it. -/
def CommandName.toCommand (p : Progress) : CommandName → Option Command
  | .merge => some (.merge (.ofInput p.input))
  | .split => some (.split (.ofInput p.input))
  | .normalize => some (.normalize (.ofInput p.input))
  | .grid => some .grid
  | .templates => some (.templates p.category)
  | .help => none

/-- Read a command line. -/
def Invocation.ofArguments (arguments : List String) : Except Ending Invocation := do
  let (p, found) ← scan .line .start arguments
  match found with
  | none => .error (.usage (if p.pretty ∨ p.verbose then .noCommand else .nothing))
  | some (name, words) =>
      if name = .help then .error (helpTopic words)
      else
        let (q, _) ← scan (.ofCommand name) .start words
        match name.toCommand q with
        | some command => .ok ⟨p.pretty || q.pretty, p.verbose || q.verbose, command⟩
        | none => .error .help

end AccessWindows.Console
