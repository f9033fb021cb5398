import AccessWindows.Template.Basic
import AccessWindows.Text.Terminal

/-!
# Commands and wrong command lines

What the program can be asked to do, and the words for it; and the ways in which a command line can
be wrong, and what is said about each. The names of the program, its version and its purpose are here,
because messages quote them.
-/

set_option autoImplicit false

namespace AccessWindows.Console

/-! ## Commands -/

/-- Where a command takes its text from. -/
inductive Source where
  | stdin
  | file (path : String)
deriving DecidableEq

/-- What is to be done. -/
inductive Command where
  | merge (source : Source)
  | split (source : Source)
  | normalize (source : Source)
  | grid
  | templates (category : Option Category)
deriving DecidableEq

/-- A command line that can be carried out. -/
structure Invocation where
  pretty : Bool
  verbose : Bool
  command : Command
deriving DecidableEq

/-- The names of the commands. -/
inductive CommandName where
  | merge
  | split
  | normalize
  | grid
  | templates
  | help
deriving DecidableEq

namespace CommandName

/-- All commands. -/
def all : List CommandName := [merge, split, normalize, grid, templates, help]

/-- The word for a command. -/
def word : CommandName → String
  | merge => "merge"
  | split => "split"
  | normalize => "normalize"
  | grid => "grid"
  | templates => "templates"
  | help => "help"

/-- The command that a word names. -/
def ofWord? (s : String) : Option CommandName := all.find? fun c => c.word = s

end CommandName

/-! ## Wrong command lines -/

/-- What is wrong with a command line. -/
inductive UsageError where
  /-- No command has this name. -/
  | unknownCommand (word : String)
  /-- Nothing takes this word. -/
  | unexpectedWord (word : String)
  /-- A flag that takes no value has one. -/
  | unexpectedValue (value argument : String)
  /-- A value is missing or empty. -/
  | missingValue (argument : String)
  /-- A value is refused. -/
  | invalidValue (value argument : String) (fault : Fault)
  /-- An argument is given twice. -/
  | repeated (argument : String)
  /-- There are flags but no command. -/
  | noCommand
  /-- There is nothing at all. -/
  | nothing
deriving DecidableEq

/-- The name of the program. -/
def programName : String := "weektime"

/-- The version of the program. -/
def version : String := "0.1.0"

/-- What the program does. -/
def purpose : String := "Merge and split weekly access windows (JSON in, JSON out)"

/-- Words from the command line or for it, between quotes and emphasized. -/
def quotedWord (s : String) : String :=
  Fault.quoted (String.ofList (Terminal.emphasized s.toList))

/-- What is wrong, for a terminal. Without any argument it is the head of the help text. -/
def UsageError.message : UsageError → String
  | unknownCommand word => "error: unrecognized subcommand " ++ quotedWord word
  | unexpectedWord word => "error: unexpected argument " ++ quotedWord word ++ " found"
  | unexpectedValue value argument =>
      "error: unexpected value " ++ quotedWord value ++ " for " ++ quotedWord argument ++
        " found; no more were expected"
  | missingValue argument =>
      "error: a value is required for " ++ quotedWord argument ++ " but none was supplied"
  | invalidValue value argument fault =>
      "error: invalid value " ++ quotedWord value ++ " for " ++ quotedWord argument ++ ": " ++
        fault.message
  | repeated argument =>
      "error: the argument " ++ quotedWord argument ++ " cannot be used multiple times"
  | noCommand =>
      "error: " ++ quotedWord programName ++ " requires a subcommand but one was not provided"
  | nothing => purpose

/-- Where to find help, for a terminal. -/
def helpHint : String := "\n\nFor more information, try " ++ quotedWord "--help" ++ ".\n"

/-- The whole complaint, for where there is no terminal. The words that it quotes may hold sequences
for a terminal themselves; these are taken out with all others. -/
def UsageError.report (e : UsageError) : String :=
  String.ofList (Terminal.plain (e.message ++ helpHint).toList)

/-- How reading a command line may end before there is something to carry out. -/
inductive Ending where
  | usage (error : UsageError)
  | help
  | version
deriving DecidableEq

end AccessWindows.Console
