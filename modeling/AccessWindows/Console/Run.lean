import AccessWindows.Console.Arguments
import AccessWindows.Console.Folder
import AccessWindows.Exchange.Text
import AccessWindows.Log.Filter
import AccessWindows.Text.Basic

/-!
# Running a command line

A run takes a command line and its surroundings, and gives what it prints and its exit code: 0 when
it went well, 1 when a text could not be read or was refused, 2 when the command line was wrong. The
result goes to standard output; log lines and reports go to standard error.
-/

set_option autoImplicit false

namespace AccessWindows.Console

open Json (ReadError Style)
open Log (Event Filter Traced)

/-- What a run finds around it. -/
structure Surroundings where
  files : String → Except FileFault ByteArray
  stdin : ByteArray
  /-- The setting of the log filter. -/
  logSetting : Option String

/-- What a run leaves behind. -/
structure Outcome where
  exit : Nat
  stdout : String
  stderr : String
deriving DecidableEq

/-- The lines on standard error. -/
def Outcome.errorLines (o : Outcome) : List String := Lines.ofText o.stderr

/-- Why a command failed. -/
inductive Failure where
  /-- The file could not be read. -/
  | file (path : String) (fault : FileFault)
  /-- The bytes of the file are no text. -/
  | fileEncoding (path : String)
  /-- The bytes of the standard input are no text. -/
  | stdinEncoding
  /-- The text is no list of selections. -/
  | selections (error : ReadError)
  /-- The text is no list of grants. -/
  | grants (error : ReadError)

namespace Failure

/-- What failed. -/
def headline : Failure → String
  | file path _ => "failed to read " ++ path
  | fileEncoding path => "failed to read " ++ path
  | stdinEncoding => "failed to read stdin"
  | selections _ => "failed to parse day selections"
  | grants _ => "failed to parse merged ranges"

/-- The message about bytes that are no text. -/
def encodingMessage : String := "stream did not contain valid UTF-8"

/-- Why it failed, the nearest cause first. -/
def causes : Failure → List String
  | file _ fault => [fault.message]
  | fileEncoding _ => [encodingMessage]
  | stdinEncoding => [encodingMessage]
  | selections e => [e.report, e.message]
  | grants e => [e.report, e.message]

/-- A cause in a report: `mark` before its first line, and as many blanks before the others. -/
def indented (mark : String) (cause : String) : String :=
  mark ++ ("\n" ++ String.ofList (List.replicate mark.length ' ')).intercalate (Lines.parts cause)

/-- The causes in a report. A single one is indented; several are numbered from zero. -/
def causeLines : List String → List String
  | [cause] => [indented "    " cause]
  | causes => causes.mapIdx fun i c => indented ("    " ++ toString i ++ ": ") c

/-- The report of a failure. -/
def report (f : Failure) : String :=
  "Error: " ++ f.headline ++ "\n\nCaused by:\n" ++ "\n".intercalate (causeLines f.causes) ++ "\n"

end Failure

/-- Read the text that a command works on. A file is announced first. -/
def readSource (s : Surroundings) : Source → Traced (Except Failure String)
  | .stdin => ⟨orElse .stdinEncoding (String.fromUTF8? s.stdin), []⟩
  | .file path =>
      ⟨match s.files path with
        | .error fault => .error (.file path fault)
        | .ok bytes => orElse (.fileEncoding path) (String.fromUTF8? bytes),
        [.readingFile path]⟩
where
  /-- The text, or else the failure. -/
  orElse (f : Failure) : Option String → Except Failure String
    | some text => .ok text
    | none => .error f

/-- Convert the text of a source. -/
def convert (s : Surroundings) (source : Source) (failure : ReadError → Failure)
    (work : String → Except ReadError (Traced String)) : Traced (Except Failure String) := do
  match ← readSource s source with
  | .error f => return .error f
  | .ok text =>
      match work text with
      | .error e => return .error (failure e)
      | .ok result => return .ok (← result)

/-- Carry out a command. -/
def Command.run (s : Surroundings) (style : Style) : Command → Traced (Except Failure String)
  | .merge source => convert s source .selections (Exchange.merge style)
  | .split source => convert s source .grants (Exchange.split style)
  | .normalize source => convert s source .grants (Exchange.normalize style)
  | .grid => return .ok (Exchange.weekText style)
  | .templates category =>
      return .ok (Exchange.writeTemplates style
        (Template.builtins.filter fun t => category.all fun c => t.category = c))

/-- Carry out a command line that could be read. -/
def Invocation.run (s : Surroundings) (i : Invocation) : Outcome :=
  let result := i.command.run s (if i.pretty then .pretty else .compact)
  let shown := (Filter.ofSetting i.verbose s.logSetting).lines result.events
  let log := String.join (shown.map fun line => line ++ "\n")
  match result.value with
  | .ok text => ⟨0, text ++ "\n", log⟩
  | .error f => ⟨1, "", log ++ f.report⟩

/-- What is left when a command line is not carried out. -/
def Ending.outcome : Ending → Outcome
  | .usage e => ⟨2, "", e.report⟩
  | .help => ⟨0, purpose ++ "\n", ""⟩
  | .version => ⟨0, programName ++ " " ++ Console.version ++ "\n", ""⟩

/-- Run a command line. -/
def run (s : Surroundings) (arguments : List String) : Outcome :=
  match Invocation.ofArguments arguments with
  | .ok i => i.run s
  | .error e => e.outcome

end AccessWindows.Console
