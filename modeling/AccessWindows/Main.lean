import AccessWindows.Console.Run

/-!
# The program

The command line over real files and streams. Everything is decided by `Console.run`; here the named
file is read beforehand, and what the run leaves behind is printed.
-/

set_option autoImplicit false

namespace AccessWindows.Console

/-- The file that a command line names, if it names one. -/
def Invocation.path? (i : Invocation) : Option String :=
  match i.command with
  | .merge (.file path) => some path
  | .split (.file path) => some path
  | .normalize (.file path) => some path
  | _ => none

/-- Whether a command line reads the standard input. -/
def Invocation.readsStdin (i : Invocation) : Bool :=
  match i.command with
  | .merge .stdin => true
  | .split .stdin => true
  | .normalize .stdin => true
  | _ => false

/-- Read a file, or say why it cannot be read. -/
def readFile (path : String) : IO (Except FileFault ByteArray) := do
  try
    return .ok (← IO.FS.readBinFile path)
  catch e =>
    match e with
    | .noFileOrDirectory .. => return .error .missing
    | e => return .error (.other (toString e))

end AccessWindows.Console

open AccessWindows.Console in
/-- Run the program. -/
def main (arguments : List String) : IO UInt32 := do
  let planned := (Invocation.ofArguments arguments).toOption
  let contents ← match planned.bind Invocation.path? with
    | some path => readFile path
    | none => pure (.error .missing)
  let input ← if planned.any Invocation.readsStdin then (← IO.getStdin).readBinToEnd
    else pure .empty
  let setting ← IO.getEnv "WEEKTIME_LOG"
  let outcome := run ⟨fun _ => contents, input, setting⟩ arguments
  IO.eprint outcome.stderr
  IO.print outcome.stdout
  return outcome.exit.toUInt32
