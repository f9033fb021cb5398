/-!
# Files by name

A `Folder` is the directory in which a command runs: files with their contents, some of them perhaps
in directories of their own. Outside it are the directories on the way up and, under names that begin
with a slash, what every system has: the usual directories, the device that is empty and the one that
is the standard input. Whatever else lies outside is missing.
-/

set_option autoImplicit false

namespace AccessWindows.Console

/-- Why a file cannot be read. -/
inductive FileFault where
  | missing
  | notDirectory
  | isDirectory
  | nameTooLong
  /-- What the system says. -/
  | other (message : String)
deriving DecidableEq

/-- The message of the system, with its number. -/
def FileFault.message : FileFault → String
  | missing => "No such file or directory (os error 2)"
  | notDirectory => "Not a directory (os error 20)"
  | isDirectory => "Is a directory (os error 21)"
  | nameTooLong => "File name too long (os error 36)"
  | other message => message

/-- Files by their names, which are parted by slashes. -/
abbrev Folder : Type := List (String × ByteArray)

namespace Folder

/-- The parts of a name between slashes. -/
def parts (path : String) : List String :=
  (path.toList.splitOn '/').map String.ofList

/-- Longest part of a name, in bytes. -/
def maxPart : Nat := 255

/-- Longest name, in bytes. -/
def maxPath : Nat := 4095

/-- What stands under a name. -/
inductive Entry where
  | file (contents : ByteArray)
  | directory

/-- What stands under a list of parts, counted from the folder. -/
def entry? (f : Folder) (place : List String) : Option Entry :=
  if place = [] then some .directory
  else
    match f.find? fun e => parts e.1 = place with
    | some e => some (.file e.2)
    | none => if f.any fun e => place.isPrefixOf (parts e.1) then some .directory else none

/-- The directories at the root of every system. -/
def usualDirectories : List String :=
  ["bin", "boot", "dev", "etc", "home", "lib", "media", "mnt", "opt", "proc", "root", "run", "sbin",
    "srv", "sys", "tmp", "usr", "var"]

/-- What stands under a list of parts, counted from the root of the system. -/
def ofSystem? (stdin : ByteArray) : List String → Option Entry
  | [] => some .directory
  | [part] => if part ∈ usualDirectories then some .directory else none
  | ["dev", "null"] => some (.file .empty)
  | ["dev", "stdin"] => some (.file stdin)
  | _ => none

/-- Follow the parts of a name. `found` tells what stands under a list of parts, `up` counts the
steps taken above the beginning, and `here` is the place below it. There is nothing above the root
of the system, so a step up from there leads nowhere. -/
def walk (found : List String → Option Entry) (rooted : Bool) (up : Nat) (here : List String) :
    List String → Except FileFault ByteArray
  | [] => .error .isDirectory
  | part :: rest =>
      if part = "" ∨ part = "." then walk found rooted up here rest
      else if part = ".." then
        if here = [] then walk found rooted (if rooted then 0 else up + 1) [] rest
        else walk found rooted up here.dropLast rest
      else if maxPart < part.utf8ByteSize then .error .nameTooLong
      else if 0 < up then .error .missing
      else
        match found (here ++ [part]) with
        | none => .error .missing
        | some .directory => walk found rooted up (here ++ [part]) rest
        | some (.file contents) => if rest = [] then .ok contents else .error .notDirectory

/-- The contents of the file with a name, where `stdin` is the standard input. A name that begins
with a slash starts at the root of the system. -/
def read (f : Folder) (stdin : ByteArray) (path : String) : Except FileFault ByteArray :=
  if maxPath < path.utf8ByteSize then .error .nameTooLong
  else
    match parts path with
    | "" :: rest => walk (ofSystem? stdin) true 0 [] rest
    | all => walk f.entry? false 0 [] all

end Folder

end AccessWindows.Console
