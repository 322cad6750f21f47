import Pipework.Shell.Parser
import Pipework.Shell.Work

set_option autoImplicit false

/-!
What the name of a command stands for: a function, a builtin command, or a program in one of the places of the
search path. The places where programs were found are remembered.
-/

namespace Pipework.Shell

open Kernel

/-- The builtin commands that are not special. -/
def regularBuiltins : List String :=
  ["[", "alias", "bg", "cd", "chdir", "command", "echo", "false", "fg", "getopts", "hash", "jobs", "kill",
    "printf", "pwd", "read", "test", "true", "type", "ulimit", "umask", "unalias", "wait"]

def isSpecialBuiltin (name : Text) : Bool := specialBuiltins.contains (String.ofList name)

def isBuiltin (name : Text) : Bool :=
  isSpecialBuiltin name || regularBuiltins.contains (String.ofList name)

/-- The search path of a shell that was started without one. -/
def initialSearchPath : Text := "/usr/local/sbin:/usr/local/bin:/usr/sbin:/usr/bin:/sbin:/bin".toList

/-- The search path on which the usual tools are found. -/
def standardSearchPath : Text := "/usr/sbin:/usr/bin:/sbin:/bin".toList

def searchPath (shell : Shell) : Text := (shell.variableValue? "PATH".toList).getD []

/-- The pieces between occurrences of a character; there is always at least one. -/
def splitAt (separator : Char) : Text → List Text
  | [] => [[]]
  | char :: rest =>
    if char = separator then [] :: splitAt separator rest
    else
      match splitAt separator rest with
      | [] => [[char]]
      | piece :: pieces => (char :: piece) :: pieces

/-- A name in a place of the search path; an empty place stands for the working directory. -/
def candidate (place name : Text) : Text :=
  if place.isEmpty then '.' :: '/' :: name else place ++ '/' :: name

/-- What a failed search for a program says. -/
def searchFault (errno : Errno) : Text :=
  if errno = .noEntry || errno = .notDirectory then "not found".toList else errno.text.toList

/-- Looks for a program in places. -/
def searchPlaces (name : Text) : Errno → List Text → Work (Except Errno Text)
  | reason, [] => return .error reason
  | reason, place :: later => do
    let path := candidate place name
    match ← Work.ask (.query (.file (Bytes.ofChars path) true)) with
    | .facts facts =>
      if facts.kind = .regular && facts.allows .execute then return .ok path
      else searchPlaces name .accessDenied later
    | .failed .noEntry | .failed .notDirectory => searchPlaces name reason later
    | .failed errno => searchPlaces name errno later
    | _ => searchPlaces name reason later

/-- Finds the program of a name, on another search path than the shell's if one is given. -/
def findProgram (name : Text) (otherPath : Option Text) : Work (Except Errno Text) := do
  let shell ← get
  if name.contains '/' then return .ok name
  else
    match otherPath, shell.tracked.lookup name with
    | none, some path => return .ok path
    | some path, _ => searchPlaces name .noEntry (splitAt ':' path)
    | none, none => do
      let found ← searchPlaces name .noEntry (splitAt ':' (searchPath shell))
      match found with
      | .ok path => modify fun shell => { shell with tracked := putEntry name path shell.tracked }
      | .error _ => pure ()
      return found

/-- Puts a program in place of the shell. Comes back only if that fails, with the reason. -/
def loadProgram (path : Text) (arguments : List Text) : Work Errno := do
  Work.tell (.configure (.environment (← get).environment))
  match ← Work.ask (.load (Bytes.ofChars path) (arguments.map Bytes.ofChars)) with
  | .failed errno => return errno
  | _ => return .noEntry

/-- The status after a program could not be put in place. -/
def loadStatus (errno : Errno) : Nat :=
  if [Errno.noEntry, .notDirectory, .tooManyLinks, .nameTooLong].contains errno then 127 else 126

/-- Puts a program in place of the shell, and exits if that fails. -/
def becomeProgram {α : Type} (path : Text) (arguments : List Text) : Work α := do
  let errno ← loadProgram path arguments
  Work.warn (arguments.headD [] ++ ": ".toList ++ searchFault errno)
  Work.setStatus (loadStatus errno)
  throw .exit

end Pipework.Shell
