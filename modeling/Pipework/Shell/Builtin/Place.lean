import Pipework.Shell.Builtin.Argument
import Pipework.Shell.Lookup

set_option autoImplicit false

/-!
The builtin commands about the working directory. The shell remembers the path by which it came there.
-/

namespace Pipework.Shell.Builtin

open Kernel

/-- Follows the parts of a path from a directory whose parts are given in reverse order. -/
def followParts : List Text → List Text → List Text
  | place, [] => place
  | place, part :: later =>
    if part.isEmpty || part = ['.'] then followParts place later
    else if part = ['.', '.'] then followParts place.tail later
    else followParts (part :: place) later

/-- The path of a directory that is reached from another one. -/
def resolvePath (current path : Text) : Text :=
  let isAbsolute := path.head? = some '/'
  let start := if isAbsolute then [] else followParts [] (splitAt '/' current)
  let parts := (followParts start (splitAt '/' path)).reverse
  let whole := if isAbsolute then path else current
  let root : Text :=
    match whole with
    | '/' :: '/' :: '/' :: _ => ['/']
    | '/' :: '/' :: _ => ['/', '/']
    | _ => ['/']
  root ++ List.intercalate ['/'] parts

/-- The working directory as the system knows it; a directory that was taken away has no path. -/
def physicalPath : Work Text := do
  match ← Work.ask (.query .workingDirectory) with
  | .data path => return Bytes.toChars path
  | .failed errno => do
    Work.warn ("getcwd() failed: ".toList ++ errno.text.toList)
    return []
  | _ => return []

/-- Notes that the shell is in another directory. -/
def noteDirectory (path : Text) : Work Unit := do
  let before := (← get).directory
  let note (name value : Text) : Work Unit := do
    Work.assign name value
    modify fun shell =>
      shell.putVariable name { (shell.binding? name).getD {} with exported := true }
  modify fun shell =>
    { shell with
      directory := path
      tracked := shell.tracked.filter fun entry => entry.2.head? = some '/' }
  note "OLDPWD".toList before
  note "PWD".toList path

/-- Goes to a directory. Gives whether that worked. A relative path is followed by the system if the shell does not
know where it is. -/
def enter (physical : Bool) (path : Text) : Work Bool := do
  let current := (← get).directory
  let isFollowed := physical || (current.isEmpty && path.head? ≠ some '/')
  let target := if isFollowed then path else resolvePath current path
  match ← Work.ask (.configure (.workingDirectory (Bytes.ofChars target))) with
  | .failed _ => return false
  | _ => do
    noteDirectory (← if isFollowed then physicalPath else pure target)
    return true

/-- Goes to the first of some directories that can be entered. Gives its path, which is shown if asked for. -/
def enterFirst (physical : Bool) : List (Text × Bool) → Work Bool
  | [] => return false
  | (path, shown) :: later => do
    if ← enter physical path then
      if shown then Work.print ((← get).directory ++ ['\n'])
      return true
    else enterFirst physical later

def changeDirectory : Builtin := fun arguments => do
  let (given, operands) ← readOptions "LP" arguments
  let physical := (given.getLast?.map Prod.fst) = some 'P'
  let shell ← get
  let target := operands.headD ((shell.variableValue? "HOME".toList).getD [])
  let (target, shown) :=
    if target = ['-'] then ((shell.variableValue? "OLDPWD".toList).getD [], true) else (target, false)
  let isAnchored := target.head? = some '/' || [['.'], ['.', '.']].contains ((splitAt '/' target).headD [])
  let places := splitAt ':' ((shell.variableValue? "CDPATH".toList).getD [])
  let own : Text × Bool := (if target.isEmpty then ['.'] else target, shown)
  let candidates : List (Text × Bool) :=
    if isAnchored then [own]
    else (places.map fun place => if place.isEmpty then own else (place ++ '/' :: target, true)) ++ [own]
  if ← enterFirst physical candidates then return 0
  else Work.fail ("can't cd to ".toList ++ target)

def printDirectory : Builtin := fun arguments => do
  let (given, _) ← readOptions "LP" arguments
  let path ← if (given.getLast?.map Prod.fst) = some 'P' then physicalPath else pure (← get).directory
  Work.print (path ++ ['\n'])
  return 0

end Pipework.Shell.Builtin
