import Pipework.Shell.Builtin.Argument
import Pipework.Shell.Lookup

set_option autoImplicit false

/-!
The builtin commands about names: aliases, and what names stand for.
-/

namespace Pipework.Shell.Builtin

open Kernel

/-- An alias as it can be read back. -/
def aliasLine (entry : Text × Text) : Text := entry.1 ++ '=' :: quoteText entry.2 ++ ['\n']

/-- Says that there is no such alias. -/
def complainAlias (command name : Text) : Work Unit :=
  Work.writeError (command ++ ": ".toList ++ name ++ " not found\n".toList)

def aliasNames : List Text → Nat → Work Nat
  | [], status => return status
  | argument :: later, status => do
    let shell ← get
    let name := argument.take 1 ++ (argument.drop 1).takeWhile (· ≠ '=')
    match argument.drop name.length, shell.aliases.lookup argument with
    | _ :: value, _ => do
      set { shell with aliases := putEntry name value shell.aliases }
      aliasNames later status
    | [], some value => do
      Work.print (aliasLine (argument, value))
      aliasNames later status
    | [], none => do
      complainAlias "alias".toList argument
      aliasNames later 1

def defineAlias : Builtin := fun arguments => do
  if arguments.isEmpty then
    Work.print ((byGroup nameGroups (← get).aliases).flatMap aliasLine)
    return 0
  else aliasNames arguments 0

def unaliasNames : List Text → Nat → Work Nat
  | [], status => return status
  | name :: later, status => do
    let shell ← get
    if (shell.aliases.lookup name).isSome then
      set { shell with aliases := dropEntry name shell.aliases }
      unaliasNames later status
    else
      complainAlias "unalias".toList name
      unaliasNames later 1

def unalias : Builtin := fun arguments => do
  let (given, names) ← readOptions "a" arguments
  if given.isEmpty then unaliasNames names 0
  else
    modify ({ · with aliases := [] })
    return 0

/-- Says what a name stands for. -/
def describe (verbose : Bool) (otherPath : Option Text) (name : Text) : Work Nat := do
  let shell ← get
  let say (brief long : Text) : Work Nat := do
    Work.print (if verbose then name ++ long ++ ['\n'] else brief ++ ['\n'])
    return 0
  let missing : Work Nat := do
    if verbose then Work.print (name ++ ": not found\n".toList)
    return 127
  if keywords.contains (String.ofList name) then say name " is a shell keyword".toList
  else
    match shell.aliases.lookup name with
    | some value => do
      if verbose then say name (" is an alias for ".toList ++ value)
      else
        Work.print ("alias ".toList ++ aliasLine (name, value))
        return 0
    | none =>
      if (shell.functions.lookup name).isSome then say name " is a shell function".toList
      else if isBuiltin name then
        let special := if isSpecialBuiltin name then "special ".toList else []
        say name (" is a ".toList ++ special ++ "shell builtin".toList)
      else if name.contains '/' then
        match ← Work.ask (.query (.file (Bytes.ofChars name) true)) with
        | .facts _ => say name (" is ".toList ++ name)
        | _ => missing
      else
        match otherPath, shell.tracked.lookup name with
        | none, some path => say path (" is a tracked alias for ".toList ++ path)
        | _, _ =>
          match ← findProgram name otherPath with
          | .ok path => say path (" is ".toList ++ path)
          | .error _ => missing

def describeAll : List Text → Nat → Work Nat
  | [], status => return status
  | name :: later, status => do
    let described ← describe true none name
    describeAll later (status ||| described)

def typeOf : Builtin := fun arguments => describeAll arguments 0

/-- What `command` does if it is to carry out nothing. -/
def describeCommand : Builtin := fun arguments => do
  let (given, names) ← readOptions "pvV" arguments
  let has (letter : Char) : Bool := given.any (·.1 = letter)
  match names with
  | name :: _ =>
    if has 'v' || has 'V' then
      describe (has 'V') (if has 'p' then some standardSearchPath else none) name
    else return 0
  | [] => return 0

def trackNames : List Text → Nat → Work Nat
  | [], status => return status
  | name :: later, status => do
    if isBuiltin name || ((← get).functions.lookup name).isSome then trackNames later status
    else
      match ← findProgram name none with
      | .ok _ => trackNames later status
      | .error errno => do
        Work.warn (name ++ ": ".toList ++ searchFault errno)
        trackNames later 1

def hash : Builtin := fun arguments => do
  let (given, names) ← readOptions "r" arguments
  if !given.isEmpty then
    modify ({ · with tracked := [] })
    return 0
  else if names.isEmpty then
    Work.print ((byGroup programGroups (← get).tracked).flatMap fun entry => entry.2 ++ ['\n'])
    return 0
  else trackNames names 0

end Pipework.Shell.Builtin
