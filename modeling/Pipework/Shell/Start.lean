import Pipework.Shell.Evaluation

set_option autoImplicit false

/-!
The start of a shell: what it takes over from its environment and from its arguments, and where its script
comes from. A script is a text among the arguments, a file, or the input.
-/

namespace Pipework.Shell

open Kernel

/-- What the arguments of a shell say besides the options that they set. -/
structure StartArguments where
  /-- Whether the script is the first operand. -/
  isText : Bool := false
  operands : List Text

/-- Takes on the letters of one argument. Gives whether the script is an operand, and the arguments that
follow. -/
def startLetters (isSet : Bool) : Text → StartArguments → Work StartArguments
  | [], start => return start
  | 'c' :: letters, start => startLetters isSet letters { start with isText := true }
  | 'l' :: letters, start => startLetters isSet letters start
  | 'o' :: letters, start => do
    let operands ← Builtin.setNamed isSet start.operands
    let _ ← Work.writeOutput
    startLetters isSet letters { start with operands }
  | letter :: letters, start => do
    Builtin.setLetter isSet letter
    startLetters isSet letters start

/-- Takes on the options in front of the operands. -/
def startOptions : Nat → StartArguments → Work StartArguments
  | 0, start => return start
  | fuel + 1, start => do
    match start.operands with
    | ['-'] :: operands | ['-', '-'] :: operands => return { start with operands }
    | ('-' :: letters) :: operands => do
      startOptions fuel (← startLetters true letters { start with operands })
    | ('+' :: letters) :: operands => do
      startOptions fuel (← startLetters false letters { start with operands })
    | _ => return start

/-- Runs the script of a shell. -/
def runScript (arguments : List Text) : Work Unit := do
  let start ← startOptions (arguments.length + 1) { operands := arguments }
  if (← get).hasOption "interactive" then modify (·.setOption "monitor" true)
  Builtin.giveUpMonitor
  let runInput : Work Unit := runSource workLimit {} (some 0) { rest := [], complete := false }
  match start.isText, start.operands with
  | true, [] => Work.fail "-c requires an argument".toList
  | true, text :: operands => do
    modify fun shell =>
      { shell with name := operands.headD shell.name, parameters := operands.tail }
    let readsInput := (← get).hasOption "stdin"
    runText workLimit { last := !readsInput } text
    if readsInput then runInput
  | false, [] => do
    modify (·.setOption "stdin" true)
    runInput
  | false, path :: parameters =>
    if (← get).hasOption "stdin" then
      modify ({ · with parameters := path :: parameters })
      runInput
    else do
      let descriptor ← openScript path
      modify ({ · with name := path, parameters })
      runSource workLimit {} (some descriptor) { rest := [], complete := false }

/-- The variables that every shell has from its start, and whether programs started from it see them. -/
def initialVariables (parent : Nat) : List (Text × Text) :=
  [("OPTIND", "1"), ("PS1", "# "), ("PS2", "> "), ("PS4", "+ "), ("IFS", " \t\n")].map
      (fun (name, value) => (name.toList, value.toList)) ++
    [("PATH".toList, initialSearchPath), ("PPID".toList, number parent)]

/-- Takes over the variables of an environment. -/
def takeOver (environment : List (Bytes × Bytes)) (shell : Shell) : Shell :=
  environment.foldl (fun shell (name, value) =>
    let name := Bytes.toChars name
    if isName name then
      shell.putVariable name { value := some (Bytes.toChars value), exported := true }
    else shell) shell

/-- Sets the variables again that an environment cannot give. -/
def resetVariables (parent : Nat) (shell : Shell) : Shell :=
  let reset (shell : Shell) (name value : Text) : Shell :=
    shell.putVariable name { (shell.binding? name).getD {} with value := some value }
  let shell := reset shell "IFS".toList [' ', '\t', '\n']
  let shell := reset shell "OPTIND".toList ['1']
  reset shell "PPID".toList (number parent)

/-- Whether two paths lead to the same directory. -/
def leadToSame (first second : Text) : Work Bool := do
  let facts (path : Text) : Work Reply := Work.ask (.query (.file (Bytes.ofChars path) true))
  match ← facts first, ← facts second with
  | .facts left, .facts right => return left.number = right.number && left.kind = right.kind
  | _, _ => return false

/-- Finds out where the shell is. A path from the environment is believed if it leads there. -/
def findPlace : Work Unit := do
  let name := "PWD".toList
  let given := ((← get).variableValue? name).getD []
  let isRight ← if given.head? = some '/' then leadToSame given ['.'] else pure false
  let path ← if isRight then pure given else Builtin.physicalPath
  modify fun shell =>
    { shell.putVariable name { value := some path, exported := true } with directory := path }

/-- A number that the system answers with. -/
def askNumber (query : Query) : Task Nat := do
  match ← Task.ask (.query query) with
  | .number value => return value
  | _ => return 0

/-- The shell as a program. -/
def program (arguments : List Bytes) (environment : List (Bytes × Bytes)) : Task Nat := do
  let process ← askNumber .ownNumber
  let parent ← askNumber .parentNumber
  let words := arguments.map Bytes.toChars
  let bindings := (initialVariables parent).map fun (name, value) =>
    (name, { value := some value : Variable })
  let shell : Shell := { name := words.headD "sh".toList, process, bindings }
  runToExit workLimit
    (do
      findPlace
      runScript words.tail)
    (resetVariables parent (takeOver environment shell))

end Pipework.Shell
