import Pipework.Shell.Syntax
import Pipework.Signal

set_option autoImplicit false

/-!
What a shell remembers: its variables, parameters, functions and aliases, the processes it has not waited for,
and how its last command ended.
-/

namespace Pipework

namespace Shell

/-- A variable. It may be exported before it has a value. -/
structure Variable where
  value : Option Text := none
  /-- Whether programs started from here see it. -/
  exported : Bool := false
  readOnly : Bool := false
  deriving DecidableEq, Repr

/-- Processes that were started together and are not waited for at once. -/
structure Job where
  number : Nat
  /-- The last one says how the job ended. -/
  processes : List Nat
  endings : List (Nat × Termination) := []
  /-- Whether a script has learnt how the job ended. -/
  reported : Bool := false
  deriving DecidableEq, Repr

/-- What is put back when a function has been carried out. -/
structure Frame where
  /-- What the local variables hide. -/
  hidden : List (Text × Option Variable) := []
  /-- The options that were set, if they are local. -/
  options : Option (List String) := none
  deriving DecidableEq, Repr

/-- How far `getopts` has come. -/
structure OptionPlace where
  /-- The argument to look at next, counted from one. -/
  index : Nat := 1
  /-- The place in the argument before it, if letters are left there. -/
  offset : Option Nat := none
  deriving DecidableEq, Repr

/-- The options of a shell by name, with their letters. -/
def optionLetters : List (String × Option Char) :=
  [("errexit", some 'e'), ("noglob", some 'f'), ("ignoreeof", some 'I'), ("interactive", some 'i'),
    ("monitor", some 'm'), ("noexec", some 'n'), ("stdin", some 's'), ("xtrace", some 'x'),
    ("verbose", some 'v'), ("vi", some 'V'), ("emacs", some 'E'), ("noclobber", some 'C'),
    ("allexport", some 'a'), ("notify", some 'b'), ("nounset", some 'u'), ("privileged", some 'p'),
    ("nolog", none), ("debug", none)]

end Shell

/-- The state of a shell. -/
structure Shell where
  /-- Under which name the script runs. -/
  name : Text
  parameters : List Text := []
  bindings : List (Text × Shell.Variable) := []
  /-- What the functions that are being carried out will put back, the innermost first. -/
  frames : List Shell.Frame := []
  functions : List (Text × Shell.Command) := []
  aliases : List (Text × Text) := []
  /-- The path by which the shell came to its working directory, if that is known. -/
  directory : Text := []
  /-- Where programs were found. -/
  tracked : List (Text × Text) := []
  /-- The options that are set. -/
  options : List String := []
  /-- What is done when signals arrive, or, for 0, at the exit. An empty text means nothing. -/
  traps : List (Signal × Text) := []
  /-- The signals that were found to be ignored from the start. They stay so. -/
  fixed : List Signal := []
  /-- Signals that have arrived and have a trap. -/
  arrived : List Signal := []
  /-- The status from before a trap, for an exit within it. -/
  statusBeforeTrap : Option Nat := none
  /-- How the last command ended. -/
  status : Nat := 0
  /-- How the last script within a word ended. -/
  outputStatus : Nat := 0
  process : Nat
  jobs : List Shell.Job := []
  /-- The last process that was not waited for at once. -/
  lastBackground : Option Nat := none
  /-- The line of the present command. -/
  line : Nat := 0
  /-- The line up to which the script was read. -/
  readUpTo : Nat := 0
  /-- The builtin command that is being carried out. -/
  command : Option Text := none
  /-- How many loops are around the present command. -/
  loops : Nat := 0
  optionPlace : Shell.OptionPlace := {}
  /-- The documents of the scripts that were read. -/
  documents : List (Nat × Shell.Word) := []
  nextDocument : Nat := 0
  /-- What builtin commands have printed and is not written yet. -/
  output : List Text := []

namespace Shell

/-- Decimal digits. -/
def number (value : Nat) : Text := (toString value).toList

/-- The number that decimal digits stand for. -/
def digits? (text : Text) : Option Nat :=
  if !text.isEmpty && text.all Char.isDigit then
    some (text.foldl (fun value char => value * 10 + (char.toNat - '0'.toNat)) 0)
  else none

/-- Replaces the entry of a key, or adds one at the end. -/
def putEntry {α : Type} (key : Text) (value : α) : List (Text × α) → List (Text × α)
  | [] => [(key, value)]
  | entry :: later =>
    if entry.1 = key then (key, value) :: later else entry :: putEntry key value later

def dropEntry {α : Type} (key : Text) (entries : List (Text × α)) : List (Text × α) :=
  entries.filter fun entry => entry.1 != key

def hasOption (shell : Shell) (option : String) : Bool := shell.options.contains option

/-- Sets or clears an option. -/
def setOption (shell : Shell) (option : String) (isSet : Bool) : Shell :=
  let others := shell.options.filter (· != option)
  { shell with options := if isSet then option :: others else others }

/-- The letters of the options that are set. -/
def optionText (shell : Shell) : Text :=
  optionLetters.reverse.filterMap fun (name, letter) => if shell.hasOption name then letter else none

def binding? (shell : Shell) (name : Text) : Option Variable := shell.bindings.lookup name

/-- The value of a variable, if it has one. -/
def variableValue? (shell : Shell) (name : Text) : Option Text :=
  (shell.binding? name).bind Variable.value

def putVariable (shell : Shell) (name : Text) (binding : Variable) : Shell :=
  { shell with bindings := putEntry name binding shell.bindings }

/-- Takes notice of a change of a variable: `getopts` may have to begin anew, and programs to be looked for. -/
def afterChange (shell : Shell) (name : Text) : Shell :=
  match String.ofList name with
  | "OPTIND" =>
    let index := ((shell.variableValue? name).bind digits?).getD 1
    { shell with optionPlace := { index := max 1 index } }
  | "PATH" => { shell with tracked := [] }
  | _ => shell

/-- Gives a variable a value. -/
def assign (shell : Shell) (name value : Text) : Shell :=
  let binding := (shell.binding? name).getD {}
  let exported := binding.exported || shell.hasOption "allexport"
  (shell.putVariable name { binding with value := some value, exported }).afterChange name

/-- Puts a variable back as it was. -/
def restore (shell : Shell) (name : Text) (hidden : Option Variable) : Shell :=
  let restored :=
    match hidden with
    | some binding => shell.putVariable name binding
    | none => { shell with bindings := dropEntry name shell.bindings }
  restored.afterChange name

/-- Makes a variable local to the present function, with the value that it has. -/
def makeLocal (shell : Shell) (name : Text) : Shell :=
  match shell.frames with
  | [] => shell
  | frame :: outer =>
    if frame.hidden.any (·.1 = name) then shell
    else
      let hidden := (name, shell.binding? name) :: frame.hidden
      let shell := { shell with frames := { frame with hidden } :: outer }
      if (shell.binding? name).isSome then shell else shell.putVariable name {}

/-- Makes the options local to the present function. -/
def makeOptionsLocal (shell : Shell) : Shell :=
  match shell.frames with
  | [] => shell
  | frame :: outer =>
    { shell with frames := { frame with options := frame.options <|> some shell.options } :: outer }

def openFrame (shell : Shell) : Shell := { shell with frames := {} :: shell.frames }

/-- Puts back what was local to a function. -/
def closeFrame (shell : Shell) : Shell :=
  match shell.frames with
  | [] => shell
  | frame :: outer =>
    frame.hidden.foldl (fun shell (name, hidden) => shell.restore name hidden)
      { shell with frames := outer, options := frame.options.getD shell.options }

/-- The character that joins parameters, if there is one. -/
def joiner (shell : Shell) : Text :=
  match shell.variableValue? "IFS".toList with
  | none => [' ']
  | some separators => separators.take 1

/-- The characters at which values are split. -/
def separators (shell : Shell) : Text :=
  (shell.variableValue? "IFS".toList).getD [' ', '\t', '\n']

/-- The value of a variable or a parameter, if it is set. -/
def value? (shell : Shell) (name : Text) : Option Text :=
  match name with
  | ['#'] => some (number shell.parameters.length)
  | ['?'] => some (number shell.status)
  | ['$'] => some (number shell.process)
  | ['!'] => shell.lastBackground.map number
  | ['-'] => some shell.optionText
  | ['@'] | ['*'] =>
    if shell.parameters.isEmpty then none else some (List.intercalate shell.joiner shell.parameters)
  | _ =>
    match digits? name with
    | some 0 => some shell.name
    | some place => shell.parameters[place - 1]?
    | none => shell.variableValue? name

/-- Names are kept in some number of groups, and in a group in the order in which they were made. -/
def nameGroup (groups : Nat) (name : Text) : Nat :=
  (name.foldl (fun sum char => sum + char.toNat) ((name.headD '\x00').toNat * 16)) % groups

/-- Entries in the order of the groups of their names. -/
def byGroup {α : Type} (groups : Nat) (entries : List (Text × α)) : List (Text × α) :=
  entries.mergeSort fun left right => nameGroup groups left.1 ≤ nameGroup groups right.1

/-- The groups of variables and of aliases. -/
def nameGroups : Nat := 39

/-- The groups of the programs that were found. -/
def programGroups : Nat := 31

/-- The variables that programs started from here see. -/
def environment (shell : Shell) : List (Bytes × Bytes) :=
  let exported := shell.bindings.filterMap fun (name, binding) =>
    if binding.exported then binding.value.map (name, ·) else none
  (byGroup nameGroups exported).map fun (name, value) => (Bytes.ofChars name, Bytes.ofChars value)

/-- A text in quotes, so that it is read back as one word. -/
def quoteText (text : Text) : Text :=
  let rec pieces : Nat → Text → Text
    | 0, _ => []
    | fuel + 1, text =>
      let plain := text.takeWhile (· ≠ '\x27')
      let after := text.drop plain.length
      let quotes := after.takeWhile (· = '\x27')
      let shown := '\x27' :: plain ++ ['\x27']
      let doubled := if quotes.isEmpty then [] else '\x22' :: quotes ++ ['\x22']
      let rest := after.drop quotes.length
      shown ++ doubled ++ (if rest.isEmpty then [] else pieces fuel rest)
  pieces (text.length + 1) text

end Shell

end Pipework
