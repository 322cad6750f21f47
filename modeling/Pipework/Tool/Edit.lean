import Pipework.Tool.Edit.Run
import Pipework.Tool.Option

set_option autoImplicit false

/-!
A stream editor: the commands of a script are carried out for each line of the input, and what they have made of
it is put out.
-/

namespace Pipework.Tool

open Kernel
open Edit

namespace Edit

/-- What was read of the script while the options are read, and the files that its commands write to. -/
structure Preparation where
  draft : Draft := {}
  dialect : Dialect := {}
  outputs : List Output := []

/-- Reading the options of the editor. -/
abbrev Prepares := StateT Preparation Work

/-- The name that stands for the output among the files that commands write to. -/
def outputName : Text := "/dev/stdout".toList

/-- The name that stands for the diagnostics. -/
def diagnosticsName : Text := "/dev/stderr".toList

/-- Opens files that are new among those that commands write to. -/
def openOutputs : List Text → List Output → Work (List Output)
  | [], outputs => return outputs
  | name :: later, outputs => do
    if outputs.any fun output => output.name = name then openOutputs later outputs
    else if name = outputName then openOutputs later (outputs ++ [{ name, descriptor := none }])
    else if name = diagnosticsName then openOutputs later (outputs ++ [{ name, descriptor := some 2 }])
    else
      match ← Work.openAside name .replace with
      | .ok descriptor => openOutputs later (outputs ++ [{ name, descriptor := some descriptor }])
      | .error errno => do
        Work.complain (because ("couldn't open file ".toList ++ name) errno)
        Work.leaveWith failureStatus

/-- Reports a fault of a script. -/
def failScript {α : Type} (place : ScriptPlace) (message : String) : Work α := do
  Work.complain (place.shown ++ ": ".toList ++ message.toList)
  Work.leaveWith 1

/-- Reads a part of the script. -/
def addPart (origin : Origin) (text : Text) : Prepares Unit := do
  let preparation ← get
  let (draft, fault) := preparation.draft.readPart preparation.dialect origin text
  let outputs ← (openOutputs draft.outputs.reverse preparation.outputs : Work _)
  match fault with
  | some (place, message) => (failScript place message : Work Unit)
  | none => set { preparation with draft, outputs }

/-- Reads an expression. -/
def addExpression (text : Text) : Prepares Unit := do
  let index := (← get).draft.expressionCount + 1
  modify fun preparation =>
    { preparation with draft := { preparation.draft with expressionCount := index } }
  addPart (.expression index) text

/-- Notes an option that bears on how the script is read, or reads a part of the script. -/
def noteOption (option : Given) : Prepares Unit := do
  let setDialect (change : Dialect → Dialect) : Prepares Unit :=
    modify fun preparation => { preparation with dialect := change preparation.dialect }
  match option.letter, option.argument with
  | 'e', some text => addExpression text
  | 'f', some path => do
    match ← (Work.readOperand path : Work _) with
    | .ok text => addPart (.file path) text
    | .error (.unread errno) => (Work.fail (because ("read error on ".toList ++ path) errno) : Work Unit)
    | .error fault => (Work.fail (because ("couldn't open file ".toList ++ path) fault.errno) : Work Unit)
  | 'E', _ | 'r', _ => setDialect ({ · with extended := true })
  | 'z', _ => setDialect ({ · with last := '\x00' })
  | 'P', _ => setDialect ({ · with strict := true })
  | 'S', _ => setDialect ({ · with confined := true })
  | _, _ => return ()

/-- Gives up if a script does not end well. -/
def checkScript (draft : Draft) : Work Unit := do
  match draft.blocks with
  | place :: _ => failScript place "unmatched \x60\x7b'"
  | [] => pure ()
  let labels := draft.commands.filterMap fun command =>
    match command.action with
    | .label name => some name
    | _ => none
  draft.commands.forM fun command => do
    match command.action with
    | .jump label | .jumpIfReplaced label | .jumpUnlessReplaced label =>
      if !label.isEmpty && !labels.contains label then
        Work.fail ("can't find label for jump to \x60".toList ++ label ++ ['\x27'])
    | _ => return ()

/-- Edits files. -/
def editAll (style : Style) (outputs : List Output) (sources : Sources) : Work Unit := do
  let state : State := { sources, ranges := firstRanges style.commands, outputs }
  let run : Run (Option Nat) := do
    let status ← Run.editLines stepLimit false
    if status.isSome then
      let sources := (← get).sources
      Run.work sources.giveUp
      Run.finishFile
    return status
  let (status, _) ← (run.run style).run state
  match status with
  | some status => if (← get).status = 0 then Work.leaveWith status
  | none => return ()

end Edit

/-- What is said of output that cannot be written. -/
def editComplaint : OutputComplaint := fun overflow errno =>
  if errno = .badDescriptor then [because "couldn't close stdout".toList errno]
  else if overflow then [because "couldn't write 1 item to stdout".toList errno]
  else [because "couldn't flush stdout".toList errno]

def sedOptions : OptionTable where
  letters := "bnre:f:Esi::l:uz"
  names :=
    [("quiet", 'n'), ("silent", 'n'), ("expression", 'e'), ("file", 'f'), ("in-place", 'i'),
      ("line-length", 'l'), ("posix", 'P'), ("sandbox", 'S'), ("follow-symlinks", 'Y'), ("binary", 'b'),
      ("regexp-extended", 'E'), ("separate", 's'), ("unbuffered", 'u'), ("null-data", 'z'),
      ("zero-terminated", 'z')]

/-- How the editor is used. -/
def sedUsage : String :=
  "Usage: sed [OPTION]... \x7bscript-only-if-no-other-script\x7d [input-file]...\n\n" ++
  "  -n, --quiet, --silent\n                 suppress automatic printing of pattern space\n" ++
  "      --debug\n                 annotate program execution\n" ++
  "  -e script, --expression=script\n" ++
  "                 add the script to the commands to be executed\n" ++
  "  -f script-file, --file=script-file\n" ++
  "                 add the contents of script-file to the commands to be executed\n" ++
  "  --follow-symlinks\n                 follow symlinks when processing in place\n" ++
  "  -i[SUFFIX], --in-place[=SUFFIX]\n" ++
  "                 edit files in place (makes backup if SUFFIX supplied)\n" ++
  "  -l N, --line-length=N\n" ++
  "                 specify the desired line-wrap length for the \x60l' command\n" ++
  "  --posix\n                 disable all GNU extensions.\n" ++
  "  -E, -r, --regexp-extended\n                 use extended regular expressions in the script\n" ++
  "                 (for portability use POSIX -E).\n" ++
  "  -s, --separate\n                 consider files as separate rather than as a single,\n" ++
  "                 continuous long stream.\n" ++
  "      --sandbox\n                 operate in sandbox mode (disable e/r/w commands).\n" ++
  "  -u, --unbuffered\n                 load minimal amounts of data from the input files and flush\n" ++
  "                 the output buffers more often\n" ++
  "  -z, --null-data\n                 separate lines by NUL characters\n" ++
  "      --help     display this help and exit\n" ++
  "      --version  output version information and exit\n\n" ++
  "If no -e, --expression, -f, or --file option is given, then the first\n" ++
  "non-option argument is taken as the sed script to interpret.  All\n" ++
  "remaining arguments are names of input files; if no input files are\n" ++
  "specified, then the standard input is read.\n\n"

/-- The number of columns of listed lines, if an option gives none. -/
def listWidth : Nat := 70

/-- Edits lines with a script. -/
def sed (arguments : List Text) : Work Unit := do
  let options : Prepares (List Given × List Text) := readOptionsWith noteOption sedOptions arguments
  let prepares : Prepares (List Given × List Text) := do
    let (given, operands) ← options
    if !(← get).draft.isNew then return (given, operands)
    else
      match operands with
      | [] => (Work.leaveMisused : Work _)
      | script :: operands => do
        addExpression script
        return (given, operands)
  let ((given, operands), preparation) ← prepares.run {}
  let draft := preparation.draft
  checkScript draft
  let inPlace := (given.find? fun option => option.letter = 'i').map fun _ => (argumentOf? given 'i').getD []
  if inPlace.isSome && operands.isEmpty then Work.fail "no input files".toList
  let style : Style :=
    { commands := draft.commands.reverse.toArray
      quiet := hasLetter given 'n' || draft.isQuiet
      separate := hasLetter given 's' || inPlace.isSome
      inPlace
      strict := preparation.dialect.strict
      place := draft.place.afterwards
      listWidth := ((argumentOf? given 'l').map fun text => digitsValue (text.takeWhile isDigit)).getD listWidth }
  editAll style preparation.outputs
    { later := if operands.isEmpty then [inputOperand] else operands
      hasInput := inPlace.isNone
      last := preparation.dialect.last }

end Pipework.Tool
