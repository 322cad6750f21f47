import Pipework.Editor

set_option autoImplicit false

/-!
The command line: options are read, and lines are read and executed until there are no more or until the
executor gives up. Then the exit status tells which of the two it was.
-/

namespace Pipework

open Kernel

/-- How the program is started. -/
structure CommandLine where
  /-- The path under which it was started. -/
  path : String
  arguments : List Bytes
  input : Bytes := []
  /-- What is typed at each prompt, if the input is a terminal. -/
  typed : Option (List String) := none
  files : List (Bytes × File) := []
  searchPath : Option Bytes
  /-- Which log records are asked for. -/
  logFilter : Option String := none
  terminal : String := "xterm"
  /-- How moments are shown in the log. -/
  showTime : Nat → String

namespace CommandLine

/-- What a run of the program leaves behind. -/
structure Result where
  ending : Termination
  stdout : Bytes
  stderr : Bytes
  changes : List (Bytes × Option Bytes) := []

/-- The diagnostics with the log lines of children that were reaped together in the order in which the
children were made. -/
def Result.sortedStderr (result : Result) : Bytes :=
  Bytes.ofChars (Log.sortReaped (Tool.lines (Bytes.toChars result.stderr))).flatten

/-- The name of the program in its own diagnostics. -/
def ownName : String := "pipeline_shell"

/-- The last name in a path, unless the path ends in a reference to a directory. -/
def lastName? (path : String) : Option String :=
  let names := (path.toList.splitOnP (· = '/')).filter (! ·.isEmpty)
  let names :=
    match names with
    | ['.'] :: later =>
      if path.toList.head? = some '/' then later else ['.'] :: later.filter (· != ['.'])
    | others => others
  let names := names.take 1 ++ (names.drop 1).filter (· != ['.'])
  match names.getLast? with
  | none => none
  | some name => if name = ['.'] || name = ['.', '.'] then none else some (String.ofList name)

/-- The name under which the program describes itself. -/
def name (path : String) : String := (lastName? path).getD path

/-- The arguments as texts, or the first that is none. -/
def readTexts : List Bytes → Except Bytes (List String)
  | [] => .ok []
  | argument :: later =>
    match Bytes.toString? argument with
    | none => .error argument
    | some text => (readTexts later).map (text :: ·)

/-- A result without any run of a line. -/
def early (code : Nat) (stdout stderr : String) : Result where
  ending := .exited code
  stdout := Bytes.ofString stdout
  stderr := Bytes.ofString stderr

/-- More lines than any run reads that ends. -/
def lineLimit : Nat := System.moveLimit

/-- Puts the standard streams of the host in place: its input, and two new files for its output and its
diagnostics, whose numbers are given. -/
def connect (commandLine : CommandLine) (machine : ToolMachine) : Nat × Nat × ToolMachine :=
  let (inputNode, inputAccess) : Node × Access :=
    match commandLine.typed with
    | none => (.regular commandLine.input, .read)
    | some _ => (.device .terminal, .update)
  let (_, input, machine) := ToolMachine.openNew machine inputNode inputAccess
  let (outputFile, output, machine) := ToolMachine.openNew machine (.regular []) .append
  let (diagnosticsFile, diagnostics, machine) := ToolMachine.openNew machine (.regular []) .append
  let table : DescriptorTable :=
    ((Std.ExtTreeMap.empty.insert 0 ⟨.file input, false⟩).insert 1 ⟨.file output, false⟩).insert 2
      ⟨.file diagnostics, false⟩
  (outputFile, diagnosticsFile, ToolMachine.putDescriptors machine table)

/-- The editor of a run. -/
def editor (commandLine : CommandLine) (options : Options) : Editor where
  input :=
    match commandLine.typed with
    | none => .stream []
    | some typed => .terminal [] typed
  terminal := commandLine.terminal
  keepsHistory := !options.noHistory

/-- How the host ended, if something has ended it. -/
def hostEnding? (console : Console) : Option Termination :=
  (console.machine.processes[ToolMachine.host]?).bind Process.ending

/-- Reads and executes at most so many lines. Gives how the program ends. -/
def interpretWithin (commandLine : CommandLine) (limit : Nat) (options : Options) (console : Console) :
    Termination × Console :=
  let editor := commandLine.editor options
  let stopped := Interpreter.readAndRun Console.execute Editor.source limit { options }
    editor [] (editor.begin console)
  match stopped.result with
  | .ok () => (.exited 0, stopped.after.note .endOfInput)
  | .error halt =>
    match hostEnding? stopped.after with
    | some ending => (ending, stopped.after)
    | none => (.exited 1, stopped.after.write 2 (ownName ++ ": " ++ halt.message ++ "\n"))

/-- Reads and executes lines. Gives how the program ends. -/
def interpret (commandLine : CommandLine) (options : Options) (console : Console) :
    Termination × Console :=
  commandLine.interpretWithin lineLimit options console

/-- Runs the program with options. -/
def runWith (commandLine : CommandLine) (options : Options) : Result :=
  let (outputFile, diagnosticsFile, machine) :=
    commandLine.connect (ToolMachine.make commandLine.files commandLine.searchPath [])
  let before := ToolMachine.workingFiles machine
  let (ending, console) := commandLine.interpret options
    { machine
      filter := Log.Filter.choose commandLine.logFilter options.verbose
      showTime := commandLine.showTime }
  let machine := System.exhaust ToolMachine.behaviour
    (System.finish console.machine ToolMachine.host ending)
  { ending
    stdout := ToolMachine.content machine outputFile
    stderr := ToolMachine.content machine diagnosticsFile
    changes := ToolMachine.changes before (ToolMachine.workingFiles machine) }

/-- Runs the program. -/
def run (commandLine : CommandLine) : Result :=
  match readTexts commandLine.arguments with
  | .error argument => early 1 "" ("Invalid utf8: " ++ Bytes.toStringLossy argument ++ "\n")
  | .ok arguments =>
    let name := name commandLine.path
    match Options.ofArguments arguments with
    | .ok options => commandLine.runWith options
    | .error .help => early 0 (Options.EarlyExit.help.output name ++ "\n") ""
    | .error exit =>
      early 1 ""
        (exit.output name ++ "\nRun " ++ name ++ " --help for more information.\n")

end CommandLine

end Pipework
