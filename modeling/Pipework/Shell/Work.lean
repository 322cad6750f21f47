import Pipework.Shell.State
import Pipework.Task

set_option autoImplicit false

/-!
The work of a shell: system calls made one after the other by a shell that remembers things, and that may
leave what it is doing before its end.
-/

namespace Pipework.Shell

open Kernel

/-- Why a shell does not go on with the next command. -/
inductive Escape where
  /-- The shell exits. -/
  | exit
  /-- Something is wrong with what a builtin command or a word was given. -/
  | fault
  /-- So many loops are left. -/
  | breakLoops (count : Nat)
  /-- So many loops are left, and the last of them goes on with its next turn. -/
  | nextTurn (count : Nat)
  /-- A function, or a script that was read in, returns. -/
  | returned
  deriving DecidableEq, Repr

/-- What a shell does. -/
abbrev Work := ExceptT Escape (StateT Shell Task)

/-- More steps than any script makes that ends. -/
def workLimit : Nat := 1 <<< 40

namespace Work

variable {α β : Type}

/-- Makes a system call. -/
def ask (call : Call) : Work Reply :=
  ExceptT.lift (StateT.lift (Task.ask call))

/-- Makes a system call whose answer does not matter. -/
def tell (call : Call) : Work Unit := do
  let _ ← ask call
  return ()

/-- Puts back part of the state, however the work ends. -/
def restoring (restore : (before after : Shell) → Shell) (work : Work α) : Work α :=
  ExceptT.mk fun before => do
    let (result, after) ← work.run.run before
    return (result, restore before after)

/-- Does something more, however the work ends. -/
def ensuring (work : Work α) (more : Work Unit) : Work α := do
  let result : Except Escape α ← tryCatch (do return .ok (← work)) fun escape => return .error escape
  more
  match result with
  | .ok value => return value
  | .error escape => throw escape

def setStatus (status : Nat) : Work Unit := modify ({ · with status })

/-- Writes to the output for diagnostics. -/
def writeError (text : Text) : Work Unit := tell (.write 2 (Bytes.ofChars text))

/-- What diagnostics begin with: the name of the script, the line, and the builtin command at work. -/
def diagnosticHead : Work Text := do
  let shell ← get
  let command : Text :=
    match shell.command with
    | some command => command ++ ": ".toList
    | none => []
  return shell.name ++ ": ".toList ++ number shell.line ++ ": ".toList ++ command

/-- Writes a diagnostic. -/
def warn (message : Text) : Work Unit := do
  writeError ((← diagnosticHead) ++ message ++ ['\n'])

/-- Writes a diagnostic and gives up. -/
def fail (message : Text) : Work α := do
  warn message
  setStatus 2
  throw .fault

/-- Prints on behalf of a builtin command. -/
def print (text : Text) : Work Unit :=
  modify fun shell => { shell with output := text :: shell.output }

/-- How much is written at once. -/
def outputSize : Nat := 8192

/-- Writes text piece by piece. Gives whether that worked. -/
def writePieces : Nat → Text → Work Bool
  | 0, _ => return true
  | fuel + 1, text => do
    if text.isEmpty then return true
    else
      match ← ask (.write 1 (Bytes.ofChars (text.take outputSize))) with
      | .failed _ => return false
      | _ => writePieces fuel (text.drop outputSize)

/-- Writes what was printed. Gives whether that worked. -/
def writeOutput : Work Bool := do
  let text := (← get).output.reverse.flatten
  modify ({ · with output := [] })
  writePieces (text.length / outputSize + 1) text

/-- Gives a variable a value, if it may have another one. -/
def assign (name value : Text) : Work Unit := do
  let shell ← get
  if !isName name then fail (name ++ ": bad variable name".toList)
  else if (shell.binding? name).any Variable.readOnly then fail (name ++ ": is read only".toList)
  else set (shell.assign name value)

end Work

/-- The status of a process that has ended. -/
def statusOf : Termination → Nat
  | .exited code => code
  | .signaled signal => 128 + signal

/-- What is said of a process that was ended by a signal. -/
def signalTexts : List String :=
  ["Hangup", "Interrupt", "Quit", "Illegal instruction", "Trace/breakpoint trap", "Aborted", "Bus error",
    "Floating point exception", "Killed", "User defined signal 1", "Segmentation fault",
    "User defined signal 2", "Broken pipe", "Alarm clock", "Terminated", "Stack fault", "Child exited",
    "Continued", "Stopped (signal)", "Stopped", "Stopped (tty input)", "Stopped (tty output)",
    "Urgent I/O condition", "CPU time limit exceeded", "File size limit exceeded",
    "Virtual timer expired", "Profiling timer expired", "Window changed", "I/O possible",
    "Power failure", "Bad system call"]

/-- The first of the signals that programs use as they like. -/
def firstRealTime : Signal := 34

/-- What is said of a signal. -/
def signalText (signal : Signal) : String :=
  match signalTexts[signal - 1]? with
  | some text => text
  | none =>
    if signal < firstRealTime then "Unknown signal " ++ toString signal
    else "Real-time signal " ++ toString (signal - firstRealTime)

end Pipework.Shell
