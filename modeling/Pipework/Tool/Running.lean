import Pipework.Tool.Input

set_option autoImplicit false

/-!
How tools run other programs: in place of themselves, or in a process of its own for which they wait.
-/

namespace Pipework.Tool

open Kernel

/-- The variables of an environment. -/
abbrev Variables := List (Text × Text)

def variablesOf (environment : List (Bytes × Bytes)) : Variables :=
  environment.map fun (name, value) => (Bytes.toChars name, Bytes.toChars value)

/-- The status after a program could not be run. -/
def loadFailure (errno : Errno) : Nat := if errno = .noEntry then 127 else 126

/-- Becomes another program. Comes back only if that fails, with the reason. -/
def become (environment : Variables) (arguments : List Text) : Work Errno := do
  let settings := environment.map fun (name, value) => (Bytes.ofChars name, Bytes.ofChars value)
  Work.tell (.configure (.environment settings))
  match ← Work.ask (.load (Bytes.ofChars (arguments.headD [])) (arguments.map Bytes.ofChars)) with
  | .failed errno => return errno
  | _ => return .noEntry

/-- Does work in a process of its own. Gives the number of the process. -/
def runAside (inChild : Work Unit) : Work (Option Nat) := do
  let name := (← get).name
  ExceptT.mk fun progress =>
    (.call .fork fun
      | .child =>
        (inChild.perform progress.habits name).bind fun status =>
          .call (.exit status) fun _ => .done (.ok none, progress)
      | .number child => .done (.ok (some child), progress)
      | _ => .done (.ok none, progress) : Task (Except Unit (Option Nat) × Progress))

/-- How a process ends. -/
def endOf (child : Nat) : Work (Option Termination) := do
  match ← Work.ask (.waitFor child) with
  | .ended _ how => return some how
  | _ => return none

/-- Runs a command in a process of its own, and waits for it. -/
def runCommand (environment : Variables) (command : List Text) : Work (Option Termination) := do
  Work.flush
  let inChild : Work Unit := do
    let errno ← become environment command
    Work.complain (because (command.headD []) errno)
    Work.leaveWith (loadFailure errno)
  match ← runAside inChild with
  | none => return none
  | some child => endOf child

/-- Runs a command of the shell, and gives what it puts out. -/
def captureOutput (command : Text) : Work Text := do
  match ← Work.ask .pipe with
  | .ends source target => do
    let inChild : Work Unit := do
      Work.tell (.duplicate target 1)
      let arguments := ["sh".toList, "-c".toList, command]
      Work.tell (.load (Bytes.ofString "/bin/sh") (arguments.map Bytes.ofChars))
      Work.leaveWith 127
    let child ← runAside inChild
    Work.tell (.close target)
    let output ← Work.readToEnd source stepLimit []
    Work.tell (.close source)
    match child with
    | some child => do
      let _ ← endOf child
      return (match output with
        | .ok text => text
        | .error _ => [])
    | none => return []
  | _ => return []

end Pipework.Tool
