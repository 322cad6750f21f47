import Pipework.Permission
import Pipework.Shell.Builtin.Argument
import Pipework.Shell.Job

set_option autoImplicit false

/-!
The builtin commands about processes: signals, traps, jobs, and what new files and processes may do.
-/

namespace Pipework.Shell.Builtin

open Kernel

/-- How many signals there are, and one more. -/
def signalCount : Nat := 65

/-- The name of a signal in the lists of the shell. -/
def signalName (signal : Signal) : Text :=
  if signal = 0 then "EXIT".toList
  else if signal = 16 || signal = 32 || signal = 33 then number signal
  else
    match Signal.names[signal - 1]? with
    | some name => name.toList
    | none =>
      if signal = firstRealTime then "RTMIN".toList
      else if signal = 64 then "RTMAX".toList
      else if signal < 50 then "RTMIN+".toList ++ number (signal - firstRealTime)
      else "RTMAX-".toList ++ number (64 - signal)

/-- The signal that a text stands for, from some number on. -/
def readSignal? (least : Signal) (text : Text) : Option Signal :=
  match digits? text with
  | some signal => if signal < signalCount then some signal else none
  | none =>
    let upper := text.map Char.toUpper
    (List.range signalCount).find? fun signal => least ≤ signal && signalName signal = upper

/-- How `kill` is used. -/
def killUsage : Text :=
  ("Usage: kill [-s sigspec | -signum | -sigspec] [pid | job]... or\n" ++ "kill -l [exitstatus]").toList

/-- Lists the names of signals, or the one that a status stands for. -/
def listSignals : List Text → Work Nat
  | [] => do
    Work.print ['0', '\n']
    ((List.range signalCount).drop 1).forM fun signal => Work.print (signalName signal ++ ['\n'])
    return 0
  | status :: _ => do
    let value ← naturalArgument status
    let signal := if 128 < value then value - 128 else value
    if 0 < signal && signal < signalCount then
      Work.print (signalName signal ++ ['\n'])
      return 0
    else Work.fail ("invalid signal number or exit status: ".toList ++ status)

/-- The job that a text such as `%1` stands for. -/
def findJob (text : Text) : Work Job := do
  let shell ← get
  let latest := shell.jobs.reverse
  let found :=
    match if text.head? = some '%' then text.tail else ['x'] with
    | [] | ['%'] | ['+'] => latest.head?
    | ['-'] => (latest.drop 1).head?
    | rest => (digits? rest).bind fun number => shell.jobs.find? fun job => job.number = number
  match found with
  | some job => return job
  | none => Work.fail ("No such job: ".toList ++ text)

/-- Sends a signal to processes. -/
def sendAll (signal : Signal) : List Text → Nat → Work Nat
  | [], status => return status
  | target :: later, status => do
    let reply ←
      if target.head? = some '%' then do
        let _ ← findJob target
        pure (.failed .noProcess)
      else if target.head? = some '-' then do
        let _ ← naturalArgument target.tail
        pure (.failed .noProcess)
      else do Work.ask (.kill (← naturalArgument target) signal)
    match reply with
    | .failed errno => do
      Work.warn (errno.text.toList ++ ['\n'])
      sendAll signal later 1
    | _ => sendAll signal later status

/-- Reads the signal in front of the targets, and whether names are to be listed. -/
def readKill (arguments : List Text) : Work (Option Signal × Bool × List Text) := do
  match arguments with
  | ('-' :: name) :: targets =>
    match readSignal? 1 name with
    | some signal => return (some signal, false, targets)
    | none => do
      let (given, targets) ← readOptions "ls:" arguments
      let named := given.filterMap fun entry => entry.2
      let lists := given.any fun entry => entry.1 = 'l'
      match named.getLast? with
      | none => return (none, lists, targets)
      | some name =>
        match readSignal? 1 name with
        | some signal => return (some signal, lists, targets)
        | none => Work.fail ("invalid signal number or name: ".toList ++ name)
  | _ => return (none, false, arguments)

def kill : Builtin := fun arguments => do
  if arguments.isEmpty then Work.fail killUsage
  else
    let (signal, lists, targets) ← readKill arguments
    if lists then
      if signal.isSome then Work.fail killUsage else listSignals targets
    else if targets.isEmpty then Work.fail killUsage
    else sendAll (signal.getD 15) targets 0

/-- The traps as commands. -/
def trapLines (traps : List (Signal × Text)) : Text :=
  let sorted := traps.mergeSort fun left right => left.1 ≤ right.1
  sorted.flatMap fun (signal, action) =>
    "trap -- ".toList ++ quoteText action ++ ' ' :: signalName signal ++ ['\n']

/-- Whether the shell was started with a signal ignored, which it then cannot change. -/
def isIgnoredForGood (signal : Signal) : Work Bool := do
  let shell ← get
  if shell.fixed.contains signal then return true
  else if (shell.traps.any fun trap => trap.1 = signal) then return false
  else
    match ← Work.ask (.query (.ignores signal)) with
    | .number 1 => do
      set { shell with fixed := signal :: shell.fixed }
      return true
    | _ => return false

/-- Sets or clears the trap of a signal. -/
def setTrap (action : Option Text) (signal : Signal) : Work Unit := do
  let fixed ← if signal = 0 then pure false else isIgnoredForGood signal
  let others := (← get).traps.filter fun trap => trap.1 ≠ signal
  let traps :=
    match action with
    | some text => others ++ [(signal, text)]
    | none => others
  modify ({ · with traps })
  if signal ≠ 0 && !fixed then
    let becomes : SignalAction :=
      match action with
      | none => .usual
      | some [] => .ignore
      | some _ => .handle
    Work.tell (.configure (.signal signal becomes))

def setTraps (action : Option Text) : List Text → Work Nat
  | [] => return 0
  | name :: later => do
    match readSignal? 0 name with
    | none => do
      Work.writeError ("trap: ".toList ++ name ++ ": bad trap\n".toList)
      return 1
    | some signal => do
      setTrap action signal
      setTraps action later

def trap : Builtin := fun arguments => do
  let (_, operands) ← readOptions "" arguments
  match operands with
  | [] => do
    Work.print (trapLines (← get).traps)
    return 0
  | [name] => setTraps none [name]
  | action :: names =>
    if (digits? action).any (· < signalCount) then setTraps none operands
    else setTraps (if action = ['-'] then none else some action) names

/-- Waits for the job of a process or of a job number. -/
def waitForOne (target : Text) : Work Nat := do
  let job ←
    if target.head? = some '%' then do pure (some (← findJob target))
    else do
      let process ← naturalArgument target
      pure ((← get).jobs.find? fun job => job.processes.getLast? = some process)
  match job with
  | none => return 127
  | some job => do
    match ← awaitJobs (·.number = job.number) true workLimit with
    | some signal => return 128 + signal
    | none => do
      modify fun shell =>
        { shell with
          jobs := shell.jobs.map fun other =>
            if other.number = job.number then { other with reported := true } else other }
      return (((← get).jobs.find? (·.number = job.number)).getD job).status

def waitForAll : List Text → Nat → Work Nat
  | [], status => return status
  | target :: later, _ => do
    let status ← waitForOne target
    waitForAll later status

def wait : Builtin := fun arguments => do
  let (_, targets) ← readOptions "" arguments
  if targets.isEmpty then
    match ← awaitJobs (fun _ => true) false workLimit with
    | some signal => return 128 + signal
    | none => do
      modify fun shell =>
        { shell with jobs := shell.jobs.map fun job => { job with reported := true } }
      return 0
  else waitForAll targets 0

/-- How a job is doing. -/
def jobState (job : Job) : Text :=
  if !job.hasEnded then "Running".toList
  else
    match job.processes.getLast?.bind fun process => job.endings.lookup process with
    | some (.signaled signal) => (signalText signal).toList
    | some (.exited 0) | none => "Done".toList
    | some (.exited code) => "Done(".toList ++ number code ++ [')']

/-- Shows a job, and forgets it if it has ended. With `p`, its first process alone is shown. -/
def showJob (letters : Text) (job : Job) : Work Unit := do
  let first := (job.processes.head?.map number).getD []
  if letters.contains 'p' then Work.print (first ++ ['\n'])
  else
    let latest := (← get).jobs.reverse
    let place := latest.findIdx? fun other => other.number = job.number
    let mark := if place = some 0 then '+' else if place = some 1 then '-' else ' '
    let process := if letters.contains 'l' then first ++ [' '] else []
    let head := '[' :: number job.number ++ "] ".toList ++ mark :: ' ' :: process ++ jobState job
    Work.print (head ++ List.replicate (33 - head.length) ' ' ++ ['\n'])
    if job.hasEnded then modify (dropJob job.number)

/-- Shows jobs, the latest first if none are named. -/
def showJobs : Builtin := fun arguments => do
  let (given, operands) ← readOptions "lp" arguments
  let letters := given.map Prod.fst
  if operands.isEmpty then (← get).jobs.reverse.forM (showJob letters)
  else operands.forM fun operand => do showJob letters (← findJob operand)
  return 0

/-- Jobs are not moved between foreground and background. -/
def moveJob : Builtin := fun arguments => do
  let (_, operands) ← readOptions "" arguments
  match operands with
  | [] => Work.fail "No current job".toList
  | operand :: _ => do
    let _ ← findJob operand
    Work.fail ("job ".toList ++ operand ++ " not created under job control".toList)

/-- What the users of a mask may do. -/
def maskText (mask : Nat) : Text :=
  let mode := Permission.without 0o777 mask
  let part (who : Char) (shift : Nat) : Text := who :: '=' :: Permission.letters mode shift
  part 'u' 6 ++ ',' :: part 'g' 3 ++ ',' :: part 'o' 0

def setMask : Builtin := fun arguments => do
  let (given, operands) ← readOptions "S" arguments
  let mask ← match ← Work.ask (.query .mask) with
    | .number mask => pure mask
    | _ => pure 0
  match operands with
  | [] => do
    Work.print ((if given.isEmpty then Permission.octalText mask else maskText mask) ++ ['\n'])
    return 0
  | text :: _ => do
    if text.head?.any Char.isDigit then
      match Permission.readOctal? text with
      | some mask => Work.tell (.configure (.mask (mask &&& 0o777)))
      | none => failNumber text
    else
      match Permission.readFreely? text with
      | some changes =>
        let mode := Permission.applyAll 0 false (Permission.without 0o777 mask) changes
        Work.tell (.configure (.mask (Permission.without 0o777 mode)))
      | none => Work.fail ("Illegal mode: ".toList ++ text)
    return 0

/-- The letters of what could be limited. -/
def limitLetters : String := "tfdscmlpnvwr"

/-- Nothing is limited, and limits that are asked for are not kept. -/
def showLimit : Builtin := fun arguments => do
  let (_, operands) ← readOptions ("HSa" ++ limitLetters) arguments
  match operands with
  | [] => Work.print "unlimited\n".toList
  | [operand] =>
    unless operand == "unlimited".toList || operand.all Char.isDigit do
      Work.fail "bad number".toList
  | _ => Work.fail "too many arguments".toList
  return 0

/-- Time is not measured. -/
def showTimes : Builtin := fun _ => do
  let line := "0m0.000000s 0m0.000000s\n".toList
  Work.print (line ++ line)
  return 0

end Pipework.Shell.Builtin
