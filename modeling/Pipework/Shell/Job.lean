import Pipework.Shell.Work

set_option autoImplicit false

/-!
The processes of a shell: how they are made and how the shell waits for them. A process that is ended by a
signal while the shell waits for it is reported.
-/

namespace Pipework.Shell

open Kernel

/-- Makes a process that does something and exits, and goes on with its number. -/
def inNewProcess (part : Shell → Task Nat) : Work (Option Nat) :=
  ExceptT.mk fun shell =>
    .call .fork fun
      | .child => (part shell).bind fun status => .call (.exit status) fun _ => .done (.error .exit, shell)
      | .number process => .done (.ok (some process), shell)
      | _ => .done (.ok none, shell)

/-- Reports the end of a process by a signal, unless that is nothing unusual. -/
def announce (how : Termination) : Work Unit :=
  match how with
  | .signaled signal =>
    if signal = Signal.interrupt || signal = Signal.pipe then pure ()
    else Work.writeError ((signalText signal).toList ++ ['\n'])
  | .exited _ => pure ()

/-- Notes how a process of some job ended. -/
def noteEnding (process : Nat) (how : Termination) (shell : Shell) : Shell :=
  { shell with
    jobs := shell.jobs.map fun job =>
      if job.processes.contains process then { job with endings := (process, how) :: job.endings }
      else job }

/-- Waits until all of some processes have ended. -/
def awaitEndings (processes : List Nat) :
    Nat → List (Nat × Termination) → Work (List (Nat × Termination))
  | 0, endings => return endings
  | fuel + 1, endings => do
    if processes.all fun process => (endings.lookup process).isSome then return endings
    else
      match ← Work.ask .wait with
      | .ended process how => do
        modify (noteEnding process how)
        if processes.contains process then
          announce how
          awaitEndings processes fuel ((process, how) :: endings)
        else awaitEndings processes fuel endings
      | .failed .interrupted => awaitEndings processes fuel endings
      | _ => return endings

/-- The status of processes that belong together. -/
def statusOfLast (processes : List Nat) (endings : List (Nat × Termination)) : Nat :=
  match processes.getLast?.bind fun process => endings.lookup process with
  | some how => statusOf how
  | none => 127

namespace Job

/-- Whether all processes of a job have ended. -/
def hasEnded (job : Job) : Bool := job.processes.all fun process => (job.endings.lookup process).isSome

def status (job : Job) : Nat := statusOfLast job.processes job.endings

end Job

/-- Forgets a job. -/
def dropJob (number : Nat) (shell : Shell) : Shell :=
  { shell with jobs := shell.jobs.filter fun job => job.number != number }

/-- The number that the next job gets. The number of a job that a script has seen the end of is taken again. -/
def nextJobNumber (shell : Shell) : Nat :=
  let lasting := shell.jobs.filter fun job => !(job.hasEnded && job.reported)
  let taken := lasting.map Job.number
  (((List.range (taken.length + 1)).map (· + 1)).find? fun number => !taken.contains number).getD 1

/-- Forgets the job whose number is taken again. -/
def claimNumber (shell : Shell) : Shell := dropJob (nextJobNumber shell) shell

/-- Waits for processes that belong together, and takes on the status of the last. They have the number of a
job for as long as they run. -/
def await (processes : List Nat) : Work Unit := do
  modify claimNumber
  let endings ← awaitEndings processes workLimit []
  Work.setStatus (statusOfLast processes endings)

/-- Notes processes that are not waited for at once. -/
def addJob (processes : List Nat) (shell : Shell) : Shell :=
  let number := nextJobNumber shell
  { shell with
    jobs := (dropJob number shell).jobs ++ [{ number, processes }]
    lastBackground := processes.getLast? <|> shell.lastBackground }

/-- Whether some trap does something. -/
def hasTraps (shell : Shell) : Bool := shell.traps.any fun trap => !trap.2.isEmpty

/-- Notes the signals that have arrived, if there are traps for any. -/
def noteSignals : Work Unit := do
  if (← get).traps.any fun trap => trap.1 ≠ 0 && !trap.2.isEmpty then
    match ← Work.ask .takeSignals with
    | .signals arrived => modify fun shell => { shell with arrived := shell.arrived ++ arrived }
    | _ => pure ()

/-- Waits until a job has ended, or all jobs have. Gives a signal with a trap that arrives before that. -/
def awaitJobs (isWanted : Job → Bool) (reports : Bool) : Nat → Work (Option Signal)
  | 0 => return none
  | fuel + 1 => do
    if ((← get).jobs.filter isWanted).all Job.hasEnded then return none
    else
      match ← Work.ask .wait with
      | .ended process how => do
        modify (noteEnding process how)
        if reports && ((← get).jobs.filter isWanted).any fun job => job.processes.contains process then
          announce how
        awaitJobs isWanted reports fuel
      | .failed .interrupted => do
        noteSignals
        match (← get).arrived with
        | [] => awaitJobs isWanted reports fuel
        | signal :: _ => return some signal
      | _ => return none

end Pipework.Shell
