import Pipework.Executor.Event
import Pipework.Executor.Startup
import Pipework.Task

set_option autoImplicit false

/-!
Trials: the making of one process outside any pipeline, with chosen endpoints, some of which may be
closed behind the back of their owners. A trial feeds the process, collects what it writes, and waits
for its end.
-/

namespace Pipework

open Kernel

/-- An endpoint that a trial hands to the process it makes. -/
inductive TrialEndpoint where
  | stdin
  | stdout
  | unused
  deriving DecidableEq, Repr

/-- The making of a single process. -/
structure Trial where
  stage : Stage
  /-- What the process can read, if its standard input is an endpoint. -/
  input : Option Bytes := none
  /-- Whether its standard output is an endpoint. -/
  output : Bool := false
  /-- Whether it gets an endpoint that it has no use for. -/
  unused : Bool := false
  /-- The endpoints that are closed behind the back of their owners. -/
  broken : List TrialEndpoint := []
  /-- Whether the endpoint of its standard output sits on 0. -/
  outputOnZero : Bool := false
  /-- Whether nobody waits for its end. -/
  detached : Bool := false

/-- What came of a trial. -/
structure TrialReport where
  process : Nat
  captured : Option Bytes := none
  status : Option Status := none
  deriving DecidableEq, Repr

/-- The answer of a trial: what was recorded, and what came of it. -/
abbrev TrialAnswer := List Event × Except Errno TrialReport

/-- How a trial ends: in the maker with an answer, in the process that was made by becoming a stage. -/
inductive TrialEnd where
  | answer (answer : TrialAnswer)
  | become (startup : Startup)

namespace Trial

/-- The endpoints that a trial has opened. -/
structure Held where
  stdin : Option Nat := none
  /-- The end that the trial reads, and the end that the process writes. -/
  stdout : Option (Nat × Nat) := none
  unused : Option Nat := none
  trace : List Event := []

/-- Closes some descriptors whatever comes of it. -/
def closeAll : List Nat → Task Unit
  | [] => .done ()
  | descriptor :: later => do
    let _ ← Task.ask (.close descriptor)
    closeAll later

/-- Closes some endpoints, with a record of each. -/
def closeRecorded (held : Held) : List (Side × Nat) → Task Held
  | [] => .done held
  | (side, descriptor) :: later => do
    let _ ← Task.ask (.close descriptor)
    closeRecorded { held with trace := held.trace ++ [.closing side descriptor] } later

/-- Gives up: releases what was opened. -/
def abandon (held : Held) (errno : Errno) : Task TrialEnd := do
  closeAll (held.stdin.toList ++ (held.stdout.map fun ends => [ends.1, ends.2]).getD [] ++
    held.unused.toList)
  return .answer (held.trace, .error errno)

/-- Opens a channel and goes on with its ends, or gives up. -/
def withChannel (held : Held) (use : Nat → Nat → Held → Task TrialEnd) : Task TrialEnd := do
  match ← Task.ask .pipe with
  | .ends read write => use read write { held with trace := held.trace ++ [.opened read write] }
  | .failed errno => abandon held errno
  | _ => abandon held .inputOutput

/-- Opens the channel that feeds the process, if there is one, with its input already in it. -/
def openInput (trial : Trial) (held : Held) (next : Held → Task TrialEnd) : Task TrialEnd :=
  match trial.input with
  | none => next held
  | some data => withChannel held fun read write held => do
    let _ ← Task.ask (.write write data)
    next (← closeRecorded { held with stdin := some read } [(.write, write)])

/-- Opens the channel that collects the output of the process, if there is one. -/
def openOutput (trial : Trial) (held : Held) (next : Held → Task TrialEnd) : Task TrialEnd :=
  if trial.output then
    withChannel held fun read write held => next { held with stdout := some (read, write) }
  else next held

/-- Opens the channel whose read end the process has no use for, if there is one. -/
def openUnused (trial : Trial) (held : Held) (next : Held → Task TrialEnd) : Task TrialEnd :=
  if trial.unused then
    withChannel held fun read write held => do
      next (← closeRecorded { held with unused := some read } [(.write, write)])
  else next held

/-- The number of an endpoint in the process that is made. -/
def Held.endpoint? (held : Held) : TrialEndpoint → Option Nat
  | .stdin => held.stdin
  | .stdout => held.stdout.map Prod.snd
  | .unused => held.unused

/-- The part of the process that is made. -/
def inChild (trial : Trial) (held : Held) : Task TrialEnd := do
  closeAll (trial.broken.filterMap held.endpoint?)
  let streams : Streams := ⟨held.stdin, held.stdout.map Prod.snd⟩
  match trial.outputOnZero, streams.stdout with
  | true, some endpoint => do
    let _ ← Task.ask (.duplicate endpoint 0)
    return .become (.begin trial.stage { streams with stdout := some 0 } held.unused)
  | _, _ => return .become (.begin trial.stage streams held.unused)

/-- How much is read at once. -/
def readSize : Nat := 65536

/-- Reads a descriptor to its end. -/
def readAll (descriptor : Nat) : Nat → Bytes → Task Bytes
  | 0, collected => .done collected
  | moves + 1, collected => do
    match ← Task.ask (.read descriptor readSize) with
    | .data [] => return collected
    | .data bytes => readAll descriptor moves (collected ++ bytes)
    | .failed .interrupted => readAll descriptor moves collected
    | _ => return collected

/-- More reads than any process can give rise to. -/
def readLimit : Nat := 1 <<< 40

/-- Collects the output of the process, if there is a channel for it. -/
def collect (held : Held) : Task (Held × Option Bytes) :=
  match held.stdout with
  | none => .done (held, none)
  | some (read, _) => do
    let bytes ← readAll read readLimit []
    return (← closeRecorded held [(.read, read)], some bytes)

/-- Waits for a process, again and again while signals come in between. -/
def awaitEnd (process : Nat) : Nat → Task Reply
  | 0 => .done (.failed .interrupted)
  | attempts + 1 => do
    match ← Task.ask (.waitFor process) with
    | .failed .interrupted => awaitEnd process attempts
    | reply => return reply

/-- The part of the maker. -/
def inMaker (trial : Trial) (held : Held) (process : Nat) : Task TrialEnd := do
  let held ← closeRecorded { held with trace := held.trace ++ [.forked process] }
    ((held.stdin.map fun read => (Side.read, read)).toList ++
      (held.stdout.map fun ends => (Side.write, ends.2)).toList ++
      (held.unused.map fun read => (Side.read, read)).toList)
  let (held, captured) ← collect held
  if trial.detached then return .answer (held.trace, .ok { process, captured })
  else
    match ← awaitEnd process readLimit with
    | .ended _ how =>
      match how.status? process with
      | none => return .answer (held.trace, .error .invalidArgument)
      | some status => return .answer (held.trace, .ok { process, captured, status })
    | .failed errno => return .answer (held.trace, .error errno)
    | _ => return .answer (held.trace, .ok { process, captured })

/-- All of a trial. -/
def task (trial : Trial) : Task TrialEnd :=
  openInput trial {} fun held =>
    openOutput trial held fun held =>
      openUnused trial held fun held => do
        match ← Task.ask .fork with
        | .child => inChild trial held
        | .number process => inMaker trial held process
        | .failed errno => abandon held errno
        | _ => abandon held .inputOutput

end Trial

end Pipework
