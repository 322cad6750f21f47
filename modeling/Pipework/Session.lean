import Pipework.Interpreter
import Pipework.Machine

set_option autoImplicit false

/-!
Sessions: sequences of steps on one machine, with one interpreter and one executor that live through all of
them. For each step the standard streams of the host are replaced; what the step writes, records and
changes is its answer.
-/

namespace Pipework

open Kernel

/-- What a step does. -/
inductive StepAction where
  | line (text : String)
  | repl (lines : List String)
  /-- Stages for the executor of the session, or for a new one if `fresh` holds. -/
  | execute (fresh : Bool) (stages : List (Nat × String))
  | reap
  | trial (position : Nat) (program : String) (make : Stage → Trial)

/-- A step of a session. -/
structure Step where
  action : StepAction
  input : Bytes := []
  /-- The standard descriptors that are closed during the step. -/
  closed : List Nat := []
  /-- How many more descriptors the host can have during the step, if that is limited. -/
  free : Option Nat := none

/-- What a step answers with. -/
inductive StepResult where
  | report (report : Report)
  | stopped
  | reaped (statuses : List Status)
  | made (report : TrialReport)
  | fault (fault : Fault)
  | failed (errno : Errno)
  /-- A stage that cannot be made. -/
  | invalidStage (index : Nat)
  /-- The step came to no end. -/
  | endless

/-- The answer of a step. -/
structure StepAnswer where
  result : StepResult
  events : List Event
  interpreterPhase : Phase
  executorPhase : Phase
  stdout : Bytes
  stderr : Bytes
  leaked : Nat
  changes : List (Bytes × Option Bytes)

/-- A session between two steps. -/
structure Session where
  interpreter : Interpreter
  executorPhase : Phase := .idle
  machine : ToolMachine
  /-- The children that were made, in order. -/
  children : List Nat := []

namespace Session

/-- The name of a child: its place in the order of creation. -/
def childName (children : List Nat) (process : Nat) : String :=
  "p" ++ toString (children.findIdx (· == process))

/-- Statuses in the order of their children. -/
def sortStatuses (statuses : List Status) : List Status :=
  statuses.mergeSort fun first second => first.process ≤ second.process

/-- Events with the statuses of each uninterrupted sequence of them in the order of their children. -/
def sortReaped : List Event → List Event
  | [] => []
  | event :: later =>
    match event, sortReaped later with
    | .reaped status, rest => insertReaped status rest
    | event, rest => event :: rest
where
  /-- Puts a status before the first that belongs to a later child. -/
  insertReaped (status : Status) : List Event → List Event
    | .reaped next :: rest =>
      if status.process ≤ next.process then .reaped status :: .reaped next :: rest
      else .reaped next :: insertReaped status rest
    | rest => .reaped status :: rest

/-- The child that an event says was made. -/
def madeChild? : Event → Option Nat
  | .spawned process _ _ => some process
  | .forked process => some process
  | _ => none

/-- Stages with these positions and names, or the place of the first that is none. -/
def makeStages (index : Nat) : List (Nat × String) → Except Nat (List Stage)
  | [] => .ok []
  | (position, program) :: later =>
    match Stage.make? position program with
    | none => .error index
    | some stage => (makeStages (index + 1) later).map (stage :: ·)

/-- Fills numbers from `number` on, so that only so many of the next numbers stay free. -/
def fillTable (free number : Nat) : Nat → DescriptorTable → DescriptorTable
  | 0, table => table
  | count + 1, table =>
    if number ∈ table then fillTable free (number + 1) count table
    else
      match free with
      | 0 => fillTable 0 (number + 1) count (table.insert number ⟨.file 0, true⟩)
      | free + 1 => fillTable free (number + 1) count table

/-- How many descriptors a process can have. -/
def descriptorLimit : Nat := 256

/-- The result of a run that executes stages. -/
def resultOf : Option (Except Fault Report) → StepResult
  | none => .endless
  | some (.error fault) => .fault fault
  | some (.ok report) => .report { report with reaped := sortStatuses report.reaped }

/-- Carries out a run for the executor of the session, or a new one. -/
def executeStages (session : Session) (fresh : Bool) (stages : List Stage) :
    StepResult × List Event × Session :=
  let phase := if fresh then default else session.executorPhase
  let execution := ToolMachine.execute session.machine (.ofStages phase stages)
  (resultOf execution.outcome, execution.trace,
    { session with
      machine := execution.after
      executorPhase := if fresh then session.executorPhase else execution.phase })

/-- Carries out a trial. -/
def makeTrial (session : Session) (trial : Trial) : StepResult × List Event × Session :=
  let machine := System.settle ToolMachine.behaviour ToolMachine.host
    (Machine.putProgram session.machine ToolMachine.host (.trial trial.task))
  let session := { session with machine }
  match (machine.processes[ToolMachine.host]?).map Process.program with
  | some (.trial (.done (.answer (trace, .ok report)))) => (.made report, trace, session)
  | some (.trial (.done (.answer (trace, .error errno)))) => (.failed errno, trace, session)
  | _ => (.endless, [], session)

/-- Carries out the action of a step. -/
def act (session : Session) : StepAction → StepResult × List Event × Session
  | .line text =>
    let execution := session.interpreter.runLine ToolMachine.execute text session.machine
    (resultOf execution.outcome, execution.trace,
      { session with
        machine := execution.after
        interpreter := { session.interpreter with phase := execution.phase } })
  | .repl lines =>
    let stopped := session.interpreter.repl ToolMachine.execute lines session.machine
    let result : StepResult :=
      match stopped.result with
      | .ok () => .stopped
      | .error (.fault fault) => .fault fault
      | .error _ => .endless
    (result, stopped.trace,
      { session with machine := stopped.after, interpreter := stopped.interpreter })
  | .execute fresh stages =>
    match makeStages 0 stages with
    | .error index => (.invalidStage index, [], session)
    | .ok stages => session.executeStages fresh stages
  | .reap =>
    let execution := ToolMachine.execute session.machine (.ofChildren .idle)
    let result :=
      match execution.outcome with
      | some (.ok report) => StepResult.reaped (sortStatuses report.reaped)
      | outcome => resultOf outcome
    (result, execution.trace, { session with machine := execution.after })
  | .trial position program make =>
    match Stage.make? position program with
    | none => (.invalidStage 0, [], session)
    | some stage => session.makeTrial (make stage)

/-- The table of the host during a step, without its standard descriptors. -/
def withStreams (table : DescriptorTable) (input output diagnostics : Nat) : DescriptorTable :=
  ((table.insert 0 ⟨.file input, false⟩).insert 1 ⟨.file output, false⟩).insert 2
    ⟨.file diagnostics, false⟩

/-- Carries out a step. -/
def step (session : Session) (step : Step) : StepAnswer × Session :=
  let before := ToolMachine.descriptors session.machine
  let filesBefore := ToolMachine.workingFiles session.machine
  let (_, input, machine) := ToolMachine.openNew session.machine (.regular step.input) .read
  let (outputFile, output, machine) := ToolMachine.openNew machine (.regular []) .append
  let (diagnosticsFile, diagnostics, machine) := ToolMachine.openNew machine (.regular []) .append
  let table := step.closed.foldl (fun table number => table.erase number)
    (withStreams before input output diagnostics)
  let table :=
    match step.free with
    | none => table
    | some free => fillTable free 0 descriptorLimit table
  let (result, events, after) :=
    { session with machine := ToolMachine.putDescriptors machine table }.act step.action
  let leaked := (ToolMachine.descriptors after.machine).size - table.size
  let machine := ToolMachine.putDescriptors after.machine before
  let children := session.children ++ events.filterMap madeChild?
  ({ result
     events := sortReaped events
     interpreterPhase := after.interpreter.phase
     executorPhase := after.executorPhase
     stdout := ToolMachine.content machine outputFile
     stderr := ToolMachine.content machine diagnosticsFile
     leaked
     changes := ToolMachine.changes filesBefore (ToolMachine.workingFiles machine) },
    { after with machine, children })

/-- Carries out steps one after the other. -/
def steps (session : Session) : List Step → List StepAnswer × Session
  | [] => ([], session)
  | first :: later =>
    let (answer, session) := session.step first
    let (answers, session) := session.steps later
    (answer :: answers, session)

/-- The children that no step waited for, once all have ended. -/
def leftover (session : Session) : List (Nat × Termination) :=
  let machine := (Machine.putProgram session.machine ToolMachine.host (.executor (.fresh .idle)) :
    ToolMachine)
  ((System.exhaust ToolMachine.behaviour machine).childrenOf ToolMachine.host).filterMap fun entry =>
    entry.2.ending.map (entry.1, ·)

/-- A session with some files in the working directory, a search path and a limit on the stages of a
line. -/
def start (files : List (Bytes × File)) (path : Option Bytes) (maxStages : UInt64) : Session where
  interpreter := { options := { maxStages } }
  machine := ToolMachine.make files path [Signal.user1]

end Session

end Pipework
