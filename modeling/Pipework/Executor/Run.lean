import Pipework.Executor.Event
import Pipework.Executor.Startup
import Pipework.Line

set_option autoImplicit false

/-!
Runs of an executor. Stages are spawned from left to right. For each stage but the last a channel is
opened; once the process of the stage is made, the executor closes the endpoints that this process has
taken over, and carries the read end of the new channel to the next stage. So a write end is closed
before the next process is made, and the reader behind it sees the end of the stream. When all stages are
spawned the executor waits until it has no children.

`Run` is the state of an executor, call by call. It ends in a report or in a fault; before a fault is
returned the endpoints still held are released.
-/

namespace Pipework

open Kernel (Call Reply)

/-- What one execution of a pipeline did. -/
structure Report where
  channels : Nat := 0
  /-- The processes of the stages, in their order. -/
  spawned : List Nat := []
  /-- What was collected, in the order in which it came. -/
  reaped : List Status := []
  deriving DecidableEq, Repr

/-- Why an executor gives up. -/
inductive Fault where
  | pipe (index : Nat) (stage : Stage) (errno : Errno)
  | close (index : Nat) (stage : Stage) (errno : Errno)
  | fork (stage : Stage) (errno : Errno)
  | wait (errno : Errno)
  deriving DecidableEq

namespace Fault

def errno : Fault → Errno
  | pipe _ _ errno | close _ _ errno | fork _ errno | wait errno => errno

/-- What the executor was about to do. -/
def context : Fault → String
  | pipe index stage _ => s!"pipe: channel after stage {index} ({stage.display})"
  | close index stage _ => s!"close: endpoints of stage {index} ({stage.display})"
  | fork stage _ => "fork: " ++ stage.display
  | wait _ => "wait"

/-- The diagnostic: what failed, and why. -/
def message (fault : Fault) : String := fault.context ++ ": " ++ fault.errno.message

end Fault

namespace Run

/-- Which call comes next. -/
inductive Control where
  /-- The channel between a stage and the later ones. -/
  | opening (stage : Stage) (later : List Stage) (incoming : Option Nat)
  | forking (stage : Stage) (later : List Stage) (streams : Streams) (carried : Option Nat)
  | closingRead (stage : Stage) (later : List Stage) (endpoint : Nat) (stdout : Option Nat)
      (carried : Option Nat)
  | closingWrite (stage : Stage) (later : List Stage) (endpoint : Nat) (carried : Option Nat)
  /-- Releases endpoints without a record. -/
  | dropping (endpoint : Nat) (others : List Nat) (fault : Fault)
  | reaping
  /-- Says why a line was refused. -/
  | complaining (text : Bytes)
  | finished (outcome : Except Fault Report)

end Run

/-- An executor at work. -/
structure Run where
  phase : Phase
  control : Run.Control
  /-- How many stages came before the present one. -/
  index : Nat := 0
  /-- How many stages the pipeline has; none if there is no pipeline and children are only waited for. -/
  stages : Option Nat := none
  report : Report := {}
  /-- What has been recorded, oldest first. -/
  trace : List Event := []

namespace Run

/-- Records an event. -/
def record (run : Run) (event : Event) : Run := { run with trace := run.trace ++ [event] }

/-- Changes the phase, with a record. -/
def enter (run : Run) (phase : Phase) : Run :=
  { run.record (.phase run.phase phase) with phase }

/-- Goes on with another call. -/
def goOn (run : Run) (control : Control) : Run := { run with control }

/-- Turns to the stages that are left. -/
def spawnNext (run : Run) (incoming : Option Nat) : List Stage → Run
  | [] => (run.enter .reaping).goOn .reaping
  | [stage] => (run.enter (.spawning run.index)).goOn (.forking stage [] ⟨incoming, none⟩ none)
  | stage :: later => (run.enter (.spawning run.index)).goOn (.opening stage later incoming)

/-- Turns from one stage to those behind it. -/
def passOn (run : Run) (later : List Stage) (carried : Option Nat) : Run :=
  { run with index := run.index + 1 }.spawnNext carried later

/-- Closes the write end of a stage, if there is one. -/
def closeWrite (run : Run) (stage : Stage) (later : List Stage) (stdout carried : Option Nat) : Run :=
  match stdout with
  | some endpoint =>
    (run.record (.closing .write endpoint)).goOn (.closingWrite stage later endpoint carried)
  | none => run.passOn later carried

/-- Closes the endpoints of a stage. -/
def closeStreams (run : Run) (stage : Stage) (later : List Stage) (streams : Streams)
    (carried : Option Nat) : Run :=
  match streams.stdin with
  | some endpoint =>
    (run.record (.closing .read endpoint)).goOn
      (.closingRead stage later endpoint streams.stdout carried)
  | none => run.closeWrite stage later streams.stdout carried

/-- Releases endpoints and gives up. -/
def giveUp (run : Run) (held : List Nat) (fault : Fault) : Run :=
  match held with
  | [] => run.goOn (.finished (.error fault))
  | endpoint :: others => run.goOn (.dropping endpoint others fault)

/-- Ends a run that has no children left. -/
def complete (run : Run) : Run :=
  match run.stages with
  | none => run.goOn (.finished (.ok run.report))
  | some stages =>
    ((run.record (.finished stages run.report.channels run.report.reaped.length)).enter .idle).goOn
      (.finished (.ok run.report))

/-- The call that comes next, unless the run is over. -/
def next (run : Run) : Option Call :=
  match run.control with
  | .opening _ _ _ => some .pipe
  | .forking _ _ _ _ => some .fork
  | .closingRead _ _ endpoint _ _ => some (.close endpoint)
  | .closingWrite _ _ endpoint _ => some (.close endpoint)
  | .dropping endpoint _ _ => some (.close endpoint)
  | .reaping => some .wait
  | .complaining text => some (.write Startup.diagnostics text)
  | .finished _ => none

/-- How the run goes on with an answer. -/
def resume (run : Run) (reply : Reply) : Run :=
  match run.control, reply with
  | .opening stage later incoming, .ends read write =>
    ({ run with report := { run.report with channels := run.report.channels + 1 } }.record
      (.opened read write)).goOn (.forking stage later ⟨incoming, some write⟩ (some read))
  | .opening stage _ incoming, .failed errno =>
    run.giveUp incoming.toList (.pipe run.index stage errno)
  | .forking stage later streams carried, .number process =>
    ({ run with report := { run.report with spawned := run.report.spawned ++ [process] } }.record
      (.spawned process stage.position stage.program)).closeStreams stage later streams carried
  | .forking stage _ streams carried, .failed errno =>
    if errno = .interrupted then run
    else
      run.giveUp (streams.stdin.toList ++ streams.stdout.toList ++ carried.toList)
        (.fork stage errno)
  | .closingRead stage _ _ stdout carried, .failed errno =>
    run.giveUp (stdout.toList ++ carried.toList) (.close run.index stage errno)
  | .closingRead stage later _ stdout carried, _ => run.closeWrite stage later stdout carried
  | .closingWrite stage _ _ carried, .failed errno =>
    run.giveUp carried.toList (.close run.index stage errno)
  | .closingWrite _ later _ carried, _ => run.passOn later carried
  | .dropping _ others fault, _ => run.giveUp others fault
  | .reaping, .ended process how =>
    match how.status? process with
    | none => run.goOn (.finished (.error (.wait .invalidArgument)))
    | some status =>
      { run with report := { run.report with reaped := run.report.reaped ++ [status] } }.record
        (.reaped status)
  | .reaping, .failed errno =>
    if errno = .interrupted then run
    else if errno = .noChild then run.complete
    else run.goOn (.finished (.error (.wait errno)))
  | .complaining _, _ => (run.enter .idle).goOn (.finished (.ok run.report))
  | _, _ => run

/-- What a new process is to do: become the stage for which it was made. -/
def startup? (run : Run) : Option Startup :=
  match run.control with
  | .forking stage _ streams carried => some (.begin stage streams carried)
  | _ => none

/-- The outcome, once the run is over. -/
def outcome? (run : Run) : Option (Except Fault Report) :=
  match run.control with
  | .finished outcome => some outcome
  | _ => none

/-- Continues with these stages; if there are none, nothing is left to do. -/
def start (run : Run) (stages : List Stage) : Run :=
  match stages with
  | [] => (run.enter .idle).goOn (.finished (.ok run.report))
  | _ :: _ => { run with stages := some stages.length }.spawnNext none stages

/-- An executor in some phase, with nothing done yet. -/
def fresh (phase : Phase) : Run := { phase, control := .finished (.ok {}) }

/-- Executes stages. -/
def ofStages (phase : Phase) (stages : List Stage) : Run := (fresh phase).start stages

/-- Executes a line, or refuses it. -/
def ofLine (phase : Phase) (line : String) (limit : Nat) : Run :=
  let run := (fresh phase).enter .parsing
  match Line.stages line limit with
  | .error reason => run.goOn (.complaining (Bytes.ofString (reason.message ++ "\n")))
  | .ok stages => (run.record (.parsed stages.length)).start stages

/-- Waits until no children are left. -/
def ofChildren (phase : Phase) : Run := (fresh phase).goOn .reaping

end Run

end Pipework
