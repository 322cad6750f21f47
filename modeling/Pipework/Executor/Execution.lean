import Pipework.Kernel.Schedule
import Pipework.Program

set_option autoImplicit false

/-!
Executions: runs of an executor on a machine. `Machine.execute` gives a process the program of an executor
and lets it run to its end, together with everything that it starts.
-/

namespace Pipework

open Kernel

/-- A system in which processes execute pipelines. -/
abbrev Machine (τ : Type) := System (Program τ)

/-- What is left of a run: how it ended, if it did, and what it was carried out on. -/
structure Execution (μ : Type) where
  outcome : Option (Except Fault Report)
  phase : Phase
  trace : List Event
  after : μ

namespace Machine

variable {τ : Type}

/-- Gives a process another program. -/
def putProgram (machine : Machine τ) (host : Nat) (program : Program τ) : Machine τ :=
  { machine with
    processes := machine.processes.modify host fun process => { process with program } }

/-- The run of an executor, if the process is one. -/
def run? (machine : Machine τ) (host : Nat) : Option Run :=
  match (machine.processes[host]?).map Process.program with
  | some (.executor run) => some run
  | _ => none

/-- What is left of the run of a process that began with the given run. -/
def execution (machine : Machine τ) (host : Nat) (begun : Run) : Execution (Machine τ) :=
  let run := (machine.run? host).getD begun
  ⟨run.outcome?, run.phase, run.trace, machine⟩

/-- Lets a process carry out a run. -/
def execute (images : Behaviour τ) (host : Nat) (machine : Machine τ) (run : Run) :
    Execution (Machine τ) :=
  execution ((machine.putProgram host (.executor run)).settle (Program.behaviour images) host) host run

end Machine

end Pipework
