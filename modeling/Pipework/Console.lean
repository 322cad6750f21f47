import Pipework.Interpreter
import Pipework.Log.Record
import Pipework.Machine

set_option autoImplicit false

/-!
Consoles: a machine whose executor logs its work on the standard error as it goes on.
-/

namespace Pipework

open Kernel

/-- A machine with a log. -/
structure Console where
  machine : ToolMachine
  filter : Log.Filter
  /-- How moments are shown. -/
  showTime : Nat → String
  /-- The children that the log has shown, in the order of their creation. -/
  children : List Nat := []

namespace Console

/-- Makes a call in the name of the host. -/
def ask (console : Console) (call : Call) : Reply × Console :=
  let (reply, machine) := System.request console.machine ToolMachine.host call
  (reply, { console with machine })

/-- Writes to a descriptor of the host, whatever comes of it. -/
def write (console : Console) (descriptor : Nat) (text : String) : Console :=
  (console.ask (.write descriptor (Bytes.ofString text))).2

/-- Whether a record is shown. -/
def shows (console : Console) (record : Log.Record) : Bool :=
  console.filter.admits record.target record.fieldNames record.level

/-- Shows a record if the filter admits it. -/
def log (console : Console) (record : Log.Record) : Console :=
  if console.shows record then console.write 2 (record.line (console.showTime console.machine.clock))
  else console

/-- The name of a child: its place among those that the log has shown. -/
def childName (children : List Nat) (process : Nat) : String :=
  "p" ++ (match children.findIdx? (· == process) with
    | some index => toString index
    | none => "?")

/-- The children that the log has shown once an event is logged. -/
def childrenAfter (console : Console) (event : Event) : List Nat :=
  match event, Log.Record.ofEvent? toString event with
  | .spawned process _ _, some record =>
    if console.shows record then console.children ++ [process] else console.children
  | _, _ => console.children

/-- Logs an event. -/
def note (console : Console) (event : Event) : Console :=
  let children := console.childrenAfter event
  match Log.Record.ofEvent? (childName children) event with
  | none => console
  | some record => { console with children }.log record

/-- What the executor has recorded. -/
def trace (console : Console) : List Event :=
  ((Machine.run? console.machine ToolMachine.host).map Run.trace).getD []

/-- Lets the executor run to its end, and logs each event as it comes. -/
def watch : Nat → Nat → Nat → Console → Console
  | 0, _, _, console => console
  | moves + 1, turn, seen, console =>
    let trace := console.trace
    let console := (trace.drop seen).foldl note console
    if System.atRest ToolMachine.behaviour ToolMachine.host console.machine then console
    else
      match System.advance ToolMachine.behaviour turn console.machine with
      | none => console
      | some (turn, machine) => watch moves turn trace.length { console with machine }

/-- Carries out a run. -/
def execute (console : Console) (run : Run) : Execution Console :=
  let begun :=
    { console with
      machine := Machine.putProgram console.machine ToolMachine.host (.executor run) }
  let console := watch System.moveLimit ToolMachine.host 0 begun
  let execution := Machine.execution console.machine ToolMachine.host run
  ⟨execution.outcome, execution.phase, execution.trace, console⟩

end Console

end Pipework
