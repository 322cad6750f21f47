import Pipework.Executor.Execution
import Pipework.Options

set_option autoImplicit false

/-!
Interpreters: one line after the other is read from a source and executed. A line that forms no pipeline is
reported and skipped; a fault of the executor ends the loop, and what the source still holds stays there.
-/

namespace Pipework

open Kernel

/-- A supplier of lines, with a state `ς`. It may use what runs are carried out on, and answers with a line,
or with none when there are no more, or with the reason why it cannot read. -/
structure LineSource (ς μ : Type) where
  readLine : String → ς → μ → Except String (Option String) × ς × μ

/-- A fixed sequence of lines. -/
abbrev ScriptedLines := List String

namespace ScriptedLines

/-- The next line and those behind it. -/
def next : ScriptedLines → Option String × ScriptedLines
  | [] => (none, [])
  | line :: later => (some line, later)

/-- Gives out the lines in their order, whatever the prompt. -/
def source (μ : Type) : LineSource ScriptedLines μ where
  readLine _ lines world := (.ok lines.next.1, lines.next.2, world)

end ScriptedLines

/-- An interpreter between two lines. -/
structure Interpreter where
  options : Options := {}
  /-- The phase of its executor. -/
  phase : Phase := .idle
  deriving DecidableEq, Repr

/-- Why an interpreter stops before the end of its input. -/
inductive Halt where
  | fault (fault : Fault)
  | unreadable (reason : String)
  /-- The run of a line came to no end. -/
  | endless

/-- The diagnostic of an interpreter that stops. -/
def Halt.message : Halt → String
  | fault reason => reason.message
  | unreadable reason => reason
  | endless => "endless"

/-- How runs are carried out on something. -/
abbrev Executing (μ : Type) := μ → Run → Execution μ

namespace Interpreter

variable {ς μ : Type}

/-- The run for a line. -/
def run (interpreter : Interpreter) (line : String) : Run :=
  .ofLine interpreter.phase line interpreter.options.maxStages.toNat

/-- Executes a line, or reports that it forms no pipeline. -/
def runLine (executing : Executing μ) (interpreter : Interpreter) (line : String) (world : μ) :
    Execution μ :=
  executing world (interpreter.run line)

/-- What is left when an interpreter has stopped. -/
structure Stopped (ς μ : Type) where
  result : Except Halt Unit
  interpreter : Interpreter
  source : ς
  trace : List Event
  after : μ

/-- Reads and executes at most so many lines, up to the end of the input or to a fault. -/
def readAndRun (executing : Executing μ) (source : LineSource ς μ) :
    Nat → Interpreter → ς → List Event → μ → Stopped ς μ
  | 0, interpreter, lines, trace, world => ⟨.error .endless, interpreter, lines, trace, world⟩
  | count + 1, interpreter, lines, trace, world =>
    match source.readLine interpreter.options.prompt lines world with
    | (.error reason, lines, world) =>
      ⟨.error (.unreadable reason), interpreter, lines, trace, world⟩
    | (.ok none, lines, world) => ⟨.ok (), interpreter, lines, trace ++ [.endOfInput], world⟩
    | (.ok (some line), lines, world) =>
      let execution := interpreter.runLine executing line world
      let interpreter := { interpreter with phase := execution.phase }
      let trace := trace ++ execution.trace
      match execution.outcome with
      | none => ⟨.error .endless, interpreter, lines, trace, execution.after⟩
      | some (.error fault) => ⟨.error (.fault fault), interpreter, lines, trace, execution.after⟩
      | some (.ok _) => readAndRun executing source count interpreter lines trace execution.after

/-- Reads and executes the lines of a fixed sequence. -/
def repl (executing : Executing μ) (interpreter : Interpreter) (lines : ScriptedLines) (world : μ) :
    Stopped ScriptedLines μ :=
  readAndRun executing (ScriptedLines.source μ) (lines.length + 1) interpreter lines [] world

end Interpreter

end Pipework
