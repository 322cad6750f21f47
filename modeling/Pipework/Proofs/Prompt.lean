import Pipework.CommandLine
import Pipework.Proofs.Collection
import Pipework.Proofs.Recasting
import Pipework.Proofs.Proceedings
import Pipework.Proofs.Reading

set_option autoImplicit false

/-!
The prompt loop, from one line to the exit status. A program reads lines from its editor and executes them one after the
other; whatever its children do, its host goes on as it is answered and never exits by itself (`Machine.Tends`), so the
exit status tells whether all lines were read and executed.
-/

namespace Pipework

open Kernel

/-- An executor asks for no exit and sends no signals. -/
theorem Run.next_quiet (run : Run) :
    (∀ code, run.next ≠ some (.exit code)) ∧ ∀ target signal, run.next ≠ some (.kill target signal) := by
  obtain ⟨phase, control⟩ := run
  cases control <;> simp [next]

section machine

variable {τ : Type} {images : Behaviour τ} {host : Nat} {begun : Run} {machine after : Machine τ}

/-- A machine whose host carries out a run: the run is what some answers have made of it, and the host has not exited,
though a signal may have ended it. -/
structure Machine.Tends (host : Nat) (begun : Run) (machine : Machine τ) : Prop extends machine.Hosts host where
  program : ∀ process, machine.processes[host]? = some process →
    ∃ replies, process.program = .executor (begun.follow replies)
  unexited : ∀ process code, machine.processes[host]? = some process → process.ending ≠ some (.exited code)

namespace Machine.Tends

theorem moves (tends : machine.Tends host begun) (moves : machine.Moves (Program.behaviour images) after) :
    after.Tends host begun := by
  have hosts := tends.toHosts
  cases moves with
  | time passed =>
    obtain ⟨clock, rfl⟩ := System.passTime_eq_some passed
    exact ⟨⟨⟨hosts.numbered.process⟩, hosts.given⟩, tends.program, tends.unexited⟩
  | step mover moved =>
    refine ⟨hosts.moves (.step mover moved), fun later found => ?_, fun later code found => ?_⟩
    · by_cases own : mover = host
      · subst own
        obtain ⟨process, -, present, -⟩ := System.step_eq_some moved
        obtain ⟨replies, program⟩ := tends.program process present
        obtain ⟨-, same⟩ | ⟨call, reply, -, -, goesOn⟩ := executor_step hosts.numbered present program moved
        · exact ⟨replies, same later found⟩
        · exact ⟨replies ++ [reply], by rw [Run.follow_concat]; exact goesOn later found⟩
      · obtain ⟨process, present, disturbed⟩ :=
          (System.step_spares hosts.numbered moved).others host (Ne.symm own) hosts.given later found
        obtain ⟨replies, program⟩ := tends.program process present
        exact ⟨replies, disturbed.program.trans program⟩
    · obtain ⟨process, call, moves, asks, earlier, present, kept | ⟨how, ended, ends⟩⟩ :=
        System.leaves_of_step hosts.numbered moved hosts.given found
      · rw [kept]
        exact tends.unexited earlier code present
      · rw [ended]
        rintro ⟨⟩
        cases ends with
        | exit own code exits =>
          subst own exits
          obtain ⟨replies, program⟩ := tends.program process moves
          exact (Run.next_quiet _).1 code (by simpa [Program.behaviour, program] using asks)

/-- A call in the name of the host leaves it as it is, unless it is an exit or a signal. -/
theorem request (tends : machine.Tends host begun) {call : Call} (stays : ∀ code, call ≠ .exit code)
    (quiet : ∀ target signal, call ≠ .kill target signal) :
    Machine.Tends host begun (System.request machine host call).2 := by
  unfold System.request
  split
  · exact tends
  rename_i process present
  have led : ∀ after : Machine τ, (System.perform machine host process call).Leads after → after.Tends host begun := by
    intro after led
    have spares := System.Spares.of_frame tends.numbered (System.perform_frame present quiet led)
    refine ⟨⟨spares.numbered, Nat.lt_of_lt_of_le tends.given spares.nextProcess⟩, fun later found => ?_,
      fun later code found => ?_⟩
    · rw [System.program_perform present led found]
      exact tends.program process present
    · obtain ⟨earlier, living, kept | ⟨how, ended, ends⟩⟩ := System.leaves_of_perform present led found
      · rw [kept]
        exact tends.unexited earlier code living
      · rw [ended]
        rintro ⟨⟩
        cases ends with
        | exit own code exits => exact stays code exits
  split
  · rename_i performed
    exact led _ (Effect.leads_of_answer performed)
  · rename_i performed
    exact led _ (Effect.leads_of_moved performed)
  · exact tends

theorem putProgram (tends : machine.Tends host begun) (run : Run) :
    (machine.putProgram host (.executor run)).Tends host run := by
  refine ⟨tends.toHosts.putProgram _, fun process found => ?_, fun process code found => ?_⟩
  · exact ⟨[], Machine.program_of_putProgram found⟩
  · obtain ⟨earlier, present, rfl⟩ := Machine.of_putProgram found
    exact tends.unexited earlier code present

/-- What is left of a run is what some answers make of it. -/
theorem execution (tends : machine.Tends host begun) :
    ∃ replies, (machine.execution host begun).outcome = (begun.follow replies).outcome? ∧
      (machine.execution host begun).phase = (begun.follow replies).phase ∧
      (machine.execution host begun).trace = (begun.follow replies).trace := by
  cases runs : machine.run? host with
  | none => exact ⟨[], by simp [Machine.execution, runs, Run.follow]⟩
  | some run =>
    obtain ⟨process, present, program⟩ := run?_eq_some runs
    obtain ⟨replies, same⟩ := tends.program process present
    cases program.symm.trans same
    exact ⟨replies, by simp [Machine.execution, runs]⟩

end Machine.Tends

end machine

namespace Console

/-- A console whose host carries out a run. -/
def Tends (begun : Run) (console : Console) : Prop := Machine.Tends ToolMachine.host begun console.machine

variable {console : Console} {begun : Run}

theorem Tends.ask (tends : console.Tends begun) {call : Call} (stays : ∀ code, call ≠ .exit code)
    (quiet : ∀ target signal, call ≠ .kill target signal) : (console.ask call).2.Tends begun :=
  Machine.Tends.request tends stays quiet

theorem Tends.write (tends : console.Tends begun) (descriptor : Nat) (text : String) :
    (console.write descriptor text).Tends begun := tends.ask (by simp) (by simp)

theorem Tends.log (tends : console.Tends begun) (record : Log.Record) : (console.log record).Tends begun := by
  unfold Console.log
  split
  · exact tends.write _ _
  · exact tends

theorem Tends.note (tends : console.Tends begun) (event : Event) : (console.note event).Tends begun := by
  unfold Console.note
  dsimp only
  split
  · exact tends
  · rename_i record shown
    have renamed : Console.Tends begun { console with children := console.childrenAfter event } := tends
    exact renamed.log record

theorem Tends.noteAll (tends : console.Tends begun) (events : List Event) :
    (events.foldl Console.note console).Tends begun := by
  induction events generalizing console with
  | nil => exact tends
  | cons event events ih => exact ih (tends.note event)

theorem Tends.watch (tends : console.Tends begun) (moves turn seen : Nat) :
    (Console.watch moves turn seen console).Tends begun := by
  induction moves generalizing turn seen console with
  | zero => exact tends
  | succ moves ih =>
    unfold Console.watch
    have noted := tends.noteAll (console.trace.drop seen)
    dsimp only
    split
    · exact noted
    split
    · exact noted
    · rename_i next machine advanced
      have after : Machine.Tends ToolMachine.host begun machine :=
        Machine.Tends.moves noted (System.moves_of_advance advanced)
      have goesOn : Console.Tends begun
          { (console.trace.drop seen).foldl Console.note console with machine } := after
      exact ih goesOn _ _

/-- A console whose host is at work carries out runs by answering them, and keeps its host at work. -/
theorem execute_faithful : Executing.Faithful execute fun console => ∃ begun, console.Tends begun := by
  have whole : ∀ (console : Console) (run : Run), (∃ begun, console.Tends begun) →
      (console.execute run).after.Tends run := by
    rintro console run ⟨begun, tends⟩
    have begins : Console.Tends run
        { console with machine := Machine.putProgram console.machine ToolMachine.host (.executor run) } :=
      Machine.Tends.putProgram tends run
    exact begins.watch _ _ _
  refine ⟨fun console run tends => ?_, fun console run tends => ⟨run, whole console run tends⟩⟩
  exact Machine.Tends.execution (whole console run tends)

end Console

namespace Editor

variable {console : Console} {begun : Run}

end Editor

namespace CommandLine

open Interpreter (Station Reads Stops)

variable (commandLine : CommandLine) (options : Options)

/-- The console on which the lines of a command line are executed. -/
def console : Console where
  machine := (commandLine.connect (ToolMachine.make commandLine.files commandLine.searchPath [])).2.2
  filter := Log.Filter.choose commandLine.logFilter options.verbose
  showTime := commandLine.showTime

/-- Where the reading of lines begins: the editor is created. -/
def station : Station Editor Console where
  interpreter := { options }
  source := commandLine.editor options
  world := (commandLine.editor options).begin (commandLine.console options)

/-- How the interpreter of a command line stops. -/
def stopped (limit : Nat) : Interpreter.Stopped Editor Console :=
  Interpreter.readAndRun Console.execute Editor.source limit { options } (commandLine.editor options) []
    (commandLine.station options).world

end CommandLine

namespace CommandLine

open Interpreter (Reads Stops)

variable {commandLine : CommandLine} {options : Options} {texts : List String} {limit : Nat}

section stops

variable {done : List (String × Execution Console)} {here there : Interpreter.Station Editor Console}
  (reads : Reads Console.execute Editor.source (commandLine.station options) done here)
  (within : done.length < limit)

include reads within

variable {line : String} {fault : Fault} (taken : here.read Editor.source = (.ok (some line), there))
  (failed : (there.execution Console.execute line).outcome = some (.error fault))

include taken failed

end stops

end CommandLine

/-- A program at whose terminal nothing is typed. -/
def CommandLine.silent : CommandLine where
  path := ownName
  arguments := []
  typed := some []
  searchPath := none
  showTime _ := ""

end Pipework
