import Pipework.Proofs.Course
import Pipework.Proofs.Spawning

set_option autoImplicit false

/-!
The moves of an executor. `RunMove` lists what an executor can make of a machine while it works on a pipeline;
all that is shown about it is shown by cases on this list.
-/

namespace Pipework

open Kernel

namespace Kernel.System

variable {σ : Type} {system : System σ} {number child : Nat} {how : Termination}

theorem mem_childrenOf {process : Process σ} :
    (child, process) ∈ system.childrenOf number ↔
      system.processes[child]? = some process ∧ process.parent = some number := by
  simp [childrenOf, Std.ExtTreeMap.mem_toList_iff_getElem?_eq_some]

/-- The ended child that is waited for is one. -/
theorem endedChild?_eq_some (found : system.endedChild? number = some (child, how)) :
    ∃ process, system.processes[child]? = some process ∧ process.parent = some number ∧
      process.ending = some how := by
  obtain ⟨⟨number, process⟩, member, ended⟩ := List.exists_of_findSome?_eq_some found
  obtain ⟨present, parent⟩ := mem_childrenOf.mp member
  obtain ⟨ending, ended, same⟩ := Option.map_eq_some_iff.mp ended
  cases same
  exact ⟨process, present, parent, ended⟩

/-- If there is none, all children live. -/
theorem ending_of_endedChild?_eq_none {process : Process σ} (none : system.endedChild? number = .none)
    (present : system.processes[child]? = some process) (parent : process.parent = some number) :
    process.ending = .none := by
  have every := List.findSome?_eq_none_iff.mp none (child, process) (mem_childrenOf.mpr ⟨present, parent⟩)
  simpa using every

/-- A pipe is refused, or it takes the lowest free number for its read end and the next free one for its write
end. -/
theorem makePipe_eq (system : System σ) (number : Nat) (process : Process σ) :
    (∃ errno, system.makePipe number process = .answer (.failed errno) system) ∨
      ∃ read write between table,
        process.descriptors.allocate process.limit 0 ⟨.readEnd system.nextPipe, true⟩ = .ok (read, between) ∧
        between.allocate process.limit 0 ⟨.writeEnd system.nextPipe, true⟩ = .ok (write, table) ∧
        system.makePipe number process = .answer (.ends read write)
          ({ system with pipes := system.pipes.insert system.nextPipe {}, nextPipe := system.nextPipe + 1 }.putTable
            number process table) := by
  unfold makePipe
  dsimp only
  split
  · rename_i errno refused
    exact .inl ⟨errno, rfl⟩
  · rename_i read between first
    split
    · rename_i errno refused
      exact .inl ⟨errno, rfl⟩
    · rename_i write table second
      exact .inr ⟨read, write, between, table, first, second, rfl⟩

end Kernel.System

variable {τ : Type}

/-- An executor goes on with any answer that does not make it the new process. -/
theorem program_answered {images : Behaviour τ} {process : Process (Program τ)} {run : Run} {reply : Reply}
    (program : process.program = .executor run) (notChild : reply ≠ .child) :
    (process.answered (Program.behaviour images) reply).program = .executor (run.resume reply) := by
  simp only [Process.answered, program, Program.behaviour]
  cases reply <;> first | rfl | exact absurd rfl notChild

/-- What an executor can make of a machine, when its run stands somewhere. -/
inductive RunMove (images : Behaviour τ) (machine : System (Program τ)) (host : Nat)
    (process : Process (Program τ)) (run : Run) : System (Program τ) → Prop where
  | opened (stage : Stage) (later : List Stage) (incoming : Option Nat) (read write : Nat)
      (between table : DescriptorTable) (opening : run.control = .opening stage later incoming)
      (first : process.descriptors.allocate process.limit 0 ⟨.readEnd machine.nextPipe, true⟩ = .ok (read, between))
      (second : between.allocate process.limit 0 ⟨.writeEnd machine.nextPipe, true⟩ = .ok (write, table)) :
      RunMove images machine host process run
        ({ machine with
            pipes := machine.pipes.insert machine.nextPipe {}
            nextPipe := machine.nextPipe + 1 }.put host
          ({ process with descriptors := table }.answered (Program.behaviour images) (.ends read write)))
  | refused (stage : Stage) (later : List Stage) (incoming : Option Nat) (errno : Errno)
      (opening : run.control = .opening stage later incoming) :
      RunMove images machine host process run
        (machine.put host (process.answered (Program.behaviour images) (.failed errno)))
  | forked (stage : Stage) (later : List Stage) (streams : Streams) (carried : Option Nat)
      (forking : run.control = .forking stage later streams carried) :
      RunMove images machine host process run
        (({ machine with nextProcess := machine.nextProcess + 1 }.put machine.nextProcess
            { process with
              parent := some host
              program := .startup (.begin stage streams carried)
              arrived := []
              interrupted := false }).put host
          (process.answered (Program.behaviour images) (.number machine.nextProcess)))
  | closed (endpoint : Nat) (table : DescriptorTable) (closing : run.next = some (.close endpoint))
      (closed : process.descriptors.close endpoint = .ok table) :
      RunMove images machine host process run
        (machine.put host ({ process with descriptors := table }.answered (Program.behaviour images) .done))
  | unclosed (endpoint : Nat) (errno : Errno) (closing : run.next = some (.close endpoint))
      (unclosed : process.descriptors.close endpoint = .error errno) :
      RunMove images machine host process run
        (machine.put host (process.answered (Program.behaviour images) (.failed errno)))
  | reaped (child : Nat) (ended : Process (Program τ)) (how : Termination) (reaping : run.control = .reaping)
      (present : machine.processes[child]? = some ended) (apart : child ≠ host)
      (parent : ended.parent = some host) (ending : ended.ending = some how) :
      RunMove images machine host process run
        ({ machine with processes := machine.processes.erase child }.put host
          (process.answered (Program.behaviour images) (.ended child how)))
  | alone (reaping : run.control = .reaping)
      (none : ∀ (number : Nat) (other : Process (Program τ)), machine.processes[number]? = some other →
        other.parent ≠ some host) :
      RunMove images machine host process run
        (machine.put host (process.answered (Program.behaviour images) (.failed .noChild)))
  | interrupted (reaping : run.control = .reaping) (interrupted : process.interrupted = true) :
      RunMove images machine host process run
        (machine.put host
          ((System.withoutOpening process).answered (Program.behaviour images) (System.interruption process)))

variable {images : Behaviour τ} {machine after : System (Program τ)} {host : Nat} {process : Process (Program τ)}
  {run : Run}

/-- An executor at work on a pipeline makes one of the moves that are listed. -/
theorem step_executor (numbered : machine.Numbered) (present : machine.processes[host]? = some process)
    (program : process.program = .executor run) (working : ∀ text, run.control ≠ .complaining text)
    (moved : machine.step (Program.behaviour images) host = some after) :
    RunMove images machine host process run after := by
  obtain ⟨found, call, living, alive, -, asks, how⟩ := System.step_eq_some moved
  obtain rfl : process = found := by rwa [present, Option.some.injEq] at living
  have next : run.next = some call := by simpa [Program.behaviour, program] using asks
  have closing : ∀ endpoint, run.next = some (.close endpoint) → RunMove images machine host process run after := by
    intro endpoint closes
    obtain rfl : call = .close endpoint := by rwa [next, Option.some.injEq] at closes
    have plain : Call.close endpoint ≠ .fork ∧ ∀ name arguments, Call.close endpoint ≠ .load name arguments := by
      simp
    cases closed : process.descriptors.close endpoint with
    | error errno =>
      have performed : machine.perform host process (.close endpoint) = .answer (.failed errno) machine := by
        simp [System.perform, System.tableAnswer, closed]
      obtain rfl := System.step_of_answer moved present asks plain performed
      rw [System.answer_eq _ present]
      exact .unclosed endpoint errno next closed
    | ok table =>
      have performed : machine.perform host process (.close endpoint) =
          .answer .done (machine.putTable host process table) := by
        simp [System.perform, System.tableAnswer, closed]
      obtain rfl := System.step_of_answer moved present asks plain performed
      rw [System.answer_putTable]
      exact .closed endpoint table next closed
  cases control : run.control with
  | opening stage later incoming =>
    obtain rfl : .pipe = call := by simpa [Run.next, control] using next
    rcases machine.makePipe_eq host process with ⟨errno, refused⟩ | ⟨read, write, between, table, first, second, made⟩
    · obtain rfl := System.step_of_answer moved present asks (by simp) refused
      rw [System.answer_eq _ present]
      exact .refused stage later incoming errno control
    · obtain rfl := System.step_of_answer moved present asks (by simp) made
      rw [System.answer_putTable]
      exact .opened stage later incoming read write between table control first second
  | forking stage later streams carried =>
    obtain rfl : .fork = call := by simpa [Run.next, control] using next
    rcases how with ⟨-, rfl⟩ | ⟨name, arguments, loads, -⟩ | ⟨⟨notFork, -⟩, -⟩
    · have becomes : (Program.behaviour images).resume process.program .child =
          .startup (.begin stage streams carried) := by
        simp [Program.behaviour, program, Run.startup?, control]
      rw [System.fork_eq _ present (numbered.process host process present), becomes]
      exact .forked stage later streams carried control
    · cases loads
    · exact absurd rfl notFork
  | closingRead stage later endpoint stdout carried => exact closing endpoint (by simp [Run.next, control])
  | closingWrite stage later endpoint carried => exact closing endpoint (by simp [Run.next, control])
  | dropping endpoint others fault => exact closing endpoint (by simp [Run.next, control])
  | reaping =>
    obtain rfl : .wait = call := by simpa [Run.next, control] using next
    cases found : machine.endedChild? host with
    | some given =>
      obtain ⟨child, ending⟩ := given
      obtain ⟨ended, there, parent, isEnded⟩ := System.endedChild?_eq_some found
      have apart : child ≠ host := by
        rintro rfl
        rw [present] at there
        cases there
        simp [alive] at isEnded
      have performed : machine.perform host process .wait =
          .answer (.ended child ending) { machine with processes := machine.processes.erase child } := by
        simp [System.perform, System.waitAny, found]
      have still : ({ machine with processes := machine.processes.erase child } : System (Program τ)).processes[host]? =
          some process := by
        simpa [Std.ExtTreeMap.getElem?_erase, apart] using present
      obtain rfl := System.step_of_answer moved present asks (by simp) performed
      rw [System.answer_eq _ still]
      exact .reaped child ended ending control there apart parent isEnded
    | none =>
      by_cases childless : (machine.childrenOf host).isEmpty = true
      · have performed : machine.perform host process .wait = .answer (.failed .noChild) machine := by
          simp [System.perform, System.waitAny, found, childless]
        obtain rfl := System.step_of_answer moved present asks (by simp) performed
        rw [System.answer_eq _ present]
        refine .alone control fun number other living parent => ?_
        have member := System.mem_childrenOf.mpr ⟨living, parent⟩
        rw [List.isEmpty_iff.mp childless] at member
        cases member
      · have performed : machine.perform host process .wait = .blocked := by
          simp [System.perform, System.waitAny, found, childless]
        obtain ⟨interrupted, rfl⟩ := System.step_of_blocked moved present asks (by simp) performed
        exact .interrupted control interrupted
  | complaining text => exact absurd control (working text)
  | finished outcome => simp [Run.next, control] at next

/-- A run asks for a pipe only for a channel. -/
theorem Run.opening_of_next (opens : run.next = some .pipe) :
    ∃ stage later incoming, run.control = .opening stage later incoming := by
  cases control : run.control with
  | opening stage later incoming => exact ⟨stage, later, incoming, rfl⟩
  | _ => simp [Run.next, control] at opens

/-- It makes one of them as well when it is refused a pipe without a reason. -/
theorem Machine.Moved.run_move (moved : Machine.Moved images host host machine after) (numbered : machine.Numbered)
    (present : machine.processes[host]? = some process) (program : process.program = .executor run)
    (working : ∀ text, run.control ≠ .complaining text) : RunMove images machine host process run after := by
  cases moved with
  | step moved => exact step_executor numbered present program working moved
  | refused own runs failed =>
    obtain ⟨same, call, errno, there, -, -, asks, possible⟩ := failed
    obtain rfl : process = same := by rwa [present, Option.some.injEq] at there
    obtain rfl : call = .pipe := of_decide_eq_true possible
    have opens : run.next = some .pipe := by simpa [Program.behaviour, program] using asks
    obtain ⟨stage, later, incoming, opening⟩ := Run.opening_of_next opens
    exact .refused stage later incoming errno opening

/-- A move by which an executor makes nothing: it goes on with an answer, may have released a descriptor, and a process
that has ended may be gone. -/
inductive KeepsMove (images : Behaviour τ) (machine : System (Program τ)) (host : Nat)
    (process : Process (Program τ)) : System (Program τ) → Prop where
  | mk (processes : Std.ExtTreeMap Nat (Process (Program τ))) (table : DescriptorTable) (reply : Reply)
      (there : ∀ (number : Nat) (other : Process (Program τ)), processes[number]? = some other →
        machine.processes[number]? = some other)
      (gone : ∀ (number : Nat) (other : Process (Program τ)), machine.processes[number]? = some other →
        processes[number]? = some other ∨ other.ending ≠ none)
      (inherits : process.descriptors.Inherits table) :
      KeepsMove images machine host process
        ({ machine with processes }.put host
          ({ process with descriptors := table }.answered (Program.behaviour images) reply))

theorem KeepsMove.same (keeps : KeepsMove images machine host process after) :
    after.nextProcess = machine.nextProcess ∧ after.nextPipe = machine.nextPipe := by
  cases keeps
  exact ⟨rfl, rfl⟩

/-- An executor opens a channel, makes a process, or makes nothing. -/
theorem RunMove.makes (move : RunMove images machine host process run after) :
    (∃ stage later incoming read write between table, run.control = .opening stage later incoming ∧
      process.descriptors.allocate process.limit 0 ⟨.readEnd machine.nextPipe, true⟩ = .ok (read, between) ∧
      between.allocate process.limit 0 ⟨.writeEnd machine.nextPipe, true⟩ = .ok (write, table) ∧
      after = { machine with
          pipes := machine.pipes.insert machine.nextPipe {}
          nextPipe := machine.nextPipe + 1 }.put host
        ({ process with descriptors := table }.answered (Program.behaviour images) (.ends read write))) ∨
    (∃ stage later streams carried, run.control = .forking stage later streams carried ∧
      after = ({ machine with nextProcess := machine.nextProcess + 1 }.put machine.nextProcess
          { process with
            parent := some host
            program := .startup (.begin stage streams carried)
            arrived := []
            interrupted := false }).put host
        (process.answered (Program.behaviour images) (.number machine.nextProcess))) ∨
    KeepsMove images machine host process after := by
  have all : ∀ (number : Nat) (other : Process (Program τ)), machine.processes[number]? = some other →
      machine.processes[number]? = some other := fun _ _ present => present
  have still : ∀ (number : Nat) (other : Process (Program τ)), machine.processes[number]? = some other →
      machine.processes[number]? = some other ∨ other.ending ≠ none := fun _ _ present => .inl present
  cases move with
  | opened stage later incoming read write between table opening first second =>
    exact .inl ⟨stage, later, incoming, read, write, between, table, opening, first, second, rfl⟩
  | forked stage later streams carried forking => exact .inr (.inl ⟨stage, later, streams, carried, forking, rfl⟩)
  | refused stage later incoming errno opening => exact .inr (.inr ⟨_, _, _, all, still, .refl _⟩)
  | closed endpoint table closing closed =>
    exact .inr (.inr ⟨_, _, _, all, still, DescriptorTable.eq_of_close closed ▸ DescriptorTable.inherits_erase _ _⟩)
  | unclosed endpoint errno closing unclosed => exact .inr (.inr ⟨_, _, _, all, still, .refl _⟩)
  | reaped child ended how reaping there apart parent ending =>
    refine .inr (.inr ⟨_, _, _, fun number other present => ?_, fun number other present => ?_, .refl _⟩)
    · rw [Std.ExtTreeMap.getElem?_erase] at present
      split at present
      · cases present
      · exact present
    · rw [Std.ExtTreeMap.getElem?_erase]
      split
      · rename_i same
        obtain rfl : child = number := by simpa using same
        obtain rfl : ended = other := by rwa [there, Option.some.injEq] at present
        exact .inr (by simp [ending])
      · exact .inl present
  | alone reaping none => exact .inr (.inr ⟨_, _, _, all, still, .refl _⟩)
  | interrupted reaping interrupted =>
    unfold System.withoutOpening
    split
    · exact .inr (.inr ⟨_, _, _, all, still, .refl _⟩)
    · exact .inr (.inr ⟨_, _, _, all, still, DescriptorTable.inherits_erase _ _⟩)

/-- An executor uses no files. -/
theorem RunMove.files (move : RunMove images machine host process run after) : after.files = machine.files := by
  rcases move.makes with ⟨stage, later, incoming, read, write, between, table, -, -, -, rfl⟩ |
    ⟨stage, later, streams, carried, -, rfl⟩ | keeps
  · rfl
  · rfl
  · cases keeps
    rfl

end Pipework
