import Pipework.Proofs.Service

set_option autoImplicit false

/-!
Detached trials. `Task.Asks` says of a task that all of its calls are of some kind, whatever they are answered, and how
it ends where it does. A trial for whose process nobody waits asks for the end of no child, and it ends with an answer
in the process that has begun it.
-/

namespace Pipework

open Kernel

namespace Task

variable {α β : Type} {allowed : Call → Prop} {ends : α → Prop} {onward : β → Prop}

/-- All calls of a task in the process that has begun it are allowed, and it ends in some way if it ends. -/
def Asks (allowed : Call → Prop) (ends : α → Prop) : Task α → Prop
  | done value => ends value
  | call request following => allowed request ∧ ∀ reply, reply ≠ .child → Asks allowed ends (following reply)

theorem Asks.bind {task : Task α} {next : α → Task β} (asks : task.Asks allowed ends)
    (further : ∀ value, ends value → (next value).Asks allowed onward) : (task >>= next).Asks allowed onward := by
  induction task with
  | done value => exact further value asks
  | call request following ih => exact ⟨asks.1, fun reply notChild => ih reply (asks.2 reply notChild)⟩

end Task

namespace Trial

/-- A call that waits for no child and loads no program. -/
def Heedless (call : Call) : Prop := call.waits = false ∧ ∀ program arguments, call ≠ .load program arguments

theorem asks_ask {request : Call} (heedless : Heedless request) :
    (Task.ask request).Asks Heedless fun reply => reply ≠ .child :=
  ⟨heedless, fun _ notChild => notChild⟩

/-- The end of a trial in the process that has begun it. -/
def Answers : TrialEnd → Prop
  | .answer _ => True
  | .become _ => False

theorem asks_closeAll (descriptors : List Nat) : (closeAll descriptors).Asks Heedless fun _ => True := by
  induction descriptors with
  | nil => trivial
  | cons descriptor later ih => exact (asks_ask ⟨rfl, by simp⟩).bind fun _ _ => ih

theorem asks_closeRecorded (held : Held) (endpoints : List (Side × Nat)) :
    (closeRecorded held endpoints).Asks Heedless fun _ => True := by
  induction endpoints generalizing held with
  | nil => trivial
  | cons endpoint later ih => exact (asks_ask ⟨rfl, by simp⟩).bind fun _ _ => ih _

theorem asks_abandon (held : Held) (errno : Errno) : (abandon held errno).Asks Heedless Answers :=
  (asks_closeAll _).bind fun _ _ => trivial

theorem asks_withChannel {held : Held} {use : Nat → Nat → Held → Task TrialEnd}
    (uses : ∀ read write held, (use read write held).Asks Heedless Answers) :
    (withChannel held use).Asks Heedless Answers := by
  refine (asks_ask ⟨rfl, by simp⟩).bind fun reply _ => ?_
  split
  · exact uses _ _ _
  · exact asks_abandon _ _
  · exact asks_abandon _ _

theorem asks_openInput {trial : Trial} {held : Held} {next : Held → Task TrialEnd}
    (further : ∀ held, (next held).Asks Heedless Answers) : (openInput trial held next).Asks Heedless Answers := by
  unfold openInput
  split
  · exact further held
  · refine asks_withChannel fun read write held => ?_
    exact (asks_ask ⟨rfl, by simp⟩).bind fun _ _ => (asks_closeRecorded _ _).bind fun held _ => further held

theorem asks_openOutput {trial : Trial} {held : Held} {next : Held → Task TrialEnd}
    (further : ∀ held, (next held).Asks Heedless Answers) : (openOutput trial held next).Asks Heedless Answers := by
  unfold openOutput
  split
  · exact asks_withChannel fun _ _ _ => further _
  · exact further held

theorem asks_openUnused {trial : Trial} {held : Held} {next : Held → Task TrialEnd}
    (further : ∀ held, (next held).Asks Heedless Answers) : (openUnused trial held next).Asks Heedless Answers := by
  unfold openUnused
  split
  · exact asks_withChannel fun _ _ _ => (asks_closeRecorded _ _).bind fun held _ => further held
  · exact further held

theorem asks_readAll (descriptor moves : Nat) (collected : Bytes) :
    (readAll descriptor moves collected).Asks Heedless fun _ => True := by
  induction moves generalizing collected with
  | zero => trivial
  | succ moves ih =>
    refine (asks_ask ⟨rfl, by simp⟩).bind fun reply _ => ?_
    split
    · trivial
    · exact ih _
    · exact ih _
    · trivial

theorem asks_collect (held : Held) : (collect held).Asks Heedless fun _ => True := by
  unfold collect
  split
  · trivial
  · exact (asks_readAll _ _ _).bind fun _ _ => (asks_closeRecorded _ _).bind fun _ _ => trivial

/-- A detached trial waits for nobody. -/
theorem asks_task {trial : Trial} (detached : trial.detached = true) : trial.task.Asks Heedless Answers := by
  refine asks_openInput fun held => asks_openOutput fun held => asks_openUnused fun held => ?_
  refine (asks_ask ⟨rfl, by simp⟩).bind fun reply notChild => ?_
  split
  · exact absurd rfl notChild
  · rename_i process
    refine (asks_closeRecorded _ _).bind fun held _ => (asks_collect held).bind fun captured _ => ?_
    dsimp only
    rw [if_pos detached]
    trivial
  · exact asks_abandon _ _
  · exact asks_abandon _ _

end Trial

/-- A process that loads nothing goes on with an answer that does not make it a new process, or waits for it. -/
theorem Kernel.System.program_of_step {σ : Type} {behaviour : Behaviour σ} {system after : System σ} {mover : Nat}
    {process later : Process σ} {call : Call} (numbered : system.Numbered)
    (present : system.processes[mover]? = some process) (asks : behaviour.next process.program = some call)
    (notLoad : ∀ program arguments, call ≠ .load program arguments) (moved : system.step behaviour mover = some after)
    (found : after.processes[mover]? = some later) :
    later.program = process.program ∨
      ∃ reply, reply ≠ .child ∧ later.program = behaviour.resume process.program reply := by
  obtain ⟨given, asked, living, -, -, same, how⟩ := step_eq_some moved
  obtain rfl : process = given := by rwa [present, Option.some.injEq] at living
  obtain rfl : call = asked := by rwa [asks, Option.some.injEq] at same
  rcases how with ⟨-, rfl⟩ | ⟨program, arguments, loads, -⟩ | ⟨-, ⟨reply, between, performed, rfl⟩ | performed |
    ⟨-, -, rfl⟩⟩
  · rw [fork_eq behaviour present (numbered.process mover process present)] at found
    simp only [Std.ExtTreeMap.getElem?_insert_self, Option.some.injEq] at found
    subst found
    exact .inr ⟨_, by simp, rfl⟩
  · exact absurd loads (notLoad program arguments)
  · obtain ⟨middle, there, rfl⟩ := getElem?_answer_self found
    have disposes := perform_disposes system mover process call
    rw [performed] at disposes
    have same := program_perform present (Effect.leads_of_answer performed) there
    exact .inr ⟨reply, disposes.ne_child, by simp [Process.answered, same]⟩
  · exact .inl (program_perform present (Effect.leads_of_moved performed) found)
  · obtain ⟨middle, there, rfl⟩ := getElem?_answer_self found
    rw [getElem?_put_self] at there
    cases there
    refine .inr ⟨interruption process, ?_, ?_⟩
    · unfold interruption
      split <;> simp
    · unfold Process.answered withoutOpening
      split <;> rfl

variable {τ : Type} {images : Behaviour τ} {mishaps : Call → Bool} {host : Nat} {start machine : Machine τ}
  {tally : Tally}

/-- A process that makes another one and does not wait for it learns of no end. -/
theorem Passage.uncollected {trial : Trial} (passage : Passage images mishaps host start tally machine)
    (hosts : start.Hosts host) (detached : trial.detached = true)
    (begins : ∀ process, start.processes[host]? = some process → process.program = .trial trial.task) :
    tally.collected = [] ∧ ∀ process, machine.processes[host]? = some process →
      ∃ task, process.program = .trial task ∧ task.Asks Trial.Heedless Trial.Answers := by
  have goesOn : ∀ {task : Task TrialEnd} {reply : Reply}, task.Asks Trial.Heedless Trial.Answers → reply ≠ .child →
      ∃ next, (Program.behaviour images).resume (.trial task) reply = .trial next ∧
        next.Asks Trial.Heedless Trial.Answers := by
    intro task reply asks notChild
    have resumed : (task.resume reply).Asks Trial.Heedless Trial.Answers := by
      cases task with
      | done value => exact asks
      | call request following => exact asks.2 reply notChild
    refine ⟨task.resume reply, ?_, resumed⟩
    simp only [Program.behaviour]
    unfold Program.ofTrial
    split
    · rename_i becomes
      rw [becomes] at resumed
      exact resumed.elim
    · rfl
  induction passage with
  | start => exact ⟨rfl, fun process present => ⟨_, begins process present, Trial.asks_task detached⟩⟩
  | time earlier passed ih =>
    obtain ⟨clock, rfl⟩ := System.passTime_eq_some passed
    exact ih
  | mishap earlier failed ih =>
    obtain ⟨process, call, errno, present, alive, going, asks, possible⟩ := failed
    refine ⟨ih.1, fun later found => ?_⟩
    rw [System.getElem?_put_self] at found
    cases found
    obtain ⟨task, program, every⟩ := ih.2 process present
    have same : (process.released call).program = .trial task := by
      unfold Kernel.Process.released
      split <;> exact program
    simp only [Process.answered, same]
    exact goesOn every (by simp)
  | @step tally before after earlier mover moved ih =>
    have settled := earlier.hosts hosts
    by_cases own : mover = host
    · subst own
      obtain ⟨process, call, present, -, -, asks, -⟩ := System.step_eq_some moved
      obtain ⟨task, program, every⟩ := ih.2 process present
      have heedless : Trial.Heedless call := by
        cases task with
        | done value => simp [Program.behaviour, program, Task.next] at asks
        | call request following =>
          simp only [Program.behaviour, program, Task.next, Option.some.injEq] at asks
          exact asks ▸ every.1
      have silent : before.told? (Program.behaviour images) mover = none := by
        simp [System.told?, present, asks, (System.perform_disposes before mover process call).untold heedless.1]
      refine ⟨by simp [Tally.extend, ih.1, silent], fun later found => ?_⟩
      obtain same | ⟨reply, notChild, same⟩ :=
        System.program_of_step settled.numbered present asks heedless.2 moved found
      · exact ⟨task, same.trans program, every⟩
      · rw [same, program]
        exact goesOn every notChild
    · refine ⟨by simp [Tally.extend, own, ih.1], fun later found => ?_⟩
      obtain ⟨process, present, disturbed⟩ :=
        (System.step_spares settled.numbered moved).others host (Ne.symm own) settled.given later found
      obtain ⟨task, program, every⟩ := ih.2 process present
      exact ⟨task, disturbed.program.trans program, every⟩

end Pipework
