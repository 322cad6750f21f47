import Pipework.Kernel.Schedule
import Pipework.Proofs.Frame

set_option autoImplicit false

/-!
What a move of one process leaves of a system. `step_eq_some` says what a move can be, and `Spares` what it does
to everything but the process that moves: whatever that is, the others keep their programs, and as long as they
live their descriptors (`step_spares`).
-/

namespace Pipework.Kernel

variable {σ : Type}

/-- A process that goes on with the answer to its call. -/
def Process.answered (process : Process σ) (behaviour : Behaviour σ) (reply : Reply) : Process σ :=
  { process with
    program := behaviour.resume process.program reply
    written := 0
    deadline := none
    opening := none
    interrupted := false }

/-- A system whose numbers are given out in order. -/
structure System.Numbered (system : System σ) : Prop where
  process : ∀ (number : Nat) (process : Process σ), system.processes[number]? = some process →
    number < system.nextProcess

namespace System

variable {mover : Nat} {process : Process σ} {system after : System σ}

/-- An answer changes the process that gets it, and nothing else. -/
theorem answer_eq (behaviour : Behaviour σ) (present : system.processes[mover]? = some process) (reply : Reply) :
    system.answer behaviour mover reply = system.put mover (process.answered behaviour reply) := by
  simp [answer, present, Process.answered]

theorem getElem?_answer_self {behaviour : Behaviour σ} {reply : Reply} {later : Process σ}
    (found : (system.answer behaviour mover reply).processes[mover]? = some later) :
    ∃ earlier, system.processes[mover]? = some earlier ∧ later = earlier.answered behaviour reply := by
  cases present : system.processes[mover]? with
  | none => simp [answer, present] at found
  | some earlier =>
    rw [answer_eq behaviour present, getElem?_put_self] at found
    cases found
    exact ⟨earlier, rfl, rfl⟩

/-- A process that has put another table in place of its own goes on with an answer. -/
theorem answer_putTable (behaviour : Behaviour σ) (system : System σ) (number : Nat) (process : Process σ)
    (table : DescriptorTable) (reply : Reply) :
    (system.putTable number process table).answer behaviour number reply =
      system.put number ({ process with descriptors := table }.answered behaviour reply) := by
  rw [putTable, answer_eq behaviour (getElem?_put_self _ _ _), put_put]

/-- A move, by what is asked: a second process, another program, or a call that is answered now, goes on, or is
given up for a signal. -/
theorem step_eq_some {behaviour : Behaviour σ} (moved : system.step behaviour mover = some after) :
    ∃ process call, system.processes[mover]? = some process ∧ process.ending = none ∧ process.stopped = false ∧
      behaviour.next process.program = some call ∧
      ((call = .fork ∧ after = system.fork behaviour mover process) ∨
        (∃ program arguments, call = .load program arguments ∧
          after = system.load behaviour mover process program arguments) ∨
        (call ≠ .fork ∧ ∀ program arguments, call ≠ .load program arguments) ∧
          ((∃ reply between, system.perform mover process call = .answer reply between ∧
              after = between.answer behaviour mover reply) ∨
            system.perform mover process call = .moved after ∨
            (system.perform mover process call = .blocked ∧ process.interrupted = true ∧
              after = (system.put mover (withoutOpening process)).answer behaviour mover
                (interruption process)))) := by
  unfold step at moved
  split at moved
  · cases moved
  rename_i process present
  split at moved
  · cases moved
  rename_i going
  simp only [Bool.or_eq_true, not_or, Bool.not_eq_true, Option.isSome_eq_false_iff, Option.isNone_iff_eq_none]
    at going
  refine ⟨process, ?_⟩
  split at moved
  · cases moved
  · rename_i asks
    cases moved
    exact ⟨.fork, present, going.1, going.2, asks, .inl ⟨rfl, rfl⟩⟩
  · rename_i program arguments asks
    cases moved
    exact ⟨_, present, going.1, going.2, asks, .inr (.inl ⟨_, _, rfl, rfl⟩)⟩
  · rename_i call notFork notLoad asks
    refine ⟨call, present, going.1, going.2, asks, .inr (.inr ⟨⟨notFork, notLoad⟩, ?_⟩)⟩
    split at moved
    · rename_i reply between performed
      cases moved
      exact .inl ⟨reply, between, performed, rfl⟩
    · rename_i performed
      cases moved
      exact .inr (.inl performed)
    · rename_i performed
      split at moved
      · rename_i interrupted
        cases moved
        exact .inr (.inr ⟨performed, interrupted, rfl⟩)
      · cases moved

section plain

variable {behaviour : Behaviour σ} {call : Call} (moved : system.step behaviour mover = some after)
  (present : system.processes[mover]? = some process) (asks : behaviour.next process.program = some call)
  (plain : call ≠ .fork ∧ ∀ program arguments, call ≠ .load program arguments)

include moved present asks plain

/-- A move with a call that starts nothing is what comes of the call. -/
theorem step_plain :
    (∃ reply between, system.perform mover process call = .answer reply between ∧
        after = between.answer behaviour mover reply) ∨
      system.perform mover process call = .moved after ∨
      (system.perform mover process call = .blocked ∧ process.interrupted = true ∧
        after = (system.put mover (withoutOpening process)).answer behaviour mover (interruption process)) := by
  obtain ⟨found, asked, living, -, -, same, how⟩ := step_eq_some moved
  obtain rfl : process = found := by rwa [present, Option.some.injEq] at living
  obtain rfl : call = asked := by rwa [asks, Option.some.injEq] at same
  rcases how with ⟨rfl, -⟩ | ⟨program, arguments, rfl, -⟩ | ⟨-, how⟩
  · exact absurd rfl plain.1
  · exact absurd rfl (plain.2 program arguments)
  · exact how

theorem step_of_answer {reply : Reply} {between : System σ}
    (performed : system.perform mover process call = .answer reply between) :
    after = between.answer behaviour mover reply := by
  rcases step_plain moved present asks plain with ⟨given, result, same, rfl⟩ | waits | ⟨waits, -⟩
  · rw [performed] at same
    cases same
    rfl
  · rw [performed] at waits
    cases waits
  · rw [performed] at waits
    cases waits

theorem step_of_moved {between : System σ} (performed : system.perform mover process call = .moved between) :
    after = between := by
  rcases step_plain moved present asks plain with ⟨given, result, same, -⟩ | waits | ⟨waits, -⟩
  · rw [performed] at same
    cases same
  · rw [performed] at waits
    cases waits
    rfl
  · rw [performed] at waits
    cases waits

/-- A call that would wait is given up for a signal. -/
theorem step_of_blocked (performed : system.perform mover process call = .blocked) :
    process.interrupted = true ∧
      after = system.put mover ((withoutOpening process).answered behaviour (interruption process)) := by
  rcases step_plain moved present asks plain with ⟨given, result, same, -⟩ | waits | ⟨-, interrupted, rfl⟩
  · rw [performed] at same
    cases same
  · rw [performed] at waits
    cases waits
  · rw [answer_eq behaviour (getElem?_put_self _ _ _), put_put]
    exact ⟨interrupted, rfl⟩

end plain

/-- Only a process that lives and is not stopped moves. -/
theorem alive_of_step {behaviour : Behaviour σ} (present : system.processes[mover]? = some process)
    (moved : system.step behaviour mover = some after) : process.ending = none ∧ process.stopped = false := by
  obtain ⟨found, call, living, alive, going, -⟩ := step_eq_some moved
  obtain rfl : process = found := by rwa [present, Option.some.injEq] at living
  exact ⟨alive, going⟩

section goes

variable {behaviour : Behaviour σ} {call : Call} (present : system.processes[mover]? = some process)
  (alive : process.ending = none) (going : process.stopped = false)
  (asks : behaviour.next process.program = some call)
  (plain : call ≠ .fork ∧ ∀ program arguments, call ≠ .load program arguments)

include present alive going asks plain

/-- A call that is answered at once makes a move. -/
theorem step_eq_of_answer {reply : Reply} {between : System σ}
    (performed : system.perform mover process call = .answer reply between) :
    system.step behaviour mover = some (between.answer behaviour mover reply) := by
  cases call <;> first | exact absurd rfl plain.1 | exact absurd rfl (plain.2 _ _) |
    simp [step, present, alive, going, asks, performed]

theorem step_eq_of_moved {between : System σ} (performed : system.perform mover process call = .moved between) :
    system.step behaviour mover = some between := by
  cases call <;> first | exact absurd rfl plain.1 | exact absurd rfl (plain.2 _ _) |
    simp [step, present, alive, going, asks, performed]

end goes

/-- A fork adds a process under the number that is given out next, and answers its caller. -/
theorem fork_eq (behaviour : Behaviour σ) (present : system.processes[mover]? = some process)
    (older : mover < system.nextProcess) :
    system.fork behaviour mover process =
      { system with
        processes := (system.processes.insert system.nextProcess
          { process with
            parent := some mover
            program := behaviour.resume process.program .child
            arrived := []
            interrupted := false }).insert mover
          (process.answered behaviour (.number system.nextProcess))
        nextProcess := system.nextProcess + 1 } := by
  have found : ({ system.put system.nextProcess
      { process with
        parent := some mover
        program := behaviour.resume process.program .child
        arrived := []
        interrupted := false } with
      nextProcess := system.nextProcess + 1 } : System σ).processes[mover]? = some process := by
    have other : system.nextProcess ≠ mover := by omega
    simp [put, Std.ExtTreeMap.getElem?_insert, other, present]
  unfold fork
  exact answer_eq behaviour found _

/-- What a move leaves of the rest of a system, when others change in some way at most. -/
structure Spares (change : Process σ → Process σ → Prop) (mover : Nat) (before after : System σ) : Prop where
  numbered : after.Numbered
  nextProcess : before.nextProcess ≤ after.nextProcess
  nextPipe : before.nextPipe ≤ after.nextPipe
  others : ∀ other, other ≠ mover → other < before.nextProcess →
    ∀ process : Process σ, after.processes[other]? = some process →
      ∃ earlier, before.processes[other]? = some earlier ∧ change earlier process

namespace Spares

variable {change : Process σ → Process σ → Prop} {between : System σ}

/-- Where every process that is there was there before, no number is given out anew. -/
theorem of_processes (numbered : system.Numbered) (nextProcess : after.nextProcess = system.nextProcess)
    (nextPipe : system.nextPipe ≤ after.nextPipe)
    (own : ∀ later, after.processes[mover]? = some later → ∃ earlier, system.processes[mover]? = some earlier)
    (others : ∀ other, other ≠ mover → ∀ later, after.processes[other]? = some later →
      ∃ earlier, system.processes[other]? = some earlier ∧ change earlier later) :
    Spares change mover system after where
  numbered :=
    { process := by
        intro number later found
        rw [nextProcess]
        by_cases same : number = mover
        · subst same
          obtain ⟨earlier, present⟩ := own later found
          exact numbered.process number earlier present
        · obtain ⟨earlier, present, -⟩ := others number same later found
          exact numbered.process number earlier present }
  nextProcess := Nat.le_of_eq nextProcess.symm
  nextPipe := nextPipe
  others other ne _ later found := others other ne later found

theorem of_frame (numbered : system.Numbered) (frame : Frame mover system after) :
    Spares (Undisturbed mover) mover system after :=
  of_processes numbered frame.nextProcess frame.nextPipe
    (fun later found => (frame.own later found).imp fun _ present => present.1) frame.others

theorem mono {weaker : Process σ → Process σ → Prop} (spares : Spares change mover system after)
    (weakens : ∀ {before after : Process σ}, change before after → weaker before after) :
    Spares weaker mover system after where
  numbered := spares.numbered
  nextProcess := spares.nextProcess
  nextPipe := spares.nextPipe
  others other ne known later found := by
    obtain ⟨earlier, present, changed⟩ := spares.others other ne known later found
    exact ⟨earlier, present, weakens changed⟩

/-- Once a process has moved, it may also change itself. -/
theorem put (spares : Spares change mover system between) (older : mover < system.nextProcess)
    (replacement : Process σ) : Spares change mover system (between.put mover replacement) where
  numbered :=
    { process := by
        intro number later found
        rw [getElem?_put] at found
        split at found
        · have grown := spares.nextProcess
          simp only [System.put]
          omega
        · exact spares.numbered.process number later found }
  nextProcess := spares.nextProcess
  nextPipe := spares.nextPipe
  others other ne known later found := by
    rw [getElem?_put, if_neg ne.symm] at found
    exact spares.others other ne known later found

theorem answer (spares : Spares change mover system between) (older : mover < system.nextProcess)
    (behaviour : Behaviour σ) (reply : Reply) :
    Spares change mover system (between.answer behaviour mover reply) := by
  unfold System.answer
  split
  · exact spares
  · exact spares.put older _

theorem fork (behaviour : Behaviour σ) (numbered : system.Numbered)
    (present : system.processes[mover]? = some process) :
    Spares (Undisturbed mover) mover system (system.fork behaviour mover process) := by
  rw [fork_eq behaviour present (numbered.process mover process present)]
  refine ⟨⟨?_⟩, Nat.le_succ _, Nat.le_refl _, ?_⟩
  · intro number later found
    simp only [Std.ExtTreeMap.getElem?_insert, Std.LawfulEqCmp.compare_eq_iff_eq] at found
    split at found
    · rename_i own
      have := numbered.process mover process present
      dsimp only
      omega
    split at found
    · dsimp only
      omega
    · have := numbered.process number later found
      dsimp only
      omega
  · intro other ne older later found
    rw [Std.ExtTreeMap.getElem?_insert, if_neg (by simpa using ne.symm), Std.ExtTreeMap.getElem?_insert,
      if_neg (by simp; omega)] at found
    exact ⟨later, found, .refl mover later⟩

/-- What the calls leave of others, a whole move does. -/
theorem of_step {behaviour : Behaviour σ} (numbered : system.Numbered)
    (weakens : ∀ {before after : Process σ}, Undisturbed mover before after → change before after)
    (performs : ∀ process call between, system.processes[mover]? = some process →
      behaviour.next process.program = some call → (system.perform mover process call).Leads between →
      Spares change mover system between)
    (moved : system.step behaviour mover = some after) : Spares change mover system after := by
  obtain ⟨process, call, present, -, -, asks, how⟩ := step_eq_some moved
  have older := numbered.process mover process present
  have unmoved : Spares change mover system system := (of_frame numbered (.refl system)).mono weakens
  rcases how with ⟨-, rfl⟩ | ⟨program, arguments, -, rfl⟩ | ⟨-, ⟨reply, between, performed, rfl⟩ | performed |
    ⟨-, -, rfl⟩⟩
  · exact (Spares.fork behaviour numbered present).mono weakens
  · unfold load
    split
    · exact unmoved.answer older behaviour _
    · have counted : Spares (Undisturbed mover) mover system { system with loaded := system.loaded + 1 } :=
        of_frame numbered (.of_processes rfl (Nat.le_refl _) rfl)
      exact (counted.mono weakens).put older _
  · exact (performs process call between present asks (Effect.leads_of_answer performed)).answer older behaviour reply
  · exact performs process call after present asks (Effect.leads_of_moved performed)
  · exact (unmoved.put older _).answer older behaviour _

end Spares

/-- Whatever one process does, the others keep their programs, and as long as they live their descriptors. -/
theorem step_spares {behaviour : Behaviour σ} (numbered : system.Numbered)
    (moved : system.step behaviour mover = some after) : Spares Disturbed mover system after := by
  refine Spares.of_step numbered Undisturbed.disturbed ?_ moved
  intro process call between present _ led
  by_cases kills : ∃ target signal, call = .kill target signal
  · obtain ⟨target, signal, rfl⟩ := kills
    obtain ⟨⟨nextProcess, nextPipe⟩, disturbs⟩ := perform_kill led
    exact .of_processes numbered nextProcess (Nat.le_of_eq nextPipe.symm)
      (fun later found => (disturbs mover later found).imp fun _ present => present.1)
      (fun other _ later found => disturbs other later found)
  · have quiet : ∀ target signal, call ≠ .kill target signal :=
      fun target signal equal => kills ⟨target, signal, equal⟩
    exact (Spares.of_frame numbered (perform_frame present quiet led)).mono Undisturbed.disturbed

/-- A process that sends no signals leaves only marks on others. -/
theorem step_quiet {behaviour : Behaviour σ} (numbered : system.Numbered)
    (quiet : ∀ process, system.processes[mover]? = some process →
      ∀ target signal, behaviour.next process.program ≠ some (.kill target signal))
    (moved : system.step behaviour mover = some after) : Spares (Undisturbed mover) mover system after := by
  refine Spares.of_step numbered (fun same => same) ?_ moved
  intro process call between present asks led
  have silent : ∀ target signal, call ≠ .kill target signal := by
    rintro target signal rfl
    exact quiet process present target signal asks
  exact .of_frame numbered (perform_frame present silent led)

@[simp] theorem nextProcess_answer (behaviour : Behaviour σ) (system : System σ) (number : Nat) (reply : Reply) :
    (system.answer behaviour number reply).nextProcess = system.nextProcess := by
  unfold answer
  split <;> rfl

/-- Only a fork makes a process. -/
theorem nextProcess_step {behaviour : Behaviour σ} {call : Call} (present : system.processes[mover]? = some process)
    (asks : behaviour.next process.program = some call) (notFork : call ≠ .fork)
    (quiet : ∀ target signal, call ≠ .kill target signal)
    (moved : system.step behaviour mover = some after) : after.nextProcess = system.nextProcess := by
  obtain ⟨found, asked, living, -, -, same, how⟩ := step_eq_some moved
  obtain rfl : process = found := by rwa [present, Option.some.injEq] at living
  obtain rfl : call = asked := by rwa [asks, Option.some.injEq] at same
  rcases how with ⟨forks, -⟩ | ⟨program, arguments, -, rfl⟩ | ⟨-, ⟨reply, between, performed, rfl⟩ | performed |
    ⟨-, -, rfl⟩⟩
  · exact absurd forks notFork
  · unfold load
    split
    · rw [nextProcess_answer]
    · rfl
  · rw [nextProcess_answer]
    exact (perform_frame present quiet (Effect.leads_of_answer performed)).nextProcess
  · exact (perform_frame present quiet (Effect.leads_of_moved performed)).nextProcess
  · rw [nextProcess_answer, nextProcess_put]

/-- A call leaves its caller with the program that it had. -/
theorem program_perform {later : Process σ} {call : Call} (present : system.processes[mover]? = some process)
    (led : (system.perform mover process call).Leads after) (found : after.processes[mover]? = some later) :
    later.program = process.program := by
  have own : ∃ earlier, system.processes[mover]? = some earlier ∧ later.program = earlier.program := by
    by_cases kills : ∃ target signal, call = .kill target signal
    · obtain ⟨target, signal, rfl⟩ := kills
      obtain ⟨earlier, living, disturbed⟩ := (perform_kill led).2 mover later found
      exact ⟨earlier, living, disturbed.program⟩
    · exact (perform_frame present (fun target signal equal => kills ⟨target, signal, equal⟩) led).own later found
  obtain ⟨earlier, living, same⟩ := own
  rw [present] at living
  cases living
  exact same

/-- A process that has moved goes on with an answer or with another program, or waits for its answer. -/
theorem program_step {behaviour : Behaviour σ} {later : Process σ} (numbered : system.Numbered)
    (moved : system.step behaviour mover = some after) (found : after.processes[mover]? = some later) :
    ∃ process, system.processes[mover]? = some process ∧
      (later.program = process.program ∨ (∃ reply, later.program = behaviour.resume process.program reply) ∨
        ∃ files working environment program arguments,
          behaviour.load files working environment program arguments = .ok later.program) := by
  obtain ⟨process, call, present, -, -, -, how⟩ := step_eq_some moved
  refine ⟨process, present, ?_⟩
  have answered : ∀ {between : System σ} {reply : Reply} {middle : Process σ},
      between.processes[mover]? = some middle → middle.program = process.program →
      (between.answer behaviour mover reply).processes[mover]? = some later →
      ∃ reply, later.program = behaviour.resume process.program reply := by
    intro between reply middle living same found
    rw [answer_eq behaviour living, getElem?_put_self] at found
    cases found
    exact ⟨reply, by simp [Process.answered, same]⟩
  rcases how with ⟨-, rfl⟩ | ⟨program, arguments, -, rfl⟩ | ⟨-, ⟨reply, between, performed, rfl⟩ | performed |
    ⟨-, -, rfl⟩⟩
  · rw [fork_eq behaviour present (numbered.process mover process present)] at found
    simp only [Std.ExtTreeMap.getElem?_insert_self, Option.some.injEq] at found
    subst found
    exact .inr (.inl ⟨_, rfl⟩)
  · unfold load at found
    split at found
    · exact .inr (.inl (answered present rfl found))
    · rename_i image loads
      rw [getElem?_put_self] at found
      cases found
      exact .inr (.inr ⟨_, _, _, _, _, loads⟩)
  · cases living : between.processes[mover]? with
    | none => simp [answer, living] at found
    | some middle =>
      have same := program_perform present (Effect.leads_of_answer performed) living
      exact .inr (.inl (answered living same found))
  · exact .inl (program_perform present (Effect.leads_of_moved performed) found)
  · refine .inr (.inl (answered (getElem?_put_self _ _ _) ?_ found))
    unfold withoutOpening
    split <;> rfl

/-- The passing of time changes the clock alone. -/
theorem passTime_eq_some (passed : system.passTime = some after) :
    ∃ clock, after = { system with clock } := by
  unfold passTime at passed
  split at passed
  · cases passed
  · split at passed
    · cases passed
      exact ⟨_, rfl⟩
    · cases passed

end System

end Pipework.Kernel
