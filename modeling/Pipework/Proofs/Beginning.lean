import Pipework.Proofs.Aliasing
import Pipework.Proofs.Insulation
import Pipework.Proofs.Progress

set_option autoImplicit false

/-!
The beginning of a stage. A process that is to become a stage sets up its streams call by call, while all others do what
they like. `Stands` says where it stands, by what the rewiring comes to; each of its moves brings it on. It comes to the
loading of its program with its endpoints in place, or it gives up: it never loads a program, and exits with the code
for that (`streams_rewired`).
-/

namespace Pipework

open Kernel

variable {τ : Type} {images : Behaviour τ} {mishaps : Call → Bool} {number : Nat} {start machine after : Machine τ}
  {tally : Tally} {process later : Process (Program τ)} {startup : Startup} {result : Except Errno DescriptorTable}

theorem Startup.loading_of_begun (begun : startup.control.hasFailed = false)
    (settled : startup.control.isRewiring = false) : startup.control = .loading := by
  cases control : startup.control <;> simp_all [Control.isRewiring, Control.hasFailed]

/-- What a process has come to by a call of the rewiring: it goes on towards the same table, or it has failed, and
there is no table that it would come to. -/
structure Rewires (result : Except Errno DescriptorTable) (startup : Startup) (limit : Nat) (reply : Reply)
    (table : DescriptorTable) : Prop where
  goesOn : (startup.resume reply).control.hasFailed = false →
    (startup.resume reply).control.outcome limit table = result
  fewer : (startup.resume reply).control.calls < startup.control.calls
  failed : (startup.resume reply).control.hasFailed = true →
    (startup.resume reply).control.code? = some Startup.rewireFailure ∧ ∃ errno, result = .error errno

/-- A process that sets up its streams can move, and comes nearer to the end of that. -/
theorem step_rewiring (images : Behaviour τ) (present : machine.processes[number]? = some process)
    (alive : process.ending = none) (going : process.stopped = false) (program : process.program = .startup startup)
    (rewiring : startup.control.isRewiring = true) :
    ∃ reply table, machine.step (Program.behaviour images) number =
        some (machine.put number ({ process with descriptors := table }.answered (Program.behaviour images) reply)) ∧
      Rewires (startup.control.outcome process.limit process.descriptors) startup process.limit reply table := by
  have asks : (Program.behaviour images).next process.program = some startup.next := by
    rw [program]
    rfl
  have plain : startup.next ≠ .fork ∧ ∀ program arguments, startup.next ≠ .load program arguments := by
    refine ⟨startup.next_ne_fork, fun name arguments loads => ?_⟩
    rw [Startup.control_of_next_load loads] at rewiring
    cases rewiring
  have performed := Startup.perform_operate rewiring machine number process
  have outcome := Startup.outcome_operate rewiring process.limit process.descriptors
  cases operated : startup.operate process.limit process.descriptors with
  | ok answered =>
    obtain ⟨reply, table⟩ := answered
    rw [operated] at performed outcome
    obtain ⟨begun, fewer, -⟩ := Startup.begun_operate rewiring operated
    refine ⟨reply, table, ?_, fun _ => outcome.symm, fewer, fun failed => ?_⟩
    · rw [System.step_eq_of_answer present alive going asks plain performed, System.answer_putTable]
    · cases begun.symm.trans failed
  | error errno =>
    rw [operated] at performed outcome
    have interrupted := Startup.ne_interrupted_of_operate rewiring operated
    obtain code | ⟨same, -⟩ := Startup.code?_of_failed_rewiring rewiring errno
    · refine ⟨.failed errno, process.descriptors, ?_, fun begun => ?_, ?_, fun _ => ⟨code, errno, outcome⟩⟩
      · rw [System.step_eq_of_answer present alive going asks plain performed, System.answer_eq _ present]
      · cases (Startup.Control.code?_of_begun begun).symm.trans code
      · rw [Startup.Control.calls_eq_zero code]
        exact Startup.Control.calls_pos rewiring
    · exact absurd same interrupted

/-- Where a process stands that set out to become a stage, if `result` is what its rewiring comes to: it sets up its
streams, or is about to load its program; it has failed in the one or in the other; or it has loaded its program. -/
inductive Stands (mishaps : Call → Bool) (result : Except Errno DescriptorTable) (process : Process (Program τ)) : Prop
  | begun (startup : Startup) (program : process.program = .startup startup)
      (begun : startup.control.hasFailed = false)
      (settled : process.ending = none → startup.control.outcome process.limit process.descriptors = result)
  | failed (fails : process.FailsWith Startup.rewireFailure)
      (cause : (∃ errno, result = .error errno) ∨ ∃ call, mishaps call = true)
  | unloaded (fails : process.FailsWith Startup.loadFailure) (settled : ∃ final, result = .ok final)
  | image (state : τ) (program : process.program = .image state) (settled : ∃ final, result = .ok final)

theorem Kernel.Process.program_released (process : Process (Program τ)) (call : Call) :
    (process.released call).program = process.program := by
  cases call <;> rfl

theorem Kernel.Process.FailsWith.mishap {code : Nat} (fails : process.FailsWith code) (call : Call) (errno : Errno) :
    ((process.released call).answered (Program.behaviour images) (.failed errno)).FailsWith code := by
  obtain ⟨startup, program, failed⟩ := fails
  exact Process.FailsWith.answered ⟨startup, (process.program_released call).trans program, failed⟩ _

namespace Stands

/-- A process that is disturbed by others stands where it did. -/
theorem disturbed (stands : Stands mishaps result process) (disturbed : Disturbed process later) :
    Stands mishaps result later := by
  cases stands with
  | begun startup program begun settled =>
    refine .begun startup (disturbed.program.trans program) begun fun alive => ?_
    obtain ⟨living, descriptors⟩ := disturbed.alive alive
    rw [disturbed.limit, descriptors]
    exact settled living
  | failed fails cause => exact .failed (fails.disturbed disturbed) cause
  | unloaded fails settled => exact .unloaded (fails.disturbed disturbed) settled
  | image state program settled => exact .image state (disturbed.program.trans program) settled

/-- A move of its own brings it on. -/
theorem move (stands : Stands mishaps result process) (numbered : machine.Numbered)
    (present : machine.processes[number]? = some process)
    (moved : machine.step (Program.behaviour images) number = some after)
    (found : after.processes[number]? = some later) : Stands mishaps result later := by
  obtain ⟨alive, going⟩ := System.alive_of_step present moved
  cases stands with
  | begun startup program begun settled =>
    have settled := settled alive
    by_cases rewiring : startup.control.isRewiring = true
    · obtain ⟨reply, table, same, rewires⟩ := step_rewiring images present alive going program rewiring
      obtain rfl := Option.some.inj (same.symm.trans moved)
      rw [System.getElem?_put_self] at found
      cases found
      have goesOn : ({ process with descriptors := table }.answered (Program.behaviour images) reply).program =
          .startup (startup.resume reply) := Startup.program_answered program reply
      cases lapsed : (startup.resume reply).control.hasFailed with
      | false => exact .begun _ goesOn lapsed fun _ => (rewires.goesOn lapsed).trans settled
      | true =>
        obtain ⟨code, errno, none⟩ := rewires.failed lapsed
        exact .failed ⟨_, goesOn, code⟩ (.inl ⟨errno, settled.symm.trans none⟩)
    · have loading : startup.control = .loading := Startup.loading_of_begun begun (by simpa using rewiring)
      have isOk : result = .ok process.descriptors := by
        rw [← settled, loading]
        rfl
      cases step_startup present program (fun _ => settled.trans isOk) moved with
      | refused errno loading =>
        rw [System.getElem?_put_self] at found
        cases found
        exact .unloaded ⟨_, Startup.program_answered program _, Startup.code?_of_refused loading errno⟩ ⟨_, isOk⟩
      | loaded state loading loads =>
        rw [System.getElem?_put_self] at found
        cases found
        exact .image state rfl ⟨_, isOk⟩
      | rewired reply table settled opened begun inherits erased =>
        rw [System.getElem?_put_self] at found
        cases found
        have goesOn : ({ process with descriptors := table }.answered (Program.behaviour images) reply).program =
            .startup (startup.resume reply) := Startup.program_answered program reply
        exact .begun _ goesOn begun fun _ => settled.trans isOk.symm
      | complained part parts code reply between complaining wrote => cases loading.symm.trans complaining
      | complaining part parts code after complaining wrote => cases loading.symm.trans complaining
      | interrupted part parts code complaining interrupted => cases loading.symm.trans complaining
      | exited code exiting => cases loading.symm.trans exiting
  | failed fails cause => exact .failed (fails.move present moved found) cause
  | unloaded fails settled => exact .unloaded (fails.move present moved found) settled
  | image state program settled =>
    obtain ⟨earlier, living, goesOn⟩ := System.program_step numbered moved found
    obtain rfl : process = earlier := Option.some.inj (present.symm.trans living)
    rw [program] at goesOn
    rcases goesOn with same | ⟨reply, same⟩ | ⟨files, working, environment, name, arguments, loads⟩
    · exact .image state same settled
    · exact .image _ same settled
    · obtain ⟨state, -, image⟩ := Program.load_eq_ok loads
      exact .image state image.symm settled

/-- So does a failure of a call of its own. -/
theorem mishap (stands : Stands mishaps result process) {call : Call} (errno : Errno)
    (asks : (Program.behaviour images).next process.program = some call) (possible : mishaps call = true)
    (alive : process.ending = none) :
    Stands mishaps result ((process.released call).answered (Program.behaviour images) (.failed errno)) := by
  have same := process.program_released call
  cases stands with
  | begun startup program begun settled =>
    obtain rfl : startup.next = call := by simpa [Program.behaviour, program] using asks
    have goesOn : ((process.released startup.next).answered (Program.behaviour images) (.failed errno)).program =
        .startup (startup.resume (.failed errno)) := Startup.program_answered (same.trans program) _
    by_cases rewiring : startup.control.isRewiring = true
    · obtain code | ⟨rfl, ⟨endpoint, target, duplicates⟩, again⟩ := Startup.code?_of_failed_rewiring rewiring errno
      · exact .failed ⟨_, goesOn, code⟩ (.inr ⟨_, possible⟩)
      · rw [again] at goesOn
        refine .begun startup goesOn begun fun _ => ?_
        rw [duplicates]
        exact settled alive
    · have loading : startup.control = .loading := Startup.loading_of_begun begun (by simpa using rewiring)
      refine .unloaded ⟨_, goesOn, Startup.code?_of_refused loading errno⟩ ⟨process.descriptors, ?_⟩
      rw [← settled alive, loading]
      rfl
  | failed fails cause => exact .failed (fails.mishap call errno) cause
  | unloaded fails settled => exact .unloaded (fails.mishap call errno) settled
  | image state program settled =>
    exact .image (images.resume state (.failed errno)) (by simp [Process.answered, same, program, Program.behaviour])
      settled

/-- All along a passage. -/
theorem passage (hosts : start.Hosts number) (passage : Passage images mishaps number start tally machine)
    (began : ∀ process, start.processes[number]? = some process → Stands mishaps result process) :
    ∀ process, machine.processes[number]? = some process → Stands mishaps result process :=
  passage.preserves disturbed (fun numbered present moved found stands => stands.move numbered present moved found)
    (fun errno alive asks possible stands => stands.mishap errno asks possible alive) hosts began

end Stands

/-- A process that has not loaded a program has ended by a signal, or has exited with the code for its failure. -/
def Kernel.Process.EndsFailing (process : Process (Program τ)) : Prop :=
  ∀ startup how, process.program = .startup startup → process.ending = some how →
    (∃ signal, how = .signaled signal) ∨ ∃ code, startup.control.code? = some code ∧ how = .exited (code % 256)

namespace Kernel.Process.EndsFailing

/-- Whoever moves. -/
theorem step {mover : Nat} (hosts : machine.Hosts number)
    (ends : ∀ process, machine.processes[number]? = some process → process.EndsFailing)
    (moved : machine.step (Program.behaviour images) mover = some after)
    (found : after.processes[number]? = some later) : later.EndsFailing := by
  intro startup how program ended
  obtain ⟨process, call, present, asks, earlier, living, same | ⟨how', ended', ends'⟩⟩ :=
    System.leaves_of_step hosts.numbered moved hosts.given found
  · have other : number ≠ mover := by
      rintro rfl
      have alive := (System.alive_of_step living moved).1
      cases ended.symm.trans (same.trans alive)
    obtain ⟨again, there, disturbed⟩ :=
      (System.step_spares hosts.numbered moved).others number other hosts.given later found
    obtain rfl : earlier = again := Option.some.inj (living.symm.trans there)
    exact ends earlier living startup how (disturbed.program.symm.trans program) (same.symm.trans ended)
  · obtain rfl : how' = how := Option.some.inj (ended'.symm.trans ended)
    cases ends' with
    | signal signal sends => exact .inl ⟨signal, rfl⟩
    | pipe own heeds => exact .inl ⟨_, rfl⟩
    | exit own code exits =>
      subst own
      obtain rfl := System.step_of_moved moved present (exits ▸ asks) (by simp) rfl
      obtain ⟨again, there, disturbed⟩ := System.finish_disturbed found
      obtain rfl : process = again := Option.some.inj (present.symm.trans there)
      rw [← disturbed.program, program] at asks
      have next : startup.next = .exit code := by simpa [Program.behaviour, exits] using asks
      exact .inr ⟨code, Startup.next_eq_exit next, rfl⟩

/-- All along a passage. -/
theorem passage (hosts : start.Hosts number) (passage : Passage images mishaps number start tally machine)
    (began : ∀ process, start.processes[number]? = some process → process.EndsFailing) :
    ∀ process, machine.processes[number]? = some process → process.EndsFailing := by
  induction passage with
  | start => exact began
  | time earlier passed ih =>
    obtain ⟨clock, rfl⟩ := System.passTime_eq_some passed
    exact ih
  | mishap earlier failed ih =>
    obtain ⟨process, call, errno, present, alive, -, asks, possible⟩ := failed
    intro later found startup how program ended
    rw [System.getElem?_put_self] at found
    cases found
    have living : (process.released call).ending = none := by cases call <;> exact alive
    cases living.symm.trans ended
  | step earlier mover moved ih =>
    intro later found
    exact step (earlier.hosts hosts) ih moved found

end Kernel.Process.EndsFailing

/-- How many bytes of its complaint a failed process has not got rid of yet, with one for each part. -/
def Startup.Control.unsaid (written : Nat) : Control → Nat
  | complaining part parts _ => (part.length - written) + (parts.flatten.length + parts.length) + 1
  | _ => 0

theorem Startup.unsaid_resume {part : Bytes} {parts : List Bytes} {code written : Nat}
    (complaining : startup.control = .complaining part parts code) (reply : Reply) :
    (startup.resume reply).control.unsaid 0 < startup.control.unsaid written := by
  cases parts with
  | nil => simp [resume, complaining, Control.after, Control.unsaid]
  | cons next parts =>
    simp only [resume, complaining, Control.after, Control.unsaid, List.flatten_cons, List.length_append, List.length_cons]
    omega

/-- What comes of a write, as far as it concerns the writer: it is answered, ends by the signal for a pipe that nobody
reads, unless that is ignored, has written more, or waits. -/
theorem Kernel.System.write_onward {σ : Type} (system : System σ) (number : Nat) (process : Process σ)
    (descriptor : Nat) (data : Bytes) :
    (∃ (reply : Reply) (between : System σ),
      system.perform number process (.write descriptor data) = .answer reply between ∧
      between.processes = system.processes) ∨
    (Signal.pipe ∉ process.ignored ∧
      system.perform number process (.write descriptor data) = .moved (system.finish number (.signaled Signal.pipe))) ∨
    (∃ (between : System σ) (written : Nat), system.perform number process (.write descriptor data) =
        .moved (between.put number { process with written }) ∧ process.written < written ∧ written ≤ data.length) ∨
    system.perform number process (.write descriptor data) = .blocked := by
  have wrote := system.perform_write number process descriptor data
  generalize system.perform number process (.write descriptor data) = effect at wrote
  cases wrote with
  | part pipe found replaced rest outlet waits took remains grown =>
    obtain ⟨bytes, whole, -⟩ := (System.taken_takes took).content
    have size := congrArg List.length whole
    have left : 0 < rest.length := List.length_pos_iff.mpr remains
    rw [List.length_drop, List.length_append] at size
    exact .inr (.inr (.inl ⟨_, _, rfl, by omega, by omega⟩))
  | killed pipe found outlet unread unbegun heeds => exact .inr (.inl ⟨heeds, rfl⟩)
  | blocked => exact .inr (.inr (.inr rfl))
  | _ => exact .inl ⟨_, _, rfl, rfl⟩

/-- A process has exited with a code, unless nobody takes its diagnostics: then it waits, or the signal for that has
ended it, if it does not ignore that. -/
def Machine.HasQuit (images : Behaviour τ) (number code : Nat) (machine : Machine τ) : Prop :=
  ∃ process, machine.processes[number]? = some process ∧
    (process.ending = some (.exited code) ∨
      Signal.pipe ∉ process.ignored ∧ process.ending = some (.signaled Signal.pipe) ∨
      process.ending = none ∧ ∃ text,
        (Program.behaviour images).next process.program = some (.write Startup.diagnostics text) ∧
          machine.perform number process (.write Startup.diagnostics text) = .blocked)

/-- A process that has failed complains, and exits by its own moves. -/
theorem Kernel.Process.FailsWith.quits (images : Behaviour τ) {code : Nat} (fails : process.FailsWith code)
    (present : machine.processes[number]? = some process) (alive : process.ending = none)
    (going : process.stopped = false) :
    ∃ count last, machine.onward images number count = some last ∧ last.HasQuit images number (code % 256) := by
  obtain ⟨startup, program, failed⟩ := fails
  induction left : startup.control.unsaid process.written using Nat.strongRecOn
    generalizing machine process startup with
  | ind rest ih =>
    have asks : (Program.behaviour images).next process.program = some startup.next := by
      rw [program]
      rfl
    -- After a move by which less is left to be said, it goes on as before.
    have further : ∀ {after : Machine τ} {later : Process (Program τ)} {again : Startup},
        machine.step (Program.behaviour images) number = some after → after.processes[number]? = some later →
        later.program = .startup again → later.ending = none → later.stopped = false →
        again.control.code? = some code → again.control.unsaid later.written < rest →
        ∃ count last, machine.onward images number count = some last ∧ last.HasQuit images number (code % 256) := by
      intro after later again moved found program living going failed fewer
      obtain ⟨count, last, moves, quit⟩ := ih _ fewer found living going again program failed rfl
      exact ⟨count + 1, last, by simp [Machine.onward, moved, moves], quit⟩
    cases control : startup.control with
    | exiting code' =>
      obtain rfl : code' = code := by simpa [control, Startup.Control.code?] using failed
      have next : startup.next = .exit code' := by simp [Startup.next, control]
      rw [next] at asks
      refine ⟨1, machine.finish number (.exited (code' % 256)), ?_, _, System.getElem?_finish_self _ present, .inl rfl⟩
      simp [Machine.onward, System.step_eq_of_moved present alive going asks (by simp) rfl]
    | complaining part parts code' =>
      have next : startup.next = .write Startup.diagnostics part := by simp [Startup.next, control]
      rw [next] at asks
      rcases machine.write_onward number process Startup.diagnostics part with
        ⟨reply, between, performed, same⟩ | ⟨heeds, killed⟩ | ⟨between, written, performed, more, within⟩ | blocked
      · have moved := System.step_eq_of_answer present alive going asks (by simp) performed
        have there : between.processes[number]? = some process := same ▸ present
        rw [System.answer_eq _ there] at moved
        refine further moved (System.getElem?_put_self _ _ _) (Startup.program_answered program reply) alive going ?_ ?_
        · rw [Startup.code?_of_failed (Startup.hasFailed_iff_code?.mpr ⟨_, failed⟩), failed]
        · exact left ▸ Startup.unsaid_resume control reply
      · have same := (System.marked_undisturbed machine number number process).ignored
        refine ⟨1, machine.finish number (.signaled Signal.pipe), ?_, _, System.getElem?_finish_self _ present,
          .inr (.inl ⟨same ▸ heeds, rfl⟩)⟩
        simp [Machine.onward, System.step_eq_of_moved present alive going asks (by simp) killed]
      · have moved := System.step_eq_of_moved present alive going asks (by simp) performed
        refine further moved (System.getElem?_put_self _ _ _) program alive going failed ?_
        rw [← left, control]
        simp only [Startup.Control.unsaid]
        omega
      · exact ⟨0, machine, rfl, process, present, .inr (.inr ⟨alive, part, asks, blocked⟩)⟩
    | _ => simp [control, Startup.Control.code?] at failed

/-- A process is about to load its program, and has these descriptors. -/
def Machine.Loading (number : Nat) (table : DescriptorTable) (machine : Machine τ) : Prop :=
  ∃ process startup, machine.processes[number]? = some process ∧ process.ending = none ∧
    process.program = .startup startup ∧ startup.control = .loading ∧ process.descriptors = table

/-- A process that sets up its streams comes to the loading of its program by its own moves, or to a failure. -/
theorem rewires_onward (images : Behaviour τ) (present : machine.processes[number]? = some process)
    (alive : process.ending = none) (going : process.stopped = false) (program : process.program = .startup startup)
    (begun : startup.control.hasFailed = false) :
    ∃ count last, machine.onward images number count = some last ∧
      match startup.control.outcome process.limit process.descriptors with
      | .ok final => last.Loading number final
      | .error _ => ∃ failed, last.processes[number]? = some failed ∧ failed.ending = none ∧ failed.stopped = false ∧
          failed.FailsWith Startup.rewireFailure := by
  induction left : startup.control.calls using Nat.strongRecOn generalizing machine process startup with
  | ind rest ih =>
    by_cases rewiring : startup.control.isRewiring = true
    · obtain ⟨reply, table, moved, rewires⟩ := step_rewiring images present alive going program rewiring
      have goesOn : ({ process with descriptors := table }.answered (Program.behaviour images) reply).program =
          .startup (startup.resume reply) := Startup.program_answered program reply
      have there := System.getElem?_put_self machine number
        ({ process with descriptors := table }.answered (Program.behaviour images) reply)
      cases lapsed : (startup.resume reply).control.hasFailed with
      | false =>
        obtain ⟨count, last, moves, comes⟩ := ih _ (left ▸ rewires.fewer) there alive going goesOn lapsed rfl
        refine ⟨count + 1, last, by simp [Machine.onward, moved, moves], ?_⟩
        rwa [← rewires.goesOn lapsed]
      | true =>
        obtain ⟨code, errno, none⟩ := rewires.failed lapsed
        refine ⟨1, _, Option.bind_eq_some_iff.mpr ⟨_, moved, rfl⟩, ?_⟩
        rw [none]
        exact ⟨_, there, alive, going, _, goesOn, code⟩
    · have loading := Startup.loading_of_begun begun (by simpa using rewiring)
      refine ⟨0, machine, rfl, ?_⟩
      rw [loading]
      exact ⟨process, startup, present, alive, program, loading, rfl⟩

/-- Whatever happens from here on, a process never loads a program: it ends by a signal or exits with this code, and its
own moves lead to that. -/
structure GivesUp (images : Behaviour τ) (mishaps : Call → Bool) (number code : Nat) (machine : Machine τ) : Prop where
  never : ∀ (tally : Tally) (last : Machine τ) (process : Process (Program τ)),
    Passage images mishaps number machine tally last → last.processes[number]? = some process →
      (∃ startup, process.program = .startup startup) ∧
        ∀ how, process.ending = some how → how = .exited code ∨ ∃ signal, how = .signaled signal
  quits : ∀ process, machine.processes[number]? = some process → process.ending = none → process.stopped = false →
    ∃ count last, machine.onward images number count = some last ∧ last.HasQuit images number code

namespace Stands

/-- As long as the process has not failed, it comes to the same table. -/
theorem settled (stands : Stands mishaps result process) (program : process.program = .startup startup)
    (alive : process.ending = none) (begun : startup.control.hasFailed = false) :
    startup.control.outcome process.limit process.descriptors = result := by
  have code := Startup.Control.code?_of_begun begun
  cases stands with
  | begun same there begun settled =>
    obtain rfl : startup = same := Program.startup.inj (program.symm.trans there)
    exact settled alive
  | failed fails cause => cases code.symm.trans (fails.code? program)
  | unloaded fails settled => cases code.symm.trans (fails.code? program)
  | image state there settled => cases program.symm.trans there

/-- Why the rewiring has failed. -/
theorem cause (stands : Stands mishaps result process) (fails : process.FailsWith Startup.rewireFailure) :
    (∃ errno, result = .error errno) ∨ ∃ call, mishaps call = true := by
  obtain ⟨startup, program, failed⟩ := fails
  cases stands with
  | begun same there begun settled =>
    obtain rfl : startup = same := Program.startup.inj (program.symm.trans there)
    cases (Startup.Control.code?_of_begun begun).symm.trans failed
  | failed fails cause => exact cause
  | unloaded fails settled => cases failed.symm.trans (fails.code? program)
  | image state there settled => cases program.symm.trans there

variable {errno : Errno}

/-- If there is no table that it comes to, the process sets up its streams, or has failed in that. -/
theorem of_error (stands : Stands mishaps (.error errno) process) :
    (∃ startup, process.program = .startup startup ∧ startup.control.hasFailed = false ∧
      (process.ending = none → startup.control.outcome process.limit process.descriptors = .error errno)) ∨
    process.FailsWith Startup.rewireFailure := by
  cases stands with
  | begun startup program begun settled => exact .inl ⟨startup, program, begun, settled⟩
  | failed fails cause => exact .inr fails
  | unloaded fails settled =>
    obtain ⟨final, none⟩ := settled
    cases none
  | image state program settled =>
    obtain ⟨final, none⟩ := settled
    cases none

theorem isStartup (stands : Stands mishaps (.error errno) process) :
    ∃ startup, process.program = .startup startup := by
  rcases stands.of_error with ⟨startup, program, -⟩ | ⟨startup, program, -⟩
  · exact ⟨startup, program⟩
  · exact ⟨startup, program⟩

theorem code {code : Nat} (stands : Stands mishaps (.error errno) process)
    (program : process.program = .startup startup) (failed : startup.control.code? = some code) :
    code = Startup.rewireFailure := by
  rcases stands.of_error with ⟨same, there, begun, -⟩ | fails
  · obtain rfl : startup = same := Program.startup.inj (program.symm.trans there)
    cases (Startup.Control.code?_of_begun begun).symm.trans failed
  · exact Option.some.inj (failed.symm.trans (fails.code? program))

/-- The table with which a process comes to the loading of its program is the one that it was to come to. -/
theorem of_loading {table : DescriptorTable}
    (stands : ∀ process, machine.processes[number]? = some process → Stands mishaps result process)
    (loading : machine.Loading number table) : result = .ok table := by
  obtain ⟨process, startup, present, alive, program, loading, rfl⟩ := loading
  have comes := (stands process present).settled program alive (by rw [loading]; rfl)
  rw [loading] at comes
  exact comes.symm

/-- A process that loads its program has what is kept of the table that it was to come to. -/
theorem of_loadsWith {table : DescriptorTable} (hosts : machine.Hosts number)
    (stands : ∀ process, machine.processes[number]? = some process → Stands mishaps result process)
    (loads : machine.LoadsWith images number table) : ∃ final, result = .ok final ∧ table = final.afterLoad := by
  obtain ⟨process, startup, after, loaded, state, present, program, moved, found, image, rfl⟩ := loads
  have stands := stands process present
  cases result with
  | ok final =>
    have alive := (System.alive_of_step present moved).1
    obtain ⟨-, -, same⟩ := loaded_of_image present program (stands.settled program alive) moved found image
    exact ⟨final, rfl, by rw [same]⟩
  | error errno =>
    obtain ⟨startup, there⟩ := (stands.move hosts.numbered present moved found).isStartup
    cases image.symm.trans there

end Stands

/-- If the rewiring comes to nothing, the process gives up. -/
theorem GivesUp.of_stands {errno : Errno} (hosts : machine.Hosts number)
    (stands : ∀ process, machine.processes[number]? = some process → Stands mishaps (.error errno) process)
    (ends : ∀ process, machine.processes[number]? = some process → process.EndsFailing) :
    GivesUp images mishaps number Startup.rewireFailure machine where
  never tally last process passage found := by
    have stands := Stands.passage hosts passage stands process found
    refine ⟨stands.isStartup, fun how ended => ?_⟩
    obtain ⟨startup, program⟩ := stands.isStartup
    rcases Process.EndsFailing.passage hosts passage ends process found startup how program ended with
      signaled | ⟨code, failed, rfl⟩
    · exact .inr signaled
    · rw [stands.code program failed]
      exact .inl rfl
  quits process present alive going := by
    rcases (stands process present).of_error with ⟨startup, program, begun, settled⟩ | fails
    · obtain ⟨count, last, moves, comes⟩ := rewires_onward images present alive going program begun
      rw [settled alive] at comes
      obtain ⟨failed, there, living, goes, fails⟩ := comes
      obtain ⟨more, quit, further, has⟩ := fails.quits images there living goes
      exact ⟨count + more, quit, Machine.onward_add moves further, has⟩
    · exact fails.quits images present alive going

/-- If the rewiring has failed, for whatever reason, the process gives up, too. -/
theorem GivesUp.of_failsWith (hosts : machine.Hosts number) (present : machine.processes[number]? = some process)
    (fails : process.FailsWith Startup.rewireFailure)
    (ends : ∀ process, machine.processes[number]? = some process → process.EndsFailing) :
    GivesUp images mishaps number Startup.rewireFailure machine := by
  have stands : Stands mishaps (.error .badDescriptor) process := .failed fails (.inl ⟨_, rfl⟩)
  exact .of_stands hosts (fun same there => Option.some.inj (present.symm.trans there) ▸ stands) ends

section begin

variable {stage : Stage} {streams : Streams} {unused : Option Nat}

theorem Stands.of_begin (hosts : start.Hosts number) (present : start.processes[number]? = some process)
    (program : process.program = .startup (.begin stage streams unused))
    (passage : Passage images mishaps number start tally machine)
    (settled : (Startup.begin stage streams unused).control.outcome process.limit process.descriptors = result) :
    ∀ later, machine.processes[number]? = some later → Stands mishaps result later := by
  refine Stands.passage hosts passage fun same there => ?_
  obtain rfl : process = same := Option.some.inj (present.symm.trans there)
  exact .begun _ program (Startup.hasFailed_begin stage streams unused) fun _ => settled

theorem Kernel.Process.EndsFailing.of_alive (hosts : start.Hosts number)
    (present : start.processes[number]? = some process) (alive : process.ending = none)
    (passage : Passage images mishaps number start tally machine) :
    ∀ later, machine.processes[number]? = some later → later.EndsFailing := by
  refine Process.EndsFailing.passage hosts passage fun same there startup how _ ended => ?_
  obtain rfl : process = same := Option.some.inj (present.symm.trans there)
  cases alive.symm.trans ended

/-- Endpoints come to the standard streams wherever they are. For every table in which they have different numbers, also
those of standard streams, and some number above these is free: a process comes to the loading of its program only if
all its endpoints are open, and then they are in place; it loads it with what is kept of that table. If one of them is
not, or a call has failed for whatever reason, the process exits with the code for that and never loads a program; if
all are open no call fails by itself, and the process comes to the loading by its own moves. -/
theorem streams_rewired (hosts : start.Hosts number) (present : start.processes[number]? = some process)
    (alive : process.ending = none) (program : process.program = .startup (.begin stage streams unused))
    (distinct : (streams.numbers unused).Nodup)
    (free : ∃ spare, Startup.diagnostics < spare ∧ spare < process.limit ∧ process.descriptors[spare]? = none)
    (passage : Passage images mishaps number start tally machine) :
    (∀ table, machine.Loading number table →
      streams.AreOpen unused process.descriptors ∧ Rewired streams unused process.descriptors table) ∧
    (∀ table, machine.LoadsWith images number table → streams.AreOpen unused process.descriptors ∧
      ∃ final, Rewired streams unused process.descriptors final ∧ table = final.afterLoad) ∧
    (∀ later, machine.processes[number]? = some later → later.FailsWith Startup.rewireFailure →
      streams.AreOpen unused process.descriptors → ∃ call, mishaps call = true) ∧
    ((¬ streams.AreOpen unused process.descriptors ∨
        ∃ later, machine.processes[number]? = some later ∧ later.FailsWith Startup.rewireFailure) →
      GivesUp images mishaps number Startup.rewireFailure machine) ∧
    (streams.AreOpen unused process.descriptors → ∀ later startup, machine.processes[number]? = some later →
      later.ending = none → later.stopped = false → later.program = .startup startup →
      startup.control.hasFailed = false → ∃ count last table, machine.onward images number count = some last ∧
        last.Loading number table ∧ Rewired streams unused process.descriptors table) := by
  have hosts' := passage.hosts hosts
  have ends := Process.EndsFailing.of_alive hosts present alive passage
  by_cases areOpen : streams.AreOpen unused process.descriptors
  · obtain ⟨final, settled, rewired⟩ := Startup.outcome_begin_of_open stage distinct areOpen free
    have stands := Stands.of_begin hosts present program passage settled
    refine ⟨fun table loading => ?_, fun table loads => ?_, fun later there fails _ => ?_, ?_, ?_⟩
    · obtain rfl : final = table := Except.ok.inj (Stands.of_loading stands loading)
      exact ⟨areOpen, rewired⟩
    · obtain ⟨same, comes, kept⟩ := Stands.of_loadsWith hosts' stands loads
      obtain rfl : final = same := Except.ok.inj comes
      exact ⟨areOpen, final, rewired, kept⟩
    · rcases (stands later there).cause fails with ⟨errno, none⟩ | mishap
      · cases none
      · exact mishap
    · rintro (broken | ⟨later, there, fails⟩)
      · exact absurd areOpen broken
      · exact .of_failsWith hosts' there fails ends
    · intro _ later startup there living going becoming begun
      obtain ⟨count, last, moves, comes⟩ := rewires_onward images there living going becoming begun
      rw [(stands later there).settled becoming living begun] at comes
      exact ⟨count, last, final, moves, comes, rewired⟩
  · obtain ⟨spare, above, below, -⟩ := free
    obtain ⟨errno, broken⟩ := Startup.outcome_begin_of_broken stage distinct areOpen
      (Nat.lt_trans (Nat.lt_trans (Nat.lt_succ_self 1) above) below)
    have stands := Stands.of_begin hosts present program passage broken
    refine ⟨fun table loading => ?_, fun table loads => ?_, fun _ _ _ whole => absurd whole areOpen,
      fun _ => .of_stands hosts' stands ends, fun whole => absurd whole areOpen⟩
    · cases Stands.of_loading stands loading
    · obtain ⟨final, none, -⟩ := Stands.of_loadsWith hosts' stands loads
      cases none

end begin

/-- Endpoints on the standard streams: the output on 0, the input on 1, and the unused one on 2. -/
def swappedStreams : DescriptorTable :=
  ((Std.ExtTreeMap.empty.insert 0 ⟨.writeEnd 7, true⟩).insert 1 ⟨.readEnd 6, true⟩).insert 2 ⟨.readEnd 8, true⟩

/-- A machine on which the process 1 is to become a stage with these endpoints. -/
def Machine.swapping (table : DescriptorTable) : Machine (Option Bytes) :=
  (Machine.copying table 0).put 1
    { copyingExecutor table 0 with program := .startup (.begin (copierStage 0) ⟨some 1, some 0⟩ (some 2)) }

/-- Endpoints in each other's places change them, and the one on 2 is closed. If the input is closed behind the back
of its owner, the process gives up. -/
theorem streams_rewired_of_swapped :
    (∃ count last table, Machine.onward copier 1 count (.swapping swappedStreams) = some last ∧
      last.Loading 1 table ∧ table[0]? = some ⟨.readEnd 6, false⟩ ∧ table[1]? = some ⟨.writeEnd 7, false⟩ ∧
      table[2]? = none ∧ table[3]? = none) ∧
    GivesUp copier (fun _ => false) 1 126 (.swapping (swappedStreams.erase 1)) := by
  have hosts : ∀ table, (Machine.swapping table).Hosts 1 := fun table =>
    Machine.Hosts.put ⟨numbered_copying _ _, Nat.lt_succ_self 1⟩ _
  have present : ∀ table, (Machine.swapping table).processes[1]? = some
      { copyingExecutor table 0 with program := .startup (.begin (copierStage 0) ⟨some 1, some 0⟩ (some 2)) } :=
    fun table => System.getElem?_put_self _ _ _
  have begun : ∀ table, Passage copier (fun _ => false) 1 (.swapping table) {} (.swapping table) := fun _ => .start
  constructor
  · obtain ⟨-, -, -, -, comes⟩ := streams_rewired (hosts swappedStreams) (present swappedStreams) rfl rfl (by decide)
      ⟨3, by decide, by decide, by rfl⟩ (begun swappedStreams)
    have areOpen : Streams.AreOpen ⟨some 1, some 0⟩ (some 2) swappedStreams := by decide
    obtain ⟨count, last, table, moves, loading, rewired⟩ := comes areOpen _ _ (present swappedStreams) rfl rfl rfl rfl
    obtain ⟨input, isInput, read⟩ := rewired.input 1 rfl
    obtain ⟨output, isOutput, written⟩ := rewired.output 0 rfl
    cases isInput
    cases isOutput
    exact ⟨count, last, table, moves, loading, read, written, rewired.closed 2 (by decide) (by decide),
      rewired.others 3 (by decide) (by decide)⟩
  · obtain ⟨-, -, -, gives, -⟩ := streams_rewired (hosts (swappedStreams.erase 1))
      (present (swappedStreams.erase 1)) rfl rfl (by decide) ⟨3, by decide, by decide, by rfl⟩
      (begun (swappedStreams.erase 1))
    exact gives (.inl (by decide))

end Pipework
