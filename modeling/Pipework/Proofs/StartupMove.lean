import Pipework.Program
import Pipework.Proofs.Move
import Pipework.Proofs.Rewiring
import Pipework.Proofs.Transfer

set_option autoImplicit false

/-!
The moves of a process that is to become a stage. `StartupMove` lists them; all that is shown about such a process
is shown by cases on this list.
-/

namespace Pipework

open Kernel

variable {τ : Type}

/-- What a process that is to become a stage can make of a machine, when it will load its program with the table
`final`. -/
inductive StartupMove (images : Behaviour τ) (machine : System (Program τ)) (number : Nat)
    (process : Process (Program τ)) (startup : Startup) (final : DescriptorTable) : System (Program τ) → Prop where
  | rewired (reply : Reply) (table : DescriptorTable)
      (settled : (startup.resume reply).control.outcome process.limit table = .ok final)
      (opened : ∀ unused streams, (startup.resume reply).control ≠ .closingUnused unused streams)
      (begun : (startup.resume reply).control.hasFailed = false)
      (inherits : process.descriptors.Inherits table)
      (erased : ∀ unused streams, startup.control = .closingUnused unused streams →
        table = process.descriptors.erase unused) :
      StartupMove images machine number process startup final
        (machine.put number ({ process with descriptors := table }.answered (Program.behaviour images) reply))
  | refused (errno : Errno) (loading : startup.control = .loading) :
      StartupMove images machine number process startup final
        (machine.put number (process.answered (Program.behaviour images) (.failed errno)))
  | loaded (state : τ) (loading : startup.control = .loading)
      (loads : images.load machine.files process.working process.environment startup.program startup.arguments =
        .ok state) :
      StartupMove images machine number process startup final
        ({ machine with loaded := machine.loaded + 1 }.put number
          { process with
            program := .image state
            descriptors := process.descriptors.afterLoad
            handled := []
            arrived := []
            interrupted := false })
  | complained (part : Bytes) (parts : List Bytes) (code : Nat) (reply : Reply) (between : System (Program τ))
      (complaining : startup.control = .complaining part parts code)
      (wrote : machine.perform number process (.write Startup.diagnostics part) = .answer reply between) :
      StartupMove images machine number process startup final
        (between.answer (Program.behaviour images) number reply)
  | complaining (part : Bytes) (parts : List Bytes) (code : Nat) (after : System (Program τ))
      (complaining : startup.control = .complaining part parts code)
      (wrote : machine.perform number process (.write Startup.diagnostics part) = .moved after) :
      StartupMove images machine number process startup final after
  | interrupted (part : Bytes) (parts : List Bytes) (code : Nat)
      (complaining : startup.control = .complaining part parts code) (interrupted : process.interrupted = true) :
      StartupMove images machine number process startup final
        (machine.put number
          ((System.withoutOpening process).answered (Program.behaviour images) (System.interruption process)))
  | exited (code : Nat) (exiting : startup.control = .exiting code) :
      StartupMove images machine number process startup final (machine.finish number (.exited (code % 256)))

variable {images : Behaviour τ} {machine after : System (Program τ)} {number : Nat} {process : Process (Program τ)}
  {startup : Startup} {final : DescriptorTable}

/-- A program that is loaded is an image. -/
theorem Program.load_eq_ok {files : Files} {working : Nat} {environment : Environment} {name : Bytes}
    {arguments : List Bytes} {image : Program τ}
    (loads : (Program.behaviour images).load files working environment name arguments = .ok image) :
    ∃ state, images.load files working environment name arguments = .ok state ∧ .image state = image := by
  simp only [Program.behaviour] at loads
  cases found : images.load files working environment name arguments with
  | error errno => simp [found, Except.map] at loads
  | ok state =>
    simp only [found, Except.map, Except.ok.injEq] at loads
    exact ⟨state, rfl, loads⟩

/-- A process on its way to a program goes on with an answer. -/
theorem Startup.program_answered {images : Behaviour τ} {process : Process (Program τ)} {startup : Startup}
    (program : process.program = .startup startup) (reply : Reply) :
    (process.answered (Program.behaviour images) reply).program = .startup (startup.resume reply) := by
  simp only [Process.answered, program, Program.behaviour]

theorem Startup.next_ne_fork (startup : Startup) : startup.next ≠ .fork := by
  unfold Startup.next
  repeat' split
  all_goals simp

/-- Only a process whose streams are in place loads a program. -/
theorem Startup.control_of_next_load {program : Bytes} {arguments : List Bytes}
    (loads : startup.next = .load program arguments) : startup.control = .loading := by
  unfold Startup.next at loads
  repeat' split at loads
  all_goals first | assumption | cases loads

/-- A process that has complained will not become a stage any more. -/
theorem Startup.hasFailed_of_complaining {part : Bytes} {parts : List Bytes} {code : Nat}
    (complaining : startup.control = .complaining part parts code) (reply : Reply) :
    (startup.resume reply).control.hasFailed = true := by
  cases parts <;> simp [Startup.resume, complaining, Startup.Control.after, Startup.Control.hasFailed]

/-- A process that was refused its program will not become a stage any more. -/
theorem Startup.hasFailed_of_refused (loading : startup.control = .loading) (errno : Errno) :
    (startup.resume (.failed errno)).control.hasFailed = true := by
  simp [Startup.resume, loading, Startup.Control.after, Startup.Control.fail, Startup.Control.hasFailed]

/-- A process that is to become a stage makes one of the moves that are listed. -/
theorem step_startup (present : machine.processes[number]? = some process)
    (program : process.program = .startup startup)
    (settled : startup.control.hasFailed = false →
      startup.control.outcome process.limit process.descriptors = .ok final)
    (moved : machine.step (Program.behaviour images) number = some after) :
    StartupMove images machine number process startup final after := by
  have asks : (Program.behaviour images).next process.program = some startup.next := by
    rw [program]
    rfl
  have notFork := Startup.next_ne_fork startup
  by_cases rewiring : startup.control.isRewiring = true
  · have begun := Startup.Control.begun_of_rewiring rewiring
    have plain : startup.next ≠ .fork ∧ ∀ name arguments, startup.next ≠ .load name arguments := by
      refine ⟨notFork, fun name arguments loads => ?_⟩
      rw [Startup.control_of_next_load loads] at rewiring
      cases rewiring
    obtain ⟨reply, table, performed, settled, opened, begun, inherits, erased⟩ :=
      Startup.perform_rewiring machine number rewiring (settled begun)
    obtain rfl := System.step_of_answer moved present asks plain performed
    rw [System.answer_putTable]
    exact .rewired reply table settled opened begun inherits erased
  obtain ⟨name, arguments, control⟩ := startup
  cases control with
  | loading =>
    obtain ⟨found, call, living, -, -, same, how⟩ := System.step_eq_some moved
    obtain rfl : process = found := by rwa [present, Option.some.injEq] at living
    obtain rfl : Call.load name arguments = call := by rwa [asks, Option.some.injEq] at same
    rcases how with ⟨forks, -⟩ | ⟨loaded, given, loads, rfl⟩ | ⟨⟨-, notLoad⟩, -⟩
    · cases forks
    · cases loads
      unfold System.load
      split
      · rw [System.answer_eq _ present]
        exact .refused _ rfl
      · rename_i image found
        obtain ⟨state, loads, rfl⟩ := Program.load_eq_ok found
        exact .loaded state rfl loads
    · exact absurd rfl (notLoad name arguments)
  | complaining part parts code =>
    have plain : Call.write Startup.diagnostics part ≠ .fork ∧
        ∀ name arguments, Call.write Startup.diagnostics part ≠ .load name arguments := by simp
    cases performed : machine.perform number process (.write Startup.diagnostics part) with
    | answer reply between =>
      obtain rfl := System.step_of_answer moved present asks plain performed
      exact .complained part parts code reply between rfl performed
    | moved between =>
      obtain rfl := System.step_of_moved moved present asks plain performed
      exact .complaining part parts code _ rfl performed
    | blocked =>
      obtain ⟨interrupted, rfl⟩ := System.step_of_blocked moved present asks plain performed
      exact .interrupted part parts code rfl interrupted
  | exiting code =>
    obtain rfl := System.step_of_moved moved present asks (by simp [Startup.next]) rfl
    exact .exited code rfl
  | _ => exact absurd rfl rewiring

/-- Where a process has loaded its program, its streams were in place, and it keeps the descriptors that survive. -/
theorem loaded_of_image {later : Process (Program τ)} {state : τ}
    (present : machine.processes[number]? = some process) (program : process.program = .startup startup)
    (settled : startup.control.hasFailed = false →
      startup.control.outcome process.limit process.descriptors = .ok final)
    (moved : machine.step (Program.behaviour images) number = some after)
    (found : after.processes[number]? = some later) (image : later.program = .image state) :
    startup.control = .loading ∧
      images.load machine.files process.working process.environment startup.program startup.arguments = .ok state ∧
      later = { process with
        program := .image state
        descriptors := final.afterLoad
        handled := []
        arrived := []
        interrupted := false } := by
  have goesOn : ∀ (earlier : Process (Program τ)) {reply : Reply}, earlier.program = .startup startup →
      (earlier.answered (Program.behaviour images) reply).program ≠ .image state := by
    intro earlier reply same
    simp [Process.answered, same, Program.behaviour]
  have stays : ∀ {earlier : Process (Program τ)}, earlier.program = process.program →
      earlier.program ≠ .image state := by
    intro earlier same
    simp [same, program]
  cases step_startup present program settled moved with
  | rewired reply table settled opened begun inherits erased =>
    rw [System.getElem?_put_self] at found
    cases found
    exact absurd image (goesOn { process with descriptors := table } program)
  | refused errno loading =>
    rw [System.getElem?_put_self] at found
    cases found
    exact absurd image (goesOn process program)
  | loaded state loading loads =>
    rw [System.getElem?_put_self] at found
    cases found
    obtain rfl : process.descriptors = final := by
      simpa [loading, Startup.Control.outcome] using settled (by rw [loading]; rfl)
    cases image
    exact ⟨loading, loads, rfl⟩
  | complained part parts code reply between complaining wrote =>
    obtain ⟨earlier, living, rfl⟩ := System.getElem?_answer_self found
    have same := System.write_disturbed present (Effect.leads_of_answer wrote) living
    exact absurd image (goesOn earlier (same.program.trans program))
  | complaining part parts code after complaining wrote =>
    exact absurd image (stays (System.write_disturbed present (Effect.leads_of_moved wrote) found).program)
  | interrupted part parts code complaining interrupted =>
    rw [System.getElem?_put_self] at found
    cases found
    have same : (System.withoutOpening process).program = process.program := by
      unfold System.withoutOpening
      split <;> rfl
    exact absurd image (goesOn _ (same.trans program))
  | exited code exiting =>
    obtain ⟨earlier, living, same⟩ := System.finish_disturbed found
    obtain rfl : process = earlier := by rwa [present, Option.some.injEq] at living
    exact absurd image (stays same.program)

/-- A process that will not become a stage any more stays so. -/
theorem Startup.hasFailed_resume (failed : startup.control.hasFailed = true) (reply : Reply) :
    (startup.resume reply).control.hasFailed = true := by
  cases control : startup.control with
  | complaining part parts code => exact hasFailed_of_complaining control reply
  | exiting code => simp [Startup.resume, control, Control.after, Control.hasFailed]
  | _ => simp [control, Control.hasFailed] at failed

/-- A process that has failed exits with the same code, whatever it is answered. -/
theorem Startup.code?_of_failed (failed : startup.control.hasFailed = true) (reply : Reply) :
    (startup.resume reply).control.code? = startup.control.code? := by
  cases control : startup.control with
  | complaining part parts code => cases parts <;> simp [Startup.resume, control, Control.after, Control.code?]
  | exiting code => simp [Startup.resume, control, Control.after, Control.code?]
  | _ => simp [control, Control.hasFailed] at failed

theorem Startup.hasFailed_iff_code? : startup.control.hasFailed = true ↔ ∃ code, startup.control.code? = some code := by
  cases startup.control <;> simp [Control.code?, Control.hasFailed]

/-- A process that has failed with a code goes on to exit with it. -/
def Kernel.Process.FailsWith (code : Nat) (process : Process (Program τ)) : Prop :=
  ∃ startup, process.program = .startup startup ∧ startup.control.code? = some code

namespace Kernel.Process.FailsWith

variable {code : Nat} {later : Process (Program τ)}

theorem disturbed (fails : process.FailsWith code) (disturbed : Disturbed process later) : later.FailsWith code := by
  obtain ⟨startup, program, failed⟩ := fails
  exact ⟨startup, disturbed.program.trans program, failed⟩

theorem answered (fails : process.FailsWith code) (reply : Reply) :
    (process.answered (Program.behaviour images) reply).FailsWith code := by
  obtain ⟨startup, program, failed⟩ := fails
  refine ⟨startup.resume reply, Startup.program_answered program reply, ?_⟩
  rw [Startup.code?_of_failed (Startup.hasFailed_iff_code?.mpr ⟨code, failed⟩), failed]

theorem code? (fails : process.FailsWith code) (program : process.program = .startup startup) :
    startup.control.code? = some code := by
  obtain ⟨same, there, failed⟩ := fails
  obtain rfl : startup = same := Program.startup.inj (program.symm.trans there)
  exact failed

/-- A process that has failed stays so, whatever it does. -/
theorem move (fails : process.FailsWith code) (present : machine.processes[number]? = some process)
    (moved : machine.step (Program.behaviour images) number = some after)
    (found : after.processes[number]? = some later) : later.FailsWith code := by
  obtain ⟨startup, program, failed⟩ := fails
  have lapsed := Startup.hasFailed_iff_code?.mpr ⟨code, failed⟩
  have fails : process.FailsWith code := ⟨startup, program, failed⟩
  have begun : startup.control.hasFailed = false →
      startup.control.outcome process.limit process.descriptors = .ok process.descriptors := by
    intro begun
    cases begun.symm.trans lapsed
  cases step_startup present program begun moved with
  | rewired reply table settled opened begun inherits erased =>
    cases begun.symm.trans (Startup.hasFailed_resume lapsed reply)
  | refused errno loading =>
    rw [loading] at lapsed
    cases lapsed
  | loaded state loading loads =>
    rw [loading] at lapsed
    cases lapsed
  | complained part parts code reply between complaining wrote =>
    obtain ⟨earlier, living, rfl⟩ := System.getElem?_answer_self found
    exact (fails.disturbed (System.write_disturbed present (Effect.leads_of_answer wrote) living)).answered reply
  | complaining part parts code after complaining wrote =>
    exact fails.disturbed (System.write_disturbed present (Effect.leads_of_moved wrote) found)
  | interrupted part parts code complaining interrupted =>
    rw [System.getElem?_put_self] at found
    cases found
    refine answered ?_ _
    unfold System.withoutOpening
    split <;> exact fails
  | exited code exiting =>
    obtain ⟨earlier, living, disturbed⟩ := System.finish_disturbed found
    obtain rfl : process = earlier := Option.some.inj (present.symm.trans living)
    exact fails.disturbed disturbed

end Kernel.Process.FailsWith

/-- A process that may still become a stage uses no files. -/
theorem StartupMove.files (begun : startup.control.hasFailed = false)
    (move : StartupMove images machine number process startup final after) : after.files = machine.files := by
  cases move with
  | complained part parts code reply between complaining wrote =>
    rw [complaining] at begun
    cases begun
  | complaining part parts code after complaining wrote =>
    rw [complaining] at begun
    cases begun
  | exited code exiting =>
    rw [exiting] at begun
    cases begun
  | _ => rfl

end Pipework
