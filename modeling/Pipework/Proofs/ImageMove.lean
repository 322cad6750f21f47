import Pipework.Proofs.Confinement

set_option autoImplicit false

/-!
The moves of an image that uses its standard streams only. `ImageMove` lists them, each with what the image has
asked and was answered; all that is shown about such an image is shown by cases on this list.
-/

namespace Pipework

open Kernel

namespace Kernel.System

variable {σ : Type} {system between : System σ} {number descriptor limit : Nat} {process : Process σ}
  {data : Bytes} {reply : Reply}

/-- A read that is answered changes no process. -/
theorem processes_of_read (performed : system.perform number process (.read descriptor limit) = .answer reply between) :
    between.processes = system.processes := by
  have received := system.perform_read number process descriptor limit
  rw [performed] at received
  cases received <;> rfl

/-- A write that is answered changes no process. -/
theorem processes_of_write (performed : system.perform number process (.write descriptor data) = .answer reply between) :
    between.processes = system.processes := by
  have wrote := system.perform_write number process descriptor data
  rw [performed] at wrote
  cases wrote <;> rfl

/-- Closing releases a number if it is open. -/
theorem perform_close :
    system.perform number process (.close descriptor) =
      .answer (if descriptor ∈ process.descriptors then .done else .failed .badDescriptor)
        (if descriptor ∈ process.descriptors then
          system.putTable number process (process.descriptors.erase descriptor) else system) := by
  simp only [perform, DescriptorTable.close]
  split <;> rfl

end Kernel.System

variable {τ : Type}

/-- What an image can make of a machine, and what it has asked and was answered in doing so. -/
inductive ImageMove (images : Behaviour τ) (machine : System (Program τ)) (number : Nat)
    (process : Process (Program τ)) (state : τ) : System (Program τ) → Option (Call × Reply) → Prop where
  | received (limit : Nat) (reply : Reply) (between : System (Program τ))
      (asks : images.next state = some (.read 0 limit))
      (performed : machine.perform number process (.read 0 limit) = .answer reply between) :
      ImageMove images machine number process state
        (between.put number (process.answered (Program.behaviour images) reply)) (some (.read 0 limit, reply))
  | wrote (data : Bytes) (reply : Reply) (between : System (Program τ))
      (asks : images.next state = some (.write 1 data))
      (performed : machine.perform number process (.write 1 data) = .answer reply between) :
      ImageMove images machine number process state
        (between.put number (process.answered (Program.behaviour images) reply)) (some (.write 1 data, reply))
  | writing (data : Bytes) (pipe : Nat) (found replaced : Pipe) (rest : Bytes)
      (asks : images.next state = some (.write 1 data))
      (outlet : machine.outlet? process 1 = some (pipe, found)) (waits : found.writesAtOnce = false)
      (took : machine.taken process found data = (replaced, rest)) (remains : rest ≠ []) :
      ImageMove images machine number process state
        ((machine.putPipe pipe replaced).put number { process with written := data.length - rest.length }) none
  | killed (data : Bytes) (pipe : Nat) (found : Pipe) (asks : images.next state = some (.write 1 data))
      (outlet : machine.outlet? process 1 = some (pipe, found)) (unread : machine.holds (.readEnd pipe) = false)
      (unbegun : process.written = 0) :
      ImageMove images machine number process state (machine.finish number (.signaled Signal.pipe)) none
  | closed (place : Nat) (standard : place = 0 ∨ place = 1) (asks : images.next state = some (.close place)) :
      ImageMove images machine number process state
        (machine.put number ({ process with descriptors := process.descriptors.erase place }.answered
          (Program.behaviour images) (if place ∈ process.descriptors then .done else .failed .badDescriptor)))
        (some (.close place, if place ∈ process.descriptors then .done else .failed .badDescriptor))
  | exited (code : Nat) (asks : images.next state = some (.exit code)) :
      ImageMove images machine number process state (machine.finish number (.exited (code % 256))) none

variable {images : Behaviour τ} {machine after : System (Program τ)} {number : Nat} {process : Process (Program τ)}
  {state : τ}

theorem Kernel.Call.cases_of_isOnStreams {call : Call} (onStreams : call.isOnStreams = true) :
    (∃ limit, call = .read 0 limit) ∨ (∃ data, call = .write 1 data) ∨
      (∃ place, (place = 0 ∨ place = 1) ∧ call = .close place) ∨ ∃ code, call = .exit code := by
  unfold isOnStreams at onStreams
  split at onStreams
  · exact .inl ⟨_, rfl⟩
  · exact .inr (.inl ⟨_, rfl⟩)
  · exact .inr (.inr (.inl ⟨0, .inl rfl, rfl⟩))
  · exact .inr (.inr (.inl ⟨1, .inr rfl, rfl⟩))
  · exact .inr (.inr (.inr ⟨_, rfl⟩))
  · cases onStreams

/-- An image whose calls are not interrupted makes one of the moves that are listed. -/
theorem step_image (present : machine.processes[number]? = some process) (program : process.program = .image state)
    (filters : images.Filters) (unmarked : process.interrupted = false)
    (moved : machine.step (Program.behaviour images) number = some after) :
    ImageMove images machine number process state after (Machine.exchange? images machine number) := by
  obtain ⟨call, next, onStreams⟩ := filters state
  have asks : (Program.behaviour images).next process.program = some call := by rw [program]; exact next
  have plain : call ≠ .fork ∧ ∀ name arguments, call ≠ .load name arguments := by
    constructor
    · rintro rfl
      cases onStreams
    · rintro name arguments rfl
      cases onStreams
  have exchange : Machine.exchange? images machine number =
      (machine.perform number process call).exchange process call := by
    simp only [Machine.exchange?, present, program, next]
    split
    · rename_i none
      cases none
    · rename_i same
      exact absurd (Option.some.inj same) plain.1
    · rename_i name arguments same
      exact absurd (Option.some.inj same) (plain.2 name arguments)
    · rename_i same
      cases same
      rfl
  rcases Call.cases_of_isOnStreams onStreams with ⟨limit, rfl⟩ | ⟨data, rfl⟩ | ⟨place, standard, rfl⟩ | ⟨code, rfl⟩
  · cases performed : machine.perform number process (.read 0 limit) with
    | answer reply between =>
      obtain rfl := System.step_of_answer moved present asks plain performed
      have still : between.processes[number]? = some process := by
        rw [System.processes_of_read performed, present]
      rw [exchange, performed, System.answer_eq _ still]
      exact .received limit reply between next performed
    | moved between =>
      have received := machine.perform_read number process 0 limit
      rw [performed] at received
      cases received
    | blocked =>
      have interrupted := (System.step_of_blocked moved present asks plain performed).1
      rw [unmarked] at interrupted
      cases interrupted
  · have wrote := machine.perform_write number process 1 data
    cases performed : machine.perform number process (.write 1 data) with
    | answer reply between =>
      obtain rfl := System.step_of_answer moved present asks plain performed
      have still : between.processes[number]? = some process := by
        rw [System.processes_of_write performed, present]
      rw [exchange, performed, System.answer_eq _ still]
      exact .wrote data reply between next performed
    | moved between =>
      obtain rfl := System.step_of_moved moved present asks plain performed
      rw [exchange, performed]
      rw [performed] at wrote
      cases wrote with
      | killed pipe found outlet unread unbegun => exact .killed data pipe found next outlet unread unbegun
      | part pipe found replaced rest outlet waits took remains =>
        exact .writing data pipe found replaced rest next outlet waits took remains
    | blocked =>
      have interrupted := (System.step_of_blocked moved present asks plain performed).1
      rw [unmarked] at interrupted
      cases interrupted
  · obtain rfl := System.step_of_answer moved present asks plain System.perform_close
    rw [exchange, System.perform_close]
    have closed : ImageMove images machine number process state _ _ := .closed place standard next
    by_cases isOpen : place ∈ process.descriptors
    · simp only [isOpen, if_true, System.answer_putTable]
      simpa only [isOpen, if_true, Effect.exchange] using closed
    · have same : process.descriptors.erase place = process.descriptors :=
        DescriptorTable.erase_of_not_mem isOpen
      simp only [isOpen, if_false, System.answer_eq _ present]
      simpa only [isOpen, if_false, same, Effect.exchange] using closed
  · have performed : machine.perform number process (.exit code) =
        .moved (machine.finish number (.exited (code % 256))) := rfl
    obtain rfl := System.step_of_moved moved present asks plain performed
    rw [exchange, performed]
    exact .exited code next

/-- An image stays one, and opens nothing. -/
theorem ImageMove.own {exchange : Option (Call × Reply)} {later : Process (Program τ)}
    (move : ImageMove images machine number process state after exchange)
    (present : machine.processes[number]? = some process) (program : process.program = .image state)
    (found : after.processes[number]? = some later) :
    (∃ next, later.program = .image next) ∧ ∀ (place : Nat) (descriptor : Descriptor),
      later.descriptors[place]? = some descriptor → process.descriptors[place]? = some descriptor := by
  have goesOn : ∀ (table : DescriptorTable) (reply : Reply),
      ∃ next, ({ process with descriptors := table }.answered (Program.behaviour images) reply).program =
        .image next := by
    intro table reply
    exact ⟨images.resume state reply, by simp [Process.answered, program, Program.behaviour]⟩
  have ends : ∀ {how : Termination}, (machine.finish number how).processes[number]? = some later →
      (∃ next, later.program = .image next) ∧ ∀ (place : Nat) (descriptor : Descriptor),
        later.descriptors[place]? = some descriptor → process.descriptors[place]? = some descriptor := by
    intro how found
    rw [System.getElem?_finish_self how present] at found
    cases found
    refine ⟨⟨state, (machine.marked_undisturbed number number process).program.trans program⟩, ?_⟩
    intro place descriptor isOpen
    simp at isOpen
  cases move with
  | received limit reply between asks performed =>
    rw [System.getElem?_put_self] at found
    cases found
    exact ⟨goesOn process.descriptors reply, fun _ _ isOpen => isOpen⟩
  | wrote data reply between asks performed =>
    rw [System.getElem?_put_self] at found
    cases found
    exact ⟨goesOn process.descriptors reply, fun _ _ isOpen => isOpen⟩
  | writing data pipe given replaced rest asks outlet waits took remains =>
    rw [System.getElem?_put_self] at found
    cases found
    exact ⟨⟨state, program⟩, fun _ _ isOpen => isOpen⟩
  | killed data pipe given asks outlet unread unbegun => exact ends found
  | closed place standard asks =>
    rw [System.getElem?_put_self] at found
    cases found
    refine ⟨goesOn _ _, fun other descriptor isOpen => ?_⟩
    rw [Process.answered, Std.ExtTreeMap.getElem?_erase] at isOpen
    split at isOpen
    · cases isOpen
    · exact isOpen
  | exited code asks => exact ends found

end Pipework
