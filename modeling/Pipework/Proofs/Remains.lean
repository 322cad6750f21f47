import Pipework.Proofs.Plumbing

set_option autoImplicit false

/-!
What any move leaves of a machine on which a run is underway (`Remains`), whoever makes it: the other processes go on
as they were, until they have ended and are waited for; a pipe changes only if the process that moves refers to it; and
nobody gets hold of an end that nobody held.
-/

namespace Pipework

open Kernel

namespace Kernel

variable {σ : Type}

/-- What can become of a process while `mover` moves. -/
inductive Outlives (mover : Nat) : Option (Process σ) → Option (Process σ) → Prop where
  | absent : Outlives mover none none
  | there {earlier later : Process σ} (same : Undisturbed mover earlier later) :
      Outlives mover (some earlier) (some later)
  /-- It has ended and was waited for. -/
  | collected {earlier : Process σ} (ended : earlier.ending ≠ none) : Outlives mover (some earlier) none

namespace Outlives

variable {mover : Nat} {before after : Option (Process σ)} {process later : Process σ}

theorem refl (mover : Nat) (process : Option (Process σ)) : Outlives mover process process := by
  cases process with
  | none => exact .absent
  | some process => exact .there (.refl mover process)

theorem back (outlives : Outlives mover before after) (found : after = some later) :
    ∃ earlier, before = some earlier ∧ Undisturbed mover earlier later := by
  cases outlives with
  | absent => cases found
  | there same =>
    cases found
    exact ⟨_, rfl, same⟩
  | collected ended => cases found

/-- Who lives is there afterwards. -/
theorem forth (outlives : Outlives mover before after) (present : before = some process)
    (alive : process.ending = none) : ∃ later, after = some later ∧ Undisturbed mover process later := by
  cases outlives with
  | absent => cases present
  | there same =>
    cases present
    exact ⟨_, rfl, same⟩
  | collected ended =>
    cases present
    exact absurd alive ended

end Outlives

/-- Every process is still there. -/
def Retains (before after : System σ) : Prop := ∀ number ∈ before.processes, number ∈ after.processes

namespace Retains

variable {before between after : System σ}

theorem of_processes (same : after.processes = before.processes) : Retains before after := by
  intro number member
  rwa [same]

theorem trans (first : Retains before between) (second : Retains between after) : Retains before after :=
  fun number member => second number (first number member)

theorem put (system : System σ) (number : Nat) (process : Process σ) : Retains system (system.put number process) := by
  intro other member
  simp only [System.put, Std.ExtTreeMap.mem_insert]
  exact .inr member

theorem finish (system : System σ) (number : Nat) (how : Termination) :
    Retains system (system.finish number how) := by
  intro other member
  cases present : system.processes[number]? with
  | none =>
    rw [System.finish_absent how present]
    exact member
  | some process =>
    rw [System.finish_eq how present, Std.ExtTreeMap.mem_insert, Std.ExtTreeMap.mem_map]
    exact .inr member

theorem answer (behaviour : Behaviour σ) (system : System σ) (number : Nat) (reply : Reply) :
    Retains system (system.answer behaviour number reply) := by
  unfold System.answer
  split
  · exact fun _ member => member
  · exact put _ _ _

end Retains

namespace System

variable {system after : System σ} {mover : Nat} {process : Process σ} {call : Call}

theorem retains_tableAnswer {result : Except Errno DescriptorTable}
    (led : (system.tableAnswer mover process result).Leads after) : Retains system after := by
  cases result with
  | error errno =>
    cases led
    exact .of_processes rfl
  | ok table =>
    cases led
    exact .put _ _ _

/-- A call that brings nothing removes nobody. -/
theorem retains_perform (modest : call.bringsNothing = true) (led : (system.perform mover process call).Leads after) :
    Retains system after := by
  cases call with
  | close descriptor => exact retains_tableAnswer led
  | duplicate source target => exact retains_tableAnswer led
  | keepOnExec descriptor => exact retains_tableAnswer led
  | duplicateFrom source least =>
    simp only [perform] at led
    generalize process.descriptors.duplicateFrom process.limit source least = result at led
    cases result with
    | error errno =>
      cases led
      exact .of_processes rfl
    | ok given =>
      cases led
      exact .put _ _ _
  | read descriptor limit =>
    have received := system.perform_read mover process descriptor limit
    generalize system.perform mover process (.read descriptor limit) = effect at led received
    cases received with
    | blocked => cases led
    | _ =>
      cases led
      exact .of_processes rfl
  | write descriptor data =>
    have wrote := system.perform_write mover process descriptor data
    generalize system.perform mover process (.write descriptor data) = effect at led wrote
    cases wrote with
    | killed pipe found outlet unread unbegun =>
      cases led
      exact .finish _ _ _
    | part pipe found replaced rest outlet waits took remains =>
      cases led
      have first : Retains system (system.putPipe pipe replaced) := .of_processes rfl
      exact first.trans (.put _ _ _)
    | blocked => cases led
    | _ =>
      cases led
      exact .of_processes rfl
  | load program arguments =>
    cases led
    exact .of_processes rfl
  | exit code =>
    cases led
    exact .finish _ _ _
  | _ => cases modest

/-- A move that brings nothing removes nobody. -/
theorem retains_step {behaviour : Behaviour σ} (present : system.processes[mover]? = some process)
    (asks : behaviour.next process.program = some call) (modest : call.bringsNothing = true)
    (moved : system.step behaviour mover = some after) : Retains system after := by
  obtain ⟨given, asked, living, -, -, same, how⟩ := step_eq_some moved
  obtain rfl : process = given := by rwa [present, Option.some.injEq] at living
  obtain rfl : call = asked := by rwa [asks, Option.some.injEq] at same
  rcases how with ⟨rfl, -⟩ | ⟨program, arguments, -, rfl⟩ | ⟨-, ⟨reply, between, performed, rfl⟩ | performed |
    ⟨-, -, rfl⟩⟩
  · cases modest
  · unfold load
    split
    · exact .answer _ _ _ _
    · have counted : Retains system { system with loaded := system.loaded + 1 } := .of_processes rfl
      exact counted.trans (.put _ _ _)
  · exact (retains_perform modest (Effect.leads_of_answer performed)).trans (.answer _ _ _ _)
  · exact retains_perform modest (Effect.leads_of_moved performed)
  · exact (Retains.put _ _ _).trans (.answer _ _ _ _)

end System

/-- What a move of `mover` leaves of a system. -/
structure Remains (mover : Nat) (before after : System σ) : Prop where
  shape : after.shape = before.shape
  nextProcess : before.nextProcess ≤ after.nextProcess
  nextPipe : before.nextPipe ≤ after.nextPipe
  others : ∀ number, number ≠ mover → number < before.nextProcess →
    Outlives mover before.processes[number]? after.processes[number]?
  pipes : ∀ pipe, pipe < before.nextPipe → after.pipes[pipe]? = before.pipes[pipe]? ∨
    ∃ process object found replaced, before.processes[mover]? = some process ∧ process.descriptors.Has object ∧
      before.pipes[pipe]? = some found ∧ after.pipes[pipe]? = some replaced ∧
      Served before.shape object pipe found replaced
  unheld : ∀ object pipe, object.pipe? = some pipe → pipe < before.nextPipe → before.holds object = false →
    after.holds object = false

/-- A pipe that is there stays there, and answers as it did. -/
theorem Remains.ways {mover pipe : Nat} {before after : System σ} {found : Pipe} (remains : Remains mover before after)
    (old : pipe < before.nextPipe) (present : before.pipes[pipe]? = some found) :
    ∃ replaced, after.pipes[pipe]? = some replaced ∧ replaced.readsAtOnce = found.readsAtOnce ∧
      replaced.writesAtOnce = found.writesAtOnce ∧ (0 < before.shape.pageSize → found.Filled → replaced.Filled) := by
  rcases remains.pipes pipe old with same | ⟨process, object, given, replaced, -, -, there, now, served⟩
  · exact ⟨found, same.trans present, rfl, rfl, fun _ filled => filled⟩
  · obtain rfl : found = given := by rwa [present, Option.some.injEq] at there
    exact ⟨replaced, now, served.readsAtOnce, served.writesAtOnce, served.filled⟩

/-- A pipe that is empty and to which nobody can write stays empty. -/
theorem Remains.stays_empty {mover pipe : Nat} {before after : System σ} {found replaced : Pipe}
    (remains : Remains mover before after) (old : pipe < before.nextPipe) (present : before.pipes[pipe]? = some found)
    (nothing : found.content = []) (unheld : before.holds (.writeEnd pipe) = false)
    (now : after.pipes[pipe]? = some replaced) : replaced.content = [] := by
  rcases remains.pipes pipe old with same | ⟨process, object, given, later, living, has, there, still, served⟩
  · rw [same, present] at now
    cases now
    exact nothing
  · obtain rfl : found = given := by rwa [present, Option.some.injEq] at there
    obtain rfl : later = replaced := by rwa [still, Option.some.injEq] at now
    rcases served.content with ⟨writes, -⟩ | ⟨-, taken, whole⟩
    · have held := System.holds_iff.mpr ⟨mover, process, living, DescriptorTable.refersTo_iff.mpr ⟨object, has, writes⟩⟩
      rw [unheld] at held
      cases held
    · rw [nothing] at whole
      exact (List.append_eq_nil_iff.mp whole.symm).2

/-- What nobody held nobody holds, if all have got what they have from those who were there. -/
theorem System.unheld_of {before after : System σ} {object : Object} (unheld : before.holds object = false)
    (inherited : ∀ (number : Nat) (process : Process σ), after.processes[number]? = some process →
      process.descriptors.refersTo object = true →
      ∃ (other : Nat) (earlier : Process σ), before.processes[other]? = some earlier ∧
        earlier.descriptors.refersTo object = true) : after.holds object = false := by
  rw [← Bool.not_eq_true] at unheld ⊢
  intro held
  obtain ⟨number, process, present, refers⟩ := holds_iff.mp held
  exact unheld (holds_iff.mpr (inherited number process present refers))

end Kernel

variable {τ : Type} {images : Behaviour τ} {host floor mover : Nat} {stages : List Stage} {base : DescriptorTable}
  {children channels : List Nat} {machine after : Machine τ} {process : Process (Program τ)}

namespace Confined

/-- What a move of any process but the executor leaves. -/
theorem remains_other (confined : Confined host floor base children channels machine)
    (made : Made host stages base children channels machine) (filters : images.Filters) (notHost : mover ≠ host)
    (moved : machine.step (Program.behaviour images) mover = some after) : Remains mover machine after := by
  obtain ⟨process, -, present, -⟩ := System.step_eq_some moved
  obtain ⟨call, asks, modest⟩ := confined.asks filters notHost present (System.alive_of_step present moved).1
  have plumbed := System.plumbed_step present asks modest moved
  have retains := System.retains_step present asks modest moved
  obtain ⟨spares, same⟩ := confined.spares made filters notHost moved
  refine ⟨plumbed.shape, spares.nextProcess, spares.nextPipe, fun number apart older => ?_, fun pipe _ => ?_,
    fun object pipe isPipe _ unheld => System.unheld_of unheld fun number later found refers => ?_⟩
  · cases found : after.processes[number]? with
    | some later =>
      obtain ⟨earlier, living, undisturbed⟩ := spares.others number apart older later found
      rw [living]
      exact .there undisturbed
    | none =>
      have gone : number ∉ machine.processes := by
        intro member
        have still := retains number member
        simp [Std.ExtTreeMap.mem_iff_isSome_getElem?, found] at still
      rw [Std.ExtTreeMap.getElem?_eq_none gone]
      exact .absent
  · rcases plumbed.pipes pipe with unchanged | ⟨object, found, replaced, has, there, now, served⟩
    · exact .inl unchanged
    · exact .inr ⟨process, object, found, replaced, present, has, there, now, served⟩
  · by_cases own : number = mover
    · subst own
      exact ⟨number, process, present, (System.modest_step present asks modest moved found).inherits.refersTo refers⟩
    · have older := spares.numbered.process number later found
      obtain ⟨earlier, living, undisturbed⟩ := spares.others number own (same ▸ older) later found
      exact ⟨number, earlier, living, undisturbed.descriptors ▸ refers⟩

/-- What a move of the executor leaves. -/
theorem remains_host {run : Run} (present : machine.processes[host]? = some process)
    (move : RunMove images machine host process run after) : Remains host machine after := by
  rcases move.makes with ⟨stage, later, incoming, read, write, between, table, opening, first, second, rfl⟩ |
    ⟨stage, later, streams, carried, forking, rfl⟩ | keeps
  · refine ⟨rfl, Nat.le_refl _, Nat.le_succ _, fun number apart _ => ?_, fun pipe old => .inl ?_,
      fun object pipe isPipe old unheld => System.unheld_of unheld fun number later found refers => ?_⟩
    · rw [System.getElem?_put, if_neg apart.symm]
      exact .refl _ _
    · rw [System.pipes_put, Std.ExtTreeMap.getElem?_insert, if_neg (by simpa using Nat.ne_of_gt old)]
    · rw [System.getElem?_put] at found
      split at found
      · cases found
        obtain ⟨whole, has, includes⟩ := DescriptorTable.refersTo_iff.mp refers
        have notNew : whole.pipe? ≠ some machine.nextPipe := by
          rw [Object.pipe?_of_includes includes isPipe]
          exact fun same => Nat.ne_of_lt old (Option.some.inj same)
        obtain ⟨-, -, -, -, rfl⟩ := DescriptorTable.allocate_eq_ok first
        obtain ⟨-, -, -, -, rfl⟩ := DescriptorTable.allocate_eq_ok second
        refine ⟨host, process, present, DescriptorTable.refersTo_iff.mpr ⟨whole, ?_, includes⟩⟩
        rcases DescriptorTable.has_insert has with has | rfl
        · rcases DescriptorTable.has_insert has with has | rfl
          · exact has
          · exact absurd rfl notNew
        · exact absurd rfl notNew
      · exact ⟨number, later, found, refers⟩
  · refine ⟨rfl, Nat.le_succ _, Nat.le_refl _, fun number apart older => ?_, fun pipe _ => .inl rfl,
      fun object pipe isPipe old unheld => System.unheld_of unheld fun number later found refers => ?_⟩
    · rw [System.getElem?_put, if_neg apart.symm, System.getElem?_put, if_neg (Nat.ne_of_gt older)]
      exact .refl _ _
    · rw [System.getElem?_put] at found
      split at found
      · cases found
        exact ⟨host, process, present, refers⟩
      · rw [System.getElem?_put] at found
        split at found
        · cases found
          exact ⟨host, process, present, refers⟩
        · exact ⟨number, later, found, refers⟩
  · obtain ⟨processes, table, reply, there, gone, inherits⟩ := keeps
    refine ⟨rfl, Nat.le_refl _, Nat.le_refl _, fun number apart _ => ?_, fun pipe _ => .inl rfl,
      fun object pipe isPipe old unheld => System.unheld_of unheld fun number later found refers => ?_⟩
    · rw [System.getElem?_put, if_neg apart.symm]
      cases living : machine.processes[number]? with
      | none =>
        cases found : processes[number]? with
        | none => exact .absent
        | some later =>
          have living' := there number later found
          rw [living] at living'
          cases living'
      | some earlier =>
        rcases gone number earlier living with still | ended
        · rw [still]
          exact .refl _ _
        · cases found : processes[number]? with
          | none => exact .collected ended
          | some later =>
            obtain rfl : earlier = later := by
              have same := there number later found
              rwa [living, Option.some.injEq] at same
            exact .refl _ _
    · rw [System.getElem?_put] at found
      split at found
      · cases found
        exact ⟨host, process, present, inherits.refersTo refers⟩
      · exact ⟨number, later, there number later found, refers⟩

/-- What any move leaves. -/
theorem remains (confined : Confined host floor base children channels machine)
    (underway : Underway host stages base children channels machine) (filters : images.Filters)
    (moved : machine.Moved images host mover after) : Remains mover machine after := by
  by_cases own : mover = host
  · subst own
    obtain ⟨process, run, present, -, -, -, move⟩ := underway.host_moves moved
    exact remains_host present move
  · exact confined.remains_other underway.toMade filters own (moved.step_of_ne own)

end Confined

end Pipework
