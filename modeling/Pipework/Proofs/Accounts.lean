import Pipework.Proofs.Reaping
import Pipework.Proofs.Service

set_option autoImplicit false

/-!
Accounts of children. All along a passage the children of a process that lives are those that it had at first and those
that it has made, without those of whose end it has learnt (`Accounts`), whatever it executes; and a run reports just
those that it has made and of which it has learnt (`Keeping`).
-/

namespace Pipework

open Kernel

namespace Run

/-- The process that a run is told it has made. -/
def made (run : Run) : Reply → List Nat
  | .number process =>
    match run.control with
    | .forking _ _ _ _ => [process]
    | _ => []
  | _ => []

/-- The child of whose end a run is told. -/
def heard (run : Run) : Reply → List (Nat × Termination)
  | .ended process how =>
    match run.control with
    | .reaping => [(process, how)]
    | _ => []
  | _ => []

/-- The statuses of children that have ended, as far as there are any. -/
def statuses (ended : List (Nat × Termination)) : List Status :=
  ended.filterMap fun (process, how) => how.status? process

theorem report_spawnNext (run : Run) (incoming : Option Nat) (later : List Stage) :
    (run.spawnNext incoming later).report = run.report := by
  unfold spawnNext
  split <;> rfl

theorem report_closeWrite (run : Run) (stage : Stage) (later : List Stage) (stdout carried : Option Nat) :
    (run.closeWrite stage later stdout carried).report = run.report := by
  cases stdout with
  | none => exact report_spawnNext _ _ _
  | some endpoint => rfl

theorem report_closeStreams (run : Run) (stage : Stage) (later : List Stage) (streams : Streams)
    (carried : Option Nat) :
    (run.closeStreams stage later streams carried).report = run.report := by
  unfold closeStreams
  split
  · rfl
  · exact report_closeWrite _ _ _ _ _

theorem report_giveUp (run : Run) (held : List Nat) (fault : Fault) : (run.giveUp held fault).report = run.report := by
  cases held <;> rfl

theorem report_complete (run : Run) : run.complete.report = run.report := by
  unfold complete
  split <;> rfl

/-- A run reports the processes that it is told it has made, and the statuses of the children of whose end it is
told. -/
theorem report_resume (run : Run) (reply : Reply) :
    (run.resume reply).report.spawned = run.report.spawned ++ run.made reply ∧
      (run.resume reply).report.reaped = run.report.reaped ++ statuses (run.heard reply) := by
  cases control : run.control with
  | opening stage later incoming =>
    cases reply <;> simp [resume, control, made, heard, statuses, report_giveUp, record, goOn]
  | forking stage later streams carried =>
    cases reply with
    | number process => simp [resume, control, made, heard, statuses, report_closeStreams, record]
    | failed errno =>
      simp only [resume, control, made, heard, statuses, List.filterMap_nil, List.append_nil]
      split <;> simp [report_giveUp]
    | _ => simp [resume, control, made, heard, statuses]
  | closingRead stage later endpoint stdout carried =>
    cases reply <;> simp [resume, control, made, heard, statuses, report_giveUp, report_closeWrite]
  | closingWrite stage later endpoint carried =>
    cases reply <;> simp [resume, control, made, heard, statuses, report_giveUp, passOn, report_spawnNext]
  | dropping endpoint others fault =>
    cases reply <;> simp [resume, control, made, heard, statuses, report_giveUp]
  | reaping =>
    cases reply with
    | ended process how =>
      cases status : how.status? process <;> simp [resume, control, made, heard, statuses, status, goOn, record]
    | failed errno =>
      simp only [resume, control, made, heard, statuses, List.filterMap_nil, List.append_nil]
      split
      · simp
      split
      · simp [report_complete]
      · simp [goOn]
    | _ => simp [resume, control, made, heard, statuses]
  | complaining text => cases reply <;> simp [resume, control, made, heard, statuses, goOn, enter, record]
  | finished outcome => cases reply <;> simp [resume, control, made, heard, statuses]

/-- Only a run that is forking makes processes. -/
theorem unmade_of_next {run : Run} {call : Call} (next : run.next = some call) (notFork : call ≠ .fork) :
    run.startup? = none ∧ ∀ reply, run.made reply = [] := by
  cases control : run.control with
  | forking stage later streams carried =>
    rw [Run.next, control] at next
    exact absurd (Option.some.inj next).symm notFork
  | _ => exact ⟨by simp [startup?, control], fun reply => by cases reply <;> simp [made, control]⟩

theorem heard_eq_nil {run : Run} {reply : Reply} (working : run.control ≠ .reaping) : run.heard reply = [] := by
  cases reply with
  | ended process how =>
    unfold heard
    dsimp only
    split
    · rename_i reaping
      exact absurd reaping working
    · rfl
  | _ => rfl

theorem reaping_iff {run : Run} : run.control = .reaping ↔ run.next = some .wait := by
  cases control : run.control <;> simp [next, control]

/-- A run that has not refused a line, and has not failed in waiting for children while it held endpoints. -/
structure Working (run : Run) : Prop where
  uncomplaining : ∀ text, run.control ≠ .complaining text
  dropping : ∀ endpoint others errno, run.control ≠ .dropping endpoint others (.wait errno)

/-- A run that will end well only when there are no children. -/
structure Collects (begun : Run) : Prop where
  unfinished : ∀ outcome, begun.control ≠ .finished outcome
  working : ∀ replies, (begun.follow replies).Working

theorem Scripted.toWorking {first : Phase} {prior : List Event} {stages : List Stage} {run : Run}
    (scripted : Scripted first prior stages run) : run.Working := by
  cases scripted with
  | failing run fault control stood fails gives =>
    obtain rfl | ⟨endpoint, others, rfl⟩ := gives
    · exact ⟨by simp [goOn], by simp [goOn]⟩
    · refine ⟨by simp [goOn], fun _ _ errno same => ?_⟩
      obtain ⟨-, -, rfl⟩ : endpoint = _ ∧ others = _ ∧ fault = .wait errno := by simpa [goOn] using same
      unfold Control.Fails at fails
      split at fails <;> simp at fails
  | reaping turns last statuses control listed joined alone waits =>
    obtain rfl | ⟨errno, rfl⟩ := waits <;> exact ⟨by simp, by simp⟩
  | _ => exact ⟨by simp, by simp⟩

/-- A run that waits for children, or has done nothing else. -/
def OnlyWaits (run : Run) : Prop :=
  run.control = .reaping ∨ run.control = .finished (.ok run.report) ∨
    ∃ errno, run.control = .finished (.error (.wait errno))

theorem OnlyWaits.resume {run : Run} (waits : run.OnlyWaits) (reply : Reply) : (run.resume reply).OnlyWaits := by
  obtain reaping | finished | ⟨errno, finished⟩ := waits
  · cases reply with
    | ended process how =>
      simp only [Run.resume, reaping]
      split
      · exact .inr (.inr ⟨_, rfl⟩)
      · exact .inl rfl
    | failed errno =>
      simp only [Run.resume, reaping]
      split
      · exact .inl reaping
      split
      · unfold complete
        split <;> exact .inr (.inl rfl)
      · exact .inr (.inr ⟨_, rfl⟩)
    | _ => exact .inl (by simp [Run.resume, reaping])
  · exact .inr (.inl (by simp [Run.resume, finished]))
  · exact .inr (.inr ⟨errno, by simp [Run.resume, finished]⟩)

theorem OnlyWaits.follow {run : Run} (waits : run.OnlyWaits) (replies : List Reply) :
    (run.follow replies).OnlyWaits := by
  induction replies generalizing run with
  | nil => exact waits
  | cons reply replies ih => exact ih (waits.resume reply)

theorem OnlyWaits.toWorking {run : Run} (waits : run.OnlyWaits) : run.Working := by
  obtain control | control | ⟨errno, control⟩ := waits <;> exact ⟨by simp [control], by simp [control]⟩

theorem fault_of_giveUp {run : Run} {held : List Nat} {fault other : Fault}
    (finished : (run.giveUp held fault).control = .finished (.error other)) : other = fault := by
  cases held with
  | nil =>
    cases finished
    rfl
  | cons endpoint others => cases finished

/-- A run that fails in waiting for children is told so, or is told of an end for which there is no status. -/
theorem reply_of_wait_fault {run : Run} {reply : Reply} {errno : Errno} (working : run.Working)
    (atWork : run.next ≠ none) (failed : (run.resume reply).control = .finished (.error (.wait errno))) :
    run.control = .reaping ∧ ((∃ process how, reply = .ended process how ∧ how.status? process = none) ∨
      ∃ errno, reply = .failed errno ∧ errno ≠ .interrupted ∧ errno ≠ .noChild) := by
  cases control : run.control with
  | opening stage later incoming =>
    cases reply with
    | ends read write => simp [resume, control, goOn] at failed
    | failed errno =>
      simp only [resume, control] at failed
      cases fault_of_giveUp failed
    | _ => simp [resume, control] at failed
  | forking stage later streams carried =>
    cases reply with
    | number process =>
      simp only [resume, control] at failed
      exact absurd failed (closeStreams_unfinished _ _ _ _ _ _)
    | failed errno =>
      simp only [resume, control] at failed
      split at failed
      · simp [control] at failed
      · cases fault_of_giveUp failed
    | _ => simp [resume, control] at failed
  | closingRead stage later endpoint stdout carried =>
    cases reply <;> simp only [resume, control] at failed <;>
      first
        | exact absurd failed (closeWrite_unfinished _ _ _ _ _ _)
        | cases fault_of_giveUp failed
  | closingWrite stage later endpoint carried =>
    cases reply <;> simp only [resume, control] at failed <;>
      first
        | exact absurd failed (spawnNext_unfinished _ _ _ _)
        | cases fault_of_giveUp failed
  | dropping endpoint others fault =>
    simp only [resume, control] at failed
    obtain rfl := fault_of_giveUp failed
    exact absurd control (working.dropping endpoint others errno)
  | reaping =>
    refine ⟨rfl, ?_⟩
    cases reply with
    | ended process how =>
      refine .inl ⟨process, how, rfl, ?_⟩
      cases status : how.status? process with
      | none => rfl
      | some status => simp [resume, control, status, record] at failed
    | failed errno =>
      simp only [resume, control] at failed
      split at failed
      · simp [control] at failed
      split at failed
      · unfold complete at failed
        split at failed <;> cases failed
      · exact .inr ⟨errno, rfl, by assumption, by assumption⟩
    | _ => simp [resume, control] at failed
  | complaining text => exact absurd control (working.uncomplaining text)
  | finished outcome => simp [next, control] at atWork

/-- A run that is told of an end for which there is no status fails. -/
theorem failed_of_heard {run : Run} {reply : Reply} {child : Nat × Termination} (heard : child ∈ run.heard reply)
    (undecoded : child.2.status? child.1 = none) :
    (run.resume reply).control = .finished (.error (.wait .invalidArgument)) := by
  cases reply with
  | ended process how =>
    cases control : run.control with
    | reaping =>
      obtain rfl : child = (process, how) := by simpa [Run.heard, control] using heard
      simp [Run.resume, control, undecoded, goOn]
    | _ => simp [Run.heard, control] at heard
  | _ => cases heard

/-- How a run goes on when it moves: it waits, or is answered. It is told that it has no children only if that is so,
and a wait fails only for this reason or for a signal. -/
inductive Goes (childless : Prop) (run : Run) : List Nat → List (Nat × Termination) → Run → Prop where
  | waits : Goes childless run [] [] run
  | answered (reply : Reply) (honest : run.control = .reaping → ∀ errno, reply = .failed errno →
      errno = .interrupted ∨ errno = .noChild ∧ childless) :
      Goes childless run (run.made reply) (run.heard reply) (run.resume reply)

end Run

namespace Kernel.System

variable {σ : Type} {system : System σ} {number child : Nat} {how : Termination}

/-- What a process learns of is the end of a child that has ended so. -/
theorem ended_of_told? {behaviour : Behaviour σ} (told : system.told? behaviour number = some (child, how)) :
    ∃ ended, system.processes[child]? = some ended ∧ ended.parent = some number ∧ ended.ending = some how := by
  unfold told? at told
  split at told
  · cases told
  rename_i process present
  obtain ⟨effect, performed, ended⟩ := Option.bind_eq_some_iff.mp told
  obtain ⟨call, -, rfl⟩ := Option.map_eq_some_iff.mp performed
  have disposes := perform_disposes system number process call
  generalize system.perform number process call = effect at ended disposes
  cases disposes with
  | blocked => cases ended
  | spares effect after led plain same => cases plain.untold.symm.trans ended
  | replaces effect after replacement led plain parent ending same => cases plain.untold.symm.trans ended
  | finishes how cause => cases ended
  | delivers effect target signal led plain sends => cases plain.untold.symm.trans ended
  | collects child isEnded how present parent ending waits =>
    cases ended
    exact ⟨isEnded, present, parent, ending⟩

theorem isChild_of_told? {behaviour : Behaviour σ} (told : system.told? behaviour number = some (child, how)) :
    system.IsChild number child := by
  obtain ⟨ended, present, parent, -⟩ := ended_of_told? told
  exact ⟨ended, present, parent⟩

end Kernel.System

variable {τ : Type} {images : Behaviour τ} {mishaps : Call → Bool} {host : Nat} {start machine : Machine τ}
  {tally : Tally}

/-- The children of a process, as far as it is remembered who was made and who was waited for. -/
structure Accounts (host : Nat) (start : Machine τ) (tally : Tally) (machine : Machine τ) : Prop where
  isChild : ∀ number, machine.IsChild host number ↔
    (start.IsChild host number ∨ number ∈ tally.made) ∧ number ∉ tally.collected.map Prod.fst
  known : ∀ number ∈ tally.collected.map Prod.fst, start.IsChild host number ∨ number ∈ tally.made
  once : (tally.collected.map Prod.fst).Nodup
  made : tally.made.Nodup
  fresh : ∀ number ∈ tally.made, start.nextProcess ≤ number ∧ number < machine.nextProcess
  nextProcess : start.nextProcess ≤ machine.nextProcess

theorem System.lt_of_isChild {machine : Machine τ} {number : Nat} (numbered : machine.Numbered)
    (isChild : machine.IsChild host number) : number < machine.nextProcess := by
  obtain ⟨process, present, -⟩ := isChild
  exact numbered.process number process present

theorem Accounts.refl (host : Nat) (machine : Machine τ) : Accounts host machine {} machine :=
  ⟨by simp, by simp, List.nodup_nil, List.nodup_nil, by simp, Nat.le_refl _⟩

/-- Who was waited for is no newer than the machine. -/
theorem Accounts.lt_of_collected {number : Nat} (accounts : Accounts host start tally machine)
    (numbered : start.Numbered) (member : number ∈ tally.collected.map Prod.fst) : number < machine.nextProcess := by
  rcases accounts.known number member with first | made
  · exact Nat.lt_of_lt_of_le (System.lt_of_isChild numbered first) accounts.nextProcess
  · exact (accounts.fresh number made).2

/-- What comes first and what comes then. -/
def Tally.append (first second : Tally) : Tally where
  made := first.made ++ second.made
  collected := first.collected ++ second.collected

/-- Children are entered when they are made, and taken off when they have been waited for. -/
theorem Accounts.trans {middle : Machine τ} {first second : Tally} (before : Accounts host start first middle)
    (after : Accounts host middle second machine) (numbered : start.Numbered) :
    Accounts host start (first.append second) machine := by
  have newer : ∀ number ∈ second.made, number ∉ first.made ∧ number ∉ first.collected.map Prod.fst := by
    intro number member
    have least := (after.fresh number member).1
    refine ⟨fun earlier => ?_, fun earlier => ?_⟩
    · have := (before.fresh number earlier).2
      omega
    · have := before.lt_of_collected numbered earlier
      omega
  refine ⟨fun number => ?_, fun number member => ?_, ?_, ?_, fun number member => ?_, ?_⟩
  · rw [after.isChild, before.isChild, Tally.append, List.map_append]
    have := newer number
    grind
  · rw [Tally.append, List.map_append, List.mem_append] at member
    have := before.known number
    have := after.known number
    have := (before.isChild number).mp
    grind [Tally.append]
  · rw [Tally.append, List.map_append, List.nodup_append]
    refine ⟨before.once, after.once, fun number member other again same => ?_⟩
    subst same
    rcases after.known number again with isChild | made
    · exact ((before.isChild number).mp isChild).2 member
    · exact (newer number made).2 member
  · rw [Tally.append, List.nodup_append]
    refine ⟨before.made, after.made, fun number member other again same => ?_⟩
    subst same
    exact (newer number again).1 member
  · have := before.nextProcess
    have := after.nextProcess
    rcases List.mem_append.mp member with old | new
    · have := before.fresh number old
      omega
    · have := after.fresh number new
      omega
  · exact Nat.le_trans before.nextProcess after.nextProcess

/-- One step of anybody. -/
theorem accounts_step {mover : Nat} {after : Machine τ} (numbered : machine.Numbered)
    (moved : machine.step (Program.behaviour images) mover = some after) (lives : after.Lives host) :
    Accounts host machine (Tally.extend {} images host mover machine after) after := by
  have kin := System.isChild_step numbered moved lives
  have made : ∀ number, number ∈ (Tally.extend {} images host mover machine after).made ↔
      mover = host ∧ machine.nextProcess < after.nextProcess ∧ number = machine.nextProcess := by
    intro number
    by_cases own : mover = host <;> by_cases grown : machine.nextProcess < after.nextProcess <;>
      simp [Tally.extend, own, grown]
  have heard : ∀ number, number ∈ (Tally.extend {} images host mover machine after).collected.map Prod.fst ↔
      mover = host ∧ ∃ how, machine.told? (Program.behaviour images) mover = some (number, how) := by
    intro number
    by_cases own : mover = host <;> simp [Tally.extend, own]
  have was : ∀ number how, machine.told? (Program.behaviour images) mover = some (number, how) → mover = host →
      machine.IsChild host number ∧ number < machine.nextProcess := by
    rintro number how told rfl
    have isChild := System.isChild_of_told? told
    exact ⟨isChild, System.lt_of_isChild numbered isChild⟩
  refine ⟨fun number => ?_, fun number member => ?_, ?_, ?_, fun number member => ?_, ?_⟩
  · rw [kin, made, heard]
    have := was number
    grind
  · obtain ⟨own, how, told⟩ := (heard number).mp member
    exact .inl (was number how told own).1
  · simp only [Tally.extend, List.nil_append]
    split
    · cases machine.told? (Program.behaviour images) host <;> simp
    · simp
  · simp only [Tally.extend, List.nil_append]
    split <;> simp
  · obtain ⟨-, grown, rfl⟩ := (made number).mp member
    exact ⟨Nat.le_refl _, grown⟩
  · exact (System.step_spares numbered moved).nextProcess

/-- As long as the host lives nobody else takes a child from it or gives it one. -/
theorem Passage.accounts (passage : Passage images mishaps host start tally machine) (hosts : start.Hosts host)
    (lives : machine.Lives host) : Accounts host start tally machine := by
  induction passage with
  | start => exact .refl host start
  | time earlier passed ih =>
    obtain ⟨clock, rfl⟩ := System.passTime_eq_some passed
    have accounts := ih lives
    exact ⟨accounts.isChild, accounts.known, accounts.once, accounts.made, accounts.fresh, accounts.nextProcess⟩
  | mishap earlier failed ih =>
    obtain ⟨process, call, errno, present, alive, -⟩ := failed
    have accounts := ih ⟨process, present, alive⟩
    refine ⟨fun number => ?_, accounts.known, accounts.once, accounts.made, accounts.fresh, accounts.nextProcess⟩
    refine (System.isChild_insert present rfl ?_).trans (accounts.isChild number)
    unfold Kernel.Process.released
    split <;> rfl
  | @step tally before after earlier mover moved ih =>
    have settled := earlier.hosts hosts
    have accounts := ih (System.lives_of_step settled.numbered settled.given moved lives)
    simpa [Tally.append, Tally.extend] using
      accounts.trans (accounts_step settled.numbered moved lives) hosts.numbered

/-- An executor that makes no process goes on with its answer. -/
theorem resume_executor {run : Run} (single : run.startup? = none) (reply : Reply) :
    (Program.behaviour images).resume (.executor run) reply = .executor (run.resume reply) := by
  cases reply <;> simp [Program.behaviour, single]

/-- Only a run that is reaping waits. -/
theorem Run.waits_of_next {run : Run} {call : Call} (next : run.next = some call) (others : run.control ≠ .reaping) :
    call.waits = false := by
  cases control : run.control with
  | reaping => exact absurd control others
  | finished outcome => simp [Run.next, control] at next
  | _ =>
    simp only [Run.next, control, Option.some.injEq] at next
    subst next
    rfl

/-- A wait fails only when there are no children. -/
theorem childless_of_wait {process : Process (Program τ)} {between : Machine τ} {errno : Errno}
    (performed : machine.perform host process .wait = .answer (.failed errno) between) :
    errno = .noChild ∧ ∀ number, ¬ machine.IsChild host number := by
  simp only [System.perform, System.waitAny] at performed
  split at performed
  · cases performed
  split at performed
  · rename_i empty
    cases performed
    refine ⟨rfl, ?_⟩
    rintro number ⟨child, present, parent⟩
    have member := System.mem_childrenOf.mpr ⟨present, parent⟩
    rw [List.isEmpty_iff.mp empty] at member
    cases member
  · cases performed

/-- An executor that moves goes on with an answer, and what is remembered of it is what it is told. -/
theorem step_goes {after : Machine τ} {process later : Process (Program τ)} {run : Run} (numbered : machine.Numbered)
    (present : machine.processes[host]? = some process) (program : process.program = .executor run)
    (moved : machine.step (Program.behaviour images) host = some after) (found : after.processes[host]? = some later) :
    ∃ next, later.program = .executor next ∧
      run.Goes (∀ number, ¬ machine.IsChild host number)
        (if machine.nextProcess < after.nextProcess then [machine.nextProcess] else [])
        (machine.told? (Program.behaviour images) host).toList next := by
  obtain ⟨given, call, living, -, -, asks, how⟩ := System.step_eq_some moved
  obtain rfl : process = given := by rwa [present, Option.some.injEq] at living
  have next : run.next = some call := by simpa [Program.behaviour, program] using asks
  have told : machine.told? (Program.behaviour images) host = (machine.perform host process call).ended? := by
    simp [System.told?, present, asks]
  rcases how with ⟨rfl, rfl⟩ | ⟨name, arguments, rfl, rfl⟩ | ⟨⟨notFork, -⟩, how⟩
  · rw [System.fork_eq _ present (numbered.process host process present)] at found ⊢
    simp only [Std.ExtTreeMap.getElem?_insert_self, Option.some.injEq] at found
    subst found
    refine ⟨_, program_answered program (by simp), ?_⟩
    have silent : machine.told? (Program.behaviour images) host = none := told
    have made : run.made (.number machine.nextProcess) = [machine.nextProcess] := by
      cases control : run.control <;> simp [Run.next, control] at next
      simp [Run.made, control]
    rw [silent, if_pos (Nat.lt_succ_self _), ← made]
    exact .answered (.number machine.nextProcess) (by simp)
  · cases control : run.control <;> simp [Run.next, control] at next
  obtain ⟨single, unmade⟩ := Run.unmade_of_next next notFork
  have honest : run.control = .reaping → ∀ errno between,
      machine.perform host process call = .answer (.failed errno) between →
      errno = .noChild ∧ ∀ number, ¬ machine.IsChild host number := by
    intro reaping errno between performed
    obtain rfl : call = .wait := Option.some.inj (next.symm.trans (Run.reaping_iff.mp reaping))
    exact childless_of_wait performed
  rcases how with ⟨reply, between, performed, rfl⟩ | performed | ⟨performed, -, rfl⟩
  · obtain ⟨middle, there, rfl⟩ := System.getElem?_answer_self found
    have same := System.program_perform present (Effect.leads_of_answer performed) there
    refine ⟨run.resume reply, ?_, ?_⟩
    · simp only [Process.answered, same, program, resume_executor single]
    have heard : (machine.told? (Program.behaviour images) host).toList = run.heard reply := by
      by_cases reaping : run.control = .reaping
      · rw [told, performed]
        cases reply <;> simp [Effect.ended?, Run.heard, reaping]
      · rw [told, (System.perform_disposes machine host process call).untold (Run.waits_of_next next reaping),
          Run.heard_eq_nil reaping]
        rfl
    have goes : run.Goes (∀ number, ¬ machine.IsChild host number) (run.made reply) (run.heard reply)
        (run.resume reply) :=
      .answered reply fun reaping errno failed => .inr (honest reaping errno between (failed ▸ performed))
    rw [System.nextProcess_answer, System.nextProcess_perform present (Effect.leads_of_answer performed), heard]
    simpa [unmade] using goes
  · have same := System.nextProcess_perform present (Effect.leads_of_moved performed)
    have silent : machine.told? (Program.behaviour images) host = none := by rw [told, performed]; rfl
    refine ⟨run, (System.program_perform present (Effect.leads_of_moved performed) found).trans program, ?_⟩
    rw [same, silent]
    simpa using Run.Goes.waits
  · obtain ⟨middle, there, rfl⟩ := System.getElem?_answer_self found
    rw [System.getElem?_put_self] at there
    cases there
    have same : (System.withoutOpening process).program = .executor run := by
      unfold System.withoutOpening
      split <;> exact program
    have silent : machine.told? (Program.behaviour images) host = none := by rw [told, performed]; rfl
    refine ⟨run.resume (System.interruption process), ?_, ?_⟩
    · simp only [Process.answered, same, resume_executor single]
    have heard : run.heard (System.interruption process) = [] := by
      unfold System.interruption
      split <;> rfl
    have goes : run.Goes (∀ number, ¬ machine.IsChild host number) (run.made (System.interruption process))
        (run.heard (System.interruption process)) (run.resume (System.interruption process)) := by
      refine .answered _ fun _ errno failed => .inl ?_
      unfold System.interruption at failed
      split at failed <;> cases failed
      rfl
    rw [System.nextProcess_answer, System.nextProcess_put, silent]
    simpa [unmade, heard] using goes

/-- What a run that began with nothing reported says of its process, as far as it is remembered who was made and who
was waited for. -/
structure Keeping (host : Nat) (begun : Run) (tally : Tally) (machine : Machine τ) (run : Run) : Prop where
  follows : ∃ replies, run = begun.follow replies
  spawned : run.report.spawned = tally.made
  reaped : run.report.reaped = Run.statuses tally.collected
  /-- A wait fails only when there is no status for a child. -/
  undecoded : begun.Collects → ∀ errno, run.control = .finished (.error (.wait errno)) →
    ∃ ended ∈ tally.collected, ended.2.status? ended.1 = none
  decoded : (∃ ended ∈ tally.collected, ended.2.status? ended.1 = none) →
    run.control = .finished (.error (.wait .invalidArgument))
  childless : begun.Collects → ∀ report, run.control = .finished (.ok report) → machine.Lives host →
    ∀ number, ¬ machine.IsChild host number

namespace Keeping

variable {begun run next : Run} {children : List Nat} {ended : List (Nat × Termination)}

/-- A run that goes on. -/
theorem goes {childless : Prop} (keeping : Keeping host begun tally machine run) (after : Machine τ)
    (atWork : run.next ≠ none) (goes : run.Goes childless children ended next)
    (alone : childless → children = [] → after.Lives host → ∀ number, ¬ after.IsChild host number) :
    Keeping host begun ⟨tally.made ++ children, tally.collected ++ ended⟩ after next := by
  cases goes with
  | waits =>
    refine ⟨keeping.follows, by simp [keeping.spawned], by simp [keeping.reaped], fun _ errno finished => ?_,
      by simpa using keeping.decoded, fun _ report finished => ?_⟩
    all_goals exact absurd (by simp [Run.next, finished]) atWork
  | answered reply honest =>
    obtain ⟨replies, rfl⟩ := keeping.follows
    have reports := Run.report_resume (begun.follow replies) reply
    refine ⟨⟨replies ++ [reply], (Run.follow_concat begun replies reply).symm⟩, ?_, ?_, ?_, ?_, ?_⟩
    · rw [reports.1, keeping.spawned]
    · rw [reports.2, keeping.reaped]
      simp [Run.statuses]
    · intro collects errno failed
      obtain ⟨reaping, ⟨process, how, rfl, undecoded⟩ | ⟨other, rfl, notInterrupted, notAlone⟩⟩ :=
        Run.reply_of_wait_fault (collects.working replies) atWork failed
      · exact ⟨(process, how), by simp [Run.heard, reaping], undecoded⟩
      · rcases honest reaping other rfl with same | ⟨same, -⟩
        · exact absurd same notInterrupted
        · exact absurd same notAlone
    · rintro ⟨child, member, none⟩
      rcases List.mem_append.mp member with old | new
      · exact absurd (by simp [Run.next, keeping.decoded ⟨child, old, none⟩]) atWork
      · exact Run.failed_of_heard new none
    · intro collects report finished
      obtain ⟨reaping, rfl⟩ := Run.reaping_of_finished (collects.working replies).uncomplaining atWork finished
      rcases honest reaping .noChild rfl with impossible | ⟨-, none⟩
      · cases impossible
      · exact alone none rfl

end Keeping

/-- All along a passage the run of the host keeps to what is remembered, as long as no wait fails without a reason. -/
theorem Passage.keeping {begun : Run} (passage : Passage images mishaps host start tally machine)
    (hosts : start.Hosts host)
    (begins : ∀ process, start.processes[host]? = some process → process.program = .executor begun)
    (blank : begun.report = {}) (waits : mishaps .wait = false) :
    ∀ process, machine.processes[host]? = some process →
      ∃ run, process.program = .executor run ∧ Keeping host begun tally machine run := by
  induction passage with
  | start =>
    intro process present
    refine ⟨begun, begins process present, ⟨[], rfl⟩, by simp [blank], by simp [blank, Run.statuses], ?_, by simp, ?_⟩
    all_goals exact fun collects _ finished => absurd finished (collects.unfinished _)
  | time earlier passed ih =>
    obtain ⟨clock, rfl⟩ := System.passTime_eq_some passed
    intro process present
    obtain ⟨run, program, keeping⟩ := ih process present
    exact ⟨run, program, keeping.follows, keeping.spawned, keeping.reaped, keeping.undecoded, keeping.decoded,
      keeping.childless⟩
  | @mishap tally before after earlier failed ih =>
    obtain ⟨process, call, errno, present, alive, going, asks, possible⟩ := failed
    intro later found
    rw [System.getElem?_put_self] at found
    cases found
    obtain ⟨run, program, keeping⟩ := ih process present
    have next : run.next = some call := by simpa [Program.behaviour, program] using asks
    have same : (process.released call).program = .executor run := by
      unfold Kernel.Process.released
      split <;> exact program
    obtain ⟨replies, rfl⟩ := keeping.follows
    have goes : (begun.follow replies).Goes False [] [] ((begun.follow replies).resume (.failed errno)) := by
      refine .answered (.failed errno) fun reaping => ?_
      rw [Run.reaping_iff.mp reaping] at next
      cases next
      rw [waits] at possible
      cases possible
    have kept := keeping.goes (before.put host ((process.released call).answered (Program.behaviour images)
      (.failed errno))) (by simp [next]) goes fun impossible => impossible.elim
    exact ⟨_, program_answered same (by simp), by simpa using kept⟩
  | @step tally before after earlier mover moved ih =>
    have settled := earlier.hosts hosts
    intro later found
    by_cases own : mover = host
    · subst own
      obtain ⟨process, call, present, -, -, asks, -⟩ := System.step_eq_some moved
      obtain ⟨run, program, keeping⟩ := ih process present
      obtain ⟨next, same, goes⟩ := step_goes settled.numbered present program moved found
      obtain ⟨replies, rfl⟩ := keeping.follows
      have atWork : (begun.follow replies).next ≠ none := by
        have next : (begun.follow replies).next = some call := by simpa [Program.behaviour, program] using asks
        simp [next]
      have kept := keeping.goes after atWork goes fun none unmade lives number isChild => ?_
      · exact ⟨next, same, by simpa [Tally.extend] using kept⟩
      · obtain ⟨was, -⟩ | ⟨-, grown, -⟩ := (System.isChild_step settled.numbered moved lives number).mp isChild
        · exact none number was
        · rw [if_pos grown] at unmade
          cases unmade
    · obtain ⟨process, present, disturbed⟩ :=
        (System.step_spares settled.numbered moved).others host (Ne.symm own) settled.given later found
      obtain ⟨run, program, keeping⟩ := ih process present
      refine ⟨run, disturbed.program.trans program, ?_⟩
      simp only [Tally.extend, own, false_and, if_false, List.append_nil]
      refine ⟨keeping.follows, keeping.spawned, keeping.reaped, keeping.undecoded, keeping.decoded,
        fun collects report finished lives number isChild => ?_⟩
      obtain ⟨was, -⟩ | ⟨same, -⟩ := (System.isChild_step settled.numbered moved lives number).mp isChild
      · have lived := System.lives_of_step settled.numbered settled.given moved lives
        exact keeping.childless collects report finished lived number was
      · exact own same

end Pipework
