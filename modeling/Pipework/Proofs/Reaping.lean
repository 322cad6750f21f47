import Pipework.Proofs.Progress
import Pipework.Proofs.Remains

set_option autoImplicit false

/-!
The end of a run. An executor reports success only when it is told that it has no children; and whoever it has made
stays its child. So at a success there was a process for each stage, and all of them have ended and were waited for.
-/

namespace Pipework

open Kernel (Reply)

namespace Run

variable {run : Run} {reply : Reply} {report : Report}

theorem spawnNext_unfinished (run : Run) (incoming : Option Nat) (later : List Stage) (outcome : Except Fault Report) :
    (run.spawnNext incoming later).control ≠ .finished outcome := by
  unfold spawnNext
  split <;> simp [goOn]

theorem closeWrite_unfinished (run : Run) (stage : Stage) (later : List Stage) (stdout carried : Option Nat)
    (outcome : Except Fault Report) : (run.closeWrite stage later stdout carried).control ≠ .finished outcome := by
  unfold closeWrite
  split
  · simp [goOn]
  · exact spawnNext_unfinished _ _ _ _

theorem closeStreams_unfinished (run : Run) (stage : Stage) (later : List Stage) (streams : Streams)
    (carried : Option Nat) (outcome : Except Fault Report) :
    (run.closeStreams stage later streams carried).control ≠ .finished outcome := by
  unfold closeStreams
  split
  · simp [goOn]
  · exact closeWrite_unfinished _ _ _ _ _ _

theorem giveUp_unfinished (run : Run) (held : List Nat) (fault : Fault) (report : Report) :
    (run.giveUp held fault).control ≠ .finished (.ok report) := by
  unfold giveUp
  split <;> simp [goOn]

/-- A run that is at work succeeds only when there are no children. -/
theorem reaping_of_finished (working : ∀ text, run.control ≠ .complaining text) (atWork : run.next ≠ none)
    (finished : (run.resume reply).control = .finished (.ok report)) :
    run.control = .reaping ∧ reply = .failed .noChild := by
  cases control : run.control with
  | opening stage later incoming =>
    cases reply with
    | ends read write => simp [resume, control, goOn] at finished
    | failed errno =>
      simp only [resume, control] at finished
      exact absurd finished (giveUp_unfinished _ _ _ _)
    | _ => simp [resume, control] at finished
  | forking stage later streams carried =>
    cases reply with
    | number process =>
      simp only [resume, control] at finished
      exact absurd finished (closeStreams_unfinished _ _ _ _ _ _)
    | failed errno =>
      simp only [resume, control] at finished
      split at finished
      · simp [control] at finished
      · exact absurd finished (giveUp_unfinished _ _ _ _)
    | _ => simp [resume, control] at finished
  | closingRead stage later endpoint stdout carried =>
    cases reply <;> simp only [resume, control] at finished <;>
      first
        | exact absurd finished (giveUp_unfinished _ _ _ _)
        | exact absurd finished (closeWrite_unfinished _ _ _ _ _ _)
  | closingWrite stage later endpoint carried =>
    cases reply <;> simp only [resume, control] at finished <;>
      first
        | exact absurd finished (giveUp_unfinished _ _ _ _)
        | exact absurd finished (spawnNext_unfinished _ _ _ _)
  | dropping endpoint others fault =>
    simp only [resume, control] at finished
    exact absurd finished (giveUp_unfinished _ _ _ _)
  | reaping =>
    refine ⟨rfl, ?_⟩
    cases reply with
    | ended process how =>
      simp only [resume, control] at finished
      split at finished <;> simp [goOn, record] at finished
    | failed errno =>
      simp only [resume, control] at finished
      split at finished
      · simp [control] at finished
      split at finished
      · rename_i none
        rw [none]
      · simp [goOn] at finished
    | _ => simp [resume, control] at finished
  | complaining text => exact absurd control (working text)
  | finished outcome => simp [next, control] at atWork

end Run

open Kernel

variable {τ : Type} {images : Behaviour τ} {host mover : Nat} {stages : List Stage} {base : DescriptorTable}
  {children channels : List Nat} {start machine after : Machine τ} {process later : Process (Program τ)}

/-- The move by which an executor comes to a success finds no children. -/
theorem RunMove.childless_of_finished {run next : Run} {report : Report}
    (move : RunMove images machine host process run after) (program : process.program = .executor run)
    (working : ∀ text, run.control ≠ .complaining text) (found : after.processes[host]? = some later)
    (now : later.program = .executor next) (finished : next.control = .finished (.ok report)) :
    ∀ (number : Nat) (other : Process (Program τ)), number ≠ host → after.processes[number]? = some other →
      other.parent ≠ some host := by
  have resumes : ∀ {answered : Process (Program τ)} {reply : Reply}, answered.program = .executor run →
      reply ≠ .child → run.next ≠ none → (answered.answered (Program.behaviour images) reply).program = .executor next →
      run.control = .reaping ∧ reply = .failed .noChild := by
    intro answered reply same notChild atWork result
    rw [program_answered same notChild] at result
    cases result
    exact Run.reaping_of_finished working atWork finished
  have closing : ∀ {endpoint : Nat}, run.next = some (.close endpoint) → run.control ≠ .reaping := by
    intro endpoint closes reaping
    simp [Run.next, reaping] at closes
  cases move with
  | opened stage following incoming read write between table opening first second =>
    rw [System.getElem?_put_self] at found
    cases found
    cases (resumes program (by simp) (by simp [Run.next, opening])
      now).2
  | refused stage following incoming errno opening =>
    rw [System.getElem?_put_self] at found
    cases found
    have reaping := (resumes program (by simp) (by simp [Run.next, opening]) now).1
    rw [opening] at reaping
    cases reaping
  | forked stage following streams carried forking =>
    rw [System.getElem?_put_self] at found
    cases found
    cases (resumes program (by simp) (by simp [Run.next, forking]) now).2
  | closed endpoint table closes closed =>
    rw [System.getElem?_put_self] at found
    cases found
    exact absurd (resumes program (by simp) (by simp [closes]) now).1
      (closing closes)
  | unclosed endpoint errno closes unclosed =>
    rw [System.getElem?_put_self] at found
    cases found
    exact absurd (resumes program (by simp) (by simp [closes]) now).1 (closing closes)
  | reaped child ended how reaping there apart parent ending =>
    rw [System.getElem?_put_self] at found
    cases found
    cases (resumes program (by simp) (by simp [Run.next, reaping]) now).2
  | alone reaping none =>
    intro number other apart present
    rw [System.getElem?_put, if_neg apart.symm] at present
    exact none number other present
  | interrupted reaping interrupted =>
    rw [System.getElem?_put_self] at found
    cases found
    have same : (System.withoutOpening process).program = .executor run := by
      unfold System.withoutOpening
      split <;> exact program
    have reply := (resumes same (by unfold System.interruption; split <;> simp) (by simp [Run.next, reaping]) now).2
    unfold System.interruption at reply
    split at reply <;> cases reply

/-- The processes that an executor has made are its children, and at a success all of them have been waited for. -/
structure Family (host : Nat) (stages : List Stage) (children : List Nat) (machine : Machine τ) : Prop where
  few : children.length ≤ stages.length
  parent : ∀ number ∈ children, ∀ process : Process (Program τ), machine.processes[number]? = some process →
    process.parent = some host
  gone : ∀ (process : Process (Program τ)) (run : Run) (report : Report), machine.processes[host]? = some process →
    process.program = .executor run → run.control = .finished (.ok report) →
    ∀ number ∈ children, machine.processes[number]? = none

namespace Family

variable {floor : Nat}

/-- A move of any process but the executor. -/
theorem step_other (family : Family host stages children machine)
    (confined : Confined host floor base children channels machine)
    (made : Made host stages base children channels machine) (filters : images.Filters) (notHost : mover ≠ host)
    (moved : machine.step (Program.behaviour images) mover = some after) : Family host stages children after := by
  obtain ⟨process, -, present, -⟩ := System.step_eq_some moved
  obtain ⟨call, asks, modest⟩ := confined.asks filters notHost present (System.alive_of_step present moved).1
  have remains := confined.remains_other made filters notHost moved
  have notOwn : (some host : Option Nat) ≠ some mover := fun same => notHost (Option.some.inj same).symm
  refine ⟨family.few, fun number member later found => ?_, fun later run report found program finished number member => ?_⟩
  · by_cases own : number = mover
    · subst own
      have parent := family.parent number member process present
      exact ((System.modest_step present asks modest moved found).parent (parent ▸ notOwn)).trans parent
    · obtain ⟨earlier, living, same⟩ := (remains.others number own (made.lt_of_mem member)).back found
      have parent := family.parent number member earlier living
      exact (same.parent (parent ▸ notOwn)).trans parent
  · obtain ⟨executor, living, same⟩ := (remains.others host notHost.symm made.host_lt).back found
    have absent := family.gone executor run report living (same.program ▸ program) finished number member
    have apart : number ≠ mover := by
      rintro rfl
      rw [present] at absent
      cases absent
    cases there : after.processes[number]? with
    | none => rfl
    | some later =>
      obtain ⟨earlier, living, -⟩ := (remains.others number apart (made.lt_of_mem member)).back there
      rw [absent] at living
      cases living

/-- A move of the executor. -/
theorem step_host {run : Run} (family : Family host stages children machine)
    (made : Made host stages base children channels machine) (program : process.program = .executor run)
    (executes : Executes stages base children channels run process)
    (move : RunMove images machine host process run after) :
    Family host stages (children ++ if machine.nextProcess < after.nextProcess then [machine.nextProcess] else [])
      after := by
  suffices whole :
      (children ++ if machine.nextProcess < after.nextProcess then [machine.nextProcess] else []).length ≤ stages.length ∧
        ∀ number ∈ children ++ if machine.nextProcess < after.nextProcess then [machine.nextProcess] else [],
          number ≠ host ∧ ∀ process, after.processes[number]? = some process → process.parent = some host by
    obtain ⟨few, parent⟩ := whole
    refine ⟨few, fun number member => (parent number member).2, fun later next report found now finished number member => ?_⟩
    cases there : after.processes[number]? with
    | none => rfl
    | some other =>
      have childless := move.childless_of_finished program executes.working found now finished
      exact absurd ((parent number member).2 other there) (childless number other (parent number member).1 there)
  have older : ∀ number ∈ children, number ≠ host := fun _ member => made.ne_host member
  rcases move.makes with ⟨stage, following, incoming, read, write, between, table, opening, first, second, rfl⟩ |
    ⟨stage, following, streams, carried, forking, rfl⟩ | keeps
  · simp only [System.nextProcess_put, Nat.lt_irrefl, if_false, List.append_nil]
    refine ⟨family.few, fun number member => ⟨older number member, fun later found => ?_⟩⟩
    rw [System.getElem?_put, if_neg (older number member).symm] at found
    exact family.parent number member later found
  · have fits := executes.fits
    simp only [Run.Fits, forking] at fits
    obtain ⟨rest, -, -, -, -, counted, -⟩ := fits
    simp only [System.nextProcess_put, Nat.lt_succ_self, if_true]
    refine ⟨?_, fun number member => ?_⟩
    · have within := Run.index_lt rest
      rw [List.length_append, List.length_singleton]
      omega
    · rcases List.mem_append.mp member with old | new
      · refine ⟨older number old, fun later found => ?_⟩
        rw [System.getElem?_put, if_neg (older number old).symm, System.getElem?_put,
          if_neg (Nat.ne_of_gt (made.lt_of_mem old))] at found
        exact family.parent number old later found
      · obtain rfl := List.mem_singleton.mp new
        have apart := Nat.ne_of_lt made.host_lt
        refine ⟨apart.symm, fun later found => ?_⟩
        rw [System.getElem?_put, if_neg apart, System.getElem?_put_self] at found
        cases found
        rfl
  · have same := keeps.same
    simp only [same.1, Nat.lt_irrefl, if_false, List.append_nil]
    obtain ⟨processes, table, reply, there, -, -⟩ := keeps
    refine ⟨family.few, fun number member => ⟨older number member, fun later found => ?_⟩⟩
    rw [System.getElem?_put, if_neg (older number member).symm] at found
    exact family.parent number member later (there number later found)

end Family

/-- All along a course those that the executor has made are its children. -/
theorem Ready.family {executor : Process (Program τ)} {chronicle : Chronicle} (ready : Ready host stages executor start)
    (filters : images.Filters) (course : Course images host start chronicle machine) :
    Family host stages chronicle.children machine := by
  induction course with
  | start => exact ⟨Nat.zero_le _, by simp, by simp⟩
  | time earlier passed ih =>
    obtain ⟨clock, rfl⟩ := System.passTime_eq_some passed
    exact ⟨ih.few, ih.parent, ih.gone⟩
  | step earlier mover moved ih =>
    obtain ⟨underway, confined⟩ := ready.course filters earlier
    by_cases own : mover = host
    · subst own
      obtain ⟨process, run, -, -, program, executes, move⟩ := underway.host_moves moved
      simpa [Chronicle.extend] using ih.step_host underway.toMade program executes move
    · simpa [Chronicle.extend, own] using ih.step_other confined underway.toMade filters own (moved.step_of_ne own)

/-- At a success there was a process for each stage, and all of them have ended and were waited for. -/
theorem Ready.all_gone {executor : Process (Program τ)} {chronicle : Chronicle} {run : Run} {report : Report}
    (ready : Ready host stages executor start) (filters : images.Filters)
    (course : Course images host start chronicle machine) (nonempty : stages ≠ [])
    (runs : machine.run? host = some run) (finished : run.control = .finished (.ok report)) :
    chronicle.children.length = stages.length ∧ chronicle.channels.length + 1 = stages.length ∧
      ∀ number ∈ chronicle.children, machine.processes[number]? = none := by
  obtain ⟨underway, confined⟩ := ready.course filters course
  obtain ⟨process, present, program⟩ := Machine.run?_eq_some runs
  obtain ⟨given, executor, executes⟩ := underway.executor process present
  obtain rfl : run = given := by rwa [program, Program.executor.injEq] at executor
  have fits := (executes ((confined.proper host process present).executor rfl).1).fits
  simp only [Run.Fits, finished] at fits
  rcases fits with ⟨none, -⟩ | ⟨counted, opened⟩
  · exact absurd none nonempty
  · exact ⟨counted, opened, (ready.family filters course).gone process run report present program finished⟩

end Pipework
