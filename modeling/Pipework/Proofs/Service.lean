import Pipework.Proofs.Conduct
import Pipework.Proofs.Kinship

set_option autoImplicit false

/-!
Services: what a process does that is asked to execute pipelines, one after the other and by any number of executors,
and to make single processes. All others may move whenever they like, and calls of the process may fail without a
reason (`Mishap`). `Passage` lists the machines that can be come to during one request, and `Service` what can come of
a list of them; a `Tally` remembers who was made and who was waited for.
-/

namespace Pipework

open Kernel

variable {τ : Type}

/-- What is remembered of a process, oldest first. -/
structure Tally where
  /-- The processes that it has made. -/
  made : List Nat := []
  /-- Those for which it has waited, and how they ended. -/
  collected : List (Nat × Termination) := []

/-- What is remembered once somebody has moved. -/
def Tally.extend (tally : Tally) (images : Behaviour τ) (host mover : Nat) (before after : Machine τ) : Tally where
  made := tally.made ++
    if mover = host ∧ before.nextProcess < after.nextProcess then [before.nextProcess] else []
  collected := tally.collected ++ if mover = host then (before.told? (Program.behaviour images) host).toList else []

/-- The machines that can be come to from `start`, with what is remembered of the host. -/
inductive Passage (images : Behaviour τ) (mishaps : Call → Bool) (host : Nat) (start : Machine τ) :
    Tally → Machine τ → Prop where
  | start : Passage images mishaps host start {} start
  | step {tally : Tally} {before after : Machine τ} (earlier : Passage images mishaps host start tally before)
      (mover : Nat) (moved : before.step (Program.behaviour images) mover = some after) :
      Passage images mishaps host start (tally.extend images host mover before after) after
  | mishap {tally : Tally} {before after : Machine τ} (earlier : Passage images mishaps host start tally before)
      (failed : Mishap images mishaps host before after) : Passage images mishaps host start tally after
  | time {tally : Tally} {before after : Machine τ} (earlier : Passage images mishaps host start tally before)
      (passed : before.passTime = some after) : Passage images mishaps host start tally after

/-- What a process can be asked for. -/
inductive Request where
  /-- An errand for one of its executors. -/
  | errand (executor : Nat) (errand : Errand)
  /-- To execute stages with a new executor. -/
  | once (stages : List Stage)
  /-- To wait until it has no children. -/
  | children
  /-- To make a single process. -/
  | spawn (trial : Trial)

namespace Request

/-- The program that does what is asked for, given the phases in which the executors are. -/
def program (phases : Nat → Phase) : Request → Program τ
  | errand executor wanted => .executor (wanted.run (phases executor))
  | once stages => .executor (.ofStages .idle stages)
  | children => .executor (.ofChildren .idle)
  | spawn trial => .trial trial.task

/-- The stages that there are to execute. -/
def stages : Request → List Stage
  | errand _ wanted => wanted.stages
  | once stages => stages
  | children | spawn _ => []

/-- The single process that there is to make. -/
def trial? : Request → Option Trial
  | spawn trial => some trial
  | _ => none

/-- The phases of the executors afterwards. -/
def phases (request : Request) (before : Nat → Phase) (run? : Option Run) : Nat → Phase :=
  match request, run? with
  | errand executor _, some run => fun other => if other = executor then run.phase else before other
  | _, _ => before

end Request

/-- Whether a program has done what it was asked for. -/
def Program.isDone : Program τ → Bool
  | executor run => run.outcome?.isSome
  | trial (.done (.answer _)) => true
  | _ => false

/-- A request that was done: what was asked for, on which machine, what came of it, and what is remembered. -/
structure Deed (τ : Type) where
  request : Request
  before : Machine τ
  after : Machine τ
  tally : Tally

/-- How the run of a request ended, if it was one. -/
def Deed.outcome? (deed : Deed τ) (host : Nat) : Option (Except Fault Report) :=
  (deed.after.run? host).bind Run.outcome?

/-- What can come of requests that are done one after the other, while all others do what they like. -/
inductive Service (images : Behaviour τ) (mishaps : Call → Bool) (host : Nat) (start : Machine τ)
    (phases : Nat → Phase) : List (Deed τ) → Machine τ → (Nat → Phase) → Prop where
  | start : Service images mishaps host start phases [] start phases
  | deed {deeds : List (Deed τ)} {before after : Machine τ} {now : Nat → Phase} {tally : Tally}
      {process : Process (Program τ)} (earlier : Service images mishaps host start phases deeds before now)
      (request : Request)
      (passage : Passage images mishaps host (before.putProgram host (request.program now)) tally after)
      (found : after.processes[host]? = some process) (done : process.program.isDone = true) :
      Service images mishaps host start phases (deeds ++ [⟨request, before, after, tally⟩]) after
        (request.phases now (after.run? host))

/-- Another process in the place of the host changes nothing about the numbers. -/
theorem Machine.Hosts.put {machine : Machine τ} {host : Nat} (hosts : machine.Hosts host)
    (replacement : Process (Program τ)) :
    Machine.Hosts host (machine.put host replacement) := by
  refine ⟨⟨fun number later found => ?_⟩, hosts.given⟩
  rw [System.getElem?_put] at found
  split at found
  · rename_i same
    exact same ▸ hosts.given
  · exact hosts.numbered.process number later found

variable {images : Behaviour τ} {mishaps : Call → Bool} {host : Nat} {start machine : Machine τ} {tally : Tally}

theorem Passage.hosts (passage : Passage images mishaps host start tally machine) (hosts : start.Hosts host) :
    machine.Hosts host := by
  induction passage with
  | start => exact hosts
  | step earlier mover moved ih => exact ih.moves (.step mover moved)
  | time earlier passed ih =>
    obtain ⟨clock, rfl⟩ := System.passTime_eq_some passed
    exact ⟨⟨ih.numbered.process⟩, ih.given⟩
  | mishap earlier failed ih =>
    cases failed
    exact ih.put _

/-- What can be come to without a call that fails without a reason is come to in a course, in which the host makes the
processes that are remembered. -/
theorem Passage.course (passage : Passage images (fun _ => false) host start tally machine) :
    ∃ chronicle, Course images host start chronicle machine ∧ chronicle.children = tally.made := by
  induction passage with
  | start => exact ⟨{}, .start, rfl⟩
  | time earlier passed ih =>
    obtain ⟨chronicle, course, children⟩ := ih
    exact ⟨chronicle, course.time passed, children⟩
  | mishap earlier failed ih =>
    obtain ⟨_, _, _, _, _, _, _, possible⟩ := failed
    cases possible
  | step earlier mover moved ih =>
    obtain ⟨chronicle, course, children⟩ := ih
    exact ⟨_, course.step mover (.step moved), by simp only [Chronicle.extend, Tally.extend, children]⟩

/-- Who lives at the end has lived all along. -/
theorem Passage.lives (passage : Passage images mishaps host start tally machine) (hosts : start.Hosts host)
    (lives : machine.Lives host) : start.Lives host := by
  induction passage with
  | start => exact lives
  | step earlier mover moved ih =>
    have hosts := earlier.hosts hosts
    exact ih (System.lives_of_step hosts.numbered hosts.given moved lives)
  | time earlier passed ih =>
    obtain ⟨clock, rfl⟩ := System.passTime_eq_some passed
    exact ih lives
  | mishap earlier failed ih =>
    obtain ⟨process, call, errno, present, alive, -⟩ := failed
    exact ih ⟨process, present, alive⟩

/-- What its own moves, the disturbance by others and failures of its calls leave true of a process is true of it all
along a passage. -/
theorem Passage.preserves {Kept : Process (Program τ) → Prop}
    (disturbed : ∀ {process later : Process (Program τ)}, Kept process → Disturbed process later → Kept later)
    (move : ∀ {before after : Machine τ} {process later : Process (Program τ)}, before.Numbered →
      before.processes[host]? = some process → before.step (Program.behaviour images) host = some after →
      after.processes[host]? = some later → Kept process → Kept later)
    (mishap : ∀ {process : Process (Program τ)} {call : Call} (errno : Errno), process.ending = none →
      (Program.behaviour images).next process.program = some call → mishaps call = true → Kept process →
      Kept ((process.released call).answered (Program.behaviour images) (.failed errno)))
    (hosts : start.Hosts host) (passage : Passage images mishaps host start tally machine)
    (began : ∀ process, start.processes[host]? = some process → Kept process) :
    ∀ process, machine.processes[host]? = some process → Kept process := by
  induction passage with
  | start => exact began
  | time earlier passed ih =>
    obtain ⟨clock, rfl⟩ := System.passTime_eq_some passed
    exact ih
  | mishap earlier failed ih =>
    obtain ⟨process, call, errno, present, alive, -, asks, possible⟩ := failed
    intro later found
    rw [System.getElem?_put_self] at found
    cases found
    exact mishap errno alive asks possible (ih process present)
  | step earlier mover moved ih =>
    intro later found
    have hosts := earlier.hosts hosts
    by_cases own : mover = host
    · subst own
      obtain ⟨process, -, present, -⟩ := System.step_eq_some moved
      exact move hosts.numbered present moved found (ih process present)
    · obtain ⟨process, present, spared⟩ :=
        (System.step_spares hosts.numbered moved).others host (Ne.symm own) hosts.given later found
      exact disturbed (ih process present) spared

/-- The machine after so many moves of one process, if it can make them. -/
def Machine.onward (images : Behaviour τ) (host : Nat) : Nat → Machine τ → Option (Machine τ)
  | 0, machine => some machine
  | count + 1, machine => (machine.step (Program.behaviour images) host).bind (onward images host count)

theorem Machine.onward_add {mover first second : Nat} {between after : Machine τ}
    (moved : machine.onward images mover first = some between)
    (further : between.onward images mover second = some after) :
    machine.onward images mover (first + second) = some after := by
  induction first generalizing machine with
  | zero =>
    cases moved
    rwa [Nat.zero_add]
  | succ first ih =>
    obtain ⟨next, once, later⟩ := Option.bind_eq_some_iff.mp moved
    rw [Nat.succ_add]
    exact Option.bind_eq_some_iff.mpr ⟨next, once, ih later⟩

theorem Machine.lives_of_putProgram {program : Program τ}
    (lives : System.Lives (machine.putProgram host program) host) :
    machine.Lives host := by
  obtain ⟨process, found, alive⟩ := lives
  obtain ⟨earlier, present, rfl⟩ := of_putProgram found
  exact ⟨earlier, present, alive⟩

namespace Passage

/-- Moves one after the other. -/
def follow (images : Behaviour τ) (mishaps : Call → Bool) (host : Nat) :
    List Stride → Tally × Machine τ → Option (Tally × Machine τ)
  | [], point => some point
  | .step mover :: later, (tally, machine) =>
    match machine.step (Program.behaviour images) mover with
    | none => none
    | some after => follow images mishaps host later (tally.extend images host mover machine after, after)
  | .mishap errno :: later, (tally, machine) =>
    match machine.failing images mishaps host errno with
    | none => none
    | some after => follow images mishaps host later (tally, after)

/-- Moves one after the other make a passage. -/
theorem of_follow {strides : List Stride} {point : Tally × Machine τ}
    (followed : follow images mishaps host strides ({}, start) = some point) :
    Passage images mishaps host start point.1 point.2 := by
  have further : ∀ (strides : List Stride) (from_ : Tally × Machine τ),
      Passage images mishaps host start from_.1 from_.2 → follow images mishaps host strides from_ = some point →
      Passage images mishaps host start point.1 point.2 := by
    intro strides
    induction strides with
    | nil =>
      intro from_ passage followed
      cases followed
      exact passage
    | cons stride later ih =>
      intro from_ passage followed
      cases stride with
      | step mover =>
        unfold follow at followed
        split at followed
        · cases followed
        · rename_i after moved
          exact ih _ (passage.step mover moved) followed
      | mishap errno =>
        unfold follow at followed
        split at followed
        · cases followed
        · rename_i after failed
          exact ih (from_.1, after) (passage.mishap (Machine.mishap_of_failing failed)) followed
  exact further strides ({}, start) .start followed

end Passage

namespace Service

/-- Requests that are done one after the other, each by the moves that stand beside it. -/
def follow (images : Behaviour τ) (mishaps : Call → Bool) (host : Nat) :
    List (Request × List Stride) → List (Deed τ) × Machine τ × (Nat → Phase) →
      Option (List (Deed τ) × Machine τ × (Nat → Phase))
  | [], point => some point
  | (request, strides) :: later, (deeds, before, now) =>
    match Passage.follow images mishaps host strides ({}, before.putProgram host (request.program now)) with
    | none => none
    | some (tally, after) =>
      if (after.processes[host]?).any (fun process => process.program.isDone) then
        follow images mishaps host later
          (deeds ++ [⟨request, before, after, tally⟩], after, request.phases now (after.run? host))
      else none

/-- What is found after requests that were done one after the other is found in a service. -/
theorem exists_of_follow (images : Behaviour τ) (mishaps : Call → Bool) (host : Nat) (start : Machine τ)
    (phases : Nat → Phase) (requests : List (Request × List Stride)) (check : List (Deed τ) → Machine τ → Bool)
    (checked : (follow images mishaps host requests ([], start, phases)).any
      (fun point => check point.1 point.2.1) = true) :
    ∃ deeds machine now, Service images mishaps host start phases deeds machine now ∧ check deeds machine = true := by
  have further : ∀ (requests : List (Request × List Stride)) (from_ point : List (Deed τ) × Machine τ × (Nat → Phase)),
      Service images mishaps host start phases from_.1 from_.2.1 from_.2.2 →
      follow images mishaps host requests from_ = some point →
      Service images mishaps host start phases point.1 point.2.1 point.2.2 := by
    intro requests
    induction requests with
    | nil =>
      intro from_ point service followed
      cases followed
      exact service
    | cons first later ih =>
      intro from_ point service followed
      obtain ⟨request, strides⟩ := first
      unfold follow at followed
      split at followed
      · cases followed
      rename_i tally after passed
      split at followed
      · rename_i done
        obtain ⟨process, found, done⟩ := (Option.any_eq_true _ _).mp done
        exact ih _ _ (service.deed request (Passage.of_follow passed) found done) followed
      · cases followed
  obtain ⟨point, followed, found⟩ := (Option.any_eq_true _ _).mp checked
  exact ⟨point.1, point.2.1, point.2.2, further requests _ _ .start followed, found⟩

end Service

end Pipework
