import Pipework.Proofs.Accounts
import Pipework.Proofs.Detached

set_option autoImplicit false

/-!
The collection of children. Any number of executors share one process, and whoever waits collects everybody's
children; what aborted runs and detached trials have left comes back in the reports of later runs. Nobody is lost on
the way and nobody comes twice (`children_accounted`).
-/

namespace Pipework

open Kernel

namespace Run

theorem report_start (run : Run) (stages : List Stage) : (run.start stages).report = run.report := by
  cases stages with
  | nil => rfl
  | cons stage later => exact report_spawnNext _ _ _

/-- A run of stages begins in such a way that it will end well only when there are no children. -/
theorem collects_start {run : Run} {stages : List Stage} (some : stages ≠ []) (anew : run.index = 0)
    (blank : run.report = {}) : (run.start stages).Collects where
  unfinished := by
    cases stages with
    | nil => exact absurd rfl some
    | cons stage stages => exact spawnNext_unfinished _ _ _
  working replies := ((Scripted.start run stages some anew blank).follow replies).toWorking

/-- A run that only has to say why a line was refused, or nothing at all. -/
structure Idles (run : Run) : Prop where
  blank : run.report = {}
  control : run.control = .finished (.ok {}) ∨ ∃ text, run.control = .complaining text

theorem Idles.follow {run : Run} (idles : run.Idles) (replies : List Reply) : (run.follow replies).Idles := by
  induction replies generalizing run with
  | nil => exact idles
  | cons reply replies ih =>
    refine ih ?_
    obtain finished | ⟨text, complaining⟩ := idles.control
    · have same : run.resume reply = run := by simp [resume, finished]
      rwa [same]
    · have same : run.resume reply = (run.enter .idle).goOn (.finished (.ok run.report)) := by
        simp [resume, complaining]
      rw [same]
      exact ⟨idles.blank, .inl (idles.blank ▸ rfl)⟩

end Run

/-- Nothing is done for an errand without stages. -/
theorem Errand.idles {errand : Errand} (none : errand.stages = []) (phase : Phase) : (errand.run phase).Idles := by
  cases errand with
  | pipeline stages =>
    obtain rfl : stages = [] := none
    exact ⟨rfl, .inl rfl⟩
  | line text limit =>
    cases parsed : Line.stages text limit with
    | error reason =>
      simp only [Errand.run, Run.ofLine, parsed]
      exact ⟨rfl, .inr ⟨_, rfl⟩⟩
    | ok stages =>
      obtain rfl : stages = [] := by simpa [Errand.stages, parsed, Except.toOption] using none
      simp only [Errand.run, Run.ofLine, parsed]
      exact ⟨rfl, .inl rfl⟩

namespace Request

/-- Whether a request is done well only when there are no children left. -/
def Collects (request : Request) : Prop := request.stages ≠ [] ∨ request = .children

/-- How a request to execute pipelines begins. -/
inductive BeginsAs (request : Request) (begun : Run) : Prop where
  | stages (run : Run) (some : request.stages ≠ []) (starts : begun = run.start request.stages) (anew : run.index = 0)
      (blank : run.report = {}) (unspawned : ∀ event ∈ run.trace, event.spawned? = none)
  | children (asked : request = .children) (waits : begun = .ofChildren .idle)
  | nothing (unasked : ¬ request.Collects) (idles : begun.Idles)

/-- What executes pipelines begins with a run. -/
theorem executes (τ : Type) (request : Request) (phases : Nat → Phase) (executes : ∀ trial, request ≠ .spawn trial) :
    ∃ begun, (request.program phases : Program τ) = .executor begun ∧ request.BeginsAs begun := by
  cases request with
  | spawn trial => exact absurd rfl (executes trial)
  | children => exact ⟨_, rfl, .children rfl rfl⟩
  | once stages =>
    refine ⟨_, rfl, ?_⟩
    by_cases none : stages = []
    · subst none
      exact .nothing (by simp [Collects, Request.stages]) ⟨rfl, .inl rfl⟩
    · exact .stages (.fresh .idle) none rfl rfl rfl (by simp [Run.fresh])
  | errand executor wanted =>
    refine ⟨_, rfl, ?_⟩
    by_cases none : wanted.stages = []
    · exact .nothing (by simp [Collects, Request.stages, none]) (wanted.idles none _)
    · obtain ⟨run, begins, anew, blank, -, few⟩ := wanted.starts none (phases executor)
      refine .stages run none begins anew blank fun event member => ?_
      rcases few event member with change | ⟨count, rfl⟩
      · cases event <;> first | rfl | cases change
      · rfl

variable {request : Request} {begun : Run}

theorem BeginsAs.blank (begins : request.BeginsAs begun) : begun.report = {} := by
  cases begins with
  | stages run some starts anew blank unspawned => rw [starts, Run.report_start, blank]
  | children asked waits => rw [waits]; rfl
  | nothing unasked idles => exact idles.blank

theorem BeginsAs.collects (begins : request.BeginsAs begun) (collects : request.Collects) : begun.Collects := by
  cases begins with
  | stages run some starts anew blank unspawned => exact starts ▸ Run.collects_start some anew blank
  | children asked waits =>
    subst waits
    refine ⟨fun outcome finished => ?_, fun replies => (Run.OnlyWaits.follow (.inl rfl) replies).toWorking⟩
    cases finished
  | nothing unasked idles => exact absurd collects unasked

/-- A request with stages keeps to their script. -/
theorem BeginsAs.scripted (begins : request.BeginsAs begun) (some : request.stages ≠ []) (replies : List Reply) :
    ∃ first prior, (∀ event ∈ prior, event.spawned? = none) ∧
      Run.Scripted first prior request.stages (begun.follow replies) := by
  cases begins with
  | stages run some starts anew blank unspawned =>
    subst starts
    exact ⟨run.phase, run.trace, unspawned, (Run.Scripted.start run request.stages some anew blank).follow replies⟩
  | children asked waits => exact absurd (by rw [asked]; rfl) some
  | nothing unasked idles => exact absurd (.inl some) unasked

/-- Only stages give rise to faults that are not met in waiting. -/
theorem BeginsAs.ne_nil (begins : request.BeginsAs begun) {replies : List Reply} {fault : Fault}
    (finished : (begun.follow replies).control = .finished (.error fault)) (others : ∀ errno, fault ≠ .wait errno) :
    request.stages ≠ [] := by
  cases begins with
  | stages run some starts anew blank unspawned => exact some
  | children asked waits =>
    subst waits
    have waits : (Run.ofChildren .idle).OnlyWaits := .inl rfl
    obtain reaping | well | ⟨errno, failed⟩ := waits.follow replies
    · cases reaping.symm.trans finished
    · cases well.symm.trans finished
    · cases failed.symm.trans finished
      exact absurd rfl (others errno)
  | nothing unasked idles =>
    obtain well | ⟨text, complaining⟩ := (idles.follow replies).control
    · cases well.symm.trans finished
    · cases complaining.symm.trans finished

/-- Only a request that is done well only when there are no children learns of the end of any, unless it fails in
waiting for them. -/
theorem BeginsAs.reaped_eq_nil (begins : request.BeginsAs begun) (replies : List Reply)
    (unwell : request.Collects → ∃ fault, (begun.follow replies).control = .finished (.error fault) ∧
      ∀ errno, fault ≠ .wait errno) : (begun.follow replies).report.reaped = [] := by
  by_cases collects : request.Collects
  · obtain ⟨fault, finished, others⟩ := unwell collects
    obtain ⟨first, prior, -, scripted⟩ := begins.scripted (begins.ne_nil finished others) replies
    rcases scripted.of_fault finished with ⟨errno, rfl⟩ | none
    · exact absurd rfl (others errno)
    · exact none
  · cases begins with
    | stages run some starts anew blank unspawned => exact absurd (.inl some) collects
    | children asked waits => exact absurd (.inr asked) collects
    | nothing unasked idles => rw [(idles.follow replies).blank]

/-- What is returned of a run that has ended well is what it has reported. -/
theorem BeginsAs.report_eq (begins : request.BeginsAs begun) {replies : List Reply} {report : Report}
    (finished : (begun.follow replies).control = .finished (.ok report)) : report = (begun.follow replies).report := by
  cases begins with
  | stages run some starts anew blank unspawned =>
    subst starts
    exact (((Run.Scripted.start run request.stages some anew blank).follow replies).of_success unspawned finished).1
  | children asked waits =>
    subst waits
    have waits : (Run.ofChildren .idle).OnlyWaits := .inl rfl
    obtain reaping | well | ⟨errno, failed⟩ := waits.follow replies
    · cases reaping.symm.trans finished
    · have same := well.symm.trans finished
      simp only [Run.Control.finished.injEq, Except.ok.injEq] at same
      exact same.symm
    · cases failed.symm.trans finished
  | nothing unasked idles =>
    have idles := idles.follow replies
    obtain well | ⟨text, complaining⟩ := idles.control
    · cases well.symm.trans finished
      exact idles.blank.symm
    · cases complaining.symm.trans finished

end Request

/-- A status is that of the child that has ended. -/
theorem process_of_status? {number : Nat} {how : Termination} {status : Status}
    (told : how.status? number = some status) : status.process = number := by
  cases how with
  | exited code =>
    cases told
    rfl
  | signaled signal =>
    obtain ⟨name, -, rfl⟩ := Option.map_eq_some_iff.mp told
    rfl

/-- If there is a status for each child, then there is just one. -/
theorem Run.processes_statuses {ended : List (Nat × Termination)}
    (decodable : ∀ child ∈ ended, (child.2.status? child.1).isSome = true) :
    (Run.statuses ended).map Status.process = ended.map Prod.fst := by
  induction ended with
  | nil => rfl
  | cons child later ih =>
    obtain ⟨status, told⟩ := Option.isSome_iff_exists.mp (decodable child (List.mem_cons_self ..))
    have rest := ih fun other member => decodable other (List.mem_cons_of_mem _ member)
    simp only [Run.statuses] at rest
    simp [Run.statuses, told, rest, process_of_status? told]

variable {τ : Type} {images : Behaviour τ} {mishaps : Call → Bool} {host : Nat} {start middle machine : Machine τ}
  {tally : Tally} {phases now : Nat → Phase} {deeds earlier later : List (Deed τ)}

theorem Machine.isChild_putProgram {program : Program τ} {number : Nat} :
    System.IsChild (machine.putProgram host program) host number ↔ machine.IsChild host number := by
  unfold System.IsChild Machine.putProgram
  simp only [Std.ExtTreeMap.getElem?_modify]
  split
  · rename_i same
    obtain rfl : host = number := by simpa using same
    cases machine.processes[host]? <;> simp
  · rfl

theorem Accounts.of_putProgram {program : Program τ}
    (accounts : Accounts host (start.putProgram host program) tally machine) : Accounts host start tally machine where
  isChild number := by rw [accounts.isChild, Machine.isChild_putProgram]
  known number member := by
    have known := accounts.known number member
    rwa [Machine.isChild_putProgram] at known
  once := accounts.once
  made := accounts.made
  fresh := accounts.fresh
  nextProcess := accounts.nextProcess

namespace Deed

/-- The children of which a deed has returned the status. -/
def returned (host : Nat) (deed : Deed τ) : List Nat :=
  match deed.outcome? host with
  | some (.ok report) => report.reaped.map Status.process
  | _ => []

/-- What was recorded of a deed. -/
def trace (host : Nat) (deed : Deed τ) : List Event := ((deed.after.run? host).map Run.trace).getD []

/-- A deed by which nobody is waited for who was made alone, and with a status for each child that was waited for. -/
structure Plain (deed : Deed τ) : Prop where
  detached : ∀ trial, deed.request = .spawn trial → trial.detached = true
  decodable : ∀ child ∈ deed.tally.collected, (child.2.status? child.1).isSome = true

/-- What a deed has to do with the children of the process. -/
structure Kept (host : Nat) (deed : Deed τ) : Prop where
  accounts : Accounts host deed.before deed.tally deed.after
  returned : deed.returned host = deed.tally.collected.map Prod.fst
  collects : deed.tally.collected ≠ [] →
    deed.request.Collects ∧ ∃ report, deed.outcome? host = some (.ok report)
  childless : deed.request.Collects → ∀ report, deed.outcome? host = some (.ok report) →
    ∀ number, ¬ deed.after.IsChild host number
  /-- The processes that were made are those of the stages, in their order. -/
  spawned : deed.request.stages ≠ [] → ∀ report, deed.outcome? host = some (.ok report) →
    report.spawned = deed.tally.made ∧ report.spawned.length = deed.request.stages.length ∧
      (deed.trace host).filterMap Event.spawned? =
        List.zipWith (fun process stage => (process, stage.position, stage.program)) report.spawned deed.request.stages
  unopened : ∀ index stage errno, deed.outcome? host = some (.error (.pipe index stage errno)) →
    deed.tally.made.length = index ∧ deed.request.stages[index]? = some stage

end Deed

/-- What executes a request to execute pipelines. -/
theorem Passage.executing {request : Request}
    (passage : Passage images mishaps host (start.putProgram host (request.program phases)) tally machine)
    (hosts : start.Hosts host) (waits : mishaps .wait = false) (executes : ∀ trial, request ≠ .spawn trial) :
    ∃ begun, request.BeginsAs begun ∧ ∀ process, machine.processes[host]? = some process →
      ∃ run, process.program = .executor run ∧ Keeping host begun tally machine run := by
  obtain ⟨begun, same, begins⟩ := request.executes τ phases executes
  refine ⟨begun, begins, passage.keeping (hosts.putProgram _) (fun process present => ?_) begins.blank waits⟩
  exact (Machine.program_of_putProgram present).trans same

/-- A detached trial. -/
theorem Passage.kept_spawn {trial : Trial} {process : Process (Program τ)}
    (passage : Passage images mishaps host (start.putProgram host (.trial trial.task)) tally machine)
    (found : machine.processes[host]? = some process) (hosts : start.Hosts host) (lives : machine.Lives host)
    (detached : trial.detached = true) : Deed.Kept host ⟨.spawn trial, start, machine, tally⟩ := by
  obtain ⟨none, program⟩ := passage.uncollected (hosts.putProgram _) detached fun _ => Machine.program_of_putProgram
  obtain ⟨task, same, -⟩ := program process found
  have unrun : Deed.outcome? (⟨.spawn trial, start, machine, tally⟩ : Deed τ) host = .none := by
    simp [Deed.outcome?, Machine.run?, found, same]
  refine ⟨(passage.accounts (hosts.putProgram _) lives).of_putProgram, ?_, fun some => absurd none some,
    fun _ report ended => ?_, fun _ report ended => ?_, fun index stage errno ended => ?_⟩
  · simp [Deed.returned, unrun, none]
  all_goals exact absurd (unrun.symm.trans ended) (by simp)

/-- A request to execute pipelines. -/
theorem Passage.kept {request : Request} {process : Process (Program τ)}
    (passage : Passage images mishaps host (start.putProgram host (request.program phases)) tally machine)
    (found : machine.processes[host]? = some process) (done : process.program.isDone = true) (hosts : start.Hosts host)
    (waits : mishaps .wait = false) (lives : machine.Lives host)
    (plain : Deed.Plain ⟨request, start, machine, tally⟩) : Deed.Kept host ⟨request, start, machine, tally⟩ := by
  by_cases spawns : ∃ trial, request = .spawn trial
  · obtain ⟨trial, rfl⟩ := spawns
    exact passage.kept_spawn found hosts lives (plain.detached trial rfl)
  obtain ⟨begun, begins, keeps⟩ := passage.executing hosts waits fun trial asked => spawns ⟨trial, asked⟩
  obtain ⟨run, program, keeping⟩ := keeps process found
  rw [program, Program.isDone, Option.isSome_iff_exists] at done
  obtain ⟨outcome, ended⟩ := done
  have finished := Run.control_of_outcome? ended
  obtain ⟨replies, follows⟩ := keeping.follows
  have came : Deed.outcome? (⟨request, start, machine, tally⟩ : Deed τ) host = some outcome := by
    simp [Deed.outcome?, Machine.run?, found, program, ended]
  have told : run.report.reaped.map Status.process = tally.collected.map Prod.fst := by
    rw [keeping.reaped, Run.processes_statuses plain.decodable]
  have decoded : request.Collects → ∀ errno, outcome ≠ .error (.wait errno) := by
    rintro collects errno rfl
    obtain ⟨child, member, undecoded⟩ := keeping.undecoded (begins.collects collects) errno finished
    simpa [undecoded] using plain.decodable child member
  -- A run that has failed, or had nothing to wait for, has learnt of no end.
  have silent : (request.Collects → ∃ fault, outcome = .error fault) → tally.collected = [] := by
    intro unwell
    have none := begins.reaped_eq_nil replies fun collects => by
      obtain ⟨fault, rfl⟩ := unwell collects
      exact ⟨fault, follows ▸ finished, fun errno same => decoded collects errno (congrArg _ same)⟩
    rw [← follows] at none
    simpa [none] using told.symm
  refine ⟨(passage.accounts (hosts.putProgram _) lives).of_putProgram, ?_, fun some => ?_,
    fun collects report well number => ?_, fun some report well => ?_, fun index stage errno failed => ?_⟩
  · cases outcome with
    | ok report =>
      obtain rfl : report = run.report := follows ▸ begins.report_eq (follows ▸ finished)
      simpa [Deed.returned, came] using told
    | error fault => simp [Deed.returned, came, silent fun _ => ⟨fault, rfl⟩]
  · have collects : request.Collects := Classical.byContradiction fun unasked =>
      some (silent fun asked => absurd asked unasked)
    cases outcome with
    | ok report => exact ⟨collects, report, came⟩
    | error fault => exact absurd (silent fun _ => ⟨fault, rfl⟩) some
  · cases came.symm.trans well
    exact keeping.childless (begins.collects collects) report finished lives number
  · cases came.symm.trans well
    obtain ⟨first, prior, unspawned, scripted⟩ := begins.scripted some replies
    rw [← follows] at scripted
    obtain ⟨rfl, -, -, counted, order⟩ := scripted.of_success unspawned finished
    have recorded : Deed.trace host (⟨request, start, machine, tally⟩ : Deed τ) = run.trace := by
      simp [Deed.trace, Machine.run?, found, program]
    exact ⟨keeping.spawned, counted, recorded ▸ order⟩
  · cases came.symm.trans failed
    have some := begins.ne_nil (follows ▸ finished) (by simp)
    obtain ⟨first, prior, -, scripted⟩ := begins.scripted some replies
    rw [← follows] at scripted
    obtain ⟨counted, there⟩ := scripted.of_pipe_fault finished
    exact ⟨keeping.spawned ▸ counted, there⟩

/-- What is remembered of deeds that were done one after the other. -/
def Deed.tallies (deeds : List (Deed τ)) : Tally where
  made := deeds.flatMap fun deed => deed.tally.made
  collected := deeds.flatMap fun deed => deed.tally.collected

namespace Service

/-- All that is done is kept to, and the accounts of the deeds add up. -/
theorem kept (service : Service images mishaps host start phases deeds machine now) (hosts : start.Hosts host)
    (waits : mishaps .wait = false) (plain : ∀ deed ∈ deeds, deed.Plain) :
    machine.Hosts host ∧ (machine.Lives host →
      Accounts host start (Deed.tallies deeds) machine ∧ ∀ deed ∈ deeds, deed.Kept host) := by
  induction service with
  | start => exact ⟨hosts, fun _ => ⟨.refl host start, by simp⟩⟩
  | @deed deeds before after now tally process earlier request passage found done ih =>
    obtain ⟨settled, keeps⟩ := ih fun deed member => plain deed (List.mem_append_left _ member)
    refine ⟨passage.hosts (settled.putProgram _), fun lives => ?_⟩
    obtain ⟨accounts, every⟩ := keeps (Machine.lives_of_putProgram (passage.lives (settled.putProgram _) lives))
    have last := plain _ (List.mem_append_right _ (List.mem_singleton_self _))
    have new := passage.kept found done settled waits lives last
    refine ⟨?_, fun deed member => ?_⟩
    · simpa [Deed.tallies, Tally.append] using accounts.trans new.accounts hosts.numbered
    · rcases List.mem_append.mp member with old | last
      · exact every deed old
      · exact List.mem_singleton.mp last ▸ new

/-- A service can be parted anywhere. -/
theorem split (service : Service images mishaps host start phases (earlier ++ later) machine now) :
    ∃ middle then_, Service images mishaps host start phases earlier middle then_ ∧
      Service images mishaps host middle then_ later machine now := by
  generalize whole : earlier ++ later = deeds at service
  induction service generalizing later with
  | start =>
    obtain ⟨rfl, rfl⟩ := List.append_eq_nil_iff.mp whole
    exact ⟨start, phases, .start, .start⟩
  | @deed deeds before after now tally process sooner request passage found done ih =>
    rcases List.eq_nil_or_concat later with rfl | ⟨initial, last, rfl⟩
    · rw [List.append_nil] at whole
      subst whole
      exact ⟨_, _, sooner.deed request passage found done, .start⟩
    · rw [List.concat_eq_append, ← List.append_assoc] at whole
      obtain ⟨same, single⟩ := List.append_inj' whole rfl
      cases single
      obtain ⟨middle, then_, first, second⟩ := ih same
      exact ⟨middle, then_, first, List.concat_eq_append .. ▸ second.deed request passage found done⟩

/-- What is done first is done on the first machine. -/
theorem before_eq {deed : Deed τ} (service : Service images mishaps host start phases (deed :: later) machine now) :
    deed.before = start := by
  generalize whole : deed :: later = deeds at service
  induction service generalizing later with
  | start => cases whole
  | @deed deeds before after now tally process sooner request passage found done ih =>
    cases deeds with
    | nil =>
      cases whole
      generalize none : ([] : List (Deed τ)) = deeds at sooner
      cases sooner with
      | start => rfl
      | deed => simp at none
    | cons first others =>
      cases whole
      exact ih rfl

/-- What is done last ends on the last machine. -/
theorem after_eq {deed : Deed τ} (service : Service images mishaps host start phases (earlier ++ [deed]) machine now) :
    deed.after = machine := by
  generalize whole : earlier ++ [deed] = deeds at service
  cases service with
  | start => simp at whole
  | deed sooner request passage found done =>
    cases (List.append_inj' whole rfl).2
    rfl

/-- Who lives at the end has lived all along. -/
theorem lives (service : Service images mishaps host start phases deeds machine now) (hosts : start.Hosts host)
    (waits : mishaps .wait = false) (plain : ∀ deed ∈ deeds, deed.Plain) (lives : machine.Lives host) :
    start.Lives host := by
  induction service with
  | start => exact lives
  | deed earlier request passage found done ih =>
    have plain := fun deed member => plain deed (List.mem_append_left _ member)
    exact ih plain (Machine.lives_of_putProgram
      (passage.lives ((earlier.kept hosts waits plain).1.putProgram _) lives))

end Service

namespace Deed

variable {deed : Deed τ}

/-- Whether all children were waited for. -/
def Collected (host : Nat) (deed : Deed τ) : Prop :=
  deed.request.Collects ∧ ∃ report, deed.outcome? host = some (.ok report)

theorem returned_of_ok {report : Report} (well : deed.outcome? host = some (.ok report)) :
    deed.returned host = report.reaped.map Status.process := by
  simp [returned, well]

/-- Whoever waits for all children gets each of them once. -/
theorem Kept.mem_returned (kept : deed.Kept host) (collected : deed.Collected host) (number : Nat) :
    number ∈ deed.returned host ↔ deed.before.IsChild host number ∨ number ∈ deed.tally.made := by
  obtain ⟨collects, report, well⟩ := collected
  rw [kept.returned]
  refine ⟨kept.accounts.known number, fun known => ?_⟩
  exact Classical.byContradiction fun missing =>
    kept.childless collects report well number ((kept.accounts.isChild number).mpr ⟨known, missing⟩)

/-- Who does not wait for children leaves those that there were and those that he has made. -/
theorem Kept.left (kept : deed.Kept host) (uncollected : ¬ deed.Collected host) :
    deed.returned host = [] ∧ ∀ number, deed.after.IsChild host number ↔
      deed.before.IsChild host number ∨ number ∈ deed.tally.made := by
  have none : deed.tally.collected = [] :=
    Classical.byContradiction fun some => uncollected (kept.collects some)
  exact ⟨by simp [kept.returned, none], fun number => by simp [kept.accounts.isChild, none]⟩

theorem returned_flatMap (every : ∀ deed ∈ deeds, deed.Kept host) :
    deeds.flatMap (Deed.returned host) = (tallies deeds).collected.map Prod.fst := by
  induction deeds with
  | nil => rfl
  | cons deed later ih =>
    have rest := ih fun other member => every other (List.mem_cons_of_mem _ member)
    have first := (every deed (List.mem_cons_self ..)).returned
    simp only [tallies] at rest ⊢
    simp [first, rest]

end Deed

/-- What a deed leaves comes back when all children are waited for the next time. -/
theorem Service.mem_returned {between : List (Deed τ)} {left next : Deed τ}
    (service : Service images mishaps host start phases (earlier ++ left :: (between ++ next :: later)) machine now)
    (hosts : start.Hosts host) (waits : mishaps .wait = false)
    (plain : ∀ deed ∈ earlier ++ left :: (between ++ next :: later), deed.Plain) (lives : machine.Lives host)
    (uncollected : ∀ deed ∈ left :: between, ¬ deed.Collected host) (collected : next.Collected host) (number : Nat) :
    number ∈ next.returned host ↔ left.before.IsChild host number ∨ number ∈ left.tally.made ∨
      number ∈ (between.flatMap fun deed => deed.tally.made) ∨ number ∈ next.tally.made := by
  have every := ((service.kept hosts waits plain).2 lives).2
  have whole : earlier ++ left :: (between ++ next :: later) =
      (earlier ++ [left]) ++ (between ++ next :: later) := by simp
  obtain ⟨middle, then_, first, second⟩ := split (whole ▸ service)
  obtain rfl := first.after_eq
  have settled := (first.kept hosts waits fun deed member => plain deed (by grind)).1
  obtain ⟨ready, later', among, last⟩ := second.split
  obtain rfl := last.before_eq
  have kept := among.kept settled waits fun deed member => plain deed (by grind)
  obtain ⟨accounts, others⟩ := kept.2 (last.lives kept.1 waits (fun deed member => plain deed (by grind)) lives)
  have quiet : (Deed.tallies between).collected = [] := by
    have none : between.flatMap (Deed.returned host) = [] := List.flatMap_eq_nil_iff.mpr fun deed member =>
      ((others deed member).left (uncollected deed (List.mem_cons_of_mem _ member))).1
    simpa [Deed.returned_flatMap others] using none
  rw [(every next (by simp)).mem_returned collected, accounts.isChild, quiet,
    ((every left (by simp)).left (uncollected left (List.mem_cons_self ..))).2]
  simp [Deed.tallies, or_assoc]

/-- Whatever is asked of the executors of a process, whichever pipes it does not get and in whichever order its children
end, as long as each of them ends in a way for which there is a status:

* if all children are waited for, then each child that there was or that was made is returned once, and none is left;
* a pipeline that has ended well is reported with a child for each stage, in the order of the stages, and each of them
  was waited for once;
* no child is returned twice, and those that were not returned are those that are left;
* a pipeline that gets no channel behind a stage leaves the children of the stages before it and those that there were,
  and they are returned when all children are waited for the next time. -/
theorem children_accounted (service : Service images mishaps host start phases deeds machine now)
    (hosts : start.Hosts host) (waits : mishaps .wait = false) (plain : ∀ deed ∈ deeds, deed.Plain)
    (lives : machine.Lives host) :
    (∀ deed ∈ deeds, deed.request.Collects → ∀ report, deed.outcome? host = some (.ok report) →
      (report.reaped.map Status.process).Nodup ∧
        (∀ number, number ∈ report.reaped.map Status.process ↔
          deed.before.IsChild host number ∨ number ∈ deed.tally.made) ∧
        ∀ number, ¬ deed.after.IsChild host number) ∧
    (∀ deed ∈ deeds, deed.request.stages ≠ [] → ∀ report, deed.outcome? host = some (.ok report) →
      report.spawned = deed.tally.made ∧ report.spawned.length = deed.request.stages.length ∧ report.spawned.Nodup ∧
        (deed.trace host).filterMap Event.spawned? =
          List.zipWith (fun process stage => (process, stage.position, stage.program)) report.spawned
            deed.request.stages ∧
        ∀ number ∈ report.spawned, (report.reaped.map Status.process).count number = 1) ∧
    ((deeds.flatMap (Deed.returned host)).Nodup ∧ (deeds.flatMap fun deed => deed.tally.made).Nodup ∧
      ∀ number, machine.IsChild host number ↔
        (start.IsChild host number ∨ number ∈ deeds.flatMap fun deed => deed.tally.made) ∧
          number ∉ deeds.flatMap (Deed.returned host)) ∧
    ∀ earlier left rest, deeds = earlier ++ left :: rest →
      ∀ index stage errno, left.outcome? host = some (.error (.pipe index stage errno)) →
        left.tally.made.length = index ∧ left.returned host = [] ∧
          (∀ number, left.after.IsChild host number ↔
            left.before.IsChild host number ∨ number ∈ left.tally.made) ∧
          ∀ between next later, rest = between ++ next :: later → (∀ deed ∈ between, ¬ deed.Collected host) →
            next.Collected host → ∀ number, number ∈ next.returned host ↔
              left.before.IsChild host number ∨ number ∈ left.tally.made ∨
                number ∈ (between.flatMap fun deed => deed.tally.made) ∨ number ∈ next.tally.made := by
  obtain ⟨accounts, every⟩ := (service.kept hosts waits plain).2 lives
  have listed := Deed.returned_flatMap every
  refine ⟨fun deed member collects report well => ?_, fun deed member some report well => ?_, ?_,
    fun earlier left rest whole index stage errno failed => ?_⟩
  · have kept := every deed member
    rw [← Deed.returned_of_ok well]
    exact ⟨kept.returned ▸ kept.accounts.once, kept.mem_returned ⟨collects, report, well⟩,
      kept.childless collects report well⟩
  · have kept := every deed member
    have collected : deed.Collected host := ⟨.inl some, report, well⟩
    obtain ⟨made, counted, order⟩ := kept.spawned some report well
    rw [← Deed.returned_of_ok well]
    refine ⟨made, counted, made ▸ kept.accounts.made, order, fun number spawned => ?_⟩
    refine List.Nodup.count (kept.returned ▸ kept.accounts.once) |>.trans ?_
    rw [if_pos ((kept.mem_returned collected number).mpr (.inr (made ▸ spawned)))]
  · rw [listed]
    exact ⟨accounts.once, accounts.made, accounts.isChild⟩
  · subst whole
    have kept := every left (by simp)
    have uncollected : ¬ left.Collected host := by
      rintro ⟨-, report, well⟩
      cases failed.symm.trans well
    obtain ⟨none, remaining⟩ := kept.left uncollected
    refine ⟨(kept.unopened index stage errno failed).1, none, remaining,
      fun between next later same others collected => ?_⟩
    subst same
    exact service.mem_returned hosts waits plain lives (List.forall_mem_cons.mpr ⟨uncollected, others⟩) collected

/-- A pipeline of three copiers gets no second channel, then a copier is made of which nobody waits for the end; a third
pipeline returns what both have left. -/
theorem children_accounted_of_copiers :
    ∃ deeds machine now, Service copier (fun call => decide (call = .pipe)) 1 (.copying copiedStreams 0)
        (fun _ => .idle) deeds machine now ∧
      deeds.map (fun deed => deed.tally.made) = [[2], [3], [4]] ∧
      deeds.map (Deed.returned 1) = [[], [], [2, 3, 4]] ∧
      (deeds.flatMap (Deed.returned 1)).Nodup ∧ ∀ number, ¬ machine.IsChild 1 number := by
  obtain ⟨deeds, machine, now, service, checked⟩ := Service.exists_of_follow copier
    (fun call => decide (call = .pipe)) 1 (.copying copiedStreams 0) (fun _ => .idle)
    [(.errand 0 (.pipeline [copierStage 0, copierStage 1, copierStage 2]),
        [.step 1, .step 1, .step 1, .mishap .tooManyOpen, .step 1]),
      (.spawn { stage := copierStage 0, detached := true }, [.step 1]),
      (.errand 1 (.pipeline [copierStage 0]),
        [1, 2, 2, 2, 2, 2, 2, 1, 3, 3, 3, 3, 3, 1, 4, 4, 4, 1, 1].map .step)]
    (fun deeds machine =>
      (deeds.map (fun deed => deed.tally.made) == [[2], [3], [4]]) &&
        (deeds.map (Deed.returned 1) == [[], [], [2, 3, 4]]) &&
        (machine.processes[1]?).any (fun process => process.ending.isNone) &&
        deeds.all fun deed => deed.request.trial?.all Trial.detached &&
          deed.tally.collected.all fun child => (child.2.status? child.1).isSome) (by decide +kernel)
  simp only [Bool.and_eq_true, beq_iff_eq, Option.any_eq_true, Option.isNone_iff_eq_none, List.all_eq_true] at checked
  obtain ⟨⟨⟨made, returned⟩, process, found, alive⟩, plain⟩ := checked
  have plain : ∀ deed ∈ deeds, deed.Plain := fun deed member =>
    ⟨fun trial same => by simpa [same, Request.trial?] using (plain deed member).1, (plain deed member).2⟩
  obtain ⟨-, -, ⟨once, -, left⟩, -⟩ := children_accounted service ⟨numbered_copying _ _, Nat.lt_succ_self 1⟩ rfl plain
    ⟨process, found, alive⟩
  refine ⟨deeds, machine, now, service, made, returned, once, fun number isChild => ?_⟩
  obtain ⟨known, missing⟩ := (left number).mp isChild
  have parentless : ¬ System.IsChild (Machine.copying copiedStreams 0) 1 number := by
    rintro ⟨process, present, parent⟩
    rw [(processes_copying present).2] at parent
    cases parent
  rw [List.flatMap, returned] at missing
  rw [List.flatMap, made] at known
  exact missing (known.resolve_left parentless)

end Pipework
