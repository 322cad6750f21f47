import Pipework.Proofs.Foresight
import Pipework.Proofs.Plumbing

set_option autoImplicit false

/-!
The insulation of an executor from its stages. What it is answered before it waits does not depend on them
(`Run.Concur`), and neither does the table with which another stage loads its program; when it has waited for all of
them it has a status for each. A stage whose program is not there is on its way to the exit code for that from the
moment it is made (`Doomed`), so that is how it ends (`stages_unheard`).
-/

namespace Pipework

open Kernel

namespace Startup

theorem code?_of_refused {startup : Startup} (loading : startup.control = .loading) (errno : Errno) :
    (startup.resume (.failed errno)).control.code? = some loadFailure := by
  simp [resume, loading, Control.after, Control.fail, Control.code?]

theorem next_eq_exit {startup : Startup} {code : Nat} (exits : startup.next = .exit code) :
    startup.control.code? = some code := by
  unfold next at exits
  split at exits <;> try cases exits
  · split at exits <;> cases exits
  · rename_i control
    rw [control]
    rfl

theorem next_ne_kill (startup : Startup) (number : Nat) (signal : Signal) : startup.next ≠ .kill number signal := by
  unfold next
  repeat' split
  all_goals simp

end Startup

variable {τ : Type} {images : Behaviour τ} {host mover number : Nat} {stages : List Stage} {base : DescriptorTable}
  {children channels : List Nat} {machine after : Machine τ} {process later : Process (Program τ)} {stage : Stage}
  {index : Nat}

/-- A program that is not there to be loaded, whatever the files are. -/
def Kernel.Behaviour.Lacks {σ : Type} (behaviour : Behaviour σ) (stage : Stage) : Prop :=
  ∀ files working environment, ∃ errno,
    behaviour.load files working environment stage.name stage.arguments = .error errno

namespace Kernel.System

variable {σ : Type} {system : System σ} {target : Nat} {signal : Signal} {how : Termination}

/-- The end of another process leaves one running. -/
theorem isRunning_finish (ne : number ≠ target) :
    (system.finish target how).isRunning number = system.isRunning number := by
  cases present : system.processes[target]? with
  | none => rw [finish_absent how present]
  | some process =>
    simp only [isRunning, getElem?_finish how present ne]
    cases system.processes[number]? with
    | none => rfl
    | some other => simp [(system.marked_undisturbed target number other).ending]

theorem isRunning_put (ne : number ≠ target) (process : Process σ) :
    (system.put target process).isRunning number = system.isRunning number := by
  simp only [isRunning, getElem?_put, if_neg ne.symm]

/-- A signal to another process leaves one running. -/
theorem isRunning_deliver (ne : number ≠ target) :
    (system.deliver target signal).isRunning number = system.isRunning number := by
  unfold deliver
  split
  · rfl
  · dsimp only
    repeat' split
    all_goals simp only [isRunning_finish ne, isRunning_put ne]

end Kernel.System

/-- A signal that is sent to another process stands in the minutes. -/
theorem said?_kill {other : Process (Program τ)} {signal : Signal} (present : machine.processes[mover]? = some other)
    (alive : other.ending = none) (ne : mover ≠ number)
    (asks : (Program.behaviour images).next other.program = some (.kill number signal)) :
    ∃ reply, machine.said? (Program.behaviour images) mover = some (.kill number signal, reply) := by
  have runs : machine.isRunning mover = true := by simp [System.isRunning, present, alive]
  rw [said?_plain present asks (by simp)]
  simp only [System.perform]
  split
  · exact ⟨_, rfl⟩
  · have still : (if signal = 0 then machine else machine.deliver number signal).isRunning mover = true := by
      split
      · exact runs
      · rw [System.isRunning_deliver ne, runs]
    rw [if_pos still]
    exact ⟨_, rfl⟩

/-- Whether a call sends a signal. -/
def Kernel.Call.sends : Call → Bool
  | .kill _ _ => true
  | _ => false

/-- Nobody has sent this process a signal. -/
def Minutes.Spares (minutes : Minutes) (number : Nat) : Prop :=
  ∀ entry ∈ minutes, ∀ signal, entry.2.1 ≠ .kill number signal

theorem Minutes.Spares.of_append {minutes later : Minutes} (spared : (minutes ++ later).Spares number) :
    minutes.Spares number ∧ later.Spares number :=
  List.forall_mem_append.mp spared

theorem Minutes.spares_of_quiet {minutes : Minutes} (quiet : ∀ entry ∈ minutes, entry.2.1.sends = false)
    (number : Nat) : minutes.Spares number := by
  intro entry member signal kills
  have silent := quiet entry member
  rw [kills] at silent
  cases silent

/-- A process that cannot load its program. It is on its way to exit with the code for that, or has done so; the
signal for a pipe that nobody reads does not end it. -/
structure Doomed (process : Process (Program τ)) : Prop where
  ignores : Signal.pipe ∈ process.ignored
  program : ∃ startup, process.program = .startup startup ∧
    ∀ code, startup.control.code? = some code → code = Startup.loadFailure
  ending : ∀ how, process.ending = some how → how = .exited Startup.loadFailure

namespace Doomed

theorem disturbed (doomed : Doomed process) (disturbed : Disturbed process later)
    (ending : ∀ how, later.ending = some how → how = .exited Startup.loadFailure) : Doomed later where
  ignores := disturbed.ignored ▸ doomed.ignores
  program := disturbed.program ▸ doomed.program
  ending := ending

/-- A move of such a process. -/
theorem move (doomed : Doomed process) (becomes : Becomes stages base channels index process)
    (listed : stages[index]? = some stage) (lacks : images.Lacks stage)
    (present : machine.processes[number]? = some process)
    (moved : machine.step (Program.behaviour images) number = some after)
    (found : after.processes[number]? = some later)
    (ending : ∀ how, later.ending = some how → how = .exited Startup.loadFailure) : Doomed later := by
  obtain ⟨startup, program, failing⟩ := doomed.program
  have alive := (System.alive_of_step present moved).1
  simp only [Becomes, program] at becomes
  obtain ⟨⟨same, there, named, given⟩, settled⟩ := becomes
  obtain rfl : stage = same := Option.some.inj (listed.symm.trans there)
  have answered : ∀ {earlier : Process (Program τ)} {reply : Reply}, earlier.program = .startup startup →
      earlier.ignored = process.ignored → later = earlier.answered (Program.behaviour images) reply →
      (∀ code, (startup.resume reply).control.code? = some code → code = Startup.loadFailure) → Doomed later := by
    rintro earlier reply same ignored rfl failing
    exact ⟨ignored ▸ doomed.ignores, ⟨_, Startup.program_answered same reply, failing⟩, ending⟩
  cases step_startup present program (settled alive) moved with
  | rewired reply table settled opened begun inherits erased =>
    rw [System.getElem?_put_self] at found
    cases found
    refine @answered { process with descriptors := table } reply program rfl rfl fun code failed => ?_
    cases (Startup.Control.code?_of_begun begun).symm.trans failed
  | refused errno loading =>
    rw [System.getElem?_put_self] at found
    cases found
    refine answered program rfl rfl fun code failed => ?_
    exact (Option.some.inj ((Startup.code?_of_refused loading errno).symm.trans failed)).symm
  | loaded state loading loads =>
    obtain ⟨errno, refused⟩ := lacks machine.files process.working process.environment
    rw [named, given, refused] at loads
    cases loads
  | complained part parts code reply between complaining wrote =>
    obtain ⟨earlier, living, rfl⟩ := System.getElem?_answer_self found
    have same := System.write_disturbed present (Effect.leads_of_answer wrote) living
    have failed : startup.control.hasFailed = true := by rw [complaining]; rfl
    exact answered (same.program.trans program) same.ignored rfl (Startup.code?_of_failed failed reply ▸ failing)
  | complaining part parts code after complaining wrote =>
    exact doomed.disturbed (System.write_disturbed present (Effect.leads_of_moved wrote) found) ending
  | interrupted part parts code complaining interrupted =>
    rw [System.getElem?_put_self] at found
    cases found
    have failed : startup.control.hasFailed = true := by rw [complaining]; rfl
    refine answered ?_ ?_ rfl (Startup.code?_of_failed failed _ ▸ failing)
    all_goals
      unfold System.withoutOpening
      split <;> first | exact program | rfl
  | exited code exiting =>
    obtain ⟨earlier, living, same⟩ := System.finish_disturbed found
    obtain rfl : process = earlier := Option.some.inj (present.symm.trans living)
    exact doomed.disturbed same ending

/-- Such a process is sent no signal by a move that spares it. -/
theorem unsent (doomed : Doomed process) (present : machine.processes[number]? = some process)
    (moved : machine.step (Program.behaviour images) mover = some after)
    (spared : Minutes.Spares ((machine.said? (Program.behaviour images) mover).toList.map (mover, ·)) number)
    {other : Process (Program τ)} (there : machine.processes[mover]? = some other) (signal : Signal) :
    (Program.behaviour images).next other.program ≠ some (.kill number signal) := by
  intro asks
  by_cases own : mover = number
  · subst own
    obtain rfl : process = other := Option.some.inj (present.symm.trans there)
    obtain ⟨startup, program, -⟩ := doomed.program
    have next : startup.next = .kill mover signal := by simpa [Program.behaviour, program] using asks
    exact startup.next_ne_kill mover signal next
  · obtain ⟨reply, said⟩ := said?_kill there (System.alive_of_step there moved).1 own asks
    exact spared (mover, .kill number signal, reply) (by simp [said]) signal rfl

/-- Whoever moves, such a process goes on, unless it is sent a signal. -/
theorem step (doomed : Doomed process) (becomes : Becomes stages base channels index process)
    (listed : stages[index]? = some stage) (lacks : images.Lacks stage) (numbered : machine.Numbered)
    (known : number < machine.nextProcess) (present : machine.processes[number]? = some process)
    (moved : machine.step (Program.behaviour images) mover = some after)
    (spared : Minutes.Spares ((machine.said? (Program.behaviour images) mover).toList.map (mover, ·)) number)
    (found : after.processes[number]? = some later) : Doomed later := by
  have ending : ∀ how, later.ending = some how → how = .exited Startup.loadFailure := by
    obtain ⟨other, call, there, asks, earlier, living, same | ⟨how, ended, ends⟩⟩ :=
      System.leaves_of_step numbered moved known found
    · obtain rfl : process = earlier := Option.some.inj (present.symm.trans living)
      exact same ▸ doomed.ending
    · intro given same
      obtain rfl : how = given := Option.some.inj (ended.symm.trans same)
      cases ends with
      | signal signal sends => exact absurd (sends ▸ asks) (doomed.unsent present moved spared there signal)
      | pipe own heeds =>
        subst own
        obtain rfl : process = other := Option.some.inj (present.symm.trans there)
        exact absurd doomed.ignores heeds
      | exit own code exits =>
        subst own
        obtain rfl : process = other := Option.some.inj (present.symm.trans there)
        obtain ⟨startup, program, failing⟩ := doomed.program
        have next : startup.next = .exit code := by
          simpa [Program.behaviour, program, exits] using asks
        rw [failing code (Startup.next_eq_exit next)]
        rfl
  by_cases own : number = mover
  · subst own
    exact doomed.move becomes listed lacks present moved found ending
  · obtain ⟨earlier, living, disturbed⟩ := (System.step_spares numbered moved).others number own known later found
    obtain rfl : process = earlier := Option.some.inj (present.symm.trans living)
    exact doomed.disturbed disturbed ending

end Doomed

/-- Of whose end the host is told has ended so. -/
theorem ended_of_collected {entry : Nat × Termination}
    (collected : entry ∈ if mover = host then (machine.told? (Program.behaviour images) host).toList else []) :
    ∃ ended, machine.processes[entry.1]? = some ended ∧ ended.ending = some entry.2 := by
  split at collected
  · obtain ⟨ended, present, -, ending⟩ := System.ended_of_told? (Option.mem_toList.mp collected)
    exact ⟨ended, present, ending⟩
  · cases collected

/-- Who was collected is no newer than the machine. -/
theorem Passage.lt_of_collected {mishaps : Call → Bool} {start : Machine τ} {tally : Tally}
    (passage : Passage images mishaps host start tally machine) (hosts : start.Hosts host) :
    ∀ entry ∈ tally.collected, entry.1 < machine.nextProcess := by
  induction passage with
  | start => simp
  | time earlier passed ih =>
    obtain ⟨clock, rfl⟩ := System.passTime_eq_some passed
    exact ih
  | mishap earlier failed ih =>
    cases failed
    exact ih
  | step earlier mover moved ih =>
    have numbered := (earlier.hosts hosts).numbered
    intro entry member
    refine Nat.lt_of_lt_of_le ?_ (System.step_spares numbered moved).nextProcess
    rcases List.mem_append.mp member with old | new
    · exact ih entry old
    · obtain ⟨ended, present, -⟩ := ended_of_collected new
      exact numbered.process _ _ present

/-- A process that an executor makes is no other one that there was. -/
theorem RunMove.doomed {run : Run} (move : RunMove images machine host process run after)
    (alive : process.ending = none) (ignores : Signal.pipe ∈ process.ignored) (apart : host ≠ machine.nextProcess)
    (grown : machine.nextProcess < after.nextProcess) (found : after.processes[machine.nextProcess]? = some later) :
    Doomed later := by
  rcases move.makes with ⟨stage, rest, incoming, read, write, between, table, -, -, -, rfl⟩ |
    ⟨stage, rest, streams, carried, -, rfl⟩ | keeps
  · exact absurd grown (Nat.lt_irrefl _)
  · rw [System.getElem?_put, if_neg apart, System.getElem?_put_self] at found
    cases found
    refine ⟨ignores, ⟨_, rfl, fun code failed => ?_⟩, fun how ended => absurd (alive.symm.trans ended) (by simp)⟩
    cases (Startup.Control.code?_of_begun (Startup.hasFailed_begin stage streams carried)).symm.trans failed
  · rw [keeps.same.1] at grown
    exact absurd grown (Nat.lt_irrefl _)

namespace Undertaking

variable {start : Machine τ} {minutes : Minutes} {phase : Phase} {executor : Process (Program τ)} {report : Report}
  {child : Nat}

/-- A process that the host makes is on its way. -/
theorem doomed_of_made (undertaking : Undertaking images host start phase stages minutes machine)
    (poised : start.Poised host executor) (ignores : Signal.pipe ∈ executor.ignored)
    (moved : machine.step (Program.behaviour images) host = some after)
    (grown : machine.nextProcess < after.nextProcess) (found : after.processes[machine.nextProcess]? = some later) :
    Doomed later := by
  have numbered := (Proceedings.hosts undertaking (poised.hosts.putProgram _)).numbered
  obtain ⟨process, -, present, -⟩ := System.step_eq_some moved
  have foretold := (undertaking.foresees poised).2 process present
  have move := step_executor numbered present foretold.owning.program (working phase stages _) moved
  have apart : host ≠ machine.nextProcess := Nat.ne_of_lt (numbered.process _ _ present)
  exact move.doomed (System.alive_of_step present moved).1 (foretold.ignored ▸ ignores) apart grown found

/-- The process of a stage whose program is not there stays on its way. -/
theorem doomed_step (undertaking : Undertaking images host start phase stages minutes machine)
    (poised : start.Poised host executor) (listed : stages[index]? = some stage) (lacks : images.Lacks stage)
    (isChild : (Tally.ofTalk (minutes.talk host)).made[index]? = some child)
    (doomed : ∀ process, machine.processes[child]? = some process → Doomed process)
    (moved : machine.step (Program.behaviour images) mover = some after)
    (spared : Minutes.Spares ((machine.said? (Program.behaviour images) mover).toList.map (mover, ·)) child)
    (found : after.processes[child]? = some later) : Doomed later := by
  have numbered := (Proceedings.hosts undertaking (poised.hosts.putProgram _)).numbered
  obtain ⟨chronicle, -, children, underway⟩ := undertaking.course poised
  obtain ⟨-, older, becomes⟩ := underway.child index child (children ▸ isChild)
  obtain ⟨-, -, -, -, process, present, -⟩ := System.leaves_of_step numbered moved older found
  exact (doomed process present).step (becomes process present) listed lacks numbered older present moved spared found

/-- The process of a stage whose program is not there comes to its end with the exit code for that. -/
theorem doomed (undertaking : Undertaking images host start phase stages minutes machine)
    (poised : start.Poised host executor) (ignores : Signal.pipe ∈ executor.ignored)
    (listed : stages[index]? = some stage) (lacks : images.Lacks stage)
    (isChild : (Tally.ofTalk (minutes.talk host)).made[index]? = some child) (spared : minutes.Spares child) :
    (∀ process, machine.processes[child]? = some process → Doomed process) ∧
      ∀ how, (child, how) ∈ (Tally.ofTalk (minutes.talk host)).collected → how = .exited Startup.loadFailure := by
  generalize begins : start.putProgram host (.executor (.ofStages phase stages)) = first at undertaking
  induction undertaking with
  | start => simp [Tally.ofTalk] at isChild
  | time earlier passed ih =>
    obtain ⟨clock, rfl⟩ := System.passTime_eq_some passed
    exact ih isChild spared
  | mishap earlier process call errno present alive going asks possible => cases possible
  | @step minutes before after earlier mover moved ih =>
    subst begins
    have sofar : Undertaking images host start phase stages minutes before := earlier
    have numbered := (earlier.hosts (poised.hosts.putProgram _)).numbered
    obtain ⟨spared, now⟩ := spared.of_append
    rw [← extend_talk _ moved] at isChild ⊢
    by_cases known : index < (Tally.ofTalk (minutes.talk host)).made.length
    · -- It was made before, and goes on.
      have isChild : (Tally.ofTalk (minutes.talk host)).made[index]? = some child :=
        (List.getElem?_append_left known).symm.trans isChild
      obtain ⟨processes, collected⟩ := ih isChild spared
      refine ⟨fun later => sofar.doomed_step poised listed lacks isChild processes moved now, fun how member => ?_⟩
      rcases List.mem_append.mp member with old | new
      · exact collected how old
      · obtain ⟨ended, present, ending⟩ := ended_of_collected new
        exact (processes ended present).ending how ending
    · -- It is made in this move.
      have isNew := (List.getElem?_append_right (Nat.le_of_not_lt known)).symm.trans isChild
      split at isNew
      · rename_i makes
        obtain ⟨rfl, grown⟩ := makes
        obtain rfl : before.nextProcess = child := by simpa using (List.getElem?_eq_some_iff.mp isNew).2
        refine ⟨fun later => sofar.doomed_of_made poised ignores moved grown, fun how member => ?_⟩
        rcases List.mem_append.mp member with old | new
        · exact absurd (earlier.passage.lt_of_collected (poised.hosts.putProgram _) _ old) (Nat.lt_irrefl _)
        · obtain ⟨ended, there, -⟩ := ended_of_collected new
          exact absurd (numbered.process _ _ there) (Nat.lt_irrefl _)
      · cases isNew

/-- An executor that succeeds reports of a stage whose program is not there that it has exited with the code for
that. -/
theorem reports_unloaded (undertaking : Undertaking images host start phase stages minutes machine)
    (poised : start.Poised host executor) (ignores : Signal.pipe ∈ executor.ignored)
    (listed : stages[index]? = some stage) (lacks : images.Lacks stage)
    (isChild : (Tally.ofTalk (minutes.talk host)).made[index]? = some child) (spared : minutes.Spares child)
    (returns : machine.Returns host (.ok report)) :
    report.spawned[index]? = some child ∧ .exited child Startup.loadFailure ∈ report.reaped := by
  have some : stages ≠ [] := by
    rintro rfl
    cases listed
  obtain ⟨kept, collected, returned⟩ := undertaking.kept poised.hosts returns some
  obtain ⟨-, -, made, reaped⟩ := undertaking.reported poised.hosts returns some
  have member := (kept.mem_returned collected child).mpr (.inr (List.mem_of_getElem? isChild))
  rw [kept.returned] at member
  obtain ⟨⟨number, how⟩, told, rfl⟩ := List.mem_map.mp member
  have ended := (undertaking.doomed poised ignores listed lacks isChild spared).2 how told
  refine ⟨made ▸ isChild, ?_⟩
  rw [reaped, Run.statuses, List.mem_filterMap]
  exact ⟨(number, how), told, by rw [ended]; rfl⟩

end Undertaking

section twice

variable {υ : Type} {others : Behaviour υ} {one here : Machine τ} {other there : Machine υ}
  {executor : Process (Program τ)} {counterpart : Process (Program υ)} {phase : Phase} {minutes records : Minutes}
  (poised : one.Poised host executor) (ready : other.Poised host counterpart)
  (descriptors : counterpart.descriptors = executor.descriptors) (limit : counterpart.limit = executor.limit)
  (first : Undertaking images host one phase stages minutes here)
  (second : Undertaking others host other phase stages records there)

include poised ready descriptors limit first second

/-- Two executions of the same stages go the same way until they wait. -/
theorem Undertaking.concur : Run.Concur (.ofStages phase stages) (.ofStages phase stages)
    (Run.early (minutes.talk host)) (Run.early (records.talk host)) := by
  have foretold := (first.foresees poised).1
  have foreseen := (second.foresees ready).1
  rw [descriptors, limit] at foreseen
  exact Run.concur rfl (first.hears poised.hosts).asks.early (second.hears ready.hosts).asks.early foretold.early
    foreseen.early Run.early_waits Run.early_waits

/-- If the one comes to a fault, but not in waiting, then so does the other. -/
theorem Undertaking.same_fault {fault : Fault} {result : Except Fault Report}
    (returns : here.Returns host (.error fault)) (others : ∀ errno, fault ≠ .wait errno)
    (returned : there.Returns host result) : result = .error fault := by
  have concur := first.concur poised ready descriptors limit second
  have failed := (first.finished poised.hosts returns).1
  have ended := (second.finished ready.hosts returned).1
  have same := concur.fault (first.hears poised.hosts).asks (second.hears ready.hosts).asks failed others
    (by simp [Run.next, ended])
  cases ended.symm.trans same
  rfl

omit descriptors limit in
/-- If both succeed, they report as many channels, processes and statuses. -/
theorem Undertaking.same_counts {report another : Report}
    (children : (other.childrenOf host).map Prod.fst = (one.childrenOf host).map Prod.fst)
    (returns : here.Returns host (.ok report)) (returned : there.Returns host (.ok another)) :
    report.channels = another.channels ∧ report.spawned.length = another.spawned.length ∧
      report.reaped.length = another.reaped.length := by
  by_cases none : stages = []
  · subst none
    have nothing : ∀ {replies : List Reply} {report : Report},
        ((Run.ofStages phase []).follow replies).control = .finished (.ok report) → report = {} := by
      intro replies report finished
      rw [Run.follow_of_finished rfl] at finished
      cases finished
      rfl
    rw [nothing (first.finished poised.hosts returns).1, nothing (second.finished ready.hosts returned).1]
    exact ⟨rfl, rfl, rfl⟩
  · obtain ⟨channels, spawned, -⟩ := first.reported poised.hosts returns none
    obtain ⟨again, twice, -⟩ := second.reported ready.hosts returned none
    have waited : (other.childrenOf host).length = (one.childrenOf host).length := by
      simpa using congrArg List.length children
    refine ⟨by omega, spawned.trans twice.symm, ?_⟩
    rw [first.length_reaped poised.hosts returns none, second.length_reaped ready.hosts returned none, waited]

end twice

/-- Executions of the same stages by processes with the same descriptors, the same limit and the same children, whatever
else there is on their machines and whatever images there are to load. Until they wait they go the same way, but for the
numbers of processes. A stage loads its program with the same table in both, but for the numbers of pipes. If there is a
status for each child, both come to the same fault, or report as many channels, processes and statuses; and a stage
whose program is not there exits with the code for that, unless somebody sends it a signal. -/
theorem stages_unheard {υ : Type} {others : Behaviour υ} {one here : Machine τ} {other there : Machine υ}
    {executor : Process (Program τ)} {counterpart : Process (Program υ)} {phase : Phase} {minutes records : Minutes}
    (poised : one.Poised host executor) (ready : other.Poised host counterpart)
    (descriptors : counterpart.descriptors = executor.descriptors) (limit : counterpart.limit = executor.limit)
    (children : (other.childrenOf host).map Prod.fst = (one.childrenOf host).map Prod.fst)
    (first : Undertaking images host one phase stages minutes here)
    (second : Undertaking others host other phase stages records there) :
    Run.Concur (.ofStages phase stages) (.ofStages phase stages)
      (Run.early (minutes.talk host)) (Run.early (records.talk host)) ∧
    (∀ (index child partner : Nat) (table another : DescriptorTable),
      (Tally.ofTalk (minutes.talk host)).made[index]? = some child →
      (Tally.ofTalk (records.talk host)).made[index]? = some partner →
      here.LoadsWith images child table → there.LoadsWith others partner another →
      ∃ chronicle again, Course images host (one.putProgram host (.executor (.ofStages phase stages))) chronicle here ∧
        Course others host (other.putProgram host (.executor (.ofStages phase stages))) again there ∧
        table = (stageTable executor.descriptors chronicle.channels index).afterLoad ∧
        another = (stageTable executor.descriptors again.channels index).afterLoad) ∧
    (∀ outcome result, here.Returns host outcome → there.Returns host result → minutes.Decodable host →
      records.Decodable host →
      (∃ fault, outcome = .error fault ∧ result = .error fault) ∨
        ∃ report another, outcome = .ok report ∧ result = .ok another ∧ report.channels = another.channels ∧
          report.spawned.length = another.spawned.length ∧ report.reaped.length = another.reaped.length) ∧
    (∀ (index child : Nat) (stage : Stage), stages[index]? = some stage → others.Lacks stage →
      (Tally.ofTalk (records.talk host)).made[index]? = some child → records.Spares child →
      Signal.pipe ∈ counterpart.ignored →
      (∀ process how, there.processes[child]? = some process → process.ending = some how → how = .exited 127) ∧
      ∀ report, there.Returns host (.ok report) →
        report.spawned[index]? = some child ∧ .exited child 127 ∈ report.reaped) := by
  refine ⟨first.concur poised ready descriptors limit second, ?_, ?_, ?_⟩
  · intro index child partner table another isChild isPartner loads again
    obtain ⟨chronicle, course, made, underway⟩ := first.course poised
    obtain ⟨record, way, made', underway'⟩ := second.course ready
    refine ⟨chronicle, record, course, way, underway.loads (made ▸ isChild) loads, ?_⟩
    exact descriptors ▸ underway'.loads (made' ▸ isPartner) again
  · intro outcome result returns returned decodable decoded
    cases outcome with
    | error fault =>
      have others : ∀ errno, fault ≠ .wait errno := fun errno same =>
        first.ne_wait poised.hosts returns decodable errno (congrArg _ same)
      exact .inl ⟨fault, rfl, first.same_fault poised ready descriptors limit second returns others returned⟩
    | ok report =>
      cases result with
      | error fault =>
        have others : ∀ errno, fault ≠ .wait errno := fun errno same =>
          second.ne_wait ready.hosts returned decoded errno (congrArg _ same)
        cases second.same_fault ready poised descriptors.symm limit.symm first returned others returns
      | ok another =>
        exact .inr ⟨report, another, rfl, rfl, first.same_counts poised ready second children returns returned⟩
  · intro index child stage listed lacks isChild spared ignores
    refine ⟨fun process how present ended => ?_, fun report returns =>
      second.reports_unloaded ready ignores listed lacks isChild spared returns⟩
    exact ((second.doomed ready ignores listed lacks isChild spared).1 process present).ending how ended

/-- A copier that is there under all names but one. -/
def copierBut (missing : Bytes) : Behaviour (Option Bytes) :=
  { copier with load := fun _ _ _ name _ => if name = missing then .error .noEntry else .ok none }

/-- A stage whose program is not there. -/
def missingStage : Stage := ⟨1, "no", by decide⟩

/-- A machine on which the process 1 can execute pipelines, and ignores the signal for pipes which nobody reads. -/
def Machine.heedless : Machine (Option Bytes) :=
  (Machine.copying copiedStreams 0).put 1 { copyingExecutor copiedStreams 0 with ignored := [Signal.pipe] }

theorem copierBut_lacks : Behaviour.Lacks (copierBut missingStage.name) missingStage :=
  fun _ _ _ => ⟨.noEntry, if_pos rfl⟩

/-- Whether an executor has succeeded, with these statuses, and its process lives. -/
def Machine.hasReaped (statuses : List Status) (machine : Machine (Option Bytes)) : Bool :=
  ((machine.run? 1).bind Run.outcome?).any (fun outcome => outcome.toOption.any fun report =>
    report.reaped == statuses) && (machine.processes[1]?).any fun process => process.ending.isNone

theorem Machine.returns_of_hasReaped {statuses : List Status} {machine : Machine (Option Bytes)}
    (reaped : machine.hasReaped statuses = true) :
    ∃ report, machine.Returns 1 (.ok report) ∧ report.reaped = statuses := by
  simp only [hasReaped, Bool.and_eq_true, Option.any_eq_true, Option.isNone_iff_eq_none, beq_iff_eq] at reaped
  obtain ⟨⟨outcome, came, report, well, same⟩, process, present, alive⟩ := reaped
  cases outcome with
  | error fault => cases well
  | ok given =>
    cases well
    exact ⟨report, ⟨⟨process, present, alive⟩, came⟩, same⟩

/-- Two copiers, and one behind which a program is not there; the second pipeline collects its stages in the other
order. -/
theorem stages_unheard_of_copiers :
    ∃ minutes here records there report another,
      Undertaking copier 1 .heedless .idle [copierStage 0, missingStage] minutes here ∧
      Undertaking (copierBut missingStage.name) 1 .heedless .idle [copierStage 0, missingStage] records there ∧
      here.Returns 1 (.ok report) ∧ there.Returns 1 (.ok another) ∧
      report.reaped = [.exited 2 0, .exited 3 0] ∧ another.reaped = [.exited 3 127, .exited 2 0] ∧
      report.channels = another.channels ∧ .exited 3 127 ∈ another.reaped := by
  have poised : Machine.heedless.Poised 1 { copyingExecutor copiedStreams 0 with ignored := [Signal.pipe] } :=
    ⟨Machine.Hosts.put ⟨numbered_copying _ _, Nat.lt_succ_self 1⟩ _, System.getElem?_put_self _ _ _, rfl⟩
  obtain ⟨minutes, here, first, checked⟩ := Proceedings.exists_of_follow copier (fun _ => false) 1
    (Machine.heedless.putProgram 1 (.executor (.ofStages .idle [copierStage 0, missingStage])))
    [1, 1, 2, 2, 2, 2, 2, 2, 1, 1, 3, 3, 3, 3, 2, 2, 3, 3, 2, 2, 2, 3, 3, 3, 3, 3, 1, 1, 1, 1]
    (fun _ machine => machine.hasReaped [.exited 2 0, .exited 3 0]) (by decide +kernel)
  obtain ⟨records, there, second, found⟩ := Proceedings.exists_of_follow (copierBut missingStage.name) (fun _ => false) 1
    (Machine.heedless.putProgram 1 (.executor (.ofStages .idle [copierStage 0, missingStage])))
    [1, 1, 1, 1, 1, 3, 3, 3, 3, 3, 3, 3, 3, 1, 2, 2, 2, 2, 2, 2, 2, 1, 1]
    (fun records machine => machine.hasReaped [.exited 3 127, .exited 2 0] &&
      (Tally.ofTalk (records.talk 1)).made == [2, 3] && records.all fun entry => !entry.2.1.sends) (by decide +kernel)
  simp only [Bool.and_eq_true, beq_iff_eq, List.all_eq_true] at found
  obtain ⟨⟨reaped, made⟩, silent⟩ := found
  obtain ⟨report, returns, statuses⟩ := Machine.returns_of_hasReaped checked
  obtain ⟨another, returned, others⟩ := Machine.returns_of_hasReaped reaped
  obtain ⟨-, -, outcomes, exits⟩ := stages_unheard poised poised rfl rfl rfl first second
  obtain ⟨fault, failed, -⟩ | ⟨same, again, one, two, channels, -⟩ := outcomes _ _ returns returned
    (Undertaking.decodable first poised.hosts returns) (Undertaking.decodable second poised.hosts returned)
  · cases failed
  · cases one
    cases two
    have spared : records.Spares 3 := Minutes.spares_of_quiet (fun entry member => by simpa using silent entry member) 3
    have third := exits 1 3 missingStage rfl copierBut_lacks (by rw [made]; rfl) spared (List.mem_singleton_self _)
    exact ⟨minutes, here, records, there, report, another, first, second, returns, returned, statuses, others, channels,
      (third.2 another returned).2⟩

end Pipework
