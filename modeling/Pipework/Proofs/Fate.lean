import Pipework.Proofs.Collection
import Pipework.Proofs.Release

set_option autoImplicit false

/-!
The fate of stages. However the stages of a pipeline end, and in whichever order, their executor comes to an end by its
own moves as soon as none of them lives; and as long as it gets its channels, it succeeds unless one of them was ended
by a signal without a name (`fate_of_stages`). It fails then, and what it has collected by then is lost.
-/

namespace Pipework

open Kernel

/-- A fault for which an executor is not to blame: it gets no channel, or a wait fails. -/
def Fault.Outer : Fault → Prop
  | .pipe _ _ _ | .wait _ => True
  | _ => False

/-- There is a status for each end but that by a signal without a name. -/
theorem Termination.status?_eq_none_iff {number : Nat} {how : Termination} :
    how.status? number = none ↔ ∃ signal, how = .signaled signal ∧ Signal.name? signal = none := by
  cases how <;> simp [Termination.status?]

namespace Run

variable {run : Run} {later : List Stage} {incoming stdout carried : Option Nat} {stage : Stage}

/-- The fault to which a run has come, if it has come to one. -/
def fault? (run : Run) : Option Fault :=
  match run.control with
  | .finished (.error fault) | .dropping _ _ fault => some fault
  | _ => none

theorem fault?_spawnNext : (run.spawnNext incoming later).fault? = none := by
  unfold spawnNext
  split <;> rfl

theorem fault?_closeWrite : (run.closeWrite stage later stdout carried).fault? = none := by
  unfold closeWrite
  split
  · rfl
  · exact fault?_spawnNext

theorem fault?_closeStreams {streams : Streams} : (run.closeStreams stage later streams carried).fault? = none := by
  unfold closeStreams
  split
  · rfl
  · exact fault?_closeWrite

theorem fault?_giveUp {held : List Nat} {fault : Fault} : (run.giveUp held fault).fault? = some fault := by
  cases held <;> rfl

/-- A bound of the moves that a run still makes by itself, on a machine with so many processes. -/
def toil (size : Nat) (run : Run) : Nat :=
  match run.control with
  | .opening _ later _ => 6 * later.length + size + 10
  | .forking _ later _ _ => 6 * later.length + size + 9
  | .closingRead _ later _ _ _ => 6 * later.length + size + 7
  | .closingWrite _ later _ _ => 6 * later.length + size + 6
  | .dropping _ others _ => others.length + 1
  | .reaping => size + 1
  | .complaining _ => 1
  | .finished _ => 0

variable {size : Nat}

theorem toil_spawnNext : (run.spawnNext incoming later).toil size ≤ 6 * later.length + size + 4 := by
  unfold spawnNext
  split <;> simp only [goOn, toil, List.length_cons, List.length_nil] <;> omega

theorem toil_closeWrite : (run.closeWrite stage later stdout carried).toil size ≤ 6 * later.length + size + 6 := by
  unfold closeWrite
  split
  · exact Nat.le_refl _
  · exact Nat.le_trans toil_spawnNext (by omega)

theorem toil_closeStreams {streams : Streams} :
    (run.closeStreams stage later streams carried).toil size ≤ 6 * later.length + size + 7 := by
  unfold closeStreams
  split
  · exact Nat.le_refl _
  · exact Nat.le_trans toil_closeWrite (by omega)

theorem toil_giveUp {held : List Nat} {fault : Fault} : (run.giveUp held fault).toil size = held.length := by
  cases held <;> rfl

theorem length_option_toList (ends : Option Nat) : ends.toList.length ≤ 1 := by
  cases ends <;> simp

/-- Whatever it is answered, a run that closes something has less to do afterwards. -/
theorem toil_of_closing {endpoint : Nat} (closes : run.next = some (.close endpoint)) (reply : Reply) :
    (run.resume reply).toil size < run.toil size := by
  cases control : run.control with
  | closingRead stage later released stdout carried =>
    have before : run.toil size = 6 * later.length + size + 7 := by simp [toil, control]
    have onward : (run.closeWrite stage later stdout carried).toil size ≤ _ := toil_closeWrite
    have first := length_option_toList stdout
    have second := length_option_toList carried
    cases reply <;> simp only [resume, control, toil_giveUp, List.length_append] <;> omega
  | closingWrite stage later released carried =>
    have before : run.toil size = 6 * later.length + size + 6 := by simp [toil, control]
    have onward : (run.passOn later carried).toil size ≤ _ := toil_spawnNext
    have held := length_option_toList carried
    cases reply <;> simp only [resume, control, toil_giveUp] <;> omega
  | dropping released others fault =>
    have before : run.toil size = others.length + 1 := by simp [toil, control]
    cases reply <;> simp only [resume, control, toil_giveUp] <;> omega
  | _ => simp [Run.next, control] at closes

/-- A run that gets a channel, or is refused one, has less to do afterwards. -/
theorem toil_of_opening (opening : run.control = .opening stage later incoming) {reply : Reply}
    (answers : (∃ read write, reply = .ends read write) ∨ ∃ errno, reply = .failed errno) :
    (run.resume reply).toil size < run.toil size := by
  have before : run.toil size = 6 * later.length + size + 10 := by simp [toil, opening]
  have held := length_option_toList incoming
  obtain ⟨read, write, rfl⟩ | ⟨errno, rfl⟩ := answers
  · simp [resume, opening, goOn, toil]
  · simp only [resume, opening, toil_giveUp]
    omega

/-- So has a run that has made a process, though there is one more now. -/
theorem toil_of_forking {streams : Streams} (forking : run.control = .forking stage later streams carried) {grown : Nat}
    (single : grown ≤ size + 1) (number : Nat) : (run.resume (.number number)).toil grown < run.toil size := by
  have before : run.toil size = 6 * later.length + size + 9 := by simp [toil, forking]
  have onward : ∀ run : Run, (run.closeStreams stage later streams carried).toil grown ≤ _ := fun _ => toil_closeStreams
  simp only [resume, forking]
  exact Nat.lt_of_le_of_lt (onward _) (by omega)

/-- A run that comes to a fault is refused what it asks for where it stands, or it fails in waiting. -/
theorem fails_of_resume {reply : Reply} {fault : Fault} (failed : (run.resume reply).fault? = some fault) :
    run.fault? = some fault ∨ (reply = .failed fault.errno ∧ run.control.Fails run.index fault) ∨
      ∃ errno, fault = .wait errno := by
  cases control : run.control with
  | opening stage later incoming =>
    cases reply with
    | ends read write => simp [resume, control, goOn, fault?] at failed
    | failed errno =>
      simp only [resume, control, fault?_giveUp, Option.some.injEq] at failed
      exact .inr (.inl (failed ▸ ⟨rfl, errno, rfl⟩))
    | _ => exact .inl (by simpa only [resume, control] using failed)
  | forking stage later streams carried =>
    cases reply with
    | number process => simp [resume, control, fault?_closeStreams] at failed
    | failed errno =>
      simp only [resume, control] at failed
      split at failed
      · exact .inl failed
      · simp only [fault?_giveUp, Option.some.injEq] at failed
        exact .inr (.inl (failed ▸ ⟨rfl, errno, rfl⟩))
    | _ => exact .inl (by simpa only [resume, control] using failed)
  | closingRead stage later released stdout carried =>
    cases reply with
    | failed errno =>
      simp only [resume, control, fault?_giveUp, Option.some.injEq] at failed
      exact .inr (.inl (failed ▸ ⟨rfl, errno, rfl⟩))
    | _ => simp [resume, control, fault?_closeWrite] at failed
  | closingWrite stage later released carried =>
    cases reply with
    | failed errno =>
      simp only [resume, control, fault?_giveUp, Option.some.injEq] at failed
      exact .inr (.inl (failed ▸ ⟨rfl, errno, rfl⟩))
    | _ => simp [resume, control, passOn, fault?_spawnNext] at failed
  | dropping released others given =>
    have same : given = fault := by cases reply <;> simpa [resume, control, fault?_giveUp] using failed
    exact .inl (by simp [fault?, control, same])
  | reaping =>
    cases reply with
    | ended process how =>
      simp only [resume, control] at failed
      split at failed
      · cases failed
        exact .inr (.inr ⟨_, rfl⟩)
      · cases failed
    | failed errno =>
      simp only [resume, control] at failed
      split at failed
      · exact .inl failed
      split at failed
      · unfold complete at failed
        split at failed <;> cases failed
      · cases failed
        exact .inr (.inr ⟨_, rfl⟩)
    | _ => exact .inl (by simpa only [resume, control] using failed)
  | complaining text => cases reply <;> simp [resume, control, goOn, fault?] at failed
  | finished outcome => exact .inl (by simpa only [resume, control] using failed)

/-- What a run comes to that is answered, if it is a fault. -/
theorem fault?_resume {reply : Reply} {fault : Fault} (failed : (run.resume reply).fault? = some fault) :
    run.fault? = some fault ∨ fault.Outer ∨
      ∃ errno, reply = .failed errno ∧ (run.next = some .fork ∨ ∃ endpoint, run.next = some (.close endpoint)) := by
  rcases fails_of_resume failed with before | ⟨refused, fails⟩ | ⟨errno, rfl⟩
  · exact .inl before
  · cases control : run.control with
    | opening stage later incoming =>
      rw [control] at fails
      obtain ⟨errno, rfl⟩ := fails
      exact .inr (.inl trivial)
    | forking stage later streams carried => exact .inr (.inr ⟨_, refused, .inl (by simp [Run.next, control])⟩)
    | closingRead stage later endpoint stdout carried =>
      exact .inr (.inr ⟨_, refused, .inr ⟨endpoint, by simp [Run.next, control]⟩⟩)
    | closingWrite stage later endpoint carried =>
      exact .inr (.inr ⟨_, refused, .inr ⟨endpoint, by simp [Run.next, control]⟩⟩)
    | _ =>
      rw [control] at fails
      exact fails.elim
  · exact .inr (.inl trivial)

end Run

variable {τ : Type} {images : Behaviour τ} {mishaps : Call → Bool} {host : Nat} {base : DescriptorTable}
  {start machine after : Machine τ} {tally : Tally} {process later : Process (Program τ)} {run next : Run}

theorem System.contains_of_present {number : Nat} {other : Process (Program τ)}
    (present : machine.processes[number]? = some other) : machine.processes.contains number = true := by
  simp [Std.ExtTreeMap.contains_eq_isSome_getElem?, present]

theorem System.size_put (present : machine.processes[host]? = some process) (replacement : Process (Program τ)) :
    (machine.put host replacement).processes.size = machine.processes.size := by
  simp [System.put, Std.ExtTreeMap.size_insert, System.contains_of_present present]

theorem System.size_erase {child : Nat} {ended : Process (Program τ)} (there : machine.processes[child]? = some ended) :
    (machine.processes.erase child).size + 1 = machine.processes.size := by
  have contained := System.contains_of_present there
  have some : machine.processes.size ≠ 0 := by
    intro none
    rw [← Std.ExtTreeMap.eq_empty_iff_size_eq_zero] at none
    simp [none] at there
  rw [Std.ExtTreeMap.size_erase, if_pos contained]
  omega

/-- What becomes of an executor by a move of its own: it has less to do, unless it was interrupted; and it comes to a
fault only when it gets no channel, or fails in closing or waiting. -/
structure Proceeds (machine after : Machine τ) (process later : Process (Program τ)) (run next : Run) : Prop where
  program : later.program = .executor next
  ending : later.ending = process.ending
  stopped : later.stopped = process.stopped
  uninterrupted : later.interrupted = false
  toil : next.toil after.processes.size < run.toil machine.processes.size ∨
    process.interrupted = true ∧ next = run ∧ after.processes.size = machine.processes.size
  faults : ∀ fault, next.fault? = some fault → run.fault? = some fault ∨ fault.Outer ∨
    ∃ endpoint errno, run.next = some (.close endpoint) ∧ process.descriptors.close endpoint = .error errno

theorem RunMove.proceeds (move : RunMove images machine host process run after)
    (present : machine.processes[host]? = some process) (program : process.program = .executor run) :
    ∃ later next, after.processes[host]? = some later ∧ Proceeds machine after process later run next := by
  have answered : ∀ {table : DescriptorTable} {reply : Reply}, reply ≠ .child →
      ({ process with descriptors := table }.answered (Program.behaviour images) reply).program =
        .executor (run.resume reply) := by
    intro table reply notChild
    have same : { process with descriptors := table }.program = .executor run := program
    exact program_answered same notChild
  have harmless : ∀ {reply : Reply}, (∀ errno, reply = .failed errno →
      run.next ≠ some .fork ∧ ∀ endpoint, run.next ≠ some (.close endpoint)) →
      ∀ fault, (run.resume reply).fault? = some fault → run.fault? = some fault ∨ fault.Outer ∨
        ∃ endpoint errno, run.next = some (.close endpoint) ∧ process.descriptors.close endpoint = .error errno := by
    intro reply plain fault failed
    rcases Run.fault?_resume failed with before | outer | ⟨errno, refused, forks | ⟨endpoint, closes⟩⟩
    · exact .inl before
    · exact .inr (.inl outer)
    · exact absurd forks (plain errno refused).1
    · exact absurd closes ((plain errno refused).2 endpoint)
  have same : ∀ replacement : Process (Program τ),
      (machine.processes.insert host replacement).size = machine.processes.size :=
    System.size_put present
  cases move with
  | opened stage following incoming read write between table opening first second =>
    refine ⟨_, _, System.getElem?_put_self _ _ _, answered (by simp), rfl, rfl, rfl, .inl ?_, harmless (by simp)⟩
    simp only [System.put, same]
    exact Run.toil_of_opening opening (.inl ⟨read, write, rfl⟩)
  | refused stage following incoming errno opening =>
    refine ⟨_, _, System.getElem?_put_self _ _ _, answered (by simp), rfl, rfl, rfl, .inl ?_,
      harmless (by simp [Run.next, opening])⟩
    simp only [System.put, same]
    exact Run.toil_of_opening opening (.inr ⟨errno, rfl⟩)
  | forked stage following streams carried forking =>
    refine ⟨_, _, System.getElem?_put_self _ _ _, answered (by simp), rfl, rfl, rfl,
      .inl (Run.toil_of_forking forking ?_ _), harmless (by simp)⟩
    have contained := System.contains_of_present present
    simp only [System.put, Std.ExtTreeMap.size_insert, Std.ExtTreeMap.contains_insert, contained, Bool.or_true, if_true]
    split <;> omega
  | closed endpoint table closes closed =>
    refine ⟨_, _, System.getElem?_put_self _ _ _, answered (by simp), rfl, rfl, rfl, .inl ?_, harmless (by simp)⟩
    simp only [System.put, same]
    exact Run.toil_of_closing closes _
  | unclosed endpoint errno closes unclosed =>
    refine ⟨_, _, System.getElem?_put_self _ _ _, answered (by simp), rfl, rfl, rfl, .inl ?_,
      fun fault failed => .inr (.inr ⟨endpoint, errno, closes, unclosed⟩)⟩
    simp only [System.put, same]
    exact Run.toil_of_closing closes _
  | reaped child ended how reaping there apart parent ending =>
    have still : ({ machine with processes := machine.processes.erase child } : Machine τ).processes[host]? =
        some process := by
      simpa [Std.ExtTreeMap.getElem?_erase, apart] using present
    refine ⟨_, _, System.getElem?_put_self _ _ _, answered (by simp), rfl, rfl, rfl, .inl ?_, harmless (by simp)⟩
    rw [System.size_put still]
    have fewer := System.size_erase there
    simp only [Run.resume, reaping]
    split
    · simp [Run.goOn, Run.toil, reaping]
    · simp only [Run.record, Run.toil, reaping]
      omega
  | alone reaping none =>
    refine ⟨_, _, System.getElem?_put_self _ _ _, answered (by simp), rfl, rfl, rfl, .inl ?_,
      harmless (by simp [Run.next, reaping])⟩
    have ends : (run.resume (.failed .noChild)).control = .finished (.ok run.report) := by
      simp only [Run.resume, reaping]
      unfold Run.complete
      cases run.stages <;> rfl
    simp [Run.toil, ends, reaping]
  | interrupted reaping interrupted =>
    have plain := System.interruption_plain process
    have same : run.resume (System.interruption process) = run := by
      unfold System.interruption
      split <;> simp [Run.resume, reaping]
    have keeps : (System.withoutOpening process).program = .executor run ∧
        (System.withoutOpening process).ending = process.ending ∧
        (System.withoutOpening process).stopped = process.stopped := by
      unfold System.withoutOpening
      split <;> exact ⟨program, rfl, rfl⟩
    refine ⟨_, run, System.getElem?_put_self _ _ _, ?_, keeps.2.1, keeps.2.2, rfl,
      .inr ⟨interrupted, rfl, System.size_put present _⟩, fun fault failed => .inl failed⟩
    rw [program_answered keeps.1 plain.1, same]

/-- Whether a child of a process lives. -/
def Machine.Awaits (host : Nat) (machine : Machine τ) : Prop :=
  ∃ (child : Nat) (process : Process (Program τ)), machine.processes[child]? = some process ∧
    process.parent = some host ∧ process.ending = none

/-- Whether an executor has come to an end, or waits for a child that lives. -/
def Machine.Rests (host : Nat) (machine : Machine τ) : Prop :=
  ∃ run, machine.run? host = some run ∧
    ((∃ outcome, run.outcome? = some outcome) ∨ run.control = .reaping ∧ machine.Awaits host)

/-- An executor that makes no move of its own rests. -/
theorem rests_of_stuck (present : machine.processes[host]? = some process) (alive : process.ending = none)
    (going : process.stopped = false) (program : process.program = .executor run)
    (working : ∀ text, run.control ≠ .complaining text)
    (stuck : machine.step (Program.behaviour images) host = none) : machine.Rests host := by
  refine ⟨run, by simp [Machine.run?, present, program], ?_⟩
  cases waiting : run.waits with
  | false =>
    have moves : (machine.step (Program.behaviour images) host).isSome = true :=
      isSome_step_of_not_waits present alive going program working waiting
    simp [stuck] at moves
  | true =>
    cases control : run.control with
    | finished outcome => exact .inl ⟨outcome, by simp [Run.outcome?, control]⟩
    | reaping =>
      have asks : (Program.behaviour images).next process.program = some .wait := by
        simp [Program.behaviour, program, Run.next, control]
      have blocked := (System.blocked_of_step_eq_none present alive going asks stuck).2
      simp only [System.perform, System.waitAny] at blocked
      split at blocked
      · cases blocked
      rename_i none
      split at blocked
      · cases blocked
      rename_i some
      cases children : machine.childrenOf host with
      | nil => simp [children] at some
      | cons first others =>
        obtain ⟨child, other⟩ := first
        obtain ⟨there, parent⟩ := System.mem_childrenOf.mp (children ▸ List.mem_cons_self ..)
        exact .inr ⟨rfl, child, other, there, parent, System.ending_of_endedChild?_eq_none none there parent⟩
    | _ => simp [Run.waits, control] at waiting

/-- By its own moves an executor comes to rest, wherever it stands, and its process still lives. -/
theorem Passage.comes_to_rest {begun : Run} (passage : Passage images mishaps host start tally machine)
    (hosts : start.Hosts host)
    (begins : ∀ process, start.processes[host]? = some process → process.program = .executor begun)
    (blank : begun.report = {}) (collects : begun.Collects) (waits : mishaps .wait = false)
    (present : machine.processes[host]? = some process) (alive : process.ending = none)
    (going : process.stopped = false) :
    ∃ (count : Nat) (tally' : Tally) (after : Machine τ) (last : Process (Program τ)),
      Passage.follow images mishaps host (List.replicate count (.step host)) (tally, machine) = some (tally', after) ∧
        Passage images mishaps host start tally' after ∧ after.processes[host]? = some last ∧ last.ending = none ∧
        last.stopped = false ∧ Machine.Rests host after := by
  obtain ⟨run, program, keeping⟩ := passage.keeping hosts begins blank waits process present
  obtain ⟨replies, follows⟩ := keeping.follows
  have working := follows ▸ (collects.working replies).uncomplaining
  induction left : 2 * run.toil machine.processes.size + process.interrupted.toNat using Nat.strongRecOn
    generalizing tally machine process run replies with
  | ind left ih =>
    cases moved : machine.step (Program.behaviour images) host with
    | none =>
      exact ⟨0, tally, machine, process, rfl, passage, present, alive, going,
        rests_of_stuck present alive going program working moved⟩
    | some after =>
      have settled := passage.hosts hosts
      have further := passage.step host moved
      have move := step_executor settled.numbered present program working moved
      obtain ⟨later, next, found, proceeds⟩ := move.proceeds present program
      obtain ⟨run', program', keeping'⟩ := further.keeping hosts begins blank waits later found
      obtain rfl : next = run' := by simpa [program'] using proceeds.program.symm
      obtain ⟨replies', follows'⟩ := keeping'.follows
      have fewer : 2 * next.toil after.processes.size + later.interrupted.toNat <
          2 * run.toil machine.processes.size + process.interrupted.toNat := by
        rw [proceeds.uninterrupted]
        rcases proceeds.toil with less | ⟨interrupted, rfl, same⟩
        · simp only [Bool.toNat_false]
          omega
        · simp [interrupted, same]
      obtain ⟨count, tally', end_, last, followed, rests⟩ := ih _ (left ▸ fewer) further found
        (proceeds.ending.trans alive) (proceeds.stopped.trans going) next program' keeping' replies' follows'
        (follows' ▸ (collects.working replies').uncomplaining) rfl
      refine ⟨count + 1, tally', end_, last, ?_, rests⟩
      simpa [List.replicate_succ, Passage.follow, moved] using followed

theorem Passage.rests {begun : Run} (passage : Passage images mishaps host start tally machine)
    (hosts : start.Hosts host)
    (begins : ∀ process, start.processes[host]? = some process → process.program = .executor begun)
    (blank : begun.report = {}) (collects : begun.Collects) (waits : mishaps .wait = false)
    (present : machine.processes[host]? = some process) (alive : process.ending = none)
    (going : process.stopped = false) :
    ∃ count tally' after, Passage.follow images mishaps host (List.replicate count (.step host)) (tally, machine) =
      some (tally', after) ∧ Machine.Rests host after := by
  obtain ⟨count, tally', after, -, followed, -, -, -, -, rests⟩ :=
    passage.comes_to_rest hosts begins blank collects waits present alive going
  exact ⟨count, tally', after, followed, rests⟩

/-- An executor whose calls do not fail without a reason comes to no other faults than those for which it is not to
blame. -/
theorem Passage.outer {begun : Run} (passage : Passage images (fun _ => false) host start tally machine)
    (hosts : start.Hosts host)
    (begins : ∀ process, start.processes[host]? = some process →
      process.program = .executor begun ∧ Owning base begun process)
    (blank : begun.report = {}) (collects : begun.Collects) (sound : begun.fault? = none)
    (present : machine.processes[host]? = some process) (program : process.program = .executor run) {fault : Fault}
    (failed : run.fault? = some fault) : fault.Outer := by
  induction passage generalizing process run with
  | start =>
    obtain rfl : begun = run := by simpa [(begins process present).1] using program
    simp [sound] at failed
  | time earlier passed ih =>
    obtain ⟨clock, rfl⟩ := System.passTime_eq_some passed
    exact ih present program failed
  | mishap earlier mishap ih =>
    cases mishap with
    | mk _ _ _ _ _ _ _ possible => cases possible
  | @step tally before after earlier mover moved ih =>
    have settled := earlier.hosts hosts
    by_cases own : mover = host
    · subst own
      obtain ⟨former, -, there, -⟩ := System.step_eq_some moved
      have alive := (System.alive_of_step there moved).1
      have owned := earlier.owning hosts fun process present => ⟨begun, (begins process present).2⟩
      obtain ⟨last, owning⟩ := owned.2 former there
      obtain ⟨run', program', keeping⟩ :=
        earlier.keeping hosts (fun process present => (begins process present).1) blank rfl former there
      obtain rfl : last = run' := by simpa [program'] using owning.program.symm
      obtain ⟨replies, follows⟩ := keeping.follows
      have move := step_executor settled.numbered there program'
        (follows ▸ (collects.working replies).uncomplaining) moved
      obtain ⟨later, next, found, proceeds⟩ := move.proceeds there program'
      obtain rfl : later = process := Option.some.inj (found.symm.trans present)
      obtain rfl : next = run := by simpa [program] using proceeds.program.symm
      rcases proceeds.faults fault failed with same | outer | ⟨endpoint, errno, closes, unclosed⟩
      · exact ih there program' same
      · exact outer
      · rw [owning.close_eq alive closes] at unclosed
        cases unclosed
    · obtain ⟨former, there, disturbed⟩ :=
        (System.step_spares settled.numbered moved).others host (Ne.symm own) settled.given process present
      exact ih there (disturbed.program ▸ program) failed

/-- Whether somebody who was waited for was ended by a signal without a name. -/
def Tally.Nameless (tally : Tally) : Prop :=
  ∃ child signal, (child, .signaled signal) ∈ tally.collected ∧ Signal.name? signal = none

theorem Tally.nameless_iff : tally.Nameless ↔ ∃ child ∈ tally.collected, child.2.status? child.1 = none := by
  constructor
  · rintro ⟨child, signal, member, nameless⟩
    exact ⟨_, member, Termination.status?_eq_none_iff.mpr ⟨signal, rfl, nameless⟩⟩
  · rintro ⟨⟨child, how⟩, member, none⟩
    obtain ⟨signal, rfl, nameless⟩ := Termination.status?_eq_none_iff.mp none
    exact ⟨child, signal, member, nameless⟩

/-- However the stages of a pipeline end and in whichever order, their executor comes by its own moves to an end or to
where it waits for one of them that still lives. If it has got its channels, its end is a success, with a channel
behind each stage but the last, a process for each stage and a status for each of them, unless a child was ended by a
signal without a name. Then, and only then, the end is a fault, and the phase stays where it is. -/
theorem fate_of_stages {stages : List Stage} {phase : Phase} (some : stages ≠ []) (hosts : start.Hosts host)
    (executor : start.processes[host]? = .some process) (opening : process.opening = none)
    (passage : Passage images (fun _ => false) host (start.putProgram host (.executor (.ofStages phase stages))) tally
      machine)
    (present : machine.processes[host]? = .some later) (alive : later.ending = none) (going : later.stopped = false) :
    (∃ count tally' after, Passage.follow images (fun _ => false) host (List.replicate count (.step host))
      (tally, machine) = .some (tally', after) ∧ Machine.Rests host after) ∧
    ∀ run outcome, machine.run? host = .some run → run.outcome? = .some outcome →
      (∀ index stage errno, outcome ≠ .error (.pipe index stage errno)) →
      (¬ tally.Nameless ∧ ∃ report, outcome = .ok report ∧ report.channels + 1 = stages.length ∧
        report.spawned = tally.made ∧ report.spawned.length = stages.length ∧ report.spawned.Nodup ∧
        (∀ number ∈ report.spawned, (report.reaped.map Status.process).count number = 1) ∧ run.phase = .idle) ∨
      (tally.Nameless ∧ outcome = .error (.wait .invalidArgument) ∧ run.phase = .reaping) := by
  have collects : (Run.ofStages phase stages).Collects := Run.collects_start some rfl rfl
  have blank : (Run.ofStages phase stages).report = {} := Run.report_start _ _
  have sound : (Run.ofStages phase stages).fault? = none := by
    cases stages with
    | nil => exact absurd rfl some
    | cons stage later => exact Run.fault?_spawnNext
  have begins : ∀ process',
      (start.putProgram host (.executor (.ofStages phase stages))).processes[host]? = .some process' →
      process'.program = .executor (.ofStages phase stages) ∧
        Owning process.descriptors (.ofStages phase stages) process' := by
    intro process' found
    simp only [Machine.putProgram, Std.ExtTreeMap.getElem?_modify_self, executor, Option.map_some,
      Option.some.injEq] at found
    subst found
    exact ⟨rfl, rfl, .start _ _, opening, fun _ => ⟨[], (Run.owned_start _ _).symm, .refl _⟩⟩
  have hosts' := hosts.putProgram (.executor (.ofStages phase stages))
  refine ⟨passage.rests hosts' (fun process found => (begins process found).1) blank collects rfl present alive going,
    fun run outcome runs ended opened => ?_⟩
  obtain ⟨same, there, program⟩ := Machine.run?_eq_some runs
  obtain rfl : same = later := Option.some.inj (there.symm.trans present)
  have finished := Run.control_of_outcome? ended
  obtain ⟨run', program', keeping⟩ :=
    passage.keeping hosts' (fun process found => (begins process found).1) blank rfl same present
  obtain rfl : run = run' := by simpa [program] using program'
  obtain ⟨replies, follows⟩ := keeping.follows
  cases outcome with
  | error fault =>
    have failed : run.fault? = .some fault := by simp [Run.fault?, finished]
    have outer := passage.outer hosts' begins blank collects sound present program failed
    cases fault with
    | pipe index stage errno => exact absurd rfl (opened index stage errno)
    | wait errno =>
      have undecoded := keeping.undecoded collects errno finished
      cases finished.symm.trans (keeping.decoded undecoded)
      have kept := Errand.keeps (.pipeline stages) phase replies
      exact .inr ⟨Tally.nameless_iff.mpr undecoded, rfl, (kept.waiting _ (follows ▸ ended)).2 ▸ follows ▸ rfl⟩
    | _ => exact outer.elim
  | ok report =>
    have lives : machine.Lives host := ⟨same, present, alive⟩
    have accounts := (passage.accounts hosts' lives).of_putProgram
    have named : ¬ tally.Nameless := by
      intro nameless
      cases finished.symm.trans (keeping.decoded (Tally.nameless_iff.mp nameless))
    have decodable : ∀ child ∈ tally.collected, (child.2.status? child.1).isSome = true := by
      intro child member
      rw [Option.isSome_iff_ne_none]
      exact fun none => named (Tally.nameless_iff.mpr ⟨child, member, none⟩)
    have scripted := (Run.Scripted.start (.fresh phase) stages some rfl rfl).follow replies
    have same : ((Run.fresh phase).start stages).follow replies = run := follows.symm
    rw [same] at scripted
    obtain ⟨rfl, idle, joined, counted, -⟩ := scripted.of_success (by simp [Run.fresh]) finished
    have told : run.report.reaped.map Status.process = tally.collected.map Prod.fst := by
      rw [keeping.reaped, Run.processes_statuses decodable]
    refine .inl ⟨named, run.report, rfl, joined, keeping.spawned, counted, keeping.spawned ▸ accounts.made,
      fun number spawned => ?_, idle⟩
    have gone := keeping.childless collects _ finished lives number
    rw [accounts.isChild, ← keeping.spawned] at gone
    have member : number ∈ tally.collected.map Prod.fst :=
      Classical.byContradiction fun missing => gone ⟨.inr spawned, missing⟩
    rw [told, accounts.once.count, if_pos member]

/-- Two copiers end well. -/
theorem fate_of_copiers :
    ∃ tally machine run report, Passage copier (fun _ => false) 1
        ((Machine.copying copiedStreams 2).putProgram 1 (.executor (.ofStages .idle [copierStage 0, copierStage 1])))
        tally machine ∧
      machine.run? 1 = some run ∧ run.outcome? = some (.ok report) ∧ report.channels + 1 = 2 ∧
      report.spawned = tally.made ∧ report.spawned.length = 2 ∧
      (∀ number ∈ report.spawned, (report.reaped.map Status.process).count number = 1) ∧ run.phase = .idle := by
  have checked : ((Passage.follow copier (fun _ => false) 1
      ([1, 1, 1, 1, 1, 2, 2, 2, 2, 2, 2, 3, 3, 3, 3, 2, 2, 3, 3, 2, 2, 2, 1, 3, 3, 3, 3, 3, 1, 1].map .step)
      ({}, (Machine.copying copiedStreams 2).putProgram 1
        (.executor (.ofStages .idle [copierStage 0, copierStage 1])))).any
      fun point => (point.2.processes[1]?).any (fun process => process.ending.isNone && !process.stopped) &&
        ((point.2.run? 1).bind Run.outcome?).any Except.toBool) = true := by
    decide +kernel
  obtain ⟨⟨tally, machine⟩, followed, checked⟩ := (Option.any_eq_true _ _).mp checked
  simp only [Bool.and_eq_true, Option.any_eq_true, Option.bind_eq_some_iff, Option.isNone_iff_eq_none,
    Bool.not_eq_true'] at checked
  obtain ⟨⟨process, present, alive, going⟩, outcome, ⟨run, runs, ended⟩, well⟩ := checked
  have passage := Passage.of_follow followed
  cases outcome with
  | error fault => cases well
  | ok report =>
    obtain ⟨-, ends⟩ := fate_of_stages (by simp) ⟨numbered_copying copiedStreams 2, Nat.lt_succ_self 1⟩ (by rfl) rfl
      passage present alive going
    rcases ends run _ runs ended (by simp) with ⟨-, _, same, joined, made, counted, -, every, idle⟩ | ⟨-, failed, -⟩
    · cases same
      exact ⟨tally, machine, run, report, passage, runs, ended, joined, made, counted, every, idle⟩
    · cases failed

/-- A program that ends itself by a signal: the process 2 by one that has a name, any other by one that has none. -/
def quitter : Behaviour (Option Nat) where
  next
    | none => some (.query .ownNumber)
    | some number => some (.kill number (if number = 2 then Signal.kill else 34))
  resume
    | none, .number number => some number
    | state, _ => state
  load _ _ _ _ _ := .ok none

/-- A machine on which the process 1 is about to execute two stages. -/
def Machine.quitting : Machine (Option Nat) where
  processes := Std.ExtTreeMap.empty.insert 1
    { program := .executor (.ofStages .idle [copierStage 0, copierStage 1])
      descriptors := copiedStreams }
  nextProcess := 2
  pipes := Std.ExtTreeMap.empty
  nextPipe := 0
  files := copiedFiles
  shape := ⟨1, 1⟩
  clock := 0

/-- The way in which a stage ends makes the whole pipeline fail, and the status that was collected before is lost. -/
theorem fate_of_quitters :
    ∃ tally machine run, Passage quitter (fun _ => false) 1 .quitting tally machine ∧ machine.run? 1 = some run ∧
      tally.collected = [(2, .signaled Signal.kill), (3, .signaled 34)] ∧
      run.outcome?.map Fault.of? = some (some (.wait .invalidArgument)) ∧ run.phase = .reaping := by
  have checked : ((Passage.follow quitter (fun _ => false) 1
      ([1, 1, 1, 1, 1, 2, 2, 2, 2, 2, 2, 1, 3, 3, 3, 3, 3, 1].map .step) ({}, .quitting)).any fun point =>
      (point.1.collected == [(2, .signaled Signal.kill), (3, .signaled 34)]) &&
        (point.2.run? 1).any fun run => (run.outcome?.map Fault.of? == some (some (.wait .invalidArgument))) &&
          (run.phase == .reaping)) = true := by decide +kernel
  obtain ⟨⟨tally, machine⟩, followed, checked⟩ := (Option.any_eq_true _ _).mp checked
  simp only [Bool.and_eq_true, Option.any_eq_true, beq_iff_eq] at checked
  obtain ⟨collected, run, runs, failed, reaping⟩ := checked
  exact ⟨tally, machine, run, Passage.of_follow followed, runs, collected, failed, reaping⟩

end Pipework
