import Mathlib.Data.List.Induction
import Mathlib.Data.List.Nodup
import Mathlib.Data.List.Perm.Subperm
import Pipework.Proofs.Fate
import Pipework.Proofs.Foresight

set_option autoImplicit false

/-!
Vigils: waiting for all children. A process is told of the end of any child that has ended, whichever the kernel takes
first, and any number of signals may come in between; all others move whenever they like. `Vigil` lists the machines
that can be come to during one call, with the answers that were given, and `Vigils` what can come of one call after
the other. How far a call has come is said by its answers alone (`Tidings.Shape`), and the children that are left by
the ends among them (`Vigil.Kept`).
-/

namespace Pipework

open Kernel

/-- What a process was answered that waits for its children, oldest first. -/
abbrev Tidings := List Reply

namespace Tidings

/-- The ends of which a process was told, in the order in which it was told of them. -/
def ends (answers : Tidings) : List (Nat × Termination) := answers.filterMap Reply.ended?

/-- How often a signal came in between. -/
def interruptions (answers : Tidings) : Nat := answers.count (.failed .interrupted)

/-- Tidings after which one goes on waiting: signals, and ends for which there is a status. -/
def Clear (answers : Tidings) : Prop :=
  ∀ reply ∈ answers, reply = .failed .interrupted ∨
    ∃ child how, reply = .ended child how ∧ (Termination.status? child how).isSome = true

/-- All that can be answered during one call of waiting for all children, and the outcome, if it has come to one. -/
inductive Leads : Tidings → Option (Except Fault Report) → Prop where
  | waiting {answers : Tidings} (clear : answers.Clear) : Leads answers none
  | alone {earlier : Tidings} (clear : earlier.Clear) :
      Leads (earlier ++ [.failed .noChild]) (some (.ok { reaped := Run.statuses (ends earlier) }))
  | undecoded {earlier : Tidings} (clear : earlier.Clear) (child : Nat) (how : Termination)
      (none : how.status? child = none) :
      Leads (earlier ++ [.ended child how]) (some (.error (.wait .invalidArgument)))

variable {answers earlier : Tidings}

@[simp] theorem ends_append (first later : Tidings) : ends (first ++ later) = ends first ++ ends later :=
  List.filterMap_append

@[simp] theorem ends_ended (child : Nat) (how : Termination) : ends [.ended child how] = [(child, how)] := rfl

@[simp] theorem ends_failed (errno : Errno) : ends [.failed errno] = [] := rfl

theorem Clear.decodable (clear : answers.Clear) : ∀ child ∈ ends answers, (child.2.status? child.1).isSome = true := by
  intro child member
  obtain ⟨reply, inside, told⟩ := List.mem_filterMap.mp member
  rcases clear reply inside with rfl | ⟨number, how, rfl, decodable⟩
  · cases told
  · cases told
    exact decodable

theorem Clear.noChild_notMem (clear : answers.Clear) : Reply.failed .noChild ∉ answers := by
  intro member
  rcases clear _ member with same | ⟨_, _, same, -⟩ <;> cases same

/-- Each answer after which one goes on is an end or an interruption. -/
theorem Clear.length (clear : answers.Clear) : answers.length = (ends answers).length + interruptions answers := by
  induction answers with
  | nil => rfl
  | cons reply later ih =>
    have rest := ih fun other inside => clear other (List.mem_cons_of_mem _ inside)
    rcases clear reply (List.mem_cons_self ..) with rfl | ⟨child, how, rfl, -⟩
    · simp only [ends, interruptions, List.length_cons] at rest ⊢
      rw [List.filterMap_cons_none rfl, List.count_cons_self]
      omega
    · simp only [ends, interruptions, List.length_cons] at rest ⊢
      rw [List.filterMap_cons_some (show Reply.ended? (.ended child how) = some (child, how) from rfl),
        List.count_cons_of_ne (by simp), List.length_cons]
      omega

theorem Clear.snoc {reply : Reply} (clear : earlier.Clear)
    (goesOn : reply = .failed .interrupted ∨
      ∃ child how, reply = .ended child how ∧ (Termination.status? child how).isSome = true) :
    Clear (earlier ++ [reply]) := by
  intro other inside
  rcases List.mem_append.mp inside with old | new
  · exact clear other old
  · exact List.mem_singleton.mp new ▸ goesOn

theorem Leads.of_ok {report : Report} (leads : answers.Leads (some (.ok report))) :
    ∃ earlier : Tidings, earlier.Clear ∧ answers = earlier ++ [.failed .noChild] ∧
      report = { reaped := Run.statuses answers.ends } := by
  generalize well : some (Except.ok report) = outcome at leads
  cases leads with
  | waiting clear => cases well
  | alone clear =>
    cases well
    exact ⟨_, clear, rfl, by simp⟩
  | undecoded clear child how none => cases well

theorem Leads.of_error {fault : Fault} (leads : answers.Leads (some (.error fault))) :
    fault = .wait .invalidArgument ∧ ∃ (earlier : Tidings) (child : Nat) (how : Termination), earlier.Clear ∧
      answers = earlier ++ [.ended child how] ∧ how.status? child = none := by
  generalize ill : some (Except.error fault) = outcome at leads
  cases leads with
  | waiting clear => cases ill
  | alone clear => cases ill
  | undecoded clear child how none =>
    cases ill
    exact ⟨rfl, _, child, how, clear, rfl, none⟩

end Tidings

namespace Run

open Tidings

variable {phase : Phase} {answers : Tidings}

/-- As long as one goes on waiting nothing is done but to keep the statuses. -/
theorem follow_ofChildren (phase : Phase) (clear : answers.Clear) :
    (ofChildren phase).follow answers = { ofChildren phase with
      report := { reaped := statuses (ends answers) }
      trace := (statuses (ends answers)).map .reaped } := by
  induction answers using List.reverseRecOn with
  | nil => rfl
  | append_singleton earlier reply ih =>
    have before := ih fun other inside => clear other (List.mem_append_left _ inside)
    rw [follow_concat, before]
    rcases clear reply (List.mem_append_right _ (List.mem_singleton_self _)) with rfl | ⟨child, how, rfl, decodable⟩
    · simp [resume, ofChildren, goOn, statuses]
    · obtain ⟨status, told⟩ := Option.isSome_iff_exists.mp decodable
      simp [resume, ofChildren, goOn, fresh, record, statuses, told]

theorem control_follow (phase : Phase) (clear : answers.Clear) :
    ((ofChildren phase).follow answers).control = .reaping := by
  rw [follow_ofChildren phase clear]
  rfl

/-- The outcome is a matter of the answers. -/
theorem outcome?_follow {outcome : Option (Except Fault Report)} (phase : Phase) (leads : answers.Leads outcome) :
    ((ofChildren phase).follow answers).outcome? = outcome := by
  cases leads with
  | waiting clear => rw [outcome?, control_follow phase clear]
  | alone clear =>
    rw [follow_concat, follow_ofChildren phase clear]
    rfl
  | undecoded clear child how none =>
    rw [follow_concat, follow_ofChildren phase clear]
    simp [resume, ofChildren, goOn, outcome?, none]

end Run

variable {τ : Type} {images : Behaviour τ} {host : Nat} {phase : Phase} {start before between machine after : Machine τ}
  {answers : Tidings} {reply : Reply}

/-- What a process that waits can be answered: the end of any child that has ended, that there is no child, or that a
signal has come in between; and what is then left of the machine. -/
inductive Awaited (host : Nat) (before : Machine τ) : Reply → Machine τ → Prop where
  | ended (child : Nat) (process : Process (Program τ)) (how : Termination)
      (present : before.processes[child]? = some process) (parent : process.parent = some host)
      (finished : process.ending = some how) :
      Awaited host before (.ended child how) { before with processes := before.processes.erase child }
  | alone (none : ∀ number, ¬ before.IsChild host number) : Awaited host before (.failed .noChild) before
  | interrupted : Awaited host before (.failed .interrupted) before

/-- The machines that can be come to from `start` while the host does nothing but wait, with what it was answered. -/
inductive Vigil (images : Behaviour τ) (host : Nat) (start : Machine τ) : Tidings → Machine τ → Prop where
  | start : Vigil images host start [] start
  | others {answers : Tidings} {before after : Machine τ} (earlier : Vigil images host start answers before)
      (mover : Nat) (other : mover ≠ host) (moved : before.step (Program.behaviour images) mover = some after) :
      Vigil images host start answers after
  | answered {answers : Tidings} {before between : Machine τ} {reply : Reply}
      (earlier : Vigil images host start answers before) (process : Process (Program τ))
      (present : before.processes[host]? = some process) (alive : process.ending = none)
      (going : process.stopped = false) (waits : (Program.behaviour images).next process.program = some .wait)
      (awaited : Awaited host before reply between) :
      Vigil images host start (answers ++ [reply]) (between.answer (Program.behaviour images) host reply)
  | time {answers : Tidings} {before after : Machine τ} (earlier : Vigil images host start answers before)
      (passed : before.passTime = some after) : Vigil images host start answers after

namespace Awaited

theorem ne_child (awaited : Awaited host before reply between) : reply ≠ .child := by
  cases awaited <;> simp

theorem nextProcess (awaited : Awaited host before reply between) : between.nextProcess = before.nextProcess := by
  cases awaited <;> rfl

/-- Who waits and lives is still there when it is answered. -/
theorem present {process : Process (Program τ)} (awaited : Awaited host before reply between)
    (present : before.processes[host]? = some process) (alive : process.ending = none) :
    between.processes[host]? = some process := by
  cases awaited with
  | ended child ended how there parent finished =>
    have apart : child ≠ host := by
      rintro rfl
      rw [present, Option.some.injEq] at there
      rw [← there, alive] at finished
      cases finished
    simpa [Std.ExtTreeMap.getElem?_erase, apart] using present
  | alone => exact present
  | interrupted => exact present

theorem hosts (awaited : Awaited host before reply between) (hosts : before.Hosts host) : between.Hosts host := by
  refine ⟨⟨fun number process found => ?_⟩, awaited.nextProcess ▸ hosts.given⟩
  rw [awaited.nextProcess]
  cases awaited with
  | ended child =>
    rw [Std.ExtTreeMap.getElem?_erase] at found
    split at found
    · cases found
    · exact hosts.numbered.process number process found
  | _ => exact hosts.numbered.process number process found

/-- A child is left unless it is the one of whose end the host is told. -/
theorem isChild (awaited : Awaited host before reply between) (number : Nat) :
    between.IsChild host number ↔ before.IsChild host number ∧ number ∉ (Tidings.ends [reply]).map Prod.fst := by
  cases awaited with
  | ended child process how present parent finished =>
    unfold System.IsChild
    simp only [Std.ExtTreeMap.getElem?_erase, Tidings.ends_ended, List.map_cons, List.map_nil, List.mem_singleton]
    by_cases same : number = child
    · simp [same]
    · simp [same, Ne.symm same]
  | _ => simp

end Awaited

/-- What is true all along a call of waiting for all children: how far it has come is said by the answers, and the
children that are left are those of whose end the host was not told. -/
structure Vigil.Kept (host : Nat) (phase : Phase) (start : Machine τ) (answers : Tidings) (machine : Machine τ) :
    Prop where
  hosts : machine.Hosts host
  program : ∀ process, machine.processes[host]? = some process →
    process.program = .executor ((Run.ofChildren phase).follow answers)
  leads : ∃ outcome, answers.Leads outcome
  lives : machine.Lives host → start.Lives host
  isChild : machine.Lives host → ∀ number, machine.IsChild host number ↔
    start.IsChild host number ∧ number ∉ answers.ends.map Prod.fst
  known : ∀ number ∈ answers.ends.map Prod.fst, start.IsChild host number
  once : (answers.ends.map Prod.fst).Nodup
  alone : .failed .noChild ∈ answers → ∀ number, start.IsChild host number → number ∈ answers.ends.map Prod.fst

namespace Vigil

theorem kept_answered {process : Process (Program τ)} (kept : Kept host phase start answers before)
    (present : before.processes[host]? = some process) (alive : process.ending = none)
    (waits : (Program.behaviour images).next process.program = some .wait)
    (awaited : Awaited host before reply between) :
    Kept host phase start (answers ++ [reply]) (between.answer (Program.behaviour images) host reply) := by
  have lives : before.Lives host := ⟨process, present, alive⟩
  have isChild := kept.isChild lives
  have there := awaited.present present alive
  have program := kept.program process present
  -- as long as the host waits nothing was answered that ends the call
  have clear : answers.Clear := by
    obtain ⟨outcome, leads⟩ := kept.leads
    have asks : ((Run.ofChildren phase).follow answers).next = some .wait := by
      simpa [Program.behaviour, program] using waits
    have going := Run.outcome?_follow phase leads
    rw [Run.outcome?, Run.reaping_iff.mpr asks] at going
    subst going
    cases leads with
    | waiting clear => exact clear
  have new : ∀ number ∈ (Tidings.ends [reply]).map Prod.fst, before.IsChild host number := by
    cases awaited with
    | ended child ended how found parent finished => simpa using ⟨ended, found, parent⟩
    | _ => simp
  refine ⟨?_, fun later found => ?_, ?_, fun _ => kept.lives lives, fun _ number => ?_, fun number told => ?_, ?_, ?_⟩
  · rw [System.answer_eq _ there]
    exact (awaited.hosts kept.hosts).put _
  · rw [System.answer_eq _ there, System.getElem?_put_self, Option.some.injEq] at found
    rw [← found, Run.follow_concat]
    exact program_answered program awaited.ne_child
  · cases awaited with
    | ended child ended how found parent finished =>
      cases status : how.status? child with
      | none => exact ⟨_, .undecoded clear child how status⟩
      | some told => exact ⟨none, .waiting (clear.snoc (.inr ⟨child, how, rfl, by simp [status]⟩))⟩
    | alone none => exact ⟨_, .alone clear⟩
    | interrupted => exact ⟨none, .waiting (clear.snoc (.inl rfl))⟩
  · rw [System.isChild_answer, awaited.isChild, isChild, Tidings.ends_append, List.map_append, List.mem_append,
      not_or, and_assoc]
  · rw [Tidings.ends_append, List.map_append, List.mem_append] at told
    exact told.elim (kept.known number) fun told => ((isChild number).mp (new number told)).1
  · rw [Tidings.ends_append, List.map_append, List.nodup_append]
    refine ⟨kept.once, ?_, fun first old second told => ?_⟩
    · cases awaited <;> simp
    · rintro rfl
      exact ((isChild first).mp (new first told)).2 old
  · intro noChild number was
    rcases List.mem_append.mp noChild with early | last
    · exact absurd early clear.noChild_notMem
    · obtain rfl := List.mem_singleton.mp last
      cases awaited with
      | alone none =>
        rw [Tidings.ends_append, Tidings.ends_failed, List.append_nil]
        exact Classical.byContradiction fun missing => none number ((isChild number).mpr ⟨was, missing⟩)

/-- What is kept all along. -/
theorem kept (vigil : Vigil images host (start.putProgram host (.executor (.ofChildren phase))) answers machine)
    (hosts : start.Hosts host) : Kept host phase start answers machine := by
  induction vigil with
  | start =>
    refine ⟨hosts.putProgram _, fun process found => Machine.program_of_putProgram found, ⟨none, .waiting ?_⟩,
      Machine.lives_of_putProgram, fun _ number => ?_, by simp [Tidings.ends], by simp [Tidings.ends], by simp⟩
    · intro reply inside
      cases inside
    · simp [Machine.isChild_putProgram, Tidings.ends]
  | time earlier passed ih =>
    obtain ⟨clock, rfl⟩ := System.passTime_eq_some passed
    exact ⟨⟨⟨ih.hosts.numbered.process⟩, ih.hosts.given⟩, ih.program, ih.leads, ih.lives, ih.isChild, ih.known, ih.once,
      ih.alone⟩
  | answered earlier process present alive going waits awaited ih => exact kept_answered ih present alive waits awaited
  | @others answers before after earlier mover other moved ih =>
    have spares := System.step_spares ih.hosts.numbered moved
    have lived : after.Lives host → before.Lives host := System.lives_of_step ih.hosts.numbered ih.hosts.given moved
    refine ⟨ih.hosts.moves (.step mover moved), fun process found => ?_, ih.leads, fun lives => ih.lives (lived lives),
      fun lives number => ?_, ih.known, ih.once, ih.alone⟩
    · obtain ⟨earlier, present, disturbed⟩ := spares.others host (Ne.symm other) ih.hosts.given process found
      exact disturbed.program.trans (ih.program earlier present)
    · rw [← ih.isChild (lived lives) number, System.isChild_step ih.hosts.numbered moved lives number]
      simp [other]

/-- Who was a child at first has been waited for, or is left. -/
theorem Kept.perm (kept : Kept host phase start answers machine) (lives : machine.Lives host) :
    (answers.ends.map Prod.fst ++ (machine.childrenOf host).map Prod.fst).Perm
      ((start.childrenOf host).map Prod.fst) := by
  have isChild := kept.isChild lives
  have apart : (answers.ends.map Prod.fst ++ (machine.childrenOf host).map Prod.fst).Nodup := by
    refine List.nodup_append.mpr ⟨kept.once, System.nodup_childrenOf _ _, fun number told other left same => ?_⟩
    exact ((isChild number).mp (System.isChild_iff.mpr (same ▸ left))).2 told
  refine (List.perm_ext_iff_of_nodup apart (System.nodup_childrenOf _ _)).mpr fun number => ?_
  rw [List.mem_append, ← System.isChild_iff, ← System.isChild_iff, isChild]
  have known := kept.known number
  tauto

theorem Kept.length_childrenOf (kept : Kept host phase start answers machine) (lives : machine.Lives host) :
    answers.ends.length + (machine.childrenOf host).length = (start.childrenOf host).length := by
  simpa using (kept.perm lives).length_eq

/-- A call that has returned is answered for. -/
theorem Kept.leads_of_returns {outcome : Except Fault Report} (kept : Kept host phase start answers machine)
    (returns : machine.Returns host outcome) : answers.Leads (some outcome) := by
  obtain ⟨process, present, -⟩ := returns.lives
  obtain ⟨given, leads⟩ := kept.leads
  have ended := returns.outcome
  simp only [Machine.run?, present, Option.map_some, kept.program process present, Option.bind_some,
    Run.outcome?_follow phase leads] at ended
  exact ended ▸ leads

/-- What one call of waiting for all children has come to. -/
structure Sound (host : Nat) (start : Machine τ) (answers : Tidings) (machine : Machine τ) : Prop where
  /-- It asks for nothing but the end of a child until it returns. -/
  asks : ∀ run, machine.run? host = some run → run.next = some .wait ∨ ∃ outcome, run.outcome? = some outcome
  /-- No child comes twice. -/
  once : (answers.ends.map Prod.fst).Nodup
  /-- The children of whose end it was not told are still there. -/
  left : ∀ number, machine.IsChild host number ↔ start.IsChild host number ∧ number ∉ answers.ends.map Prod.fst
  /-- There are no more calls than children and interruptions, and one. -/
  bounded : answers.length ≤ (start.childrenOf host).length + answers.interruptions + 1
  /-- It ends well only when it is told that there is no child; each child has come by then, with a status, and they are
  reported in the order in which they have come. -/
  success : ∀ report, machine.Returns host (.ok report) →
    answers.length = (start.childrenOf host).length + answers.interruptions + 1 ∧
      (∃ earlier : Tidings, answers = earlier ++ [.failed .noChild] ∧ .failed .noChild ∉ earlier) ∧
      (∀ child ∈ answers.ends, (child.2.status? child.1).isSome = true) ∧
      report.reaped = Run.statuses answers.ends ∧ report.reaped.map Status.process = answers.ends.map Prod.fst ∧
      (answers.ends.map Prod.fst).Perm ((start.childrenOf host).map Prod.fst) ∧
      ∀ number, ¬ machine.IsChild host number
  /-- It fails at the first end for which there is no status. -/
  failure : ∀ fault, machine.Returns host (.error fault) → fault = .wait .invalidArgument ∧
    ∃ (earlier : Tidings) (child : Nat) (how : Termination), answers = earlier ++ [.ended child how] ∧
      how.status? child = none ∧ ∀ other ∈ earlier.ends, (other.2.status? other.1).isSome = true

theorem Kept.sound (kept : Kept host phase start answers machine) (lives : machine.Lives host) :
    Sound host start answers machine where
  asks run runs := by
    obtain ⟨process, present, program⟩ := Machine.run?_eq_some runs
    obtain rfl : run = _ := Program.executor.inj (program.symm.trans (kept.program process present))
    obtain ⟨outcome, leads⟩ := kept.leads
    cases outcome with
    | some outcome => exact .inr ⟨outcome, Run.outcome?_follow phase leads⟩
    | none =>
      cases leads with
      | waiting clear => exact .inl (Run.reaping_iff.mp (Run.control_follow phase clear))
  once := kept.once
  left := kept.isChild lives
  bounded := by
    have few := kept.length_childrenOf lives
    obtain ⟨outcome, leads⟩ := kept.leads
    cases leads with
    | waiting clear =>
      rw [clear.length]
      omega
    | alone clear =>
      rw [List.length_append, clear.length]
      simp [Tidings.interruptions] at few ⊢
      omega
    | undecoded clear child how none =>
      rw [List.length_append, clear.length]
      simp [Tidings.interruptions] at few ⊢
      omega
  success report returns := by
    obtain ⟨earlier, clear, rfl, rfl⟩ := (kept.leads_of_returns returns).of_ok
    have decodable : ∀ child ∈ (earlier ++ [.failed .noChild] : Tidings).ends,
        (child.2.status? child.1).isSome = true := by simpa using clear.decodable
    have childless : ∀ number, ¬ machine.IsChild host number := fun number isChild =>
      ((kept.isChild lives number).mp isChild).2
        (kept.alone (by simp) number ((kept.isChild lives number).mp isChild).1)
    have none : machine.childrenOf host = [] := by
      refine List.eq_nil_iff_forall_not_mem.mpr fun child member => childless child.1 ?_
      exact System.isChild_iff.mpr (List.mem_map_of_mem member)
    have few := kept.length_childrenOf lives
    refine ⟨?_, ⟨earlier, rfl, clear.noChild_notMem⟩, decodable, rfl, Run.processes_statuses decodable, ?_, childless⟩
    · rw [List.length_append, clear.length]
      simp [Tidings.interruptions, none] at few ⊢
      omega
    · simpa [none] using kept.perm lives
  failure fault returns := by
    obtain ⟨same, earlier, child, how, clear, rfl, none⟩ := (kept.leads_of_returns returns).of_error
    exact ⟨same, earlier, child, how, rfl, none, clear.decodable⟩

end Vigil

/-- A process that lives and is not stopped, and has no child that lives. -/
structure Machine.Settled (host : Nat) (machine : Machine τ) : Prop where
  goes : ∃ process, machine.processes[host]? = some process ∧ process.ending = none ∧ process.stopped = false
  childless : ¬ machine.Awaits host

theorem Machine.Settled.lives (settled : machine.Settled host) : machine.Lives host := by
  obtain ⟨⟨process, present, alive, -⟩, -⟩ := settled
  exact ⟨process, present, alive⟩

theorem Machine.Settled.putProgram (settled : machine.Settled host) (program : Program τ) :
    Machine.Settled host (machine.putProgram host program) := by
  obtain ⟨⟨process, present, alive, going⟩, childless⟩ := settled
  rw [Machine.putProgram_eq present]
  refine ⟨⟨_, System.getElem?_put_self _ _ _, alive, going⟩, ?_⟩
  rintro ⟨child, other, there, parent, living⟩
  rw [System.getElem?_put] at there
  split at there
  · cases there
    exact childless ⟨host, process, present, parent, living⟩
  · exact childless ⟨child, other, there, parent, living⟩

/-- Who waits and has no child that lives is answered at once. -/
theorem Awaited.of_settled {process : Process (Program τ)} (present : machine.processes[host]? = some process)
    (alive : process.ending = none) (going : process.stopped = false)
    (waits : (Program.behaviour images).next process.program = some .wait) (childless : ¬ machine.Awaits host) :
    ∃ reply between, Awaited host machine reply between ∧ reply ≠ .failed .interrupted ∧
      machine.step (Program.behaviour images) host = some (between.answer (Program.behaviour images) host reply) := by
  have answers : ∀ {reply between}, machine.perform host process .wait = .answer reply between →
      machine.step (Program.behaviour images) host = some (between.answer (Program.behaviour images) host reply) := by
    intro reply between performed
    simp [System.step, present, alive, going, waits, performed]
  cases found : machine.endedChild? host with
  | some first =>
    obtain ⟨child, how⟩ := first
    obtain ⟨ended, there, parent, finished⟩ := System.endedChild?_eq_some found
    exact ⟨_, _, .ended child ended how there parent finished, by simp,
      answers (by simp only [System.perform, System.waitAny, found])⟩
  | none =>
    have none : machine.childrenOf host = [] := by
      refine List.eq_nil_iff_forall_not_mem.mpr fun child member => childless ?_
      obtain ⟨there, parent⟩ := System.mem_childrenOf.mp member
      exact ⟨child.1, child.2, there, parent, System.ending_of_endedChild?_eq_none found there parent⟩
    refine ⟨_, _, .alone fun number isChild => ?_, by simp,
      answers (by simp only [System.perform, System.waitAny, found, none, List.isEmpty_nil, if_true])⟩
    simp [System.isChild_iff, none] at isChild

/-- An answer gives nobody a child that lives. -/
theorem Awaited.settled {process : Process (Program τ)} (awaited : Awaited host before reply between)
    (present : before.processes[host]? = some process) (alive : process.ending = none)
    (going : process.stopped = false) (childless : ¬ before.Awaits host) :
    Machine.Settled host (between.answer (Program.behaviour images) host reply) := by
  rw [System.answer_eq _ (awaited.present present alive)]
  refine ⟨⟨_, System.getElem?_put_self _ _ _, alive, going⟩, ?_⟩
  rintro ⟨child, other, there, parent, living⟩
  refine childless ?_
  rw [System.getElem?_put] at there
  split at there
  · cases there
    exact ⟨host, process, present, parent, living⟩
  · refine ⟨child, other, ?_, parent, living⟩
    cases awaited with
    | ended gone =>
      rw [Std.ExtTreeMap.getElem?_erase] at there
      split at there
      · cases there
      · exact there
    | _ => exact there

namespace Vigil

/-- As soon as no child lives any more, the host comes to an end by moves of its own, without being interrupted. -/
theorem settles (hosts : start.Hosts host)
    (vigil : Vigil images host (start.putProgram host (.executor (.ofChildren phase))) answers machine)
    (settled : machine.Settled host) :
    ∃ (later : Tidings) (last : Machine τ) (outcome : Except Fault Report),
      machine.onward images host later.length = some last ∧ later.interruptions = 0 ∧
      Vigil images host (start.putProgram host (.executor (.ofChildren phase))) (answers ++ later) last ∧
      last.Returns host outcome ∧ last.Settled host := by
  induction left : (machine.childrenOf host).length using Nat.strongRecOn generalizing answers machine with
  | ind left ih =>
    have lives := settled.lives
    obtain ⟨⟨process, present, alive, going⟩, childless⟩ := settled
    have kept := vigil.kept hosts
    have program := kept.program process present
    have returns : ∀ {last : Machine τ} {given : Tidings} {outcome : Except Fault Report},
        Kept host phase start given last → given.Leads (some outcome) → last.Lives host →
          last.Returns host outcome := by
      intro last given outcome kept leads lives
      refine ⟨lives, ?_⟩
      obtain ⟨other, there, -⟩ := lives
      simp [Machine.run?, there, kept.program other there, Run.outcome?_follow phase leads]
    obtain ⟨outcome, leads⟩ := kept.leads
    cases outcome with
    | some outcome =>
      exact ⟨[], machine, outcome, rfl, rfl, by simpa using vigil, returns kept leads lives,
        ⟨process, present, alive, going⟩, childless⟩
    | none =>
      cases leads with
      | waiting clear =>
        have waits : (Program.behaviour images).next process.program = some .wait := by
          simp [Program.behaviour, program, Run.next, Run.control_follow phase clear]
        obtain ⟨reply, between, awaited, uninterrupted, moved⟩ :=
          Awaited.of_settled present alive going waits childless
        have further := vigil.answered process present alive going waits awaited
        have settled' : Machine.Settled host (between.answer (Program.behaviour images) host reply) :=
          awaited.settled present alive going childless
        have kept' := further.kept hosts
        have lives' := settled'.lives
        cases awaited with
        | interrupted => exact absurd rfl uninterrupted
        | alone none =>
          refine ⟨[.failed .noChild], _, _, ?_, rfl, further, returns kept' (.alone clear) lives', settled'⟩
          simp [Machine.onward, moved]
        | ended child ended how there parent finished =>
          have fewer := kept.length_childrenOf lives
          have fewer' := kept'.length_childrenOf lives'
          simp only [Tidings.ends_append, Tidings.ends_ended, List.length_append, List.length_singleton] at fewer'
          obtain ⟨later, last, outcome, moves, calm, vigil, rest⟩ := ih _ (by omega) further settled' rfl
          refine ⟨.ended child how :: later, last, outcome, ?_, ?_, ?_, rest⟩
          · simp [Machine.onward, moved, moves]
          · simpa [Tidings.interruptions] using calm
          · simpa using vigil

end Vigil

/-- What can come of calls of waiting for all children, one after the other, while all others do what they like. -/
inductive Vigils (images : Behaviour τ) (host : Nat) (start : Machine τ) :
    List (Tidings × Except Fault Report) → Machine τ → Prop where
  | start : Vigils images host start [] start
  | call {calls : List (Tidings × Except Fault Report)} {before after : Machine τ} {answers : Tidings}
      {outcome : Except Fault Report} (earlier : Vigils images host start calls before) (phase : Phase)
      (vigil : Vigil images host (before.putProgram host (.executor (.ofChildren phase))) answers after)
      (returns : after.Returns host outcome) : Vigils images host start (calls ++ [(answers, outcome)]) after

namespace Vigils

variable {calls : List (Tidings × Except Fault Report)}

/-- The ends of which a process was told in all its calls. -/
def ends (calls : List (Tidings × Except Fault Report)) : List (Nat × Termination) :=
  calls.flatMap fun call => call.1.ends

/-- Whether there is no status for an end. -/
def undecodable (child : Nat × Termination) : Bool := (child.2.status? child.1).isNone

/-- What calls of waiting for all children have come to. -/
structure Sound (host : Nat) (start : Machine τ) (calls : List (Tidings × Except Fault Report)) (machine : Machine τ) :
    Prop where
  /-- No child comes twice. -/
  once : ((ends calls).map Prod.fst).Nodup
  /-- Only children come. -/
  known : ∀ number ∈ (ends calls).map Prod.fst, start.IsChild host number
  /-- Those that have not come are left. -/
  left : ∀ number, machine.IsChild host number ↔ start.IsChild host number ∧ number ∉ (ends calls).map Prod.fst
  /-- As many calls have failed as children have come without a status. -/
  failures : calls.countP (fun call => !call.2.toBool) = (ends calls).countP undecodable
  /-- Once a call has succeeded each child has come. -/
  success : (∃ answers report, (answers, .ok report) ∈ calls) →
    ∀ number, start.IsChild host number → number ∈ (ends calls).map Prod.fst

/-- A call fails just when a child comes in it without a status, and no second one does. -/
theorem failures_of_leads {answers : Tidings} {outcome : Except Fault Report} (leads : answers.Leads (some outcome)) :
    (if outcome.toBool then 0 else 1) = answers.ends.countP undecodable := by
  have none : ∀ {earlier : Tidings}, earlier.Clear → earlier.ends.countP undecodable = 0 := by
    intro earlier clear
    refine List.countP_eq_zero.mpr fun child member => ?_
    have decodable := clear.decodable child member
    cases status : child.2.status? child.1 <;> simp_all [undecodable]
  cases outcome with
  | ok report =>
    obtain ⟨earlier, clear, rfl, -⟩ := leads.of_ok
    simp [Except.toBool, none clear]
  | error fault =>
    obtain ⟨-, earlier, child, how, clear, rfl, unknown⟩ := leads.of_error
    simp [Except.toBool, none clear, undecodable, unknown]

theorem sound (vigils : Vigils images host start calls machine) (hosts : start.Hosts host) :
    machine.Hosts host ∧ Sound host start calls machine := by
  induction vigils with
  | start => exact ⟨hosts, by simp [ends], by simp [ends], by simp [ends], rfl, by simp⟩
  | @call calls before after answers outcome earlier phase vigil returns ih =>
    obtain ⟨settled, ih⟩ := ih
    have kept := vigil.kept settled
    have isChild := kept.isChild returns.lives
    have whole : ends (calls ++ [(answers, outcome)]) = ends calls ++ answers.ends := by simp [ends]
    refine ⟨kept.hosts, ?_, fun number told => ?_, fun number => ?_, ?_, fun succeeded number was => ?_⟩
    · rw [whole, List.map_append, List.nodup_append]
      refine ⟨ih.once, kept.once, fun number old other new same => ?_⟩
      exact ((ih.left number).mp (kept.known number (same ▸ new))).2 old
    · rw [whole, List.map_append, List.mem_append] at told
      exact told.elim (ih.known number) fun new => ((ih.left number).mp (kept.known number new)).1
    · rw [isChild, ih.left, whole, List.map_append, List.mem_append, not_or, and_assoc]
    · have last := failures_of_leads (kept.leads_of_returns returns)
      rw [whole, List.countP_append, List.countP_append, ih.failures, ← last]
      cases outcome <;> simp [Except.toBool]
    · rw [whole, List.map_append, List.mem_append]
      obtain ⟨given, report, member⟩ := succeeded
      rcases List.mem_append.mp member with old | new
      · exact .inl (ih.success ⟨given, report, old⟩ number was)
      · obtain ⟨rfl, rfl⟩ : given = answers ∧ .ok report = outcome := by simpa using new
        by_cases gone : number ∈ (ends calls).map Prod.fst
        · exact .inl gone
        · obtain ⟨first, -, same, -⟩ := (kept.leads_of_returns returns).of_ok
          exact .inr (kept.alone (by simp [same]) number ((ih.left number).mpr ⟨was, gone⟩))

/-- Once a call has succeeded all children have come, and none is left. -/
theorem Sound.perm (sound : Sound host start calls machine)
    (succeeded : ∃ answers report, (answers, .ok report) ∈ calls) :
    ((ends calls).map Prod.fst).Perm ((start.childrenOf host).map Prod.fst) ∧
      ∀ number, ¬ machine.IsChild host number := by
  refine ⟨(List.perm_ext_iff_of_nodup sound.once (System.nodup_childrenOf _ _)).mpr fun number => ?_,
    fun number isChild => ?_⟩
  · rw [← System.isChild_iff]
    exact ⟨sound.known number, sound.success succeeded number⟩
  · obtain ⟨was, missing⟩ := (sound.left number).mp isChild
    exact missing (sound.success succeeded number was)

/-- Of more calls than there are children without a status one succeeds. -/
theorem Sound.exists_ok (sound : Sound host start calls machine) {doomed : List Nat}
    (all : ∀ child ∈ ends calls, child.2.status? child.1 = none → child.1 ∈ doomed)
    (more : doomed.length < calls.length) : ∃ answers report, (answers, .ok report) ∈ calls := by
  by_contra fails
  have failing : calls.countP (fun call => !call.2.toBool) = calls.length := by
    refine List.countP_eq_length.mpr ?_
    rintro ⟨answers, outcome⟩ member
    cases outcome with
    | ok report => exact absurd ⟨answers, report, member⟩ fails
    | error fault => rfl
  have apart : (((ends calls).filter undecodable).map Prod.fst).Nodup :=
    sound.once.sublist (List.filter_sublist.map _)
  have within : ((ends calls).filter undecodable).map Prod.fst ⊆ doomed := by
    intro number member
    obtain ⟨child, kept, rfl⟩ := List.mem_map.mp member
    obtain ⟨came, unknown⟩ := List.mem_filter.mp kept
    exact all child came (by simpa [undecodable] using unknown)
  have few := (List.Nodup.subperm apart within).length_le
  rw [List.length_map, ← List.countP_eq_length_filter, ← sound.failures, failing] at few
  omega

/-- Calls on what earlier ones have left. -/
theorem cons {middle last : Machine τ} {call : Tidings × Except Fault Report}
    (first : Vigils images host start [call] middle) (later : Vigils images host middle calls last) :
    Vigils images host start (call :: calls) last := by
  induction later with
  | start => exact first
  | call earlier phase vigil returns ih => exact ih.call phase vigil returns

/-- As soon as no child lives any more, a process that waits for all children until this succeeds comes to that. -/
theorem exists_success (hosts : start.Hosts host) (settled : start.Settled host) :
    ∃ calls answers report last, Vigils images host start (calls ++ [(answers, .ok report)]) last ∧
      ∀ call ∈ calls, ∃ fault, call.2 = .error fault := by
  induction left : (start.childrenOf host).length using Nat.strongRecOn generalizing start with
  | ind left ih =>
    have begun : Vigil images host (start.putProgram host (.executor (.ofChildren .idle))) [] _ := .start
    obtain ⟨answers, last, outcome, -, -, vigil, returns, still⟩ := begun.settles hosts (settled.putProgram _)
    have first := Vigils.start.call .idle vigil returns
    have kept := vigil.kept hosts
    cases outcome with
    | ok report => exact ⟨[], [] ++ answers, report, last, first, by simp⟩
    | error fault =>
      obtain ⟨-, earlier, child, how, -, same, -⟩ := (kept.leads_of_returns returns).of_error
      have fewer := kept.length_childrenOf returns.lives
      rw [same, Tidings.ends_append, List.length_append, Tidings.ends_ended, List.length_singleton] at fewer
      obtain ⟨calls, given, report, end_, rest, failed⟩ := ih _ (by omega) kept.hosts still rfl
      refine ⟨([] ++ answers, .error fault) :: calls, given, report, end_, first.cons rest, ?_⟩
      exact List.forall_mem_cons.mpr ⟨⟨fault, rfl⟩, failed⟩

end Vigils

/-- Children that end in the same way are reported alike, whatever comes first. -/
theorem Vigil.perm_reaped {other : Machine τ} {others : Tidings} {report second : Report}
    (sound : Vigil.Sound host start answers machine) (like : Vigil.Sound host start others other)
    (well : machine.Returns host (.ok report)) (fine : other.Returns host (.ok second))
    (same : ∀ child how end_, (child, how) ∈ answers.ends → (child, end_) ∈ others.ends → how = end_) :
    report.reaped.Perm second.reaped := by
  obtain ⟨-, -, -, reaped, -, whole, -⟩ := sound.success report well
  obtain ⟨-, -, -, reaped', -, whole', -⟩ := like.success second fine
  have numbers := whole.trans whole'.symm
  have ends : answers.ends.Perm others.ends := by
    refine (List.perm_ext_iff_of_nodup (List.Nodup.of_map _ sound.once) (List.Nodup.of_map _ like.once)).mpr ?_
    rintro ⟨child, how⟩
    constructor
    · intro member
      obtain ⟨⟨number, end_⟩, there, rfl⟩ := List.mem_map.mp (numbers.mem_iff.mp (List.mem_map_of_mem member))
      exact same _ _ _ member there ▸ there
    · intro member
      obtain ⟨⟨number, end_⟩, there, rfl⟩ := List.mem_map.mp (numbers.mem_iff.mpr (List.mem_map_of_mem member))
      exact same _ _ _ there member ▸ there
  rw [reaped, reaped']
  exact ends.filterMap _

/-- Whichever child a process is told of first, however often signals come in between and whatever all others do while
it waits for all its children:

* one call makes a wait for each child and for each interruption, and a last one, unless it fails at the first end for
  which there is no status; it never makes more, and nothing but a wait. When it succeeds it was told that there is no
  child, and it has reported each of them once, in the order in which they came; when it fails those that have not come
  are still there. As soon as no child lives it comes to an end by moves of its own;
* two calls that succeed report the same, up to the order, if the children have ended in the same way;
* of several calls as many fail as there are children without a status; no child comes twice, and once a call has
  succeeded none is left. So of more calls than there are such children one succeeds, and as soon as no child lives,
  calls that are made until one succeeds come to that. -/
theorem children_awaited (hosts : start.Hosts host) :
    (∀ phase answers machine,
      Vigil images host (start.putProgram host (.executor (.ofChildren phase))) answers machine →
      machine.Lives host → Vigil.Sound host start answers machine ∧
        (machine.Settled host → ∃ later last outcome, machine.onward images host later.length = some last ∧
          Tidings.interruptions later = 0 ∧
          Vigil images host (start.putProgram host (.executor (.ofChildren phase))) (answers ++ later) last ∧
          last.Returns host outcome)) ∧
    (∀ phase answers machine report phase' others other second,
      Vigil images host (start.putProgram host (.executor (.ofChildren phase))) answers machine →
      Vigil images host (start.putProgram host (.executor (.ofChildren phase'))) others other →
      machine.Returns host (.ok report) → other.Returns host (.ok second) →
      (∀ child how end_, (child, how) ∈ answers.ends → (child, end_) ∈ others.ends → how = end_) →
      report.reaped.Perm second.reaped) ∧
    (∀ calls machine, Vigils images host start calls machine →
      Vigils.Sound host start calls machine ∧
      ((∃ answers report, (answers, .ok report) ∈ calls) →
        ((Vigils.ends calls).map Prod.fst).Perm ((start.childrenOf host).map Prod.fst) ∧
          ∀ number, ¬ machine.IsChild host number) ∧
      ∀ doomed : List Nat,
        (∀ child ∈ Vigils.ends calls, child.2.status? child.1 = none → child.1 ∈ doomed) →
        doomed.length < calls.length → ∃ answers report, (answers, .ok report) ∈ calls) ∧
    (start.Settled host → ∃ calls answers report last,
      Vigils images host start (calls ++ [(answers, .ok report)]) last ∧
        ∀ call ∈ calls, ∃ fault, call.2 = .error fault) := by
  refine ⟨fun phase answers machine vigil lives => ⟨(vigil.kept hosts).sound lives, fun settled => ?_⟩,
    fun phase answers machine report phase' others other second vigil like well fine same => ?_,
    fun calls machine vigils => ?_, Vigils.exists_success hosts⟩
  · obtain ⟨later, last, outcome, moves, calm, further, returns, -⟩ := vigil.settles hosts settled
    exact ⟨later, last, outcome, moves, calm, further, returns⟩
  · exact Vigil.perm_reaped ((vigil.kept hosts).sound well.lives) ((like.kept hosts).sound fine.lives) well fine same
  · have sound := (vigils.sound hosts).2
    exact ⟨sound, sound.perm, fun doomed all more => sound.exists_ok all more⟩

/-- A process that has ended. -/
def copierThatEnded (how : Termination) : Process (Program (Option Bytes)) where
  program := .image none
  parent := some 1
  ending := some how

/-- A machine on which the process 1 has three children that have ended, one of them by a signal without a name. -/
def Machine.bereft : Machine (Option Bytes) where
  processes := (((Std.ExtTreeMap.empty.insert 1 (copyingExecutor copiedStreams 0)).insert 2
    (copierThatEnded (.exited 0))).insert 3 (copierThatEnded (.signaled 34))).insert 4 (copierThatEnded (.exited 7))
  nextProcess := 5
  pipes := Std.ExtTreeMap.empty
  nextPipe := 0
  files := copiedFiles
  shape := ⟨1, 1⟩
  clock := 0

/-- All processes of that machine. -/
theorem Machine.processes_bereft {number : Nat} {process : Process (Program (Option Bytes))}
    (present : bereft.processes[number]? = some process) :
    number = 1 ∧ process = copyingExecutor copiedStreams 0 ∨
      (number = 2 ∨ number = 3 ∨ number = 4) ∧ ∃ how, process = copierThatEnded how := by
  simp only [bereft, Std.ExtTreeMap.getElem?_insert, Std.LawfulEqCmp.compare_eq_iff_eq] at present
  split at present
  · cases present
    exact .inr ⟨by omega, _, rfl⟩
  split at present
  · cases present
    exact .inr ⟨by omega, _, rfl⟩
  split at present
  · cases present
    exact .inr ⟨by omega, _, rfl⟩
  split at present
  · cases present
    exact .inl ⟨by omega, rfl⟩
  · simp at present

/-- The process 1 is interrupted, and then told of the child that it has made last. It waits until that succeeds, and
all its children have come by then. -/
theorem children_awaited_of_three :
    (∃ machine, Vigil copier 1 (Machine.bereft.putProgram 1 (.executor (.ofChildren .idle)))
        [.failed .interrupted, .ended 4 (.exited 7)] machine ∧
      ∀ number, machine.IsChild 1 number ↔ Machine.bereft.IsChild 1 number ∧ number ∉ [4]) ∧
    ∃ calls answers report last, Vigils copier 1 Machine.bereft (calls ++ [(answers, .ok report)]) last ∧
      ((Vigils.ends (calls ++ [(answers, .ok report)])).map Prod.fst).Perm [2, 3, 4] ∧
      ∀ number, ¬ last.IsChild 1 number := by
  have hosts : Machine.bereft.Hosts 1 := by
    refine ⟨⟨fun number process present => ?_⟩, by decide⟩
    rcases Machine.processes_bereft present with ⟨rfl, -⟩ | ⟨rfl | rfl | rfl, -⟩ <;> decide
  have settled : Machine.bereft.Settled 1 := by
    refine ⟨⟨copyingExecutor copiedStreams 0, by rfl, rfl, rfl⟩, ?_⟩
    rintro ⟨child, process, present, parent, alive⟩
    rcases Machine.processes_bereft present with ⟨-, rfl⟩ | ⟨-, how, rfl⟩
    · cases parent
    · cases alive
  obtain ⟨one, -, sound, succeeds⟩ := @children_awaited _ copier _ _ hosts
  constructor
  · let waiting : Process (Program (Option Bytes)) :=
      { copyingExecutor copiedStreams 0 with program := .executor (.ofChildren .idle) }
    have begun : Vigil copier 1 (Machine.bereft.putProgram 1 (.executor (.ofChildren .idle))) [] _ := .start
    have interrupted := begun.answered waiting (by rfl) rfl rfl rfl .interrupted
    have told := interrupted.answered waiting (by rfl) rfl rfl rfl
      (.ended 4 (copierThatEnded (.exited 7)) (.exited 7) (by rfl) rfl rfl)
    exact ⟨_, told, ((one _ _ _ told) ⟨_, by rfl, rfl⟩).1.left⟩
  obtain ⟨calls, answers, report, last, vigils, -⟩ := succeeds settled
  obtain ⟨all, none⟩ := (sound _ last vigils).2.1 ⟨answers, report, by simp⟩
  exact ⟨calls, answers, report, last, vigils, all, none⟩

end Pipework
