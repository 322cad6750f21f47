import Pipework.Proofs.RunMove
import Pipework.Proofs.Transfer

set_option autoImplicit false

/-!
Who is a child of whom. `Disposes` lists what a call can do to the table of processes: it puts another process in the
place of its caller, ends a process, or takes a child off that has ended. So as long as a process lives nobody else
takes a child from it or gives it one, and what it does itself can be read off its calls (`isChild_step`). And a
process that has not ended ends by its own exit, by writing to a pipe that nobody reads, or by a signal that somebody
sends to it (`leaves_of_step`).
-/

namespace Pipework.Kernel

variable {σ : Type}

/-- What an effect tells of the end of a child. -/
def Effect.ended? : Effect σ → Option (Nat × Termination)
  | .answer (.ended child how) _ => some (child, how)
  | _ => none

/-- An effect leads to one system. -/
theorem Effect.Leads.unique {effect : Effect σ} {first second : System σ} (leads : effect.Leads first)
    (led : effect.Leads second) : first = second := by
  cases leads <;> cases led <;> rfl

/-- An effect that neither tells of the end of a child nor makes a child of the caller. -/
def Effect.Plain : Effect σ → Prop
  | .answer (.ended _ _) _ | .answer .child _ => False
  | _ => True

theorem Effect.Plain.untold {effect : Effect σ} (plain : effect.Plain) : effect.ended? = none := by
  unfold Effect.ended?
  split
  · exact plain.elim
  · rfl

/-- Whether a call waits for the end of a child. -/
def Call.waits : Call → Bool
  | .wait | .waitFor _ => true
  | _ => false

namespace System

/-- What a process learns of the end of a child when it moves. -/
def told? (behaviour : Behaviour σ) (system : System σ) (number : Nat) : Option (Nat × Termination) :=
  match system.processes[number]? with
  | none => none
  | some process =>
    ((behaviour.next process.program).map (system.perform number process)).bind Effect.ended?

/-- A process is a child of another one, whether it has ended or not. -/
def IsChild (system : System σ) (parent number : Nat) : Prop :=
  ∃ process, system.processes[number]? = some process ∧ process.parent = some parent

/-- A process is there and has not ended. -/
def Lives (system : System σ) (number : Nat) : Prop :=
  ∃ process, system.processes[number]? = some process ∧ process.ending = none

/-- What a call can do to the table of processes. -/
inductive Disposes (system : System σ) (mover : Nat) (process : Process σ) (call : Call) : Effect σ → Prop where
  | blocked : Disposes system mover process call .blocked
  | spares (effect : Effect σ) (after : System σ) (led : effect.Leads after) (plain : effect.Plain)
      (same : after.processes = system.processes) : Disposes system mover process call effect
  | replaces (effect : Effect σ) (after : System σ) (replacement : Process σ) (led : effect.Leads after)
      (plain : effect.Plain) (parent : replacement.parent = process.parent)
      (ending : replacement.ending = process.ending)
      (same : after.processes = system.processes.insert mover replacement) : Disposes system mover process call effect
  | finishes (how : Termination)
      (cause : (how = .signaled Signal.pipe ∧ Signal.pipe ∉ process.ignored) ∨
        ∃ code, call = .exit code ∧ how = .exited (code % 256)) :
      Disposes system mover process call (.moved (system.finish mover how))
  | delivers (effect : Effect σ) (target : Nat) (signal : Signal) (led : effect.Leads (system.deliver target signal))
      (plain : effect.Plain) (sends : call = .kill target signal) : Disposes system mover process call effect
  | collects (child : Nat) (ended : Process σ) (how : Termination) (present : system.processes[child]? = some ended)
      (parent : ended.parent = some mover) (ending : ended.ending = some how) (waits : call.waits = true) :
      Disposes system mover process call
        (.answer (.ended child how) { system with processes := system.processes.erase child })

namespace Disposes

variable {system between : System σ} {mover : Nat} {process : Process σ} {call : Call}

theorem failed (errno : Errno) : Disposes system mover process call (.answer (.failed errno) system) :=
  .spares _ system (.answer _ _) trivial rfl

theorem tableAnswer (result : Except Errno DescriptorTable) :
    Disposes system mover process call (system.tableAnswer mover process result) := by
  cases result with
  | error errno => exact .failed errno
  | ok table => exact .replaces _ _ { process with descriptors := table } (.answer _ _) trivial rfl rfl rfl

theorem numberAnswer (same : between.processes = system.processes) (result : Except Errno (Nat × DescriptorTable)) :
    Disposes system mover process call (between.numberAnswer mover process result) := by
  cases result with
  | error errno => exact .spares _ between (.answer _ _) trivial same
  | ok given =>
    exact .replaces _ _ { process with descriptors := given.2 } (.answer _ _) trivial rfl rfl
      (congrArg (·.insert mover { process with descriptors := given.2 }) same)

theorem filesAnswer (same : between.processes = system.processes) (result : Except Errno Files) :
    Disposes system mover process call (between.filesAnswer result) := by
  cases result with
  | error errno => exact .spares _ between (.answer _ _) trivial same
  | ok files => exact .spares _ _ (.answer _ _) trivial same

theorem makePipe : Disposes system mover process call (system.makePipe mover process) := by
  unfold System.makePipe
  dsimp only
  split
  · exact .failed _
  split
  · exact .failed _
  · rename_i table _
    exact .replaces _ _ { process with descriptors := table } (.answer _ _) trivial rfl rfl rfl

theorem openQueue (same : between.processes = system.processes) (pipe : Nat) (access : Access) :
    Disposes system mover process call (between.openQueue mover process pipe access) := by
  unfold System.openQueue
  split
  · exact .spares _ between (.answer _ _) trivial same
  · rename_i descriptor table allocated
    by_cases complete : (decide (access = .update) ||
        between.holds (if access = .read then .writeEnd pipe else .readEnd pipe)) = true
    · simp only [complete, if_true]
      exact .replaces _ _ { process with descriptors := table } (.answer _ _) trivial rfl rfl
        (congrArg (·.insert mover { process with descriptors := table }) same)
    · simp only [complete, if_false, Bool.false_eq_true]
      let opening := (descriptor, otherOpenings access ((between.pipes[pipe]?).getD {}))
      refine .replaces _ _ { process with descriptors := table, opening := some opening } (.moved _) trivial rfl rfl ?_
      rw [← same]
      exact insert_insert

theorem awaitPartner (descriptor before : Nat) :
    Disposes system mover process call (system.awaitPartner process descriptor before) := by
  unfold System.awaitPartner
  repeat' split
  all_goals
    first
    | exact .blocked
    | exact .spares _ system (.answer _ _) trivial rfl

theorem openFile (path : Bytes) (access : Access) :
    Disposes system mover process call (system.openFile mover process path access) := by
  have given : ∀ (files : Files) (object : Object), Disposes system mover process call
      (System.numberAnswer { system with files } mover process
        (process.descriptors.allocate process.limit 0 ⟨object, false⟩)) := by
    intro files object
    refine numberAnswer ?_ _
    rfl
  unfold System.openFile
  dsimp only
  repeat' split
  all_goals
    first
    | exact awaitPartner _ _
    | exact openQueue rfl _ _
    | exact given _ _
    | exact given system.files _
    | exact .failed _

theorem waitAny : Disposes system mover process .wait (system.waitAny mover) := by
  unfold System.waitAny
  split
  · rename_i child how found
    obtain ⟨process, present, parent, ended⟩ := endedChild?_eq_some found
    exact .collects child process how present parent ended rfl
  · split
    · exact .failed _
    · exact .blocked

theorem waitFor (child : Nat) : Disposes system mover process (.waitFor child) (system.waitFor mover child) := by
  unfold System.waitFor
  split
  · exact .failed _
  rename_i found present
  split
  · exact .failed _
  rename_i isChild
  split
  · exact .blocked
  · rename_i how ended
    exact .collects child found how present (by simpa using isChild) ended rfl

/-- Only who waits is told of the end of a child. -/
theorem untold {effect : Effect σ} (disposes : Disposes system mover process call effect)
    (others : call.waits = false) :
    effect.ended? = none := by
  cases disposes with
  | spares effect after led plain same => exact plain.untold
  | replaces effect after replacement led plain parent ending same => exact plain.untold
  | delivers effect target signal led plain sends => exact plain.untold
  | collects child ended how present parent ending waits => cases others.symm.trans waits
  | _ => rfl

/-- No call makes a child of its caller. -/
theorem ne_child {reply : Reply} (disposes : Disposes system mover process call (.answer reply between)) :
    reply ≠ .child := by
  rintro rfl
  cases disposes with
  | spares _ after led plain same => exact plain
  | replaces _ after replacement led plain parent ending same => exact plain
  | delivers _ target signal led plain sends => exact plain

end Disposes

theorem configured_eq_ok {system : System σ} {process replacement : Process σ} {setting : Setting}
    (configured : system.configured process setting = .ok replacement) :
    replacement.parent = process.parent ∧ replacement.ending = process.ending := by
  unfold System.configured at configured
  split at configured
  · cases configured
    exact ⟨rfl, rfl⟩
  · split at configured
    · cases configured
    split at configured
    · cases configured
    split at configured
    · cases configured
    split at configured
    · cases configured
      exact ⟨rfl, rfl⟩
    · cases configured
  · cases configured
    exact ⟨rfl, rfl⟩
  · cases configured
    split <;> exact ⟨rfl, rfl⟩

/-- Every call disposes of processes in one of these ways. -/
theorem perform_disposes (system : System σ) (mover : Nat) (process : Process σ) (call : Call) :
    Disposes system mover process call (system.perform mover process call) := by
  cases call with
  | pipe => exact .makePipe
  | close => exact .tableAnswer _
  | duplicate => exact .tableAnswer _
  | duplicateFrom => exact .numberAnswer rfl _
  | keepOnExec => exact .tableAnswer _
  | answerAtOnce descriptor =>
    simp only [perform]
    split
    · exact .failed _
    · refine .spares _ _ (.answer _ _) trivial ?_
      unfold setAnswerAtOnce
      split <;> rfl
  | read descriptor limit =>
    have received := system.perform_read mover process descriptor limit
    generalize system.perform mover process (.read descriptor limit) = effect at received
    cases received with
    | blocked => exact .blocked
    | _ => exact .spares _ _ (.answer _ _) trivial rfl
  | write descriptor data =>
    have wrote := system.perform_write mover process descriptor data
    generalize system.perform mover process (.write descriptor data) = effect at wrote
    cases wrote with
    | blocked => exact .blocked
    | killed pipe found outlet unread unbegun heeds => exact .finishes _ (.inl ⟨rfl, heeds⟩)
    | part pipe found replaced rest =>
      exact .replaces _ _ { process with written := data.length - rest.length } (.moved _) trivial rfl rfl rfl
    | _ => exact .spares _ _ (.answer _ _) trivial rfl
  | seek descriptor distance =>
    simp only [perform]
    repeat' split
    all_goals exact .spares _ _ (.answer _ _) trivial rfl
  | openFile path access => exact .openFile path access
  | query query =>
    refine .spares _ system (.answer _ _) ?_ rfl
    cases query <;> simp only [perform, System.reply] <;> (try split) <;> trivial
  | makeQueue path mode =>
    simp only [perform]
    refine .filesAnswer ?_ _
    rfl
  | edit edit => exact .filesAnswer rfl _
  | configure setting =>
    simp only [perform]
    split
    · exact .failed _
    · rename_i replacement configured
      have same := configured_eq_ok configured
      exact .replaces _ _ replacement (.answer _ _) trivial same.1 same.2 rfl
  | wait => exact .waitAny
  | waitFor child => exact .waitFor child
  | kill target signal =>
    simp only [perform]
    split
    · exact .failed _
    by_cases zero : signal = 0
    · simp only [zero, if_true]
      split
      · exact .spares _ system (.answer _ _) trivial rfl
      · exact .spares _ system (.moved _) trivial rfl
    · simp only [zero, if_false]
      split
      · exact .delivers _ target signal (.answer _ _) trivial rfl
      · exact .delivers _ target signal (.moved _) trivial rfl
  | takeSignals => exact .replaces _ _ { process with arrived := [] } (.answer _ _) trivial rfl rfl rfl
  | sleep duration =>
    simp only [perform]
    split
    · exact .replaces _ _ { process with deadline := some (system.clock + duration) } (.moved _) trivial rfl rfl rfl
    split
    · exact .spares _ system (.answer _ _) trivial rfl
    · exact .blocked
  | exit code => exact .finishes _ (.inr ⟨code, rfl, rfl⟩)
  | pause => exact .spares _ system (.answer _ _) trivial rfl
  | fork => exact .failed _
  | load => exact .failed _

section kin

variable {system after : System σ} {host mover number : Nat} {process : Process σ}

theorem isChild_of_processes (same : after.processes = system.processes) :
    after.IsChild host number ↔ system.IsChild host number := by
  simp only [IsChild, same]

/-- Who takes the place of a process has its parent. -/
theorem isChild_insert {replacement : Process σ} (present : system.processes[mover]? = some process)
    (same : after.processes = system.processes.insert mover replacement)
    (parent : replacement.parent = process.parent) :
    after.IsChild host number ↔ system.IsChild host number := by
  simp only [IsChild, same, Std.ExtTreeMap.getElem?_insert]
  by_cases own : mover = number
  · subst own
    simp [present, parent]
  · simp [own]

@[simp] theorem parent_told (signal : Signal) (process : Process σ) :
    (told signal process).parent = process.parent := by
  unfold told
  split <;> rfl

/-- The end of another process leaves the children of a process. -/
theorem isChild_finish {how : Termination} (lives : (system.finish mover how).Lives host) :
    (system.finish mover how).IsChild host number ↔ system.IsChild host number := by
  cases present : system.processes[mover]? with
  | none => rw [finish_absent how present]
  | some process =>
    have apart : mover ≠ host := by
      rintro rfl
      obtain ⟨later, found, alive⟩ := lives
      rw [getElem?_finish_self how present] at found
      cases found
      cases alive
    have parent : ∀ (other : Nat) (earlier : Process σ),
        (system.marked mover other earlier).parent = some host ↔ earlier.parent = some host := by
      intro other earlier
      unfold marked
      dsimp only
      -- Only the children of the one who ends lose their parent.
      split <;> split <;> simp_all
    by_cases own : number = mover
    · subst own
      simp only [IsChild, getElem?_finish_self how present, present, Option.some.injEq, exists_eq_left', parent]
    · simp only [IsChild, getElem?_finish how present own]
      cases system.processes[number]? <;> simp [parent]

/-- So does a signal to another process. -/
theorem isChild_deliver {target : Nat} {signal : Signal} :
    (system.deliver target signal).Lives host →
      ((system.deliver target signal).IsChild host number ↔ system.IsChild host number) := by
  unfold deliver
  split
  · exact fun _ => .rfl
  rename_i process present
  have replaced : ∀ replacement : Process σ, replacement.parent = process.parent →
      ((system.put target replacement).IsChild host number ↔ system.IsChild host number) :=
    fun replacement parent => isChild_insert present rfl parent
  dsimp only
  split
  · exact fun _ => .rfl
  split
  · exact isChild_finish
  split
  · exact fun _ => replaced _ rfl
  split
  · exact fun _ => replaced _ rfl
  split
  · exact fun _ => by rw [put_put]; exact replaced _ (parent_told _ _)
  split
  · exact fun _ => replaced _ rfl
  split
  · exact fun _ => by rw [put_put]; exact replaced _ rfl
  · exact fun lives => (isChild_finish lives).trans (replaced _ rfl)

/-- As long as a process lives, a call takes a child from it only by telling it of its end. -/
theorem Disposes.isChild {call : Call} {effect : Effect σ} (disposes : Disposes system mover process call effect)
    (present : system.processes[mover]? = some process) (led : effect.Leads after) (lives : after.Lives host)
    (number : Nat) : after.IsChild host number ↔
      system.IsChild host number ∧ ∀ how, mover = host → effect.ended? ≠ some (number, how) := by
  have untold : effect.ended? = none → (after.IsChild host number ↔ system.IsChild host number) →
      (after.IsChild host number ↔
        system.IsChild host number ∧ ∀ how, mover = host → effect.ended? ≠ some (number, how)) := by
    intro none same
    simp [none, same]
  cases disposes with
  | blocked => cases led
  | spares effect between leads plain same =>
    obtain rfl := leads.unique led
    exact untold plain.untold (isChild_of_processes same)
  | replaces effect between replacement leads plain parent ending same =>
    obtain rfl := leads.unique led
    exact untold plain.untold (isChild_insert present same parent)
  | finishes how cause =>
    cases led
    exact untold rfl (isChild_finish lives)
  | delivers effect target signal leads plain sends =>
    obtain rfl := leads.unique led
    exact untold plain.untold (isChild_deliver lives)
  | collects child ended how isEnded parent ending waits =>
    cases led
    by_cases same : child = number
    · subst same
      simp only [IsChild, Std.ExtTreeMap.getElem?_erase_self, Effect.ended?]
      constructor
      · rintro ⟨found, gone, -⟩
        cases gone
      rintro ⟨⟨found, there, isChild⟩, untold⟩
      obtain rfl : ended = found := Option.some.inj (isEnded.symm.trans there)
      exact absurd rfl (untold how (Option.some.inj (parent.symm.trans isChild)))
    · simp [IsChild, Std.ExtTreeMap.getElem?_erase, Effect.ended?, same]

/-- Who gets an answer keeps its parent. -/
theorem isChild_answer (behaviour : Behaviour σ) (reply : Reply) :
    (system.answer behaviour mover reply).IsChild host number ↔ system.IsChild host number := by
  unfold answer
  split
  · exact .rfl
  · rename_i process present
    exact isChild_insert present rfl rfl

/-- Who lives when it has got an answer lived before. -/
theorem lives_of_answer {behaviour : Behaviour σ} {reply : Reply}
    (lives : (system.answer behaviour mover reply).Lives host) : system.Lives host := by
  obtain ⟨later, found, alive⟩ := lives
  unfold answer at found
  split at found
  · exact ⟨later, found, alive⟩
  · rename_i process present
    rw [getElem?_put] at found
    split at found
    · rename_i same
      cases found
      exact ⟨process, same ▸ present, alive⟩
    · exact ⟨later, found, alive⟩

/-- Only a fork gives out a number. -/
theorem nextProcess_perform {call : Call} (present : system.processes[mover]? = some process)
    (led : (system.perform mover process call).Leads after) : after.nextProcess = system.nextProcess := by
  by_cases kills : ∃ target signal, call = .kill target signal
  · obtain ⟨target, signal, rfl⟩ := kills
    exact (perform_kill led).1.1
  · exact (perform_frame present (fun target signal equal => kills ⟨target, signal, equal⟩) led).nextProcess

/-- The children of a process after a move of any process, as long as it lives: those that it had before and has not
waited for, and the one that it has made. -/
theorem isChild_step {behaviour : Behaviour σ} (numbered : system.Numbered)
    (moved : system.step behaviour mover = some after) (lives : after.Lives host) (number : Nat) :
    after.IsChild host number ↔
      (system.IsChild host number ∧ ∀ how, mover = host → system.told? behaviour mover ≠ some (number, how)) ∨
        (mover = host ∧ system.nextProcess < after.nextProcess ∧ number = system.nextProcess) := by
  obtain ⟨process, call, present, -, -, asks, how⟩ := step_eq_some moved
  have told : system.told? behaviour mover = (system.perform mover process call).ended? := by
    simp [told?, present, asks]
  have quiet : ∀ {between : System σ}, between.nextProcess = system.nextProcess →
      (system.perform mover process call).ended? = none →
      (between.IsChild host number ↔ system.IsChild host number) →
      (between.IsChild host number ↔
      (system.IsChild host number ∧ ∀ how, mover = host → system.told? behaviour mover ≠ some (number, how)) ∨
        (mover = host ∧ system.nextProcess < between.nextProcess ∧ number = system.nextProcess)) := by
    intro between same none kept
    simp [same, told, none, kept]
  rcases how with ⟨rfl, rfl⟩ | ⟨program, arguments, rfl, rfl⟩ | ⟨-, ⟨reply, between, performed, rfl⟩ | performed |
    ⟨performed, -, rfl⟩⟩
  · have older := numbered.process mover process present
    rw [fork_eq behaviour present older] at lives ⊢
    have silent : system.told? behaviour mover = none := told
    have unknown : number = system.nextProcess → ¬ system.IsChild host number := by
      rintro rfl ⟨other, found, -⟩
      exact Nat.lt_irrefl _ (numbered.process _ other found)
    have made : mover ≠ system.nextProcess := Nat.ne_of_lt older
    by_cases new : number = system.nextProcess
    · subst new
      have absent := unknown rfl
      unfold IsChild at absent ⊢
      rw [Std.ExtTreeMap.getElem?_insert, if_neg (by simpa using made), Std.ExtTreeMap.getElem?_insert_self]
      simp [absent, silent]
    · have others : ¬ system.nextProcess = number := fun same => new same.symm
      by_cases own : mover = number
      · subst own
        simp [IsChild, silent, new, present, Process.answered]
      · simp [IsChild, silent, new, others, own, Std.ExtTreeMap.getElem?_insert]
  · unfold load at lives ⊢
    split
    · exact quiet (nextProcess_answer _ _ _ _) rfl (isChild_answer _ _)
    · exact quiet rfl rfl (isChild_insert present rfl rfl)
  · have led : (system.perform mover process call).Leads between := Effect.leads_of_answer performed
    have kept := (perform_disposes system mover process call).isChild present led (lives_of_answer lives) number
    simp [nextProcess_perform present led, isChild_answer, kept, told]
  · have led : (system.perform mover process call).Leads after := Effect.leads_of_moved performed
    have kept := (perform_disposes system mover process call).isChild present led lives number
    simp [nextProcess_perform present led, kept, told]
  · refine quiet (by simp) (by rw [performed]; rfl) ((isChild_answer _ _).trans (isChild_insert present rfl ?_))
    unfold withoutOpening
    split <;> rfl

/-- Nobody comes to life again. -/
theorem lives_of_step {behaviour : Behaviour σ} (numbered : system.Numbered) (given : host < system.nextProcess)
    (moved : system.step behaviour mover = some after) (lives : after.Lives host) : system.Lives host := by
  by_cases own : mover = host
  · subst own
    obtain ⟨process, -, present, alive, -⟩ := step_eq_some moved
    exact ⟨process, present, alive⟩
  · obtain ⟨later, found, alive⟩ := lives
    obtain ⟨earlier, present, disturbed⟩ := (step_spares numbered moved).others host (Ne.symm own) given later found
    exact ⟨earlier, present, (disturbed.alive alive).1⟩

end kin

section ending

variable {system after : System σ} {mover number : Nat}

/-- The end of a process leaves the endings of the others. -/
theorem ending_of_finish {how : Termination} {later : Process σ}
    (found : (system.finish mover how).processes[number]? = some later) :
    ∃ earlier, system.processes[number]? = some earlier ∧
      (later.ending = earlier.ending ∨ number = mover ∧ later.ending = some how) := by
  cases present : system.processes[mover]? with
  | none =>
    rw [finish_absent how present] at found
    exact ⟨later, found, .inl rfl⟩
  | some process =>
    by_cases own : number = mover
    · subst own
      rw [getElem?_finish_self how present] at found
      cases found
      exact ⟨process, present, .inr ⟨rfl, rfl⟩⟩
    · rw [getElem?_finish how present own] at found
      obtain ⟨earlier, living, rfl⟩ := Option.map_eq_some_iff.mp found
      exact ⟨earlier, living, .inl (system.marked_undisturbed mover number earlier).ending⟩

theorem ending_of_put {process replacement later : Process σ} (present : system.processes[mover]? = some process)
    (same : replacement.ending = process.ending)
    (found : (system.put mover replacement).processes[number]? = some later) :
    ∃ earlier, system.processes[number]? = some earlier ∧ later.ending = earlier.ending := by
  rw [getElem?_put] at found
  split at found
  · rename_i own
    subst own
    cases found
    exact ⟨process, present, same⟩
  · exact ⟨later, found, rfl⟩

/-- A signal ends nobody but its target. -/
theorem ending_of_deliver {target : Nat} {signal : Signal} {later : Process σ}
    (found : (system.deliver target signal).processes[number]? = some later) :
    ∃ earlier, system.processes[number]? = some earlier ∧
      (later.ending = earlier.ending ∨ number = target ∧ later.ending = some (.signaled signal)) := by
  have spared : (∃ earlier, system.processes[number]? = some earlier ∧ later.ending = earlier.ending) →
      ∃ earlier, system.processes[number]? = some earlier ∧
        (later.ending = earlier.ending ∨ number = target ∧ later.ending = some (.signaled signal)) := by
    rintro ⟨earlier, present, same⟩
    exact ⟨earlier, present, .inl same⟩
  unfold deliver at found
  split at found
  · exact spared ⟨later, found, rfl⟩
  rename_i process present
  dsimp only at found
  split at found
  · exact spared ⟨later, found, rfl⟩
  split at found
  · exact ending_of_finish found
  split at found
  · exact spared (ending_of_put present (by rfl) found)
  split at found
  · exact spared (ending_of_put present (by rfl) found)
  split at found
  · rw [put_put] at found
    refine spared (ending_of_put present ?_ found)
    exact (told_undisturbed target signal _).ending
  split at found
  · exact spared (ending_of_put present (by rfl) found)
  split at found
  · rw [put_put] at found
    exact spared (ending_of_put present (by rfl) found)
  · obtain ⟨between, middle, ended⟩ := ending_of_finish found
    obtain ⟨earlier, living, same⟩ := ending_of_put present (by rfl) middle
    exact ⟨earlier, living, ended.imp_left fun kept => kept.trans same⟩

/-- How a process with this number can be ended by a call of another one, or of itself. -/
inductive Ends (mover : Nat) (process : Process σ) (call : Call) (number : Nat) : Termination → Prop where
  | signal (signal : Signal) (sends : call = .kill number signal) : Ends mover process call number (.signaled signal)
  | pipe (own : number = mover) (heeds : Signal.pipe ∉ process.ignored) :
      Ends mover process call number (.signaled Signal.pipe)
  | exit (own : number = mover) (code : Nat) (exits : call = .exit code) :
      Ends mover process call number (.exited (code % 256))

/-- What a call leaves of how a process has ended: it has ended as before, or the call has ended it. -/
def Leaves (system : System σ) (mover : Nat) (process : Process σ) (call : Call) (number : Nat)
    (later : Process σ) : Prop :=
  ∃ earlier, system.processes[number]? = some earlier ∧
    (later.ending = earlier.ending ∨ ∃ how, later.ending = some how ∧ Ends mover process call number how)

theorem leaves_of_perform {process later : Process σ} {call : Call} (present : system.processes[mover]? = some process)
    (led : (system.perform mover process call).Leads after) (found : after.processes[number]? = some later) :
    system.Leaves mover process call number later := by
  have disposes := perform_disposes system mover process call
  generalize system.perform mover process call = effect at led disposes
  cases disposes with
  | blocked => cases led
  | spares effect between leads plain same =>
    obtain rfl := leads.unique led
    rw [same] at found
    exact ⟨later, found, .inl rfl⟩
  | replaces effect between replacement leads plain parent ending same =>
    obtain rfl := leads.unique led
    rw [same] at found
    obtain ⟨earlier, living, kept⟩ := ending_of_put present ending (by simpa [put] using found)
    exact ⟨earlier, living, .inl kept⟩
  | finishes how cause =>
    cases led
    obtain ⟨earlier, living, kept | ⟨own, ended⟩⟩ := ending_of_finish found
    · exact ⟨earlier, living, .inl kept⟩
    · refine ⟨earlier, living, .inr ⟨how, ended, ?_⟩⟩
      obtain ⟨rfl, heeds⟩ | ⟨code, exits, rfl⟩ := cause
      · exact .pipe own heeds
      · exact .exit own code exits
  | delivers effect target signal leads plain sends =>
    obtain rfl := leads.unique led
    obtain ⟨earlier, living, kept | ⟨rfl, ended⟩⟩ := ending_of_deliver found
    · exact ⟨earlier, living, .inl kept⟩
    · exact ⟨earlier, living, .inr ⟨_, ended, .signal signal sends⟩⟩
  | collects child ended how isEnded parent ending waits =>
    cases led
    rw [Std.ExtTreeMap.getElem?_erase] at found
    split at found
    · cases found
    · exact ⟨later, found, .inl rfl⟩

theorem ending_of_answer {behaviour : Behaviour σ} {reply : Reply} {later : Process σ}
    (found : (system.answer behaviour mover reply).processes[number]? = some later) :
    ∃ earlier, system.processes[number]? = some earlier ∧ later.ending = earlier.ending := by
  unfold answer at found
  split at found
  · exact ⟨later, found, rfl⟩
  · rename_i process present
    exact ending_of_put present (by rfl) found

/-- A move leaves the ending of each process that was there, or its call ends it. -/
theorem leaves_of_step {behaviour : Behaviour σ} {later : Process σ} (numbered : system.Numbered)
    (moved : system.step behaviour mover = some after) (known : number < system.nextProcess)
    (found : after.processes[number]? = some later) :
    ∃ process call, system.processes[mover]? = some process ∧ behaviour.next process.program = some call ∧
      system.Leaves mover process call number later := by
  obtain ⟨process, call, present, -, -, asks, how⟩ := step_eq_some moved
  refine ⟨process, call, present, asks, ?_⟩
  have kept : (∃ earlier, system.processes[number]? = some earlier ∧ later.ending = earlier.ending) →
      system.Leaves mover process call number later := fun ⟨earlier, living, same⟩ => ⟨earlier, living, .inl same⟩
  have performed : ∀ {between : System σ} {middle : Process σ}, (system.perform mover process call).Leads between →
      between.processes[number]? = some middle → later.ending = middle.ending →
      system.Leaves mover process call number later := by
    intro between middle led middling same
    unfold Leaves
    rw [same]
    exact leaves_of_perform present led middling
  rcases how with ⟨-, rfl⟩ | ⟨program, arguments, -, rfl⟩ | ⟨-, ⟨reply, between, answers, rfl⟩ | goesOn |
    ⟨-, -, rfl⟩⟩
  · by_cases own : number = mover
    · subst own
      rw [fork_eq behaviour present (numbered.process number process present),
        Std.ExtTreeMap.getElem?_insert_self] at found
      cases found
      exact kept ⟨process, present, rfl⟩
    · obtain ⟨earlier, living, disturbed⟩ :=
        (Spares.fork behaviour numbered present).others number own known later found
      exact kept ⟨earlier, living, disturbed.ending⟩
  · unfold load at found
    split at found
    · exact kept (ending_of_answer found)
    · have counted : { system with loaded := system.loaded + 1 }.processes[mover]? = some process := present
      exact kept (ending_of_put counted (by rfl) found)
  · obtain ⟨middle, middling, same⟩ := ending_of_answer found
    exact performed (Effect.leads_of_answer answers) middling same
  · exact performed (Effect.leads_of_moved goesOn) found rfl
  · obtain ⟨middle, middling, same⟩ := ending_of_answer found
    have unopened : (withoutOpening process).ending = process.ending := by
      unfold withoutOpening
      split <;> rfl
    obtain ⟨earlier, living, unchanged⟩ := ending_of_put present unopened middling
    exact kept ⟨earlier, living, same.trans unchanged⟩

end ending

end System

end Pipework.Kernel
