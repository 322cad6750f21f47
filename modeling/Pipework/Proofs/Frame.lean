import Pipework.Kernel.System

set_option autoImplicit false

/-!
What the calls of one process do to the others. A process keeps its program and its limits whatever others do,
and as long as it lives its descriptors too (`Disturbed`); a call that sends no signal leaves only marks on
others, which say who their parent is and which signals have arrived (`Undisturbed`).
-/

namespace Pipework.Kernel

variable {σ : Type}

/-- What others can do to a process: end it, stop it, or leave marks on it. -/
structure Disturbed (before after : Process σ) : Prop where
  program : after.program = before.program
  limit : after.limit = before.limit
  opening : after.opening = before.opening
  ignored : after.ignored = before.ignored
  alive : after.ending = none → before.ending = none ∧ after.descriptors = before.descriptors

/-- What `mover` can do to another process without sending it a signal. -/
structure Undisturbed (mover : Nat) (before after : Process σ) : Prop where
  program : after.program = before.program
  limit : after.limit = before.limit
  opening : after.opening = before.opening
  descriptors : after.descriptors = before.descriptors
  ending : after.ending = before.ending
  written : after.written = before.written
  stopped : after.stopped = before.stopped
  environment : after.environment = before.environment
  working : after.working = before.working
  ignored : after.ignored = before.ignored
  handled : after.handled = before.handled
  parent : before.parent ≠ some mover → after.parent = before.parent
  interrupted : before.handled = [] → after.interrupted = before.interrupted

theorem Disturbed.refl (process : Process σ) : Disturbed process process :=
  ⟨rfl, rfl, rfl, rfl, fun none => ⟨none, rfl⟩⟩

theorem Disturbed.trans {first second third : Process σ} (before : Disturbed first second)
    (after : Disturbed second third) : Disturbed first third where
  program := after.program.trans before.program
  limit := after.limit.trans before.limit
  opening := after.opening.trans before.opening
  ignored := after.ignored.trans before.ignored
  alive none := by
    obtain ⟨lives, same⟩ := after.alive none
    exact ⟨(before.alive lives).1, same.trans (before.alive lives).2⟩

theorem Undisturbed.refl (mover : Nat) (process : Process σ) : Undisturbed mover process process :=
  ⟨rfl, rfl, rfl, rfl, rfl, rfl, rfl, rfl, rfl, rfl, rfl, fun _ => rfl, fun _ => rfl⟩

theorem Undisturbed.trans {mover : Nat} {first second third : Process σ} (before : Undisturbed mover first second)
    (after : Undisturbed mover second third) : Undisturbed mover first third where
  program := after.program.trans before.program
  limit := after.limit.trans before.limit
  opening := after.opening.trans before.opening
  descriptors := after.descriptors.trans before.descriptors
  ending := after.ending.trans before.ending
  written := after.written.trans before.written
  stopped := after.stopped.trans before.stopped
  environment := after.environment.trans before.environment
  working := after.working.trans before.working
  ignored := after.ignored.trans before.ignored
  handled := after.handled.trans before.handled
  parent notChild := by
    have same := before.parent notChild
    exact (after.parent (by rwa [same])).trans same
  interrupted unhandled := by
    have same := before.interrupted unhandled
    exact (after.interrupted (by rw [before.handled, unhandled])).trans same

theorem Undisturbed.disturbed {mover : Nat} {before after : Process σ} (same : Undisturbed mover before after) :
    Disturbed before after :=
  ⟨same.program, same.limit, same.opening, same.ignored, fun none => ⟨same.ending.symm.trans none, same.descriptors⟩⟩

/-- The system that an effect leads to. -/
inductive Effect.Leads : Effect σ → System σ → Prop where
  | answer (reply : Reply) (system : System σ) : Leads (.answer reply system) system
  | moved (system : System σ) : Leads (.moved system) system

theorem Effect.leads_of_answer {effect : Effect σ} {reply : Reply} {system : System σ}
    (answers : effect = .answer reply system) : effect.Leads system := by
  rw [answers]
  exact .answer reply system

theorem Effect.leads_of_moved {effect : Effect σ} {system : System σ} (moves : effect = .moved system) :
    effect.Leads system := by
  rw [moves]
  exact .moved system

/-- What the calls of one process that make no second one and send no signals leave of a system. -/
structure Frame (mover : Nat) (before after : System σ) : Prop where
  nextProcess : after.nextProcess = before.nextProcess
  nextPipe : before.nextPipe ≤ after.nextPipe
  own : ∀ process : Process σ, after.processes[mover]? = some process →
    ∃ earlier, before.processes[mover]? = some earlier ∧ process.program = earlier.program
  others : ∀ other, other ≠ mover → ∀ process : Process σ, after.processes[other]? = some process →
    ∃ earlier, before.processes[other]? = some earlier ∧ Undisturbed mover earlier process

namespace Frame

variable {mover : Nat} {before between after : System σ}

/-- Nothing happens to processes where the table of processes stays as it is. -/
theorem of_processes (nextProcess : after.nextProcess = before.nextProcess)
    (nextPipe : before.nextPipe ≤ after.nextPipe) (same : after.processes = before.processes) :
    Frame mover before after where
  nextProcess := nextProcess
  nextPipe := nextPipe
  own process present := ⟨process, by rwa [same] at present, rfl⟩
  others other _ process present := ⟨process, by rwa [same] at present, .refl mover process⟩

theorem refl (system : System σ) : Frame mover system system := of_processes rfl (Nat.le_refl _) rfl

theorem trans (first : Frame mover before between) (second : Frame mover between after) :
    Frame mover before after where
  nextProcess := second.nextProcess.trans first.nextProcess
  nextPipe := Nat.le_trans first.nextPipe second.nextPipe
  own process present := by
    obtain ⟨middle, present, later⟩ := second.own process present
    obtain ⟨earlier, present, sooner⟩ := first.own middle present
    exact ⟨earlier, present, later.trans sooner⟩
  others other ne process present := by
    obtain ⟨middle, present, later⟩ := second.others other ne process present
    obtain ⟨earlier, present, sooner⟩ := first.others other ne middle present
    exact ⟨earlier, present, sooner.trans later⟩

/-- A process changes all but its program. -/
theorem of_insert {process replacement : Process σ} (present : before.processes[mover]? = some process)
    (inserted : after.processes = before.processes.insert mover replacement)
    (same : replacement.program = process.program) (nextProcess : after.nextProcess = before.nextProcess)
    (nextPipe : before.nextPipe ≤ after.nextPipe) : Frame mover before after where
  nextProcess := nextProcess
  nextPipe := nextPipe
  own later found := by
    rw [inserted, Std.ExtTreeMap.getElem?_insert_self] at found
    cases found
    exact ⟨process, present, same⟩
  others other ne later found := by
    rw [inserted, Std.ExtTreeMap.getElem?_insert, if_neg (by simpa using ne.symm)] at found
    exact ⟨later, found, .refl mover later⟩

theorem put {process replacement : Process σ} (present : before.processes[mover]? = some process)
    (same : replacement.program = process.program) : Frame mover before (before.put mover replacement) :=
  of_insert present rfl same rfl (Nat.le_refl _)

/-- Processes are taken off the table. -/
theorem erase (child : Nat) :
    Frame mover before { before with processes := before.processes.erase child } where
  nextProcess := rfl
  nextPipe := Nat.le_refl _
  own process found := by
    rw [Std.ExtTreeMap.getElem?_erase] at found
    split at found
    · cases found
    · exact ⟨process, found, rfl⟩
  others other ne process found := by
    rw [Std.ExtTreeMap.getElem?_erase] at found
    split at found
    · cases found
    · exact ⟨process, found, .refl mover process⟩

end Frame

namespace System

theorem insert_insert {processes : Std.ExtTreeMap Nat (Process σ)} {number : Nat} {first second : Process σ} :
    (processes.insert number first).insert number second = processes.insert number second := by
  apply Std.ExtTreeMap.ext_getElem?
  intro other
  simp only [Std.ExtTreeMap.getElem?_insert]
  split <;> rfl

@[simp] theorem put_put (system : System σ) (number : Nat) (first second : Process σ) :
    (system.put number first).put number second = system.put number second := by
  simp [put, insert_insert]

@[simp] theorem nextProcess_put (system : System σ) (number : Nat) (process : Process σ) :
    (system.put number process).nextProcess = system.nextProcess := rfl

@[simp] theorem nextPipe_put (system : System σ) (number : Nat) (process : Process σ) :
    (system.put number process).nextPipe = system.nextPipe := rfl

@[simp] theorem pipes_put (system : System σ) (number : Nat) (process : Process σ) :
    (system.put number process).pipes = system.pipes := rfl

@[simp] theorem files_put (system : System σ) (number : Nat) (process : Process σ) :
    (system.put number process).files = system.files := rfl

@[simp] theorem getElem?_put_self (system : System σ) (number : Nat) (process : Process σ) :
    (system.put number process).processes[number]? = some process := by
  simp [put]

theorem getElem?_put (system : System σ) (number other : Nat) (process : Process σ) :
    (system.put number process).processes[other]? =
      if number = other then some process else system.processes[other]? := by
  simp [put, Std.ExtTreeMap.getElem?_insert]

/-- Where no process was touched each is what it was. -/
theorem eq_of_processes {system after : System σ} {number : Nat} {process later : Process σ}
    (same : after.processes = system.processes) (present : system.processes[number]? = some process)
    (found : after.processes[number]? = some later) : process = later := by
  rwa [same, present, Option.some.injEq] at found

theorem holds_iff {system : System σ} {object : Object} :
    system.holds object = true ↔ ∃ (number : Nat) (process : Process σ),
      system.processes[number]? = some process ∧ process.descriptors.refersTo object = true := by
  simp [holds, Std.ExtTreeMap.mem_toList_iff_getElem?_eq_some]

/-- A process that is told of a signal keeps all but the marks. -/
theorem told_undisturbed (mover : Nat) (signal : Signal) (process : Process σ) :
    Undisturbed mover process (told signal process) := by
  unfold told
  split
  · rename_i handles
    refine ⟨rfl, rfl, rfl, rfl, rfl, rfl, rfl, rfl, rfl, rfl, rfl, fun _ => rfl, fun unhandled => ?_⟩
    simp [unhandled] at handles
  · exact .refl mover process

/-- The marks that the end of a process leaves on another one. -/
def marked (system : System σ) (number other : Nat) (process : Process σ) : Process σ :=
  let process :=
    if some other = (system.processes[number]?).bind Process.parent then told Signal.child process
    else process
  if process.parent = some number then { process with parent := none } else process

/-- Only the children of a process lose their parent when it ends. -/
theorem marked_undisturbed (system : System σ) (number other : Nat) (process : Process σ) :
    Undisturbed number process (system.marked number other process) := by
  have orphaned : ∀ told : Process σ, Undisturbed number process told →
      Undisturbed number process
        (if told.parent = some number then { told with parent := none } else told) := by
    intro told same
    split
    · rename_i isChild
      refine ⟨same.program, same.limit, same.opening, same.descriptors, same.ending, same.written, same.stopped,
        same.environment, same.working, same.ignored, same.handled, fun notChild => ?_, same.interrupted⟩
      exact absurd ((same.parent notChild).symm.trans isChild) notChild
    · exact same
  dsimp only [marked]
  apply orphaned
  split
  · exact told_undisturbed number Signal.child process
  · exact .refl number process

/-- The end of a process releases its descriptors and leaves marks on others. -/
theorem finish_eq {system : System σ} {number : Nat} {process : Process σ} (how : Termination)
    (present : system.processes[number]? = some process) :
    system.finish number how =
      { system with
        processes := (system.processes.map (system.marked number)).insert number
          { system.marked number number process with
            ending := some how
            descriptors := Std.ExtTreeMap.empty } } := by
  have found : (system.processes.map (system.marked number))[number]? =
      some (system.marked number number process) := by
    simp [present]
  unfold finish
  dsimp only
  split
  · rename_i gone
    exact absurd (gone.symm.trans found) (by simp)
  · rename_i there
    obtain rfl := Option.some.inj (there.symm.trans found)
    rfl

/-- What the end of a process leaves of another one. -/
theorem getElem?_finish {system : System σ} {number other : Nat} {process : Process σ} (how : Termination)
    (present : system.processes[number]? = some process) (ne : other ≠ number) :
    (system.finish number how).processes[other]? =
      (system.processes[other]?).map (system.marked number other) := by
  simp [finish_eq how present, Std.ExtTreeMap.getElem?_insert, ne.symm]

theorem finish_absent {system : System σ} {number : Nat} (how : Termination)
    (absent : system.processes[number]? = none) : system.finish number how = system := by
  have gone : (system.processes.map (system.marked number))[number]? = none := by
    rw [Std.ExtTreeMap.getElem?_map, absent]
    rfl
  unfold finish
  dsimp only
  split
  · rfl
  · rename_i there
    exact absurd (there.symm.trans gone) (by simp)

theorem getElem?_finish_self {system : System σ} {number : Nat} {process : Process σ} (how : Termination)
    (present : system.processes[number]? = some process) :
    (system.finish number how).processes[number]? =
      some { system.marked number number process with
        ending := some how, descriptors := Std.ExtTreeMap.empty } := by
  simp [finish_eq how present]

/-- What the end of a process leaves of any process, itself included. -/
theorem finish_disturbed {system : System σ} {number other : Nat} {how : Termination} {later : Process σ}
    (found : (system.finish number how).processes[other]? = some later) :
    ∃ earlier, system.processes[other]? = some earlier ∧ Disturbed earlier later := by
  cases present : system.processes[number]? with
  | none =>
    rw [finish_absent how present] at found
    exact ⟨later, found, .refl later⟩
  | some process =>
    by_cases same : other = number
    · subst same
      rw [getElem?_finish_self how present] at found
      cases found
      have marks := system.marked_undisturbed other other process
      exact ⟨process, present, marks.program, marks.limit, marks.opening, marks.ignored, by simp⟩
    · rw [getElem?_finish how present same] at found
      obtain ⟨earlier, living, rfl⟩ := Option.map_eq_some_iff.mp found
      exact ⟨earlier, living, (system.marked_undisturbed number other earlier).disturbed⟩

theorem nextProcess_finish (system : System σ) (number : Nat) (how : Termination) :
    (system.finish number how).nextProcess = system.nextProcess ∧
      (system.finish number how).nextPipe = system.nextPipe := by
  cases present : system.processes[number]? with
  | none =>
    rw [finish_absent how present]
    exact ⟨rfl, rfl⟩
  | some process =>
    rw [finish_eq how present]
    exact ⟨rfl, rfl⟩

/-- A process that ends leaves marks on others. -/
theorem finish_frame (system : System σ) (mover : Nat) (how : Termination) :
    Frame mover system (system.finish mover how) where
  nextProcess := (nextProcess_finish system mover how).1
  nextPipe := Nat.le_of_eq (nextProcess_finish system mover how).2.symm
  own later found := by
    obtain ⟨earlier, living, disturbed⟩ := finish_disturbed found
    exact ⟨earlier, living, disturbed.program⟩
  others other ne later found := by
    cases present : system.processes[mover]? with
    | none =>
      rw [finish_absent how present] at found
      exact ⟨later, found, .refl mover later⟩
    | some process =>
      rw [getElem?_finish how present ne] at found
      obtain ⟨earlier, living, rfl⟩ := Option.map_eq_some_iff.mp found
      exact ⟨earlier, living, system.marked_undisturbed mover other earlier⟩

/-- Putting in place of a process what others could have made of it disturbs no more. -/
theorem put_disturbed {system : System σ} {number other : Nat} {process replacement later : Process σ}
    (present : system.processes[number]? = some process) (disturbed : Disturbed process replacement)
    (found : (system.put number replacement).processes[other]? = some later) :
    ∃ earlier, system.processes[other]? = some earlier ∧ Disturbed earlier later := by
  rw [getElem?_put] at found
  split at found
  · rename_i same
    subst same
    cases found
    exact ⟨process, present, disturbed⟩
  · exact ⟨later, found, .refl later⟩

/-- The delivery of a signal can stop or end its target. -/
theorem deliver_disturbed {system : System σ} {target other : Nat} {signal : Signal} {later : Process σ}
    (found : (system.deliver target signal).processes[other]? = some later) :
    ∃ earlier, system.processes[other]? = some earlier ∧ Disturbed earlier later := by
  have unmoved : ∀ {later : Process σ}, system.processes[other]? = some later →
      ∃ earlier, system.processes[other]? = some earlier ∧ Disturbed earlier later :=
    fun found => ⟨_, found, .refl _⟩
  unfold deliver at found
  split at found
  · exact unmoved found
  rename_i process present
  have stopping : ∀ stopped, Disturbed process { process with stopped } := fun _ =>
    ⟨rfl, rfl, rfl, rfl, fun none => ⟨none, rfl⟩⟩
  split at found
  · exact unmoved found
  split at found
  · exact finish_disturbed found
  split at found
  · exact put_disturbed present (stopping true) found
  -- What is done to the target from here on is done to one that goes on.
  have going : ∀ {later : Process σ}, (system.put target { process with
      stopped := process.stopped && signal != Signal.continued }).processes[other]? = some later →
      ∃ earlier, system.processes[other]? = some earlier ∧ Disturbed earlier later :=
    put_disturbed present (stopping _)
  have goneOn : ∀ {later : Process σ},
      (∃ between, (system.put target { process with
        stopped := process.stopped && signal != Signal.continued }).processes[other]? = some between ∧
          Disturbed between later) →
      ∃ earlier, system.processes[other]? = some earlier ∧ Disturbed earlier later := by
    rintro later ⟨between, found, disturbed⟩
    obtain ⟨earlier, found, sooner⟩ := going found
    exact ⟨earlier, found, sooner.trans disturbed⟩
  dsimp only at found
  split at found
  · exact going found
  split at found
  · exact goneOn (put_disturbed (getElem?_put_self _ _ _) (told_undisturbed target signal _).disturbed found)
  split at found
  · exact going found
  split at found
  · have stopped : Disturbed { process with stopped := process.stopped && signal != Signal.continued }
        { process with stopped := true } :=
      ⟨rfl, rfl, rfl, rfl, fun none => ⟨none, rfl⟩⟩
    exact goneOn (put_disturbed (getElem?_put_self _ _ _) stopped found)
  · exact goneOn (finish_disturbed found)

theorem nextProcess_deliver (system : System σ) (target : Nat) (signal : Signal) :
    (system.deliver target signal).nextProcess = system.nextProcess ∧
      (system.deliver target signal).nextPipe = system.nextPipe := by
  have finished := nextProcess_finish (σ := σ)
  unfold deliver
  split
  · exact ⟨rfl, rfl⟩
  dsimp only
  repeat' split
  all_goals first | exact ⟨rfl, rfl⟩ | exact finished _ _ _

variable {mover : Nat} {process : Process σ} {system after : System σ}

theorem tableAnswer_frame (present : system.processes[mover]? = some process)
    {result : Except Errno DescriptorTable} (led : (system.tableAnswer mover process result).Leads after) :
    Frame mover system after := by
  cases result with
  | error errno =>
    cases led
    exact .refl system
  | ok table =>
    cases led
    exact .put present rfl

theorem numberAnswer_frame (present : system.processes[mover]? = some process)
    {result : Except Errno (Nat × DescriptorTable)} (led : (system.numberAnswer mover process result).Leads after) :
    Frame mover system after := by
  cases result with
  | error errno =>
    cases led
    exact .refl system
  | ok given =>
    cases led
    exact .put present rfl

theorem filesAnswer_frame {result : Except Errno Files} (led : (system.filesAnswer result).Leads after) :
    Frame mover system after := by
  cases result with
  | error errno =>
    cases led
    exact .refl system
  | ok files =>
    cases led
    exact .of_processes rfl (Nat.le_refl _) rfl

theorem makePipe_frame (present : system.processes[mover]? = some process)
    (led : (system.makePipe mover process).Leads after) : Frame mover system after := by
  unfold makePipe at led
  dsimp only at led
  split at led
  · cases led
    exact .refl system
  split at led
  · cases led
    exact .refl system
  · cases led
    exact .of_insert present rfl rfl rfl (Nat.le_succ _)

theorem readPipe_frame {pipe limit : Nat} (led : (system.readPipe pipe limit).Leads after) :
    Frame mover system after := by
  unfold readPipe at led
  split at led
  · cases led
    exact .refl system
  split at led
  · cases led
    exact .refl system
  split at led
  · split at led
    · cases led
      exact .refl system
    split at led
    · cases led
      exact .refl system
    · cases led
  · cases led
    exact .of_processes rfl (Nat.le_refl _) rfl

theorem writePipe_frame (present : system.processes[mover]? = some process) {pipe : Nat} {data : Bytes}
    (led : (system.writePipe mover process pipe data).Leads after) : Frame mover system after := by
  have filled : ∀ replacement, Frame mover system (system.putPipe pipe replacement) :=
    fun _ => .of_processes rfl (Nat.le_refl _) rfl
  unfold writePipe at led
  split at led
  · cases led
    exact .refl system
  rename_i present' found
  split at led
  · cases led
    exact .refl system
  split at led
  · split at led
    · cases led
      exact .refl system
    split at led
    · cases led
      exact .refl system
    · cases led
      exact system.finish_frame mover _
  · generalize (if process.written = 0 then Pipe.accept system.shape present' data
      else Pipe.extend system.shape present' (data.drop process.written)) = taken at led
    dsimp only at led
    split at led
    · cases led
      exact filled _
    split at led
    · split at led
      · cases led
        exact .refl system
      · cases led
        exact filled _
    split at led
    · cases led
    · cases led
      exact .of_insert present rfl rfl rfl (Nat.le_refl _)

theorem openQueue_frame (present : system.processes[mover]? = some process) {pipe : Nat} {access : Access}
    (led : (system.openQueue mover process pipe access).Leads after) : Frame mover system after := by
  unfold openQueue at led
  split at led
  · cases led
    exact .refl system
  · rename_i descriptor table allocated
    by_cases complete : (decide (access = .update) ||
        system.holds (if access = .read then .writeEnd pipe else .readEnd pipe)) = true
    · simp only [complete, if_true] at led
      cases led
      exact .of_insert present rfl rfl rfl (Nat.le_refl _)
    · simp only [complete, if_false, Bool.false_eq_true] at led
      cases led
      exact .of_insert present insert_insert rfl rfl (Nat.le_refl _)

theorem awaitPartner_frame {descriptor before : Nat}
    (led : (system.awaitPartner process descriptor before).Leads after) : Frame mover system after := by
  unfold awaitPartner at led
  split at led
  · split at led
    · cases led
    · cases led
      exact .refl system
  · split at led
    · cases led
    · cases led
      exact .refl system
  · cases led
    exact .refl system

theorem openFile_frame (present : system.processes[mover]? = some process) {path : Bytes} {access : Access}
    (led : (system.openFile mover process path access).Leads after) : Frame mover system after := by
  have given : ∀ (object : Object) (files : Files),
      (numberAnswer { system with files } mover process
        (process.descriptors.allocate process.limit 0 ⟨object, false⟩)).Leads after →
      Frame mover system after := by
    intro object files led
    have same : Frame mover system { system with files } := .of_processes rfl (Nat.le_refl _) rfl
    have kept : ({ system with files } : System σ).processes[mover]? = some process := present
    exact same.trans (numberAnswer_frame kept led)
  unfold openFile at led
  dsimp only at led
  repeat' split at led
  all_goals
    first
    | exact awaitPartner_frame led
    | exact openQueue_frame present led
    | exact given _ _ led
    | exact given _ system.files led
    | cases led
      exact .refl system

theorem waitAny_frame (led : (system.waitAny mover).Leads after) : Frame mover system after := by
  unfold waitAny at led
  split at led
  · cases led
    exact .erase _
  · split at led
    · cases led
      exact .refl system
    · cases led

theorem waitFor_frame {child : Nat} (led : (system.waitFor mover child).Leads after) :
    Frame mover system after := by
  unfold waitFor at led
  split at led
  · cases led
    exact .refl system
  split at led
  · cases led
    exact .refl system
  split at led
  · cases led
  · cases led
    exact .erase _

theorem program_configured {setting : Setting} {replacement : Process σ}
    (configured : system.configured process setting = .ok replacement) :
    replacement.program = process.program := by
  unfold System.configured at configured
  split at configured
  · cases configured
    rfl
  · split at configured
    · cases configured
    split at configured
    · cases configured
    split at configured
    · cases configured
    split at configured
    · cases configured
      rfl
    · cases configured
  · cases configured
    rfl
  · cases configured
    split <;> rfl

/-- A call that starts no program and sends no signal. -/
theorem perform_frame (present : system.processes[mover]? = some process) {call : Call}
    (quiet : ∀ target signal, call ≠ .kill target signal)
    (led : (system.perform mover process call).Leads after) : Frame mover system after := by
  unfold perform at led
  dsimp only at led
  split at led
  · exact makePipe_frame present led
  · exact tableAnswer_frame present led
  · exact tableAnswer_frame present led
  · exact numberAnswer_frame present led
  · exact tableAnswer_frame present led
  · split at led
    · cases led
      exact .refl system
    · cases led
      unfold setAnswerAtOnce
      split <;> exact .of_processes rfl (Nat.le_refl _) rfl
  · split at led
    · cases led
      exact .refl system
    split at led
    · exact readPipe_frame led
    · exact readPipe_frame led
    · cases led
      exact .refl system
    · split at led
      · cases led
        exact .refl system
      · cases led
        exact .of_processes rfl (Nat.le_refl _) rfl
  · split at led
    · cases led
      exact .refl system
    split at led
    · cases led
      exact .refl system
    · exact writePipe_frame present led
    · exact writePipe_frame present led
    · split at led
      · cases led
        exact .refl system
      · cases led
        exact .of_processes rfl (Nat.le_refl _) rfl
  · split at led
    · cases led
      exact .refl system
    split at led
    · cases led
      exact .refl system
    · cases led
      exact .refl system
    · cases led
      exact .refl system
    · split at led
      · cases led
        exact .refl system
      · cases led
        exact .of_processes rfl (Nat.le_refl _) rfl
  · exact openFile_frame present led
  · cases led
    exact .refl system
  · have made : Frame mover system
        { system with pipes := system.pipes.insert system.nextPipe {}, nextPipe := system.nextPipe + 1 } :=
      .of_processes rfl (Nat.le_succ _) rfl
    exact made.trans (filesAnswer_frame led)
  · exact filesAnswer_frame led
  · split at led
    · cases led
      exact .refl system
    · rename_i configured
      cases led
      exact .put present (program_configured configured)
  · exact waitAny_frame led
  · exact waitFor_frame led
  · exact absurd rfl (quiet _ _)
  · cases led
    exact .put present rfl
  · split at led
    · cases led
      exact .put present rfl
    · split at led
      · cases led
        exact .refl system
      · cases led
  · cases led
    exact system.finish_frame mover _
  · cases led
    exact .refl system
  · cases led
    exact .refl system
  · cases led
    exact .refl system

/-- A signal that is sent disturbs its target. -/
theorem perform_kill {target : Nat} {signal : Signal}
    (led : (system.perform mover process (.kill target signal)).Leads after) :
    (after.nextProcess = system.nextProcess ∧ after.nextPipe = system.nextPipe) ∧
      ∀ (other : Nat) (later : Process σ), after.processes[other]? = some later →
        ∃ earlier, system.processes[other]? = some earlier ∧ Disturbed earlier later := by
  have unmoved : (system.nextProcess = system.nextProcess ∧ system.nextPipe = system.nextPipe) ∧
      ∀ (other : Nat) (later : Process σ), system.processes[other]? = some later →
        ∃ earlier, system.processes[other]? = some earlier ∧ Disturbed earlier later :=
    ⟨⟨rfl, rfl⟩, fun _ later found => ⟨later, found, .refl later⟩⟩
  simp only [perform] at led
  split at led
  · cases led
    exact unmoved
  · by_cases zero : signal = 0
    · rw [if_pos zero] at led
      split at led <;> (cases led; exact unmoved)
    · rw [if_neg zero] at led
      have delivered := system.nextProcess_deliver target signal
      split at led <;> (cases led; exact ⟨delivered, fun _ _ found => deliver_disturbed found⟩)

end System

end Pipework.Kernel
