import Pipework.Proofs.Proceedings
import Pipework.Proofs.Recasting

set_option autoImplicit false

/-!
The kernel does not look into programs. If all programs of a system are replaced in such a way that they make the same
calls and go on accordingly, then whatever moves are made, the programs are the only difference (`step_map`). So systems
that differ in nothing but what their programs keep to themselves have the same proceedings (`Proceedings.of_map_eq`).
-/

namespace Pipework

namespace Kernel

variable {σ : Type} {f : σ → σ}

/-- A process with its program replaced. -/
def Process.map (f : σ → σ) (process : Process σ) : Process σ := { process with program := f process.program }

/-- A system with all programs replaced. -/
def System.map (f : σ → σ) (system : System σ) : System σ :=
  { system with processes := system.processes.map fun _ => Process.map f }

/-- The effect of a call on a system with all programs replaced. -/
def Effect.map (f : σ → σ) : Effect σ → Effect σ
  | .answer reply system => .answer reply (system.map f)
  | .moved system => .moved (system.map f)
  | .blocked => .blocked

/-- Programs can be replaced so that what acts in one way before acts in another way afterwards. -/
structure Behaviour.Replaces (f : σ → σ) (first second : Behaviour σ) : Prop where
  next : ∀ program, second.next (f program) = first.next program
  resume : ∀ program reply, second.resume (f program) reply = f (first.resume program reply)
  load : ∀ files working environment program arguments,
    second.load files working environment program arguments =
      (first.load files working environment program arguments).map f

namespace Process

variable (process : Process σ)

@[simp] theorem descriptors_map : (process.map f).descriptors = process.descriptors := rfl

@[simp] theorem limit_map : (process.map f).limit = process.limit := rfl

@[simp] theorem environment_map : (process.map f).environment = process.environment := rfl

@[simp] theorem ending_map : (process.map f).ending = process.ending := rfl

@[simp] theorem written_map : (process.map f).written = process.written := rfl

@[simp] theorem deadline_map : (process.map f).deadline = process.deadline := rfl

@[simp] theorem opening_map : (process.map f).opening = process.opening := rfl

@[simp] theorem working_map : (process.map f).working = process.working := rfl

@[simp] theorem mask_map : (process.map f).mask = process.mask := rfl

@[simp] theorem ignored_map : (process.map f).ignored = process.ignored := rfl

theorem released_map (call : Call) : (process.map f).released call = (process.released call).map f := by
  cases call <;> rfl

end Process

namespace System

variable (system : System σ) (number : Nat) (process : Process σ)

@[simp] theorem pipes_map : (system.map f).pipes = system.pipes := rfl

@[simp] theorem nextPipe_map : (system.map f).nextPipe = system.nextPipe := rfl

@[simp] theorem files_map : (system.map f).files = system.files := rfl

@[simp] theorem shape_map : (system.map f).shape = system.shape := rfl

@[simp] theorem clock_map : (system.map f).clock = system.clock := rfl

@[simp] theorem now_map : (system.map f).now = system.now := rfl

@[simp] theorem getElem?_map : (system.map f).processes[number]? = (system.processes[number]?).map (Process.map f) := by
  simp [map]

theorem ext_processes {first second : System σ}
    (same : ∀ number : Nat, first.processes[number]? = second.processes[number]?)
    (others : { first with processes := second.processes } = second) : first = second := by
  rw [← others, ← Std.ExtTreeMap.ext_getElem? same]

@[simp] theorem put_map : (system.map f).put number (process.map f) = (system.put number process).map f := by
  refine ext_processes (fun other => ?_) rfl
  rw [getElem?_map, getElem?_put, getElem?_put, getElem?_map]
  split <;> rfl

@[simp] theorem putPipe_map (pipe : Pipe) :
    (system.map f).putPipe number pipe = (system.putPipe number pipe).map f := rfl

@[simp] theorem putTable_map (table : DescriptorTable) :
    (system.map f).putTable number (process.map f) table = (system.putTable number process table).map f :=
  put_map system number { process with descriptors := table }

@[simp] theorem holds_map (object : Object) : (system.map f).holds object = system.holds object := by
  simp only [holds, map, Std.ExtTreeMap.toList_map, List.any_map]
  rfl

@[simp] theorem isRunning_map : (system.map f).isRunning number = system.isRunning number := by
  simp only [isRunning, getElem?_map, Option.any_map]
  rfl

/-- What is done under a condition can be done before or after programs are replaced. -/
theorem ite_map {α β : Type} {f : α → β} {condition other : Prop} [Decidable condition] [Decidable other]
    {first second : α} {third fourth : β} (same : other = condition) (yes : third = f first) (no : fourth = f second) :
    (if other then third else fourth) = f (if condition then first else second) := by
  subst yes no
  rw [apply_ite f]
  exact ite_congr same (fun _ => rfl) fun _ => rfl

theorem told_map (signal : Signal) : told signal (process.map f) = (told signal process).map f := ite_map rfl rfl rfl

theorem marked_map (other : Nat) : (system.map f).marked number other (process.map f) =
    (system.marked number other process).map f := by
  have parent : ((system.map f).processes[number]?).bind Process.parent =
      (system.processes[number]?).bind Process.parent := by
    rw [getElem?_map]
    cases system.processes[number]? <;> rfl
  simp only [marked, parent, told_map]
  rw [← apply_ite (Process.map f)]
  exact ite_map rfl rfl rfl

@[simp] theorem finish_map (how : Termination) :
    (system.map f).finish number how = (system.finish number how).map f := by
  cases present : system.processes[number]? with
  | none => rw [finish_absent how present, finish_absent how (by simp [present])]
  | some process =>
    have there : (system.map f).processes[number]? = some (process.map f) := by simp [present]
    refine ext_processes (fun other => ?_) (by rw [finish_eq how there, finish_eq how present]; rfl)
    by_cases own : other = number
    · subst own
      rw [getElem?_finish_self how there, getElem?_map, getElem?_finish_self how present, marked_map]
      rfl
    · rw [getElem?_finish how there own, getElem?_map, getElem?_map, getElem?_finish how present own]
      cases system.processes[other]? with
      | none => rfl
      | some process => simp [marked_map]

@[simp] theorem deliver_map (signal : Signal) :
    (system.map f).deliver number signal = (system.deliver number signal).map f := by
  unfold deliver
  rw [getElem?_map]
  cases system.processes[number]? with
  | none => rfl
  | some process =>
    dsimp only [Option.map_some]
    refine ite_map rfl rfl (ite_map rfl (finish_map _ _ _) ?_)
    refine ite_map rfl (put_map _ _ { process with stopped := true }) ?_
    let awake : Process σ := { process with stopped := process.stopped && signal != Signal.continued }
    have woken : (system.map f).put number (awake.map f) = (system.put number awake).map f :=
      put_map system number awake
    refine ite_map rfl woken (ite_map rfl ?handles (ite_map rfl woken (ite_map rfl ?stops ?ends)))
    case handles =>
      change ((system.map f).put number (awake.map f)).put number (told signal (awake.map f)) = _
      rw [woken, told_map, put_map]
    case stops =>
      change ((system.map f).put number (awake.map f)).put number (Process.map f { awake with stopped := true }) = _
      rw [woken, put_map]
    case ends =>
      change ((system.map f).put number (awake.map f)).finish number (.signaled signal) = _
      rw [woken, finish_map]

@[simp] theorem childrenOf_map : (system.map f).childrenOf number =
    (system.childrenOf number).map fun entry => (entry.1, entry.2.map f) := by
  simp only [childrenOf, map, Std.ExtTreeMap.toList_map, List.filter_map]
  rfl

@[simp] theorem endedChild?_map : (system.map f).endedChild? number = system.endedChild? number := by
  simp only [endedChild?, childrenOf_map, List.findSome?_map]
  rfl

@[simp] theorem erase_map (child : Nat) :
    { system.map f with processes := (system.map f).processes.erase child } =
      ({ system with processes := system.processes.erase child } : System σ).map f := by
  refine ext_processes (fun other => ?_) rfl
  simp only [getElem?_map, Std.ExtTreeMap.getElem?_erase]
  split <;> rfl

theorem tableOf_map : (system.map f).tableOf number = system.tableOf number := by
  simp only [tableOf, getElem?_map, Option.map_map]
  rfl

theorem processPath?_map (path : Bytes) :
    (system.map f).processPath? number path = system.processPath? number path := by
  have contains : (system.map f).processes.contains = system.processes.contains := by
    funext other
    exact Std.ExtTreeMap.contains_map
  simp only [processPath?, contains]

theorem factsOf_map (object : Object) : (system.map f).factsOf object = system.factsOf object := by
  cases object <;> rfl

theorem inspect_map (path : Bytes) (followLast : Bool) :
    (system.map f).inspect number (process.map f) path followLast = system.inspect number process path followLast := by
  simp only [inspect, processPath?_map, tableOf_map, factsOf_map]
  rfl

theorem namesAt_map (path : Bytes) :
    (system.map f).namesAt number (process.map f) path = system.namesAt number process path := by
  simp only [namesAt, processPath?_map, tableOf_map]
  rfl

theorem reply_map (query : Query) :
    (system.map f).reply number (process.map f) query = system.reply number process query := by
  cases query <;> simp only [reply, inspect_map, namesAt_map, factsOf_map] <;> rfl

theorem tableAnswer_map (result : Except Errno DescriptorTable) :
    (system.map f).tableAnswer number (process.map f) result = (system.tableAnswer number process result).map f := by
  cases result with
  | error errno => rfl
  | ok table => exact congrArg (Effect.answer .done) (putTable_map system number process table)

theorem numberAnswer_map (result : Except Errno (Nat × DescriptorTable)) :
    (system.map f).numberAnswer number (process.map f) result = (system.numberAnswer number process result).map f := by
  cases result with
  | error errno => rfl
  | ok value => exact congrArg (Effect.answer _) (putTable_map system number process value.2)

theorem filesAnswer_map (result : Except Errno Files) :
    (system.map f).filesAnswer result = (system.filesAnswer result).map f := by
  cases result <;> rfl

theorem makePipe_map : (system.map f).makePipe number (process.map f) = (system.makePipe number process).map f := by
  simp only [makePipe, Process.descriptors_map, Process.limit_map, nextPipe_map]
  cases process.descriptors.allocate process.limit 0 ⟨.readEnd system.nextPipe, true⟩ with
  | error errno => rfl
  | ok read =>
    dsimp only
    cases read.2.allocate process.limit 0 ⟨.writeEnd system.nextPipe, true⟩ with
    | error errno => rfl
    | ok write =>
      dsimp only
      rw [putTable_map]
      rfl

theorem readPipe_map (limit : Nat) : (system.map f).readPipe number limit = (system.readPipe number limit).map f := by
  simp only [readPipe, pipes_map, holds_map]
  cases system.pipes[number]? with
  | none => rfl
  | some pipe => exact ite_map rfl rfl (ite_map rfl (ite_map rfl rfl (ite_map rfl rfl rfl)) rfl)

theorem writePipe_map (pipe : Nat) (data : Bytes) :
    (system.map f).writePipe number (process.map f) pipe data = (system.writePipe number process pipe data).map f := by
  have progress : ∀ (system : System σ) (written : Nat), (system.map f).put number { process.map f with written } =
      (system.put number { process with written }).map f := fun system written =>
    put_map system number { process with written }
  simp only [writePipe, pipes_map, holds_map, shape_map, Process.written_map, Process.ignored_map, finish_map]
  cases system.pipes[pipe]? with
  | none => rfl
  | some found =>
    refine ite_map rfl rfl (ite_map rfl (ite_map rfl rfl (ite_map rfl rfl rfl)) ?_)
    by_cases begun : process.written = 0
    all_goals
      simp only [begun, if_true, if_false]
      refine ite_map rfl rfl (ite_map rfl (ite_map rfl rfl rfl) (ite_map rfl rfl ?_))
      refine congrArg Effect.moved ?_
      rw [putPipe_map]
      exact progress _ _

theorem openQueue_map (pipe : Nat) (access : Access) :
    (system.map f).openQueue number (process.map f) pipe access =
      (system.openQueue number process pipe access).map f := by
  simp only [openQueue, pipes_map, holds_map, Process.descriptors_map, Process.limit_map]
  cases process.descriptors.allocate process.limit 0 ⟨endFor access pipe, false⟩ with
  | error errno => rfl
  | ok opened =>
    dsimp only
    refine ite_map rfl ?_ ?_
    · rw [putPipe_map, putTable_map]
      rfl
    · rw [putPipe_map, putTable_map]
      exact congrArg Effect.moved (put_map _ _ { process with descriptors := opened.2, opening := some (opened.1, _) })

theorem awaitPartner_map (descriptor before : Nat) :
    (system.map f).awaitPartner (process.map f) descriptor before =
      (system.awaitPartner process descriptor before).map f := by
  simp only [awaitPartner, pipes_map, Process.descriptors_map]
  cases (process.descriptors[descriptor]?).map Descriptor.object with
  | none => rfl
  | some object => cases object <;> first | rfl | exact ite_map rfl rfl rfl

theorem openFile_map (path : Bytes) (access : Access) :
    (system.map f).openFile number (process.map f) path access =
      (system.openFile number process path access).map f := by
  have given : ∀ (system : System σ) (object : Object), (system.map f).numberAnswer number (process.map f)
      ((process.map f).descriptors.allocate (process.map f).limit 0 ⟨object, false⟩) =
        (system.numberAnswer number process (process.descriptors.allocate process.limit 0 ⟨object, false⟩)).map f :=
    fun system object => numberAnswer_map system number process _
  simp only [openFile, processPath?_map, tableOf_map, files_map, now_map, Process.opening_map, Process.working_map,
    Process.mask_map]
  cases process.opening with
  | some begun => exact awaitPartner_map system process begun.1 begun.2
  | none =>
    cases system.processPath? number path with
    | none =>
      cases system.files.openPath system.now process.working process.mask path access with
      | error errno => rfl
      | ok value =>
        dsimp only
        split
        · exact openQueue_map system number process _ access
        · exact given { system with files := value.2 } (.file value.1)
    | some named =>
      cases named with
      | descriptor owner descriptor =>
        dsimp only
        cases (system.tableOf owner)[descriptor]? with
        | none => rfl
        | some entry =>
          obtain ⟨object, keeps⟩ := entry
          cases object with
          | file opening =>
            dsimp only [Option.map_some]
            cases system.files.openings[opening]? with
            | none => rfl
            | some opening =>
              dsimp only
              cases system.files.reopen system.now opening.file access with
              | error errno => rfl
              | ok value =>
                dsimp only
                split
                · exact openQueue_map system number process _ access
                · exact given { system with files := value.2 } (.file value.1)
          | _ => exact given system _
      | _ =>
        cases system.files.openPath system.now process.working process.mask path access with
        | error errno => rfl
        | ok value =>
          dsimp only
          split
          · exact openQueue_map system number process _ access
          · exact given { system with files := value.2 } (.file value.1)

theorem waitAny_map : (system.map f).waitAny number = (system.waitAny number).map f := by
  simp only [waitAny, endedChild?_map, childrenOf_map, List.isEmpty_map]
  cases system.endedChild? number with
  | none => exact ite_map rfl rfl rfl
  | some child => exact congrArg (Effect.answer _) (erase_map system child.1)

theorem waitFor_map (child : Nat) : (system.map f).waitFor number child = (system.waitFor number child).map f := by
  simp only [waitFor, getElem?_map]
  cases system.processes[child]? with
  | none => rfl
  | some process =>
    refine ite_map rfl rfl ?_
    simp only [Process.ending_map]
    cases process.ending with
    | none => rfl
    | some how => exact congrArg (Effect.answer _) (erase_map system child)

theorem configured_map (setting : Setting) :
    (system.map f).configured (process.map f) setting = (system.configured process setting).map (Process.map f) := by
  cases setting with
  | workingDirectory path =>
    simp only [configured, files_map, Process.working_map]
    cases system.files.find process.working path with
    | error errno => rfl
    | ok working =>
      dsimp only
      cases system.files.table[working]? with
      | none => rfl
      | some file => exact ite_map rfl rfl (ite_map rfl rfl rfl)
  | signal signal action => cases action <;> rfl
  | _ => rfl

theorem perform_map (call : Call) :
    (system.map f).perform number (process.map f) call = (system.perform number process call).map f := by
  cases call with
  | pipe => exact makePipe_map system number process
  | close descriptor => exact tableAnswer_map system number process _
  | duplicate source target => exact tableAnswer_map system number process _
  | duplicateFrom source least => exact numberAnswer_map system number process _
  | keepOnExec descriptor => exact tableAnswer_map system number process _
  | answerAtOnce descriptor =>
    simp only [perform, Process.descriptors_map]
    cases process.descriptors[descriptor]? with
    | none => rfl
    | some entry =>
      obtain ⟨object, keeps⟩ := entry
      cases object <;> rfl
  | read descriptor limit =>
    simp only [perform, Process.descriptors_map]
    cases process.descriptors[descriptor]? with
    | none => rfl
    | some entry =>
      obtain ⟨object, keeps⟩ := entry
      cases object with
      | readEnd pipe => exact readPipe_map system pipe limit
      | bothEnds pipe => exact readPipe_map system pipe limit
      | writeEnd pipe => rfl
      | file opening =>
        simp only [files_map]
        cases system.files.read opening limit <;> rfl
  | write descriptor data =>
    simp only [perform, Process.descriptors_map]
    cases process.descriptors[descriptor]? with
    | none => rfl
    | some entry =>
      obtain ⟨object, keeps⟩ := entry
      cases object with
      | readEnd pipe => rfl
      | bothEnds pipe => exact writePipe_map system number process pipe data
      | writeEnd pipe => exact writePipe_map system number process pipe data
      | file opening =>
        simp only [files_map, now_map]
        cases system.files.write system.now opening data <;> rfl
  | seek descriptor distance =>
    simp only [perform, Process.descriptors_map]
    cases process.descriptors[descriptor]? with
    | none => rfl
    | some entry =>
      obtain ⟨object, keeps⟩ := entry
      cases object with
      | file opening =>
        simp only [files_map]
        cases system.files.seek opening distance <;> rfl
      | _ => rfl
  | openFile path access => exact openFile_map system number process path access
  | query query => exact congrArg (Effect.answer · _) (reply_map system number process query)
  | makeQueue path mode =>
    exact filesAnswer_map
      { system with pipes := system.pipes.insert system.nextPipe {}, nextPipe := system.nextPipe + 1 } _
  | edit edit => exact filesAnswer_map _ _
  | configure setting =>
    simp only [perform, configured_map]
    cases system.configured process setting with
    | error errno => rfl
    | ok replacement => exact congrArg (Effect.answer _) (put_map system number replacement)
  | wait => exact waitAny_map system number
  | waitFor child => exact waitFor_map system number child
  | kill target signal =>
    simp only [perform, getElem?_map]
    cases system.processes[target]? with
    | none => rfl
    | some _ =>
      dsimp only [Option.map_some]
      have delivered : (if signal = 0 then system.map f else (system.map f).deliver target signal) =
          (if signal = 0 then system else system.deliver target signal).map f :=
        ite_map rfl rfl (deliver_map system target signal)
      rw [delivered, isRunning_map]
      exact ite_map rfl rfl rfl
  | takeSignals => exact congrArg (Effect.answer _) (put_map system number { process with arrived := [] })
  | sleep duration =>
    simp only [perform, Process.deadline_map, clock_map]
    cases process.deadline with
    | none => exact congrArg Effect.moved (put_map system number { process with deadline := some _ })
    | some deadline => exact ite_map rfl rfl rfl
  | exit code => exact congrArg Effect.moved (finish_map system number _)
  | pause => rfl
  | fork => rfl
  | load program arguments => rfl

theorem nextDeadline?_map : (system.map f).nextDeadline? = system.nextDeadline? := by
  simp only [nextDeadline?, map, Std.ExtTreeMap.toList_map, List.filterMap_map]
  rfl

theorem passTime_map : (system.map f).passTime = system.passTime.map (map f) := by
  simp only [passTime, nextDeadline?_map, clock_map]
  cases system.nextDeadline? with
  | none => rfl
  | some deadline => exact ite_map rfl rfl rfl

section behaviours

variable {first second : Behaviour σ} (replaces : Behaviour.Replaces f first second)

include replaces

theorem answered_map (reply : Reply) :
    (process.map f).answered second reply = (process.answered first reply).map f := by
  have resumed : second.resume (process.map f).program reply = f (first.resume process.program reply) :=
    replaces.resume process.program reply
  simp only [Process.answered, resumed]
  rfl

theorem answer_map (reply : Reply) :
    (system.map f).answer second number reply = (system.answer first number reply).map f := by
  cases present : system.processes[number]? with
  | none => simp [answer, present]
  | some process =>
    have there : (system.map f).processes[number]? = some (process.map f) := by simp [present]
    rw [answer_eq second there, answer_eq first present, answered_map process replaces, put_map]

theorem fork_map : (system.map f).fork second number (process.map f) = (system.fork first number process).map f := by
  have resumed : second.resume (process.map f).program .child = f (first.resume process.program .child) :=
    replaces.resume process.program .child
  let child : Process σ :=
    { process with
      parent := some number
      program := first.resume process.program .child
      arrived := []
      interrupted := false }
  have made : ({ (system.map f).put system.nextProcess (child.map f) with nextProcess := system.nextProcess + 1 } :
      System σ) = map f { system.put system.nextProcess child with nextProcess := system.nextProcess + 1 } := by
    rw [put_map]
    rfl
  unfold fork
  rw [resumed]
  exact (congrArg (answer second · number _) made).trans (answer_map _ number replaces _)

theorem load_map (program : Bytes) (arguments : List Bytes) :
    (system.map f).load second number (process.map f) program arguments =
      (system.load first number process program arguments).map f := by
  simp only [load, files_map, Process.working_map, Process.environment_map, replaces.load]
  cases first.load system.files process.working process.environment program arguments with
  | error errno => exact answer_map system number replaces (.failed errno)
  | ok image =>
    exact put_map { system with loaded := system.loaded + 1 } number
      { process with
        program := image
        descriptors := process.descriptors.afterLoad
        handled := []
        arrived := []
        interrupted := false }

omit replaces in
theorem withoutOpening_map : withoutOpening (process.map f) = (withoutOpening process).map f := by
  simp only [withoutOpening, Process.opening_map]
  cases process.opening <;> rfl

/-- A move with a call that starts nothing. -/
theorem plain_map (call : Call) :
    (match (system.map f).perform number (process.map f) call with
      | .answer reply after => some (after.answer second number reply)
      | .moved after => some after
      | .blocked =>
        if (process.map f).interrupted then
          some (((system.map f).put number (withoutOpening (process.map f))).answer second number
            (interruption (process.map f)))
        else none) =
    Option.map (map f) (match system.perform number process call with
      | .answer reply after => some (after.answer first number reply)
      | .moved after => some after
      | .blocked =>
        if process.interrupted then
          some ((system.put number (withoutOpening process)).answer first number (interruption process))
        else none) := by
  rw [perform_map]
  cases system.perform number process call with
  | answer reply after => exact congrArg some (answer_map after number replaces reply)
  | moved after => rfl
  | blocked =>
    refine ite_map rfl ?_ rfl
    rw [withoutOpening_map, put_map]
    exact congrArg some (answer_map _ number replaces _)

/-- A move is the same move, whatever programs stand in the place of those that make it. -/
theorem step_map : (system.map f).step second number = (system.step first number).map (map f) := by
  unfold step
  rw [getElem?_map]
  cases system.processes[number]? with
  | none => rfl
  | some process =>
    have next : second.next (process.map f).program = first.next process.program := replaces.next process.program
    dsimp only [Option.map_some]
    rw [next]
    refine ite_map rfl rfl ?_
    cases first.next process.program with
    | none => rfl
    | some call =>
      cases call with
      | fork => exact congrArg some (fork_map system number process replaces)
      | load program arguments => exact congrArg some (load_map system number process replaces program arguments)
      | query query => exact plain_map system number process replaces (.query query)
      | takeSignals => exact plain_map system number process replaces .takeSignals
      | exit code => exact plain_map system number process replaces (.exit code)
      | pause => exact plain_map system number process replaces .pause
      | _ => exact plain_map system number process replaces _

theorem said?_map : (system.map f).said? second number = system.said? first number := by
  unfold said?
  rw [getElem?_map]
  cases system.processes[number]? with
  | none => rfl
  | some process =>
    have next : second.next (process.map f).program = first.next process.program := replaces.next process.program
    have performed : ∀ call, ((system.map f).perform number (process.map f) call).exchange (process.map f) call =
        (system.perform number process call).exchange process call := by
      intro call
      rw [perform_map]
      cases system.perform number process call <;> rfl
    dsimp only [Option.map_some]
    rw [next]
    cases first.next process.program with
    | none => rfl
    | some call =>
      cases call with
      | fork => rfl
      | load program arguments =>
        simp only [files_map, Process.working_map, Process.environment_map, replaces.load]
        cases first.load system.files process.working process.environment program arguments <;> rfl
      | _ => exact performed _

end behaviours

end System

end Kernel

open Kernel

variable {τ : Type} {images : Behaviour τ} {mishaps : Call → Bool} {host : Nat} {start other machine : Machine τ}
  {minutes : Minutes} {f : Program τ → Program τ} {seen : Behaviour (Program τ)}

/-- Machines that differ in nothing but what their programs keep to themselves have the same proceedings. -/
theorem Proceedings.of_map_eq (proceedings : Proceedings images mishaps host start minutes machine)
    (replaces : Behaviour.Replaces f (Program.behaviour images) seen) (same : start.map f = other.map f) :
    ∃ last, Proceedings images mishaps host other minutes last ∧ machine.map f = System.map f last := by
  induction proceedings with
  | start => exact ⟨other, .start, same⟩
  | @step minutes before after earlier mover moved ih =>
    obtain ⟨last, proceedings, same⟩ := ih
    have moves := System.step_map before mover replaces
    rw [moved, same, System.step_map last mover replaces] at moves
    obtain ⟨next, stepped, same'⟩ := Option.map_eq_some_iff.mp moves
    have said : before.said? (Program.behaviour images) mover = last.said? (Program.behaviour images) mover := by
      rw [← System.said?_map before mover replaces, same, System.said?_map last mover replaces]
    exact ⟨next, said ▸ proceedings.step mover stepped, same'.symm⟩
  | time earlier passed ih =>
    obtain ⟨last, proceedings, same⟩ := ih
    have passes := System.passTime_map (f := f) last
    rw [← same, System.passTime_map, passed] at passes
    obtain ⟨next, passed', same'⟩ := Option.map_eq_some_iff.mp passes.symm
    exact ⟨next, proceedings.time passed', same'.symm⟩
  | @mishap minutes before earlier process call errno present alive going asks possible ih =>
    obtain ⟨last, proceedings, same⟩ := ih
    have there := System.getElem?_map (f := f) last host
    rw [← same, System.getElem?_map, present] at there
    obtain ⟨mapped, present', same'⟩ := Option.map_eq_some_iff.mp there.symm
    have asked : (Program.behaviour images).next mapped.program = some call := by
      rw [← asks, ← replaces.next, ← replaces.next]
      exact congrArg (fun process => seen.next process.program) same'
    refine ⟨_, proceedings.mishap mapped call errno present' ((congrArg Process.ending same').trans alive)
      ((congrArg Process.stopped same').trans going) asked possible, ?_⟩
    rw [← System.put_map, ← System.put_map, ← System.answered_map _ replaces, ← System.answered_map _ replaces,
      ← Process.released_map, ← Process.released_map, same, same']

namespace Run

/-- A run, without what it has recorded. -/
def unrecorded (run : Run) : Run := { run with trace := [] }

@[simp] theorem unrecorded_preceded (prior : List Event) (run : Run) :
    (run.preceded prior).unrecorded = run.unrecorded := rfl

theorem preceded_unrecorded (run : Run) : run.unrecorded.preceded run.trace = run := by
  simp [preceded, unrecorded]

theorem resume_unrecorded (run : Run) (reply : Reply) :
    (run.unrecorded.resume reply).unrecorded = (run.resume reply).unrecorded := by
  have goesOn := resume_preceded run.unrecorded run.trace reply
  rw [preceded_unrecorded] at goesOn
  rw [goesOn, unrecorded_preceded]

end Run

namespace Program

/-- Programs with the runs of all executors replaced. -/
def mapRun (g : Run → Run) : Program τ → Program τ
  | executor run => executor (g run)
  | program => program

/-- How programs act whose runs record nothing. -/
def unrecorded (images : Behaviour τ) : Behaviour (Program τ) where
  next := (behaviour images).next
  resume program reply := mapRun Run.unrecorded ((behaviour images).resume program reply)
  load := (behaviour images).load

theorem mapRun_ofTrial (g : Run → Run) (task : Task TrialEnd) : (ofTrial task : Program τ).mapRun g = ofTrial task := by
  unfold ofTrial
  split <;> rfl

theorem load_mapRun (g : Run → Run) (images : Behaviour τ) (files : Files) (working : Nat) (environment : Environment)
    (program : Bytes) (arguments : List Bytes) :
    (behaviour images).load files working environment program arguments =
      ((behaviour images).load files working environment program arguments).map (mapRun g) := by
  simp only [behaviour]
  cases images.load files working environment program arguments <;> rfl

/-- What a run has recorded makes no difference to anybody. -/
theorem replaces_unrecorded (images : Behaviour τ) :
    Behaviour.Replaces (mapRun Run.unrecorded) (behaviour images) (unrecorded images) where
  next program := by cases program <;> rfl
  load := load_mapRun Run.unrecorded images
  resume program reply := by
    cases program with
    | executor run =>
      have goesOn := congrArg (executor (τ := τ)) (Run.resume_unrecorded run reply)
      have child : run.unrecorded.startup? = run.startup? := rfl
      simp only [unrecorded, mapRun, behaviour, child]
      cases run.startup? <;> cases reply <;> first | rfl | exact goesOn
    | startup child => rfl
    | trial task => rfl
    | image state => rfl

/-- Positions do not occur in answers. -/
theorem reply_unplaced (reply : Reply) : Recasting.unplaced.reply reply = reply := by
  cases reply with
  | ended process how => cases how <;> rfl
  | _ => rfl

/-- Which positions stages have of themselves makes no difference to anybody. -/
theorem replaces_unplaced (images : Behaviour τ) :
    Behaviour.Replaces (mapRun Recasting.unplaced.run) (behaviour images) (behaviour images) where
  next program := by
    cases program with
    | executor run => exact Run.next_recast Recasting.unplaced run
    | _ => rfl
  load := load_mapRun Recasting.unplaced.run images
  resume program reply := by
    cases program with
    | executor run =>
      have goesOn := Run.resume_recast Recasting.unplaced run reply
      rw [reply_unplaced] at goesOn
      simp only [mapRun, behaviour, Run.startup?_recast, goesOn]
      split <;> rfl
    | startup child => rfl
    | trial task => exact (mapRun_ofTrial Recasting.unplaced.run _).symm
    | image state => rfl

end Program

theorem Machine.map_putProgram (f : Program τ → Program τ) (machine : Machine τ) (host : Nat) (program : Program τ) :
    (machine.putProgram host program).map f = Machine.putProgram (machine.map f) host (f program) := by
  refine System.ext_processes (fun number => ?_) rfl
  simp only [System.getElem?_map, Machine.putProgram, Std.ExtTreeMap.getElem?_modify]
  split
  · cases machine.processes[host]? <;> rfl
  · rfl

end Pipework
