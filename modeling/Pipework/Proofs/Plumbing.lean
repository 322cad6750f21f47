import Pipework.Proofs.ImageMove

set_option autoImplicit false

/-!
The pipes and the tables of the stages of a run. A process that brings nothing fills and empties the pipes that it
refers to and no others, and no pipe changes the way in which it answers (`Plumbed`). The processes of the stages come
to their programs with the tables of the stages, and use no descriptors but those (`Equipped`). Every move of a machine
keeps this of the processes that an executor has made, and of the pipes that were there before the run that they answer
as they did (`Flowing`).
-/

namespace Pipework

open Kernel

namespace Kernel

variable {σ : Type}

/-- What can be made of a pipe through an object: bytes come to the others through a write end, and the oldest ones go
through a read end. -/
structure Served (shape : PipeShape) (object : Object) (pipe : Nat) (found replaced : Pipe) : Prop where
  readsAtOnce : replaced.readsAtOnce = found.readsAtOnce
  writesAtOnce : replaced.writesAtOnce = found.writesAtOnce
  filled : 0 < shape.pageSize → found.Filled → replaced.Filled
  content : object.includes (.writeEnd pipe) = true ∧ (∃ taken, replaced.content = found.content ++ taken) ∨
    object.includes (.readEnd pipe) = true ∧ ∃ taken, found.content = taken ++ replaced.content

theorem Served.pipe? {shape : PipeShape} {object : Object} {pipe : Nat} {found replaced : Pipe}
    (served : Served shape object pipe found replaced) : object.pipe? = some pipe := by
  rcases served.content with ⟨writes, -⟩ | ⟨reads, -⟩
  · exact (Object.of_includes_writeEnd writes).1
  · exact (Object.of_includes_readEnd reads).1

/-- What calls that use certain objects do to the pipes. -/
structure Plumbed (used : Object → Prop) (before after : System σ) : Prop where
  shape : after.shape = before.shape
  pipes : ∀ pipe, after.pipes[pipe]? = before.pipes[pipe]? ∨
    ∃ object found replaced, used object ∧ before.pipes[pipe]? = some found ∧
      after.pipes[pipe]? = some replaced ∧ Served before.shape object pipe found replaced

namespace Plumbed

variable {used : Object → Prop} {before after : System σ} {pipe : Nat} {found replaced : Pipe}

theorem of_pipes (shape : after.shape = before.shape) (pipes : after.pipes = before.pipes) :
    Plumbed used before after := ⟨shape, fun _ => .inl (by rw [pipes])⟩

theorem of_putPipe {object : Object} (isUsed : used object) (present : before.pipes[pipe]? = some found)
    (served : Served before.shape object pipe found replaced) (shape : after.shape = before.shape)
    (pipes : after.pipes = before.pipes.insert pipe replaced) : Plumbed used before after where
  shape := shape
  pipes other := by
    rw [pipes, Std.ExtTreeMap.getElem?_insert]
    split
    · rename_i same
      obtain rfl : pipe = other := by simpa using same
      exact .inr ⟨object, found, replaced, isUsed, present, rfl, served⟩
    · exact .inl rfl

/-- A pipe that is there stays there, and answers as it did. -/
theorem ways (plumbed : Plumbed used before after) (present : before.pipes[pipe]? = some found) :
    ∃ replaced, after.pipes[pipe]? = some replaced ∧ replaced.readsAtOnce = found.readsAtOnce ∧
      replaced.writesAtOnce = found.writesAtOnce := by
  rcases plumbed.pipes pipe with same | ⟨object, given, replaced, -, there, now, served⟩
  · exact ⟨found, same.trans present, rfl, rfl⟩
  · obtain rfl : found = given := by rwa [present, Option.some.injEq] at there
    exact ⟨replaced, now, served.readsAtOnce, served.writesAtOnce⟩

/-- A pipe that is there was there, and answered as it does. -/
theorem ways_before (plumbed : Plumbed used before after) (present : after.pipes[pipe]? = some replaced) :
    ∃ found, before.pipes[pipe]? = some found ∧ replaced.readsAtOnce = found.readsAtOnce ∧
      replaced.writesAtOnce = found.writesAtOnce := by
  rcases plumbed.pipes pipe with same | ⟨object, found, given, -, there, now, served⟩
  · exact ⟨replaced, same.symm.trans present, rfl, rfl⟩
  · obtain rfl : replaced = given := by rwa [present, Option.some.injEq] at now
    exact ⟨found, there, served.readsAtOnce, served.writesAtOnce⟩

/-- Nothing happens to a pipe of which no end is used. -/
theorem unserved (plumbed : Plumbed used before after)
    (foreign : ∀ object, used object → object.pipe? ≠ some pipe) : after.pipes[pipe]? = before.pipes[pipe]? := by
  rcases plumbed.pipes pipe with same | ⟨object, found, replaced, isUsed, -, -, served⟩
  · exact same
  · exact absurd served.pipe? (foreign object isUsed)

/-- What uses certain objects uses no others. -/
theorem mono {wider : Object → Prop} (plumbed : Plumbed used before after)
    (weakens : ∀ object, used object → wider object) : Plumbed wider before after where
  shape := plumbed.shape
  pipes pipe := by
    rcases plumbed.pipes pipe with same | ⟨object, found, replaced, isUsed, there, now, served⟩
    · exact .inl same
    · exact .inr ⟨object, found, replaced, weakens object isUsed, there, now, served⟩

end Plumbed

namespace System

variable {system after : System σ} {mover descriptor pipe : Nat} {process : Process σ} {found : Pipe} {call : Call}

/-- What is written into is behind the descriptor. -/
theorem descriptor_of_outlet (outlet : system.outlet? process descriptor = some (pipe, found)) :
    ∃ entry, process.descriptors[descriptor]? = some entry ∧ entry.object.includes (.writeEnd pipe) = true ∧
      system.pipes[pipe]? = some found := by
  unfold outlet? at outlet
  split at outlet
  all_goals
    first
    | cases outlet
    | rename_i isOpen
      obtain ⟨entry, present, same⟩ := Option.map_eq_some_iff.mp isOpen
      obtain ⟨given, there, both⟩ := Option.map_eq_some_iff.mp outlet
      cases both
      exact ⟨entry, present, by rw [same]; simp [Object.includes], there⟩

/-- What is read from is behind the descriptor. -/
theorem descriptor_of_inlet (inlet : system.inlet? process descriptor = some (pipe, found)) :
    ∃ entry, process.descriptors[descriptor]? = some entry ∧ entry.object.includes (.readEnd pipe) = true ∧
      system.pipes[pipe]? = some found := by
  unfold inlet? at inlet
  split at inlet
  all_goals
    first
    | cases inlet
    | rename_i isOpen
      obtain ⟨entry, present, same⟩ := Option.map_eq_some_iff.mp isOpen
      obtain ⟨given, there, both⟩ := Option.map_eq_some_iff.mp inlet
      cases both
      exact ⟨entry, present, by rw [same]; simp [Object.includes], there⟩

/-- The open file is behind the descriptor. -/
theorem descriptor_of_opening {opening : Nat} (isFile : opening? process descriptor = some opening) :
    ∃ entry, process.descriptors[descriptor]? = some entry ∧ entry.object = .file opening := by
  unfold opening? at isFile
  split at isFile
  · rename_i isOpen
    cases isFile
    obtain ⟨entry, present, same⟩ := Option.map_eq_some_iff.mp isOpen
    exact ⟨entry, present, same⟩
  · cases isFile

/-- A write goes to the pipe behind the descriptor. -/
theorem outlet?_eq {entry : Descriptor} (isOpen : process.descriptors[descriptor]? = some entry)
    (writes : entry.object.includes (.writeEnd pipe) = true) :
    system.outlet? process descriptor = (system.pipes[pipe]?).map (pipe, ·) := by
  obtain ⟨object, closeOnExec⟩ := entry
  unfold outlet?
  rw [isOpen]
  cases object <;> simp_all [Object.includes]

/-- A read comes from the pipe behind the descriptor. -/
theorem inlet?_eq {entry : Descriptor} (isOpen : process.descriptors[descriptor]? = some entry)
    (reads : entry.object.includes (.readEnd pipe) = true) :
    system.inlet? process descriptor = (system.pipes[pipe]?).map (pipe, ·) := by
  obtain ⟨object, closeOnExec⟩ := entry
  unfold inlet?
  rw [isOpen]
  cases object <;> simp_all [Object.includes]

/-- The end of a process touches no pipe and no file. -/
theorem finish_rest (system : System σ) (number : Nat) (how : Termination) :
    (system.finish number how).shape = system.shape ∧ (system.finish number how).pipes = system.pipes ∧
      (system.finish number how).files = system.files := by
  cases present : system.processes[number]? with
  | none =>
    rw [finish_absent how present]
    exact ⟨rfl, rfl, rfl⟩
  | some process =>
    rw [finish_eq how present]
    exact ⟨rfl, rfl, rfl⟩

theorem answer_rest (behaviour : Behaviour σ) (system : System σ) (number : Nat) (reply : Reply) :
    (system.answer behaviour number reply).shape = system.shape ∧
      (system.answer behaviour number reply).pipes = system.pipes ∧
      (system.answer behaviour number reply).files = system.files := by
  unfold answer
  split <;> exact ⟨rfl, rfl, rfl⟩

/-- A write changes at most the pipe that it goes to. -/
theorem plumbed_write {data : Bytes} (led : (system.perform mover process (.write descriptor data)).Leads after) :
    Plumbed (process.descriptors.HasAt descriptor) system after := by
  have wrote := system.perform_write mover process descriptor data
  generalize system.perform mover process (.write descriptor data) = effect at led wrote
  have into : ∀ {pipe : Nat} {found replaced : Pipe} {rest : Bytes} {after : System σ},
      system.outlet? process descriptor = some (pipe, found) → system.taken process found data = (replaced, rest) →
      after.shape = system.shape → after.pipes = system.pipes.insert pipe replaced →
      Plumbed (process.descriptors.HasAt descriptor) system after := by
    intro pipe found replaced rest after outlet took shape pipes
    obtain ⟨entry, isOpen, writes, present⟩ := descriptor_of_outlet outlet
    have takes := taken_takes took
    obtain ⟨bytes, -, appended⟩ := takes.content
    exact .of_putPipe ⟨entry, isOpen, rfl⟩ present
      ⟨takes.readsAtOnce, takes.writesAtOnce, fun positive filled => taken_filled positive filled took,
        .inl ⟨writes, bytes, appended⟩⟩ shape pipes
  cases wrote with
  | killed pipe found outlet unread unbegun =>
    cases led
    obtain ⟨shape, pipes, -⟩ := system.finish_rest mover (.signaled Signal.pipe)
    exact .of_pipes shape pipes
  | whole pipe found replaced outlet took =>
    cases led
    exact into outlet took rfl rfl
  | atOnce pipe found replaced rest outlet atOnce took =>
    cases led
    exact into outlet took rfl rfl
  | part pipe found replaced rest outlet waits took remains =>
    cases led
    exact into outlet took rfl rfl
  | blocked => cases led
  | _ =>
    cases led
    exact .of_pipes rfl rfl

/-- A read changes at most the pipe that it comes from. -/
theorem plumbed_read {limit : Nat} (led : (system.perform mover process (.read descriptor limit)).Leads after) :
    Plumbed (process.descriptors.HasAt descriptor) system after := by
  have received := system.perform_read mover process descriptor limit
  generalize system.perform mover process (.read descriptor limit) = effect at led received
  cases received with
  | data pipe found inlet positive nonempty =>
    cases led
    obtain ⟨entry, isOpen, reads, present⟩ := descriptor_of_inlet inlet
    have served : Served system.shape entry.object pipe found (found.take limit).2 :=
      ⟨rfl, rfl, fun _ filled => Pipe.take_filled filled limit, .inr ⟨reads, _, Pipe.content_take found limit⟩⟩
    exact .of_putPipe ⟨entry, isOpen, rfl⟩ present served rfl rfl
  | blocked => cases led
  | _ =>
    cases led
    exact .of_pipes rfl rfl

/-- A call that brings nothing changes at most the pipes that its caller refers to. -/
theorem plumbed_perform (modest : call.bringsNothing = true)
    (led : (system.perform mover process call).Leads after) : Plumbed process.descriptors.Has system after := by
  have table : ∀ {result : Except Errno DescriptorTable}, (system.tableAnswer mover process result).Leads after →
      Plumbed process.descriptors.Has system after := by
    intro result led
    cases result <;> (cases led; exact .of_pipes rfl rfl)
  cases call with
  | close descriptor => exact table led
  | duplicate source target => exact table led
  | keepOnExec descriptor => exact table led
  | duplicateFrom source least =>
    simp only [perform] at led
    generalize process.descriptors.duplicateFrom process.limit source least = result at led
    cases result <;> (cases led; exact .of_pipes rfl rfl)
  | read descriptor limit => exact (plumbed_read led).mono fun _ => DescriptorTable.HasAt.has
  | write descriptor data => exact (plumbed_write led).mono fun _ => DescriptorTable.HasAt.has
  | load program arguments =>
    cases led
    exact .of_pipes rfl rfl
  | exit code =>
    cases led
    obtain ⟨shape, pipes, -⟩ := system.finish_rest mover (.exited (code % 256))
    exact .of_pipes shape pipes
  | _ => cases modest

/-- A move that brings nothing changes at most the pipes that the process refers to. -/
theorem plumbed_step {behaviour : Behaviour σ} (present : system.processes[mover]? = some process)
    (asks : behaviour.next process.program = some call) (modest : call.bringsNothing = true)
    (moved : system.step behaviour mover = some after) : Plumbed process.descriptors.Has system after := by
  obtain ⟨given, asked, living, -, -, same, how⟩ := step_eq_some moved
  obtain rfl : process = given := by rwa [present, Option.some.injEq] at living
  obtain rfl : call = asked := by rwa [asks, Option.some.injEq] at same
  rcases how with ⟨rfl, -⟩ | ⟨program, arguments, -, rfl⟩ | ⟨-, ⟨reply, between, performed, rfl⟩ | performed |
    ⟨-, -, rfl⟩⟩
  · cases modest
  · unfold load
    split
    · obtain ⟨shape, pipes, -⟩ := answer_rest behaviour system mover (.failed ‹_›)
      exact .of_pipes shape pipes
    · exact .of_pipes rfl rfl
  · obtain ⟨shape, pipes, -⟩ := answer_rest behaviour between mover reply
    obtain ⟨sameShape, samePipes⟩ := plumbed_perform modest (Effect.leads_of_answer performed)
    exact ⟨shape.trans sameShape, fun pipe => by rw [pipes]; exact samePipes pipe⟩
  · exact plumbed_perform modest (Effect.leads_of_moved performed)
  · obtain ⟨shape, pipes, -⟩ :=
      answer_rest behaviour (system.put mover (withoutOpening process)) mover (interruption process)
    exact .of_pipes shape pipes

end System

end Kernel

variable {τ : Type}

/-- The process of a stage on its way to the table of the stage, or with what it has left of it. -/
structure Equipped (base : DescriptorTable) (channels : List Nat) (index : Nat) (process : Process (Program τ)) :
    Prop where
  settled : ∀ startup, process.program = .startup startup → process.ending = none →
    startup.control.outcome process.limit process.descriptors = .ok (stageTable base channels index)
  unwritten : ∀ startup, process.program = .startup startup → startup.control.hasFailed = false →
    process.written = 0
  left : ∀ state, process.program = .image state → ∀ (place : Nat) (descriptor : Descriptor),
    process.descriptors[place]? = some descriptor →
    (stageTable base channels index).afterLoad[place]? = some descriptor

namespace Equipped

variable {images : Behaviour τ} {base : DescriptorTable} {channels : List Nat} {index mover number : Nat}
  {machine after : Machine τ} {process later : Process (Program τ)}

theorem undisturbed (equipped : Equipped base channels index process) (same : Undisturbed mover process later) :
    Equipped base channels index later where
  settled startup program alive := by
    rw [same.limit, same.descriptors]
    exact equipped.settled startup (same.program ▸ program) (same.ending ▸ alive)
  unwritten startup program begun := same.written.trans (equipped.unwritten startup (same.program ▸ program) begun)
  left state image place descriptor present :=
    equipped.left state (same.program ▸ image) place descriptor (same.descriptors ▸ present)

/-- A process that is not on its way to a program any more, and has left what it had of its table. -/
theorem of_image (state : τ) (image : later.program = .image state)
    (left : ∀ (place : Nat) (descriptor : Descriptor), later.descriptors[place]? = some descriptor →
      (stageTable base channels index).afterLoad[place]? = some descriptor) :
    Equipped base channels index later where
  settled startup program := by
    rw [image] at program
    cases program
  unwritten startup program := by
    rw [image] at program
    cases program
  left _ _ := left

theorem of_startup (startup : Startup) (program : later.program = .startup startup)
    (settled : later.ending = none →
      startup.control.outcome later.limit later.descriptors = .ok (stageTable base channels index))
    (unwritten : startup.control.hasFailed = false → later.written = 0) : Equipped base channels index later where
  settled given same := by
    rw [program, Program.startup.injEq] at same
    exact same ▸ settled
  unwritten given same := by
    rw [program, Program.startup.injEq] at same
    exact same ▸ unwritten
  left state image := by
    rw [program] at image
    cases image

/-- An image of a stage uses no descriptors but those of the stage. -/
theorem step_image {state : τ} {exchange : Option (Call × Reply)} (equipped : Equipped base channels index process)
    (present : machine.processes[number]? = some process) (program : process.program = .image state)
    (move : ImageMove images machine number process state after exchange)
    (found : after.processes[number]? = some later) : Equipped base channels index later := by
  obtain ⟨⟨next, image⟩, fewer⟩ := move.own present program found
  exact of_image next image fun place descriptor isOpen =>
    equipped.left state program place descriptor (fewer place descriptor isOpen)

/-- A process that complains does so where its maker would. -/
theorem diagnostics_of_complaining {startup : Startup} {part : Bytes} {parts : List Bytes} {code : Nat}
    (equipped : Equipped base channels index process) (program : process.program = .startup startup)
    (alive : process.ending = none) (complaining : startup.control = .complaining part parts code) :
    process.descriptors[Startup.diagnostics]? = base[Startup.diagnostics]? := by
  have settled := equipped.settled startup program alive
  rw [complaining] at settled
  obtain same : process.descriptors = stageTable base channels index := by
    simpa [Startup.Control.outcome] using settled
  rw [same, getElem?_stageTable_of_lt (by decide)]

/-- An image that has a channel behind it writes to that. -/
theorem object_of_output {state : τ} {channel : Nat} {entry : Descriptor}
    (equipped : Equipped base channels index process) (program : process.program = .image state)
    (isChannel : channels[index]? = some channel) (isOpen : process.descriptors[1]? = some entry) :
    entry.object = .writeEnd channel := by
  have given := DescriptorTable.getElem?_of_afterLoad (equipped.left state program 1 entry isOpen)
  rw [stageTable, DescriptorTable.getElem?_wired_one, output?, isChannel] at given
  cases given
  rfl

/-- An image that has a channel before it reads from that. -/
theorem object_of_input {state : τ} {channel : Nat} {entry : Descriptor}
    (equipped : Equipped base channels (index + 1) process) (program : process.program = .image state)
    (isChannel : channels[index]? = some channel) (isOpen : process.descriptors[0]? = some entry) :
    entry.object = .readEnd channel := by
  have given := DescriptorTable.getElem?_of_afterLoad (equipped.left state program 0 entry isOpen)
  rw [stageTable, DescriptorTable.getElem?_wired_zero, input?, if_neg (Nat.succ_ne_zero index), Nat.add_sub_cancel,
    isChannel] at given
  cases given
  rfl

/-- A process on its way to the program of a stage keeps to it. -/
theorem step_startup {startup : Startup} (equipped : Equipped base channels index process)
    (present : machine.processes[number]? = some process) (program : process.program = .startup startup)
    (unopened : process.opening = none)
    (moved : machine.step (Program.behaviour images) number = some after)
    (found : after.processes[number]? = some later) : Equipped base channels index later := by
  have alive := (System.alive_of_step present moved).1
  have settled := equipped.settled startup program alive
  have goesOn : ∀ {table : DescriptorTable} {reply : Reply},
      (startup.resume reply).control.outcome process.limit table = .ok (stageTable base channels index) →
      Equipped base channels index
        ({ process with descriptors := table }.answered (Program.behaviour images) reply) := by
    intro table reply outcome
    refine of_startup (startup.resume reply) ?_ (fun _ => outcome) fun _ => rfl
    simp [Process.answered, program, Program.behaviour]
  have complaint : ∀ {part : Bytes} {parts : List Bytes} {code : Nat} {reply : Reply},
      startup.control = .complaining part parts code →
      (startup.resume reply).control.outcome process.limit process.descriptors =
        .ok (stageTable base channels index) := by
    intro part parts code reply complaining
    rw [complaining] at settled
    cases parts <;> simpa [Startup.resume, complaining, Startup.Control.after, Startup.Control.outcome] using settled
  have failed : ∀ {part : Bytes} {parts : List Bytes} {code : Nat},
      startup.control = .complaining part parts code → startup.control.hasFailed = false → later.written = 0 := by
    intro part parts code complaining begun
    rw [complaining] at begun
    cases begun
  cases Pipework.step_startup present program (fun _ => settled) moved with
  | rewired reply table outcome opened begun inherits erased =>
    rw [System.getElem?_put_self] at found
    cases found
    exact goesOn outcome
  | refused errno loading =>
    rw [System.getElem?_put_self] at found
    cases found
    rw [loading] at settled
    exact goesOn (by simpa [Startup.resume, loading, Startup.Control.after, Startup.Control.fail,
      Startup.Control.outcome] using settled)
  | loaded state loading loads =>
    rw [System.getElem?_put_self] at found
    cases found
    obtain same : process.descriptors = stageTable base channels index := by
      simpa [loading, Startup.Control.outcome] using settled
    exact of_image state rfl fun place descriptor isOpen => same ▸ isOpen
  | complained part parts code reply between complaining wrote =>
    obtain ⟨earlier, living, rfl⟩ := System.getElem?_answer_self found
    rw [System.processes_of_write wrote] at living
    obtain rfl : process = earlier := by rwa [present, Option.some.injEq] at living
    exact goesOn (complaint complaining)
  | complaining part parts code after complaining wrote =>
    have same := System.write_disturbed present (Effect.leads_of_moved wrote) found
    refine of_startup startup (same.program.trans program) (fun living => ?_) (failed complaining)
    rw [same.limit, (same.alive living).2]
    exact settled
  | interrupted part parts code complaining interrupted =>
    rw [System.getElem?_put_self] at found
    cases found
    have same : System.withoutOpening process = process := by simp [System.withoutOpening, unopened]
    rw [same]
    exact goesOn (complaint complaining)
  | exited code exiting =>
    rw [System.getElem?_finish_self _ present] at found
    cases found
    refine of_startup startup ((machine.marked_undisturbed number number process).program.trans program) (fun living => ?_)
      fun begun => ?_
    · cases living
    · rw [exiting] at begun
      cases begun

end Equipped

variable {images : Behaviour τ} {host mover : Nat} {stages : List Stage} {base : DescriptorTable}
  {children channels : List Nat} {start machine after : Machine τ} {process later : Process (Program τ)}

/-- The pipes of a machine and the processes of a run that began on the machine `start`. -/
structure Flowing (start : Machine τ) (base : DescriptorTable) (children channels : List Nat) (machine : Machine τ) :
    Prop where
  shape : machine.shape = start.shape
  ways : ∀ (pipe : Nat) (found : Pipe), pipe < start.nextPipe → machine.pipes[pipe]? = some found →
    ∃ earlier, start.pipes[pipe]? = some earlier ∧ found.readsAtOnce = earlier.readsAtOnce ∧
      found.writesAtOnce = earlier.writesAtOnce
  stage : ∀ (index number : Nat) (process : Process (Program τ)), children[index]? = some number →
    machine.processes[number]? = some process → Equipped base channels index process

namespace Equipped

variable {index number : Nat}

/-- A process keeps what it has when channels are opened that its stage has no part in. -/
theorem append (equipped : Equipped base channels index process) (made : List Nat) (within : index < channels.length) :
    Equipped base (channels ++ made) index process where
  settled := by
    rw [stageTable_append base made within]
    exact equipped.settled
  unwritten := equipped.unwritten
  left := by
    rw [stageTable_append base made within]
    exact equipped.left

/-- A process that is only about to become a stage is equipped for it. -/
theorem of_becomes {startup : Startup} (becomes : Becomes stages base channels index process)
    (program : process.program = .startup startup) (begun : startup.control.hasFailed = false)
    (unwritten : process.written = 0) : Equipped base channels index process := by
  unfold Becomes at becomes
  rw [program] at becomes
  exact of_startup startup program (fun alive => becomes.2 alive begun) fun _ => unwritten

/-- A process that was made for a stage stays equipped for it when it moves. -/
theorem step (equipped : Equipped base channels index process)
    (confined : Confined host start.nextPipe base children channels machine) (filters : images.Filters)
    (notHost : number ≠ host) (isChild : children[index]? = some number)
    (present : machine.processes[number]? = some process)
    (moved : machine.step (Program.behaviour images) number = some after)
    (found : after.processes[number]? = some later) : Equipped base channels index later := by
  have proper := confined.proper number process present
  have member := List.mem_of_getElem? isChild
  have alive := (System.alive_of_step present moved).1
  rcases proper.kind notHost alive with ⟨startup, program⟩ | ⟨state, program⟩
  · exact equipped.step_startup present program (proper.stage member).2 moved found
  · have unmarked := (proper.unsignaled member state program).2
    exact equipped.step_image present program (Pipework.step_image present program filters unmarked moved) found

end Equipped

/-- A process that was just made has not failed. -/
theorem Startup.hasFailed_begin (stage : Stage) (streams : Streams) (unused : Option Nat) :
    (Startup.begin stage streams unused).control.hasFailed = false := by
  obtain ⟨_ | stdin, _ | _ | stdout⟩ := streams <;> cases unused <;> rfl

namespace Flowing

/-- A machine at the start of a run. -/
theorem begin (start : Machine τ) (base : DescriptorTable) : Flowing start base [] [] start where
  shape := rfl
  ways pipe found _ present := ⟨found, present, rfl, rfl⟩
  stage := by simp

/-- A move of any process but the executor. -/
theorem step_other (flowing : Flowing start base children channels machine)
    (confined : Confined host start.nextPipe base children channels machine)
    (made : Made host stages base children channels machine) (filters : images.Filters) (notHost : mover ≠ host)
    (moved : machine.step (Program.behaviour images) mover = some after) :
    Flowing start base children channels after := by
  obtain ⟨process, -, present, -⟩ := System.step_eq_some moved
  obtain ⟨call, asks, modest⟩ := confined.asks filters notHost present (System.alive_of_step present moved).1
  have plumbed := System.plumbed_step present asks modest moved
  have spares := (confined.spares made filters notHost moved).1
  refine ⟨plumbed.shape.trans flowing.shape, ?_, ?_⟩
  · intro pipe replaced old there
    obtain ⟨found, earlier, reads, writes⟩ := plumbed.ways_before there
    obtain ⟨first, began, sameReads, sameWrites⟩ := flowing.ways pipe found old earlier
    exact ⟨first, began, reads.trans sameReads, writes.trans sameWrites⟩
  · intro index number later isChild found
    by_cases own : number = mover
    · subst own
      exact (flowing.stage index number process isChild present).step confined filters notHost isChild present moved
        found
    · have older := (made.child index number isChild).2.1
      obtain ⟨earlier, living, undisturbed⟩ := spares.others number own older later found
      exact (flowing.stage index number earlier isChild living).undisturbed undisturbed

/-- A move by which the executor makes nothing. -/
theorem step_keeps (flowing : Flowing start base children channels machine) (notChild : host ∉ children)
    (keeps : KeepsMove images machine host process after) : Flowing start base children channels after := by
  obtain ⟨processes, table, reply, there, -, inherits⟩ := keeps
  refine ⟨flowing.shape, flowing.ways, fun index number later isChild found => ?_⟩
  have apart : host ≠ number := by
    rintro rfl
    exact notChild (List.mem_of_getElem? isChild)
  rw [System.getElem?_put, if_neg apart] at found
  exact flowing.stage index number later isChild (there number later found)

/-- A move of the executor. -/
theorem step_host {run : Run} (flowing : Flowing start base children channels machine)
    (confined : Confined host start.nextPipe base children channels machine)
    (made : Made host stages base children channels machine)
    (kept : Made host stages base
      (children ++ if machine.nextProcess < after.nextProcess then [machine.nextProcess] else [])
      (channels ++ if machine.nextPipe < after.nextPipe then [machine.nextPipe] else []) after)
    (present : machine.processes[host]? = some process)
    (executes : Executes stages base children channels run process)
    (move : RunMove images machine host process run after) :
    Flowing start base
      (children ++ if machine.nextProcess < after.nextProcess then [machine.nextProcess] else [])
      (channels ++ if machine.nextPipe < after.nextPipe then [machine.nextPipe] else []) after := by
  have apart : ∀ index number : Nat, children[index]? = some number → host ≠ number ∧ machine.nextProcess ≠ number := by
    intro index number isChild
    obtain ⟨notHost, older, -⟩ := made.child index number isChild
    exact ⟨notHost.symm, Nat.ne_of_gt older⟩
  rcases move.makes with ⟨stage, following, incoming, read, write, between, table, opening, first, second, rfl⟩ |
    ⟨stage, following, streams, carried, forking, rfl⟩ | keeps
  · have fits := executes.fits
    simp only [Run.Fits, opening] at fits
    obtain ⟨-, -, -, counted, opened, -⟩ := fits
    simp only [System.nextProcess_put, System.nextPipe_put, Nat.lt_irrefl, if_false, Nat.lt_succ_self, if_true,
      List.append_nil]
    refine ⟨flowing.shape, ?_, ?_⟩
    · intro pipe found old there
      have apart : machine.nextPipe ≠ pipe := Nat.ne_of_gt (Nat.lt_of_lt_of_le old confined.floor_le)
      rw [System.pipes_put, Std.ExtTreeMap.getElem?_insert, if_neg (by simpa using apart)] at there
      exact flowing.ways pipe found old there
    · intro index number later isChild found
      rw [System.getElem?_put, if_neg (apart index number isChild).1] at found
      have isMade := (List.getElem?_eq_some_iff.mp isChild).1
      exact (flowing.stage index number later isChild found).append _ (by omega)
  · simp only [System.nextProcess_put, System.nextPipe_put, Nat.lt_irrefl, if_false, Nat.lt_succ_self, if_true,
      List.append_nil] at kept ⊢
    refine ⟨flowing.shape, flowing.ways, fun index number later isChild found => ?_⟩
    by_cases old : index < children.length
    · rw [List.getElem?_append_left old] at isChild
      obtain ⟨notHost, notNew⟩ := apart index number isChild
      rw [System.getElem?_put, if_neg notHost, System.getElem?_put, if_neg notNew] at found
      exact flowing.stage index number later isChild found
    · have isNew := isChild
      rw [List.getElem?_append_right (by omega)] at isNew
      obtain rfl := List.mem_singleton.mp (List.mem_of_getElem? isNew)
      have becomes := (kept.child index _ isChild).2.2 later found
      rw [System.getElem?_put, if_neg (Nat.ne_of_lt made.host_lt), System.getElem?_put_self] at found
      cases found
      exact .of_becomes becomes rfl (Startup.hasFailed_begin stage streams carried)
        ((confined.proper host process present).executor rfl).2.2.2
  · have same := keeps.same
    simp only [same.1, same.2, Nat.lt_irrefl, if_false, List.append_nil]
    exact flowing.step_keeps made.host_not_mem keeps

end Flowing

namespace Ready

variable {executor : Process (Program τ)} {chronicle : Chronicle}

/-- All along a course the pipes and the processes of the run are as they should be. -/
theorem flowing (ready : Ready host stages executor start) (filters : images.Filters)
    (course : Course images host start chronicle machine) :
    Flowing start executor.descriptors chronicle.children chronicle.channels machine := by
  suffices whole : Underway host stages executor.descriptors chronicle.children chronicle.channels machine ∧
      Confined host start.nextPipe executor.descriptors chronicle.children chronicle.channels machine ∧
      Flowing start executor.descriptors chronicle.children chronicle.channels machine from whole.2.2
  induction course with
  | start => exact ⟨ready.underway, ready.confined, .begin start _⟩
  | time earlier passed ih =>
    obtain ⟨underway, confined⟩ := ready.course filters (.time earlier passed)
    obtain ⟨clock, rfl⟩ := System.passTime_eq_some passed
    exact ⟨underway, confined, ih.2.2.shape, ih.2.2.ways, ih.2.2.stage⟩
  | step earlier mover moved ih =>
    obtain ⟨nowUnderway, nowConfined⟩ := ready.course filters (.step earlier mover moved)
    obtain ⟨underway, confined, flowing⟩ := ih
    refine ⟨nowUnderway, nowConfined, ?_⟩
    by_cases own : mover = host
    · subst own
      obtain ⟨process, run, present, -, -, executes, move⟩ := underway.host_moves moved
      have kept := nowUnderway.toMade
      simp only [Chronicle.extend, true_and] at kept ⊢
      exact flowing.step_host confined underway.toMade kept present executes move
    · have further := flowing.step_other confined underway.toMade filters own (moved.step_of_ne own)
      simpa [Chronicle.extend, own] using further

end Ready

end Pipework
