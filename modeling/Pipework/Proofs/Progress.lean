import Pipework.Proofs.Ownership
import Pipework.Proofs.Plumbing
import Pipework.Proofs.Script

set_option autoImplicit false

/-!
Progress of a run. Once the executor holds no end of a channel any more, a stage that waits for data waits for a
stage before it, and one that waits for room waits for a stage behind it. The first never waits for data for long,
and the last never for room; so not all of them can wait (`Settled.exists_step`), neither in a run nor in what an
aborted run has left.
-/

namespace Pipework

open Kernel

namespace Kernel.System

variable {σ : Type} {system : System σ} {number descriptor limit : Nat} {process : Process σ} {call : Call}
  {data : Bytes}

theorem isRunning_iff :
    system.isRunning number = true ↔ ∃ process, system.processes[number]? = some process ∧ process.ending = none := by
  simp [isRunning, Option.any_eq_true]

/-- A process that goes on but makes no move waits for its call. -/
theorem blocked_of_step_eq_none {behaviour : Behaviour σ} (present : system.processes[number]? = some process)
    (alive : process.ending = none) (going : process.stopped = false)
    (asks : behaviour.next process.program = some call) (stuck : system.step behaviour number = none) :
    (call ≠ .fork ∧ ∀ name arguments, call ≠ .load name arguments) ∧
      system.perform number process call = .blocked := by
  have plain : call ≠ .fork ∧ ∀ name arguments, call ≠ .load name arguments := by
    constructor
    · rintro rfl
      simp [step, present, alive, going, asks] at stuck
    · rintro name arguments rfl
      simp [step, present, alive, going, asks] at stuck
  refine ⟨plain, ?_⟩
  cases performed : system.perform number process call with
  | blocked => rfl
  | answer reply between =>
    cases stuck.symm.trans (step_eq_of_answer present alive going asks plain performed)
  | moved between =>
    cases stuck.symm.trans (step_eq_of_moved present alive going asks plain performed)

/-- Who waits for data reads from an empty pipe to which somebody can write. -/
theorem of_read_blocked (blocked : system.perform number process (.read descriptor limit) = .blocked) :
    ∃ pipe found, system.inlet? process descriptor = some (pipe, found) ∧ found.pages = [] ∧
      system.holds (.writeEnd pipe) = true ∧ found.readsAtOnce = false := by
  have received := system.perform_read number process descriptor limit
  rw [blocked] at received
  cases received with
  | blocked pipe found inlet empty written waits => exact ⟨pipe, found, inlet, empty, written, waits⟩

/-- Who waits for room writes into a pipe that holds something and from which somebody can read. -/
theorem of_write_blocked (roomy : 0 < system.shape.capacity)
    (blocked : system.perform number process (.write descriptor data) = .blocked) :
    ∃ pipe found, system.outlet? process descriptor = some (pipe, found) ∧ found.pages ≠ [] ∧
      system.holds (.readEnd pipe) = true ∧ found.writesAtOnce = false := by
  have wrote := system.perform_write number process descriptor data
  rw [blocked] at wrote
  cases wrote with
  | blocked pipe found replaced rest outlet waits read nonempty took remains stuck =>
    refine ⟨pipe, found, outlet, fun empty => ?_, read, waits⟩
    have pages : 0 < system.shape.pages := Nat.pos_of_mul_pos_right roomy
    have size : 0 < system.shape.pageSize := Nat.pos_of_mul_pos_left roomy
    -- An empty pipe would have taken at least one more byte.
    unfold taken at took
    split at took
    · rename_i unbegun
      rw [Pipe.accept_of_empty empty] at took
      have shorter := Pipe.length_rest_lt pages size empty nonempty took
      omega
    · have left : data.drop process.written ≠ [] := by
        intro nothing
        have takes := Pipe.extend_takes took
        obtain ⟨bytes, whole, -⟩ := takes.content
        rw [nothing] at whole
        exact remains (List.append_eq_nil_iff.mp whole.symm).2
      have shorter := Pipe.length_rest_lt pages size empty left took
      rw [List.length_drop] at shorter
      omega

end Kernel.System

/-- On its way to its program a process can only wait for a complaint to be taken. -/
theorem Startup.complaining_of_blocked {σ : Type} {system : System σ} {number : Nat} {process : Process σ}
    {startup : Startup} (blocked : system.perform number process startup.next = .blocked) :
    ∃ part parts code, startup.control = .complaining part parts code := by
  have tabled : ∀ result : Except Errno DescriptorTable, system.tableAnswer number process result ≠ .blocked := by
    intro result
    cases result <;> simp [System.tableAnswer]
  obtain ⟨name, arguments, control⟩ := startup
  cases control with
  | complaining part parts code => exact ⟨part, parts, code, rfl⟩
  | closingUnused unused streams => exact absurd blocked (tabled _)
  | closingEndpoint endpoint later => exact absurd blocked (tabled _)
  | redirecting endpoint target later =>
    simp only [Startup.next] at blocked
    split at blocked <;> exact absurd blocked (tabled _)
  | movingStdout stdin =>
    simp only [Startup.next, System.perform] at blocked
    generalize process.descriptors.duplicateFrom process.limit 0 (diagnostics + 1) = result at blocked
    cases result <;> cases blocked
  | loading => cases blocked
  | exiting code => cases blocked

/-- Standard streams on which nobody has to wait: what is a pipe among them answers at once. -/
structure Prompt {τ : Type} (base : DescriptorTable) (machine : Machine τ) : Prop where
  input : ∀ (descriptor : Descriptor) (pipe : Nat) (found : Pipe), base[0]? = some descriptor →
    descriptor.object.pipe? = some pipe → machine.pipes[pipe]? = some found → found.readsAtOnce = true
  output : ∀ (place : Nat) (descriptor : Descriptor) (pipe : Nat) (found : Pipe), place = 1 ∨ place = 2 →
    base[place]? = some descriptor → descriptor.object.pipe? = some pipe → machine.pipes[pipe]? = some found →
    found.writesAtOnce = true

namespace Run

/-- Whether a run makes nothing any more. -/
def waits (run : Run) : Bool :=
  match run.control with
  | .reaping | .finished _ => true
  | _ => false

theorem waits_resume {run : Run} (waiting : run.waits = true) (reply : Kernel.Reply) :
    (run.resume reply).waits = true := by
  obtain ⟨phase, control, index, stages, report, trace⟩ := run
  cases control with
  | reaping =>
    cases reply with
    | ended process how =>
      simp only [resume]
      split <;> rfl
    | failed errno =>
      simp only [resume]
      split
      · rfl
      split
      · unfold complete
        split <;> rfl
      · rfl
    | _ => rfl
  | finished outcome => cases reply <;> rfl
  | _ => cases waiting

theorem held_of_waits {run : Run} (waiting : run.waits = true) (channels : List Nat) : run.held channels = [] := by
  obtain ⟨phase, control, index, stages, report, trace⟩ := run
  cases control <;> first | rfl | cases waiting

theorem startup?_of_waits {run : Run} (waiting : run.waits = true) : run.startup? = none := by
  obtain ⟨phase, control, index, stages, report, trace⟩ := run
  cases control <;> first | rfl | cases waiting

/-- A run that has more to make calls for it, or releases what it holds. -/
theorem next_of_not_waits {run : Run} (working : ∀ text, run.control ≠ .complaining text)
    (spawning : run.waits = false) :
    run.next = some .pipe ∨ run.next = some .fork ∨ ∃ endpoint, run.next = some (.close endpoint) := by
  obtain ⟨phase, control, index, stages, report, trace⟩ := run
  cases control with
  | opening stage later incoming => exact .inl rfl
  | forking stage later streams carried => exact .inr (.inl rfl)
  | closingRead stage later endpoint stdout carried => exact .inr (.inr ⟨endpoint, rfl⟩)
  | closingWrite stage later endpoint carried => exact .inr (.inr ⟨endpoint, rfl⟩)
  | dropping endpoint others fault => exact .inr (.inr ⟨endpoint, rfl⟩)
  | complaining text => exact absurd rfl (working text)
  | reaping => cases spawning
  | finished outcome => cases spawning

end Run

variable {τ : Type} {images : Behaviour τ} {host mover : Nat} {stages : List Stage} {base : DescriptorTable}
  {children channels : List Nat} {start machine after : Machine τ}

/-- A run whose executor makes nothing any more and holds no end of a channel. -/
structure Settled (host : Nat) (stages : List Stage) (base : DescriptorTable) (children channels : List Nat)
    (start machine : Machine τ) : Prop where
  made : Made host stages base children channels machine
  confined : Confined host start.nextPipe base children channels machine
  flowing : Flowing start base children channels machine
  executor : ∀ process, machine.processes[host]? = some process →
    base.Inherits process.descriptors ∧ ∃ run, process.program = .executor run ∧ run.waits = true

/-- The stage at an index can read nothing from the channel before it. -/
def Starves (channels : List Nat) (machine : Machine τ) (index : Nat) : Prop :=
  ∃ channel found, 0 < index ∧ channels[index - 1]? = some channel ∧ machine.pipes[channel]? = some found ∧
    found.pages = [] ∧ machine.holds (.writeEnd channel) = true

/-- The stage at an index can write nothing into the channel behind it. -/
def Jams (channels : List Nat) (machine : Machine τ) (index : Nat) : Prop :=
  ∃ channel found, channels[index]? = some channel ∧ machine.pipes[channel]? = some found ∧ found.pages ≠ [] ∧
    machine.holds (.readEnd channel) = true

namespace Settled

/-- Nothing is left of the channels in the table of the executor. -/
theorem released {process : Process (Program τ)} {place channel : Nat} {object : Object}
    (settled : Settled host stages base children channels start machine)
    (present : machine.processes[host]? = some process) (isChannel : channels[place]? = some channel)
    (isPipe : object.pipe? = some channel) : ¬ process.descriptors.Has object := by
  intro has
  exact settled.confined.not_old isChannel isPipe ((settled.executor process present).1 object has)

theorem holder_of_write {place channel : Nat} (settled : Settled host stages base children channels start machine)
    (isChannel : channels[place]? = some channel) (held : machine.holds (.writeEnd channel) = true) :
    ∃ number process, children[place]? = some number ∧ machine.processes[number]? = some process ∧
      process.ending = none := by
  obtain ⟨number, process, present, refers⟩ := System.holds_iff.mp held
  obtain ⟨whole, has, includes⟩ := DescriptorTable.refersTo_iff.mp refers
  rcases settled.confined.holder_of_write isChannel present refers with rfl | isChild
  · exact absurd has (settled.released present isChannel (Object.of_includes_writeEnd includes).1)
  · exact ⟨number, process, isChild, present, (settled.confined.proper number process present).alive_of_has has⟩

theorem holder_of_read {place channel : Nat} (settled : Settled host stages base children channels start machine)
    (isChannel : channels[place]? = some channel) (held : machine.holds (.readEnd channel) = true) :
    ∃ number process, machine.processes[number]? = some process ∧ process.ending = none ∧
      ((children[place]? = some number ∧ ∃ startup, process.program = .startup startup) ∨
        children[place + 1]? = some number) := by
  obtain ⟨number, process, present, refers⟩ := System.holds_iff.mp held
  obtain ⟨whole, has, includes⟩ := DescriptorTable.refersTo_iff.mp refers
  rcases settled.confined.holder_of_read isChannel present refers with rfl | isChild
  · exact absurd has (settled.released present isChannel (Object.of_includes_readEnd includes).1)
  · exact ⟨number, process, present, (settled.confined.proper number process present).alive_of_has has, isChild⟩

/-- A pipe that the executor had at the start of the run answers as it did there. -/
theorem answers_as_before {place pipe : Nat} {descriptor : Descriptor} {found : Pipe}
    (settled : Settled host stages base children channels start machine) (old : base[place]? = some descriptor)
    (isPipe : descriptor.object.pipe? = some pipe) (there : machine.pipes[pipe]? = some found) :
    ∃ earlier, start.pipes[pipe]? = some earlier ∧ found.readsAtOnce = earlier.readsAtOnce ∧
      found.writesAtOnce = earlier.writesAtOnce :=
  settled.flowing.ways pipe found (settled.confined.old descriptor.object pipe ⟨place, descriptor, old, rfl⟩ isPipe)
    there

section stuck

variable {index number : Nat} {process : Process (Program τ)} {state : τ}
  (settled : Settled host stages base children channels start machine) (prompt : Prompt base start)
  (isChild : children[index]? = some number) (present : machine.processes[number]? = some process)

include settled prompt isChild present

/-- A stage waits for data only at the channel before it. -/
theorem starves {limit : Nat} (image : process.program = .image state)
    (blocked : machine.perform number process (.read 0 limit) = .blocked) : Starves channels machine index := by
  obtain ⟨pipe, found, inlet, empty, written, waits⟩ := System.of_read_blocked blocked
  obtain ⟨descriptor, isOpen, refers, there⟩ := System.descriptor_of_inlet inlet
  have isPipe := (Object.of_includes_readEnd refers).1
  have equipped := (settled.flowing.stage index number process isChild present).left state image 0 descriptor isOpen
  rcases input_of_stageTable (DescriptorTable.getElem?_of_afterLoad equipped) with input | old
  · unfold input? at input
    split at input
    · cases input
    · obtain ⟨channel, isChannel, object⟩ := Option.map_eq_some_iff.mp input
      obtain rfl : channel = pipe := by simpa [← object, Object.pipe?] using isPipe
      exact ⟨channel, found, by omega, isChannel, there, empty, written⟩
  · obtain ⟨earlier, began, reads, -⟩ := settled.answers_as_before old isPipe there
    rw [reads, prompt.input descriptor pipe earlier old isPipe began] at waits
    cases waits

/-- A stage waits for room only at the channel behind it. -/
theorem jams {data : Bytes} (roomy : 0 < start.shape.capacity) (image : process.program = .image state)
    (blocked : machine.perform number process (.write 1 data) = .blocked) : Jams channels machine index := by
  obtain ⟨pipe, found, outlet, some, read, waits⟩ :=
    System.of_write_blocked (settled.flowing.shape.symm ▸ roomy) blocked
  obtain ⟨descriptor, isOpen, refers, there⟩ := System.descriptor_of_outlet outlet
  have isPipe := (Object.of_includes_writeEnd refers).1
  have equipped := (settled.flowing.stage index number process isChild present).left state image 1 descriptor isOpen
  rcases output_of_stageTable (DescriptorTable.getElem?_of_afterLoad equipped) with output | old
  · obtain ⟨channel, isChannel, object⟩ := Option.map_eq_some_iff.mp output
    obtain rfl : channel = pipe := by simpa [← object, Object.pipe?] using isPipe
    exact ⟨channel, found, isChannel, there, some, read⟩
  · obtain ⟨earlier, began, -, writes⟩ := settled.answers_as_before old isPipe there
    rw [writes, prompt.output 1 descriptor pipe earlier (.inl rfl) old isPipe began] at waits
    cases waits

/-- A process on its way to its program never waits. -/
theorem not_blocked_of_startup {startup : Startup} (roomy : 0 < start.shape.capacity)
    (program : process.program = .startup startup) (alive : process.ending = none) :
    machine.perform number process startup.next ≠ .blocked := by
  intro blocked
  have equipped := settled.flowing.stage index number process isChild present
  obtain ⟨part, parts, code, complaining⟩ := Startup.complaining_of_blocked blocked
  rw [Startup.next, complaining] at blocked
  obtain ⟨pipe, found, outlet, -, -, waits⟩ :=
    System.of_write_blocked (settled.flowing.shape.symm ▸ roomy) blocked
  obtain ⟨descriptor, isOpen, refers, there⟩ := System.descriptor_of_outlet outlet
  have isPipe := (Object.of_includes_writeEnd refers).1
  rw [equipped.diagnostics_of_complaining program alive complaining] at isOpen
  obtain ⟨earlier, began, -, writes⟩ := settled.answers_as_before isOpen isPipe there
  rw [writes, prompt.output 2 descriptor pipe earlier (.inr rfl) isOpen isPipe began] at waits
  cases waits

/-- A stage that makes no move waits at a channel. -/
theorem starves_or_jams (filters : images.Filters) (roomy : 0 < start.shape.capacity)
    (alive : process.ending = none) (stuck : machine.step (Program.behaviour images) number = none) :
    Starves channels machine index ∨ Jams channels machine index ∧ ∃ state, process.program = .image state := by
  have proper := settled.confined.proper number process present
  have member := List.mem_of_getElem? isChild
  have notHost := (settled.made.child index number isChild).1
  have going := (proper.stage member).1
  rcases proper.kind notHost alive with ⟨startup, program⟩ | ⟨state, image⟩
  · have asks : (Program.behaviour images).next process.program = some startup.next := by
      rw [program]
      rfl
    have blocked := (System.blocked_of_step_eq_none present alive going asks stuck).2
    exact absurd blocked (not_blocked_of_startup settled prompt isChild present roomy program alive)
  · obtain ⟨call, next, onStreams⟩ := filters state
    have asks : (Program.behaviour images).next process.program = some call := by rw [image]; exact next
    have blocked := (System.blocked_of_step_eq_none present alive going asks stuck).2
    rcases Call.cases_of_isOnStreams onStreams with ⟨limit, rfl⟩ | ⟨data, rfl⟩ | ⟨place, standard, rfl⟩ | ⟨code, rfl⟩
    · exact .inl (starves settled prompt isChild present image blocked)
    · exact .inr ⟨jams settled prompt isChild present roomy image blocked, state, image⟩
    · rw [System.perform_close] at blocked
      cases blocked
    · cases blocked

end stuck

/-- As long as a stage lives, some stage makes a move. -/
theorem exists_step (settled : Settled host stages base children channels start machine) (filters : images.Filters)
    (roomy : 0 < start.shape.capacity) (prompt : Prompt base start)
    (alive : ∃ child ∈ children, machine.isRunning child = true) :
    ∃ child ∈ children, (machine.step (Program.behaviour images) child).isSome = true := by
  by_cases none : ∃ child ∈ children, (machine.step (Program.behaviour images) child).isSome = true
  · exact none
  exfalso
  have waits : ∀ (index number : Nat) (process : Process (Program τ)), children[index]? = some number →
      machine.processes[number]? = some process → process.ending = .none →
      Starves channels machine index ∨ Jams channels machine index ∧ ∃ state, process.program = .image state := by
    intro index number process isChild present alive
    refine starves_or_jams settled prompt isChild present filters roomy alive ?_
    rw [← Option.not_isSome_iff_eq_none]
    exact fun moves => none ⟨number, List.mem_of_getElem? isChild, moves⟩
  -- Who waits for data waits for the stage before it, which cannot wait for room in the same, empty channel.
  have fed : ∀ index, ¬ Starves channels machine index := by
    intro index
    induction index with
    | zero =>
      rintro ⟨channel, found, positive, -⟩
      exact Nat.lt_irrefl 0 positive
    | succ index ih =>
      rintro ⟨channel, found, -, isChannel, there, empty, written⟩
      rw [Nat.add_sub_cancel] at isChannel
      obtain ⟨number, process, isChild, present, alive⟩ := settled.holder_of_write isChannel written
      rcases waits index number process isChild present alive with starves | ⟨⟨other, pipe, same, here, some, -⟩, -⟩
      · exact ih starves
      · obtain rfl : channel = other := by rwa [isChannel, Option.some.injEq] at same
        obtain rfl : found = pipe := by rwa [there, Option.some.injEq] at here
        exact some empty
  -- So all wait for room, each for the stage behind it; but behind the last there is none.
  have drained : ∀ left index number process, children.length = index + left → children[index]? = some number →
      machine.processes[number]? = some process → (∃ state, process.program = .image state) →
      ¬ Jams channels machine index := by
    intro left
    induction left with
    | zero =>
      intro index number process counted isChild
      have within := (List.getElem?_eq_some_iff.mp isChild).1
      omega
    | succ left ih =>
      rintro index number process counted isChild present ⟨state, image⟩ ⟨channel, found, isChannel, there, some, read⟩
      obtain ⟨reader, behind, here, alive, ⟨same, startup, early⟩ | isNext⟩ := settled.holder_of_read isChannel read
      · obtain rfl : number = reader := by rwa [isChild, Option.some.injEq] at same
        obtain rfl : process = behind := by rwa [present, Option.some.injEq] at here
        rw [image] at early
        cases early
      · rcases waits (index + 1) reader behind isNext here alive with starves | ⟨jams, image⟩
        · exact fed (index + 1) starves
        · exact ih (index + 1) reader behind (by omega) isNext here image jams
  obtain ⟨child, member, running⟩ := alive
  obtain ⟨index, isChild⟩ := List.mem_iff_getElem?.mp member
  obtain ⟨process, present, lives⟩ := System.isRunning_iff.mp running
  have within := (List.getElem?_eq_some_iff.mp isChild).1
  rcases waits index child process isChild present lives with starves | ⟨jams, image⟩
  · exact fed index starves
  · exact drained (children.length - index) index child process (by omega) isChild present image jams

/-- A run that makes nothing any more has settled. -/
theorem of_underway {run : Run} {process : Process (Program τ)}
    (underway : Underway host stages base children channels machine)
    (confined : Confined host start.nextPipe base children channels machine)
    (flowing : Flowing start base children channels machine) (present : machine.processes[host]? = some process)
    (program : process.program = .executor run) (waiting : run.waits = true) :
    Settled host stages base children channels start machine where
  made := underway.toMade
  confined := confined
  flowing := flowing
  executor found same := by
    obtain rfl : process = found := by rwa [present, Option.some.injEq] at same
    obtain ⟨given, executor, executes⟩ := underway.executor process present
    obtain rfl : run = given := by rwa [program, Program.executor.injEq] at executor
    have adds := (executes ((confined.proper host process present).executor rfl).1).adds
    rw [Run.held_of_waits waiting] at adds
    exact ⟨adds.eq_base ▸ .refl base, run, program, waiting⟩

/-- The executor is given another program, or less of what it had. -/
theorem put {process replacement : Process (Program τ)} {run : Run}
    (settled : Settled host stages base children channels start machine)
    (present : machine.processes[host]? = some process) (program : replacement.program = .executor run)
    (waiting : run.waits = true) (inherits : process.descriptors.Inherits replacement.descriptors)
    (idle : replacement.ending = none ∧ replacement.stopped = false ∧ replacement.opening = none ∧
      replacement.written = 0) :
    Settled host stages base children channels start (machine.put host replacement) := by
  have made := settled.made
  have others : ∀ {index number : Nat} {later : Process (Program τ)}, children[index]? = some number →
      (machine.put host replacement).processes[number]? = some later → machine.processes[number]? = some later := by
    intro index number later isChild found
    rwa [System.getElem?_put, if_neg (made.child index number isChild).1.symm] at found
  refine ⟨⟨⟨?_⟩, made.host_lt, made.channels_le, made.behind, ?_⟩, ?_, ⟨settled.flowing.shape, settled.flowing.ways, ?_⟩, ?_⟩
  · intro number later found
    rw [System.getElem?_put] at found
    split at found
    · rename_i same
      exact same ▸ made.host_lt
    · exact made.numbered.process number later found
  · intro index number isChild
    obtain ⟨notHost, older, becomes⟩ := made.child index number isChild
    exact ⟨notHost, older, fun later found => becomes later (others isChild found)⟩
  · exact settled.confined.put (.of_host made.host_not_mem (fun object pipe has =>
      (settled.confined.proper host process present).known object pipe (inherits object has)) idle)
  · intro index number later isChild found
    exact settled.flowing.stage index number later isChild (others isChild found)
  · intro later found
    rw [System.getElem?_put_self] at found
    cases found
    exact ⟨(settled.executor process present).1.trans inherits, run, program, waiting⟩

/-- A run that has settled stays so, whoever moves. -/
theorem step (settled : Settled host stages base children channels start machine) (filters : images.Filters)
    (moved : machine.Moved images host mover after) : Settled host stages base children channels start after := by
  obtain ⟨process, present⟩ := moved.exists_mover
  have made := settled.made
  have confined := settled.confined
  by_cases own : mover = host
  · subst own
    obtain ⟨inherits, run, program, waiting⟩ := settled.executor process present
    have working : ∀ text, run.control ≠ .complaining text := by
      intro text complaining
      simp [Run.waits, complaining] at waiting
    have move := moved.run_move made.numbered present program working
    rcases move.makes with ⟨stage, later, incoming, read, write, between, table, opening, -⟩ |
      ⟨stage, later, streams, carried, forking, -⟩ | keeps
    · simp [Run.waits, opening] at waiting
    · simp [Run.waits, forking] at waiting
    · have kept := made.step moved
      have confined := confined.step_keeps made.host_not_mem present keeps
      have flowing := settled.flowing.step_keeps made.host_not_mem keeps
      obtain ⟨processes, table, reply, there, -, fewer⟩ := keeps
      refine ⟨kept, confined, flowing, fun later found => ?_⟩
      rw [System.getElem?_put_self] at found
      cases found
      refine ⟨inherits.trans fewer, run.resume reply, ?_, Run.waits_resume waiting reply⟩
      simp only [Process.answered, program, Program.behaviour, Run.startup?_of_waits waiting]
  · have stepped := moved.step_of_ne own
    refine ⟨made.step moved, confined.step_other made filters own stepped,
      settled.flowing.step_other confined made filters own stepped, fun later found => ?_⟩
    obtain ⟨earlier, living, disturbed⟩ :=
      (moved.spares made.numbered).others host (Ne.symm own) made.host_lt later found
    obtain ⟨inherits, run, program, waiting⟩ := settled.executor earlier living
    have alive := ((confined.step_other made filters own stepped).proper host later found).executor rfl
    exact ⟨(disturbed.alive alive.1).2 ▸ inherits, run, disturbed.program.trans program, waiting⟩

/-- All along a course a run that has settled stays so. -/
theorem course {first : Machine τ} {chronicle : Chronicle}
    (settled : Settled host stages base children channels start first) (filters : images.Filters)
    (course : Course images host first chronicle machine) :
    Settled host stages base children channels start machine := by
  refine Course.preserves (fun _ machine => Settled host stages base children channels start machine) settled ?_ ?_
    course
  · intro chronicle before after mover settled moved
    exact settled.step filters moved
  · rintro chronicle before clock ⟨⟨⟨numbered⟩, older, few, behind, child⟩, confined, flowing, executor⟩
    obtain ⟨old, floor_le, recent, distinctChannels, distinctChildren, proper⟩ := confined
    exact ⟨⟨⟨numbered⟩, older, few, behind, child⟩,
      ⟨old, floor_le, recent, distinctChannels, distinctChildren, proper⟩,
      ⟨flowing.shape, flowing.ways, flowing.stage⟩, executor⟩

end Settled

/-- An executor that has more to make makes a move. -/
theorem isSome_step_of_not_waits {process : Process (Program τ)} {run : Run}
    (present : machine.processes[host]? = some process) (alive : process.ending = none)
    (going : process.stopped = false) (program : process.program = .executor run)
    (working : ∀ text, run.control ≠ .complaining text) (spawning : run.waits = false) :
    (machine.step (Program.behaviour images) host).isSome = true := by
  by_cases moves : (machine.step (Program.behaviour images) host).isSome = true
  · exact moves
  have stuck := Option.not_isSome_iff_eq_none.mp moves
  have asks : ∀ call, run.next = some call → (Program.behaviour images).next process.program = some call := by
    intro call next
    rw [program]
    exact next
  rcases Run.next_of_not_waits working spawning with opens | forks | ⟨endpoint, closes⟩
  · have blocked := (System.blocked_of_step_eq_none present alive going (asks _ opens) stuck).2
    rcases machine.makePipe_eq host process with ⟨errno, refused⟩ | ⟨read, write, between, table, -, -, made⟩
    · rw [System.perform, refused] at blocked
      cases blocked
    · rw [System.perform, made] at blocked
      cases blocked
  · exact absurd rfl (System.blocked_of_step_eq_none present alive going (asks _ forks) stuck).1.1
  · have blocked := (System.blocked_of_step_eq_none present alive going (asks _ closes) stuck).2
    rw [System.perform_close] at blocked
    cases blocked

/-- No run comes to a state in which nobody can move, as long as a stage of it lives: where the standard streams of
the executor make nobody wait, the executor or a stage can move in every state, whatever the stages do and whoever
has moved before. The stages that are left when a channel is refused can never all wait, either, so that they
can be waited for. -/
theorem deadlock_free {executor : Process (Program τ)} {chronicle : Chronicle} (filters : images.Filters)
    (ready : Ready host stages executor start) (roomy : 0 < start.shape.capacity)
    (prompt : Prompt executor.descriptors start) (course : Course images host start chronicle machine) :
    ((∃ child ∈ chronicle.children, machine.isRunning child = true) →
      ∃ number, (number = host ∨ number ∈ chronicle.children) ∧
        (machine.step (Program.behaviour images) number).isSome = true) ∧
    (∀ (run : Run) (index : Nat) (stage : Stage) (errno : Errno), machine.run? host = some run →
      run.outcome? = some (.error (.pipe index stage errno)) →
      chronicle.children.length = index ∧
      ∀ (phase : Phase) (again : Chronicle) (later : Machine τ),
        Course images host (machine.putProgram host (.executor (.ofChildren phase))) again later →
        (∃ child ∈ chronicle.children, later.isRunning child = true) →
        ∃ child ∈ chronicle.children, (later.step (Program.behaviour images) child).isSome = true) := by
  obtain ⟨underway, confined⟩ := ready.course filters course
  have flowing := ready.flowing filters course
  constructor
  · intro alive
    by_cases there : ∃ process, machine.processes[host]? = some process
    · obtain ⟨process, present⟩ := there
      obtain ⟨run, program, executes⟩ := underway.executor process present
      obtain ⟨lives, going, -, -⟩ := (confined.proper host process present).executor rfl
      cases waiting : run.waits with
      | true =>
        have settled := Settled.of_underway underway confined flowing present program waiting
        obtain ⟨child, member, moves⟩ := settled.exists_step filters roomy prompt alive
        exact ⟨child, .inr member, moves⟩
      | false =>
        exact ⟨host, .inl rfl, isSome_step_of_not_waits present lives going program (executes lives).working waiting⟩
    · have settled : Settled host stages executor.descriptors chronicle.children chronicle.channels start machine :=
        ⟨underway.toMade, confined, flowing, fun process present => absurd ⟨process, present⟩ there⟩
      obtain ⟨child, member, moves⟩ := settled.exists_step filters roomy prompt alive
      exact ⟨child, .inr member, moves⟩
  · intro run index stage errno runs ended
    obtain ⟨process, present, program⟩ := Machine.run?_eq_some runs
    have idle := (confined.proper host process present).executor rfl
    have finished := Run.control_of_outcome? ended
    have waiting : run.waits = true := by rw [Run.waits, finished]
    have settled := Settled.of_underway underway confined flowing present program waiting
    obtain ⟨given, same, executes⟩ := underway.executor process present
    obtain rfl : run = given := by rwa [program, Program.executor.injEq] at same
    have fits := (executes idle.1).fits
    simp only [Run.Fits, finished] at fits
    refine ⟨fits.2.2.1.trans fits.1.symm, fun phase again later further alive => ?_⟩
    rw [Machine.putProgram_eq present] at further
    have waits : Settled host stages executor.descriptors chronicle.children chronicle.channels start
        (machine.put host { process with program := .executor (.ofChildren phase) }) :=
      settled.put present rfl rfl (.refl _) idle
    exact (waits.course filters further).exists_step filters roomy prompt alive

/-- Nobody waits for the standard streams of copiers, which are files. -/
theorem Prompt.copying (count : Nat) : Prompt copiedStreams (Machine.copying copiedStreams count) := by
  constructor
  · intro descriptor pipe found isOpen isPipe
    rw [Ready.pipe?_of_copiedStreams ⟨0, descriptor, isOpen, rfl⟩] at isPipe
    cases isPipe
  · intro place descriptor pipe found _ isOpen isPipe
    rw [Ready.pipe?_of_copiedStreams ⟨place, descriptor, isOpen, rfl⟩] at isPipe
    cases isPipe

/-- The second of two stages waits for the first one; and that one can move, though its writes find room for a single
byte only. When the channel behind the third of four stages is refused, the second waits for the first, and nobody will
ever read what it writes; but while somebody lives somebody can move. -/
theorem deadlock_free_with_narrow_pipe :
    (∃ (chronicle : Chronicle) (machine : Machine (Option Bytes)),
      Course copier 1 (.copying copiedStreams 2) chronicle machine ∧ machine.isRunning 3 = true ∧
      machine.step (Program.behaviour copier) 3 = none ∧
      ∃ number, (number = 1 ∨ number ∈ chronicle.children) ∧
        (machine.step (Program.behaviour copier) number).isSome = true) ∧
    ∃ (chronicle : Chronicle) (machine : Machine (Option Bytes)) (run : Run),
      Course copier 1 (.copying copiedStreams 4) chronicle machine ∧ machine.run? 1 = some run ∧
      run.outcome? = some (.error (.pipe 2 (copierStage 2) .tooManyOpen)) ∧ chronicle.children = [2, 3] ∧
      machine.step (Program.behaviour copier) 3 = none ∧
      ∃ child ∈ [2, 3], (System.step (Program.behaviour copier)
        (machine.putProgram 1 (.executor (.ofChildren run.phase))) child).isSome = true := by
  constructor
  · obtain ⟨chronicle, machine, course, checked⟩ := Course.exists_of_follow copier 1 (.copying copiedStreams 2)
      ([1, 1, 1, 1, 3, 3, 3, 2, 2, 2, 2].map .step)
      (fun chronicle machine => chronicle.children == [2, 3] && machine.isRunning 3 &&
        (machine.step (Program.behaviour copier) 3).isNone) (by decide +kernel)
    simp only [Bool.and_eq_true, beq_iff_eq, Option.isNone_iff_eq_none] at checked
    obtain ⟨⟨children, running⟩, waits⟩ := checked
    have free := (deadlock_free copier_filters (Ready.copying 2 fun _ => Ready.pipe?_of_copiedStreams) (by decide)
      (.copying 2) course).1
    exact ⟨chronicle, machine, course, running, waits, free ⟨3, by simp [children], running⟩⟩
  · obtain ⟨chronicle, machine, course, checked⟩ := Course.exists_of_follow copier 1 (.copying copiedStreams 4)
      ([1, 1, 1, 1, 1, 1, 1].map .step ++ .mishap .tooManyOpen :: [1, 3, 3, 3, 3, 3, 3].map .step)
      (fun chronicle machine => chronicle.children == [2, 3] && machine.isRunning 3 &&
        (machine.step (Program.behaviour copier) 3).isNone &&
        (machine.run? 1).any fun run => run.outcome?.any fun outcome =>
          match outcome with
          | .ok _ => false
          | .error fault => fault == .pipe 2 (copierStage 2) .tooManyOpen) (by decide +kernel)
    simp only [Bool.and_eq_true, beq_iff_eq, Option.isNone_iff_eq_none, Option.any_eq_true] at checked
    obtain ⟨⟨⟨children, running⟩, waits⟩, run, runs, outcome, ended, failed⟩ := checked
    have ended : run.outcome? = some (.error (.pipe 2 (copierStage 2) .tooManyOpen)) := by
      cases outcome with
      | ok report => cases failed
      | error fault => rw [ended, eq_of_beq failed]
    have free := (deadlock_free copier_filters (Ready.copying 4 fun _ => Ready.pipe?_of_copiedStreams) (by decide)
      (.copying 4) course).2 run 2 (copierStage 2) .tooManyOpen runs ended
    rw [children] at free
    have alive : System.isRunning (machine.putProgram 1 (.executor (.ofChildren run.phase))) 3 = true := by
      simpa [System.isRunning, Machine.putProgram, Std.ExtTreeMap.getElem?_modify] using running
    exact ⟨chronicle, machine, run, course, runs, ended, children, waits,
      free.2 run.phase {} _ .start ⟨3, by simp, alive⟩⟩

end Pipework
