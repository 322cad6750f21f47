import Pipework.Proofs.Wiring

set_option autoImplicit false

/-!
Machines on which nobody but executors gets hold of anything new. The processes of stages only use, pass on and
release what they were made with: their calls bring nothing (`Call.bringsNothing`). So an object that somebody
refers to was referred to before by the same process, or by the executor that made it, and the endpoints of a run
stay where the run has put them (`Confined`).
-/

namespace Pipework

open Kernel

/-- The pipe of an object. -/
def Kernel.Object.pipe? : Object → Option Nat
  | .readEnd pipe | .writeEnd pipe | .bothEnds pipe => some pipe
  | .file _ => none

theorem Kernel.Object.of_includes_writeEnd {whole : Object} {pipe : Nat}
    (includes : whole.includes (.writeEnd pipe) = true) : whole.pipe? = some pipe ∧ whole ≠ .readEnd pipe := by
  cases whole <;> simp_all [Object.includes, Object.pipe?]

/-- What includes an end of a pipe is one. -/
theorem Kernel.Object.pipe?_of_includes {whole part : Object} {pipe : Nat} (includes : whole.includes part = true)
    (isPipe : part.pipe? = some pipe) : whole.pipe? = some pipe := by
  cases whole <;> cases part <;> simp_all [Object.includes, Object.pipe?]

theorem Kernel.Object.of_includes_readEnd {whole : Object} {pipe : Nat}
    (includes : whole.includes (.readEnd pipe) = true) : whole.pipe? = some pipe ∧ whole ≠ .writeEnd pipe := by
  cases whole <;> simp_all [Object.includes, Object.pipe?]

/-- Whether a call gives its caller no object that it does not have, starts no process and sends no signal. -/
def Kernel.Call.bringsNothing : Call → Bool
  | .close _ | .duplicate _ _ | .duplicateFrom _ _ | .keepOnExec _ | .read _ _ | .write _ _ | .load _ _ | .exit _ =>
    true
  | _ => false

/-- Whether a call uses a standard stream, or ends the caller. -/
def Kernel.Call.isOnStreams : Call → Bool
  | .read 0 _ | .write 1 _ | .close 0 | .close 1 | .exit _ => true
  | _ => false

/-- Images that read their standard input, write their standard output, close these or exit, and do nothing else. -/
def Kernel.Behaviour.Filters {τ : Type} (images : Behaviour τ) : Prop :=
  ∀ state, ∃ call, images.next state = some call ∧ call.isOnStreams = true

theorem copier_filters : copier.Filters := by
  intro state
  cases state with
  | none => exact ⟨.read 0 2, rfl, rfl⟩
  | some data =>
    cases data with
    | nil => exact ⟨.exit 0, rfl, rfl⟩
    | cons byte later => exact ⟨.write 1 (byte :: later), rfl, rfl⟩

theorem Kernel.Call.bringsNothing_of_isOnStreams {call : Call} (onStreams : call.isOnStreams = true) :
    call.bringsNothing = true := by
  unfold isOnStreams at onStreams
  split at onStreams <;> first | rfl | cases onStreams

/-- The calls on the way to the image of a stage bring nothing. -/
theorem Startup.bringsNothing_next (startup : Startup) : startup.next.bringsNothing = true := by
  unfold Startup.next
  repeat' split
  all_goals rfl

namespace Kernel

variable {σ : Type}

/-- What the process `mover` makes of itself by calls that bring nothing. -/
structure Modest (mover : Nat) (before after : Process σ) : Prop where
  inherits : before.descriptors.Inherits after.descriptors
  ending : after.ending = before.ending ∨ after.descriptors = Std.ExtTreeMap.empty
  stopped : after.stopped = before.stopped
  opening : before.opening = none → after.opening = none
  handled : before.handled = [] → after.handled = []
  interrupted : before.handled = [] → before.interrupted = false → after.interrupted = false
  parent : before.parent ≠ some mover → after.parent = before.parent

namespace Modest

variable {mover : Nat} {before after process : Process σ}

theorem refl (mover : Nat) (process : Process σ) : Modest mover process process :=
  ⟨.refl _, .inl rfl, rfl, fun none => none, fun none => none, fun _ unmarked => unmarked, fun _ => rfl⟩

/-- A process that goes on with an answer. -/
theorem answered (modest : Modest mover before after) (behaviour : Behaviour σ) (reply : Reply) :
    Modest mover before (after.answered behaviour reply) :=
  ⟨modest.inherits, modest.ending, modest.stopped, fun _ => rfl, modest.handled, fun _ _ => rfl, modest.parent⟩

/-- A process with fewer descriptors. -/
theorem of_inherits {table : DescriptorTable} (inherits : process.descriptors.Inherits table) :
    Modest mover process { process with descriptors := table } :=
  ⟨inherits, .inl rfl, rfl, fun none => none, fun none => none, fun _ unmarked => unmarked, fun _ => rfl⟩

end Modest

namespace System

variable {system after : System σ} {mover : Nat} {process later : Process σ} {call : Call}

theorem modest_finish {how : Termination} (present : system.processes[mover]? = some process)
    (found : (system.finish mover how).processes[mover]? = some later) : Modest mover process later := by
  have marks := system.marked_undisturbed mover mover process
  rw [getElem?_finish_self how present] at found
  cases found
  exact ⟨DescriptorTable.inherits_empty _, .inr rfl, marks.stopped, marks.opening.trans, marks.handled.trans,
    fun unhandled => (marks.interrupted unhandled).trans, marks.parent⟩

theorem modest_tableAnswer {result : Except Errno DescriptorTable} (present : system.processes[mover]? = some process)
    (inherits : ∀ table, result = .ok table → process.descriptors.Inherits table)
    (led : (system.tableAnswer mover process result).Leads after)
    (found : after.processes[mover]? = some later) : Modest mover process later := by
  cases result with
  | error errno =>
    cases led
    rw [present] at found
    cases found
    exact .refl mover process
  | ok table =>
    cases led
    rw [putTable, getElem?_put_self] at found
    cases found
    exact .of_inherits (inherits table rfl)

theorem modest_write {descriptor : Nat} {data : Bytes} (present : system.processes[mover]? = some process)
    (led : (system.perform mover process (.write descriptor data)).Leads after)
    (found : after.processes[mover]? = some later) : Modest mover process later := by
  have wrote := system.perform_write mover process descriptor data
  generalize system.perform mover process (.write descriptor data) = effect at led wrote
  cases wrote with
  | killed pipe replaced outlet unread unbegun =>
    cases led
    exact modest_finish present found
  | part pipe replaced after rest outlet waits took remains =>
    cases led
    rw [getElem?_put_self] at found
    cases found
    exact ⟨.refl _, .inl rfl, rfl, fun none => none, fun none => none, fun _ unmarked => unmarked, fun _ => rfl⟩
  | blocked => cases led
  | _ =>
    cases led
    obtain rfl := eq_of_processes rfl present found
    exact .refl mover process

theorem modest_read {descriptor limit : Nat} (present : system.processes[mover]? = some process)
    (led : (system.perform mover process (.read descriptor limit)).Leads after)
    (found : after.processes[mover]? = some later) : Modest mover process later := by
  have received := system.perform_read mover process descriptor limit
  generalize system.perform mover process (.read descriptor limit) = effect at led received
  cases received with
  | blocked => cases led
  | _ =>
    cases led
    obtain rfl := eq_of_processes rfl present found
    exact .refl mover process

/-- A call that brings nothing leaves its caller with what it had, or with less. -/
theorem modest_perform (present : system.processes[mover]? = some process) (modest : call.bringsNothing = true)
    (led : (system.perform mover process call).Leads after) (found : after.processes[mover]? = some later) :
    Modest mover process later := by
  cases call with
  | close descriptor =>
    refine modest_tableAnswer present (fun table closed => ?_) led found
    exact DescriptorTable.eq_of_close closed ▸ DescriptorTable.inherits_erase _ _
  | duplicate source target =>
    refine modest_tableAnswer present (fun table duplicated => ?_) led found
    exact DescriptorTable.inherits_of_duplicate duplicated
  | duplicateFrom source least =>
    have inherits : ∀ given : Nat × DescriptorTable,
        process.descriptors.duplicateFrom process.limit source least = .ok given →
        process.descriptors.Inherits given.2 := fun _ => DescriptorTable.inherits_of_duplicateFrom
    simp only [perform] at led
    generalize process.descriptors.duplicateFrom process.limit source least = result at led inherits
    cases result with
    | error errno =>
      cases led
      rw [present] at found
      cases found
      exact .refl mover process
    | ok given =>
      cases led
      rw [putTable, getElem?_put_self] at found
      cases found
      exact .of_inherits (inherits given rfl)
  | keepOnExec descriptor =>
    refine modest_tableAnswer present (fun table kept => ?_) led found
    obtain ⟨entry, isOpen, rfl⟩ := DescriptorTable.eq_of_keepOnExec kept
    exact DescriptorTable.inherits_insert ⟨_, entry, isOpen, rfl⟩ _ _
  | read descriptor limit => exact modest_read present led found
  | write descriptor data => exact modest_write present led found
  | load program arguments =>
    cases led
    rw [present] at found
    cases found
    exact .refl mover process
  | exit code =>
    cases led
    exact modest_finish present found
  | _ => cases modest

/-- A move that brings nothing leaves the process with what it had, or with less. -/
theorem modest_step {behaviour : Behaviour σ} (present : system.processes[mover]? = some process)
    (asks : behaviour.next process.program = some call) (modest : call.bringsNothing = true)
    (moved : system.step behaviour mover = some after) (found : after.processes[mover]? = some later) :
    Modest mover process later := by
  obtain ⟨given, asked, living, -, -, same, how⟩ := step_eq_some moved
  obtain rfl : process = given := by rwa [present, Option.some.injEq] at living
  obtain rfl : call = asked := by rwa [asks, Option.some.injEq] at same
  rcases how with ⟨rfl, -⟩ | ⟨program, arguments, -, rfl⟩ | ⟨-, ⟨reply, between, performed, rfl⟩ | performed |
    ⟨-, -, rfl⟩⟩
  · cases modest
  · unfold load at found
    split at found
    · obtain ⟨earlier, living, rfl⟩ := getElem?_answer_self found
      obtain rfl : process = earlier := by rwa [present, Option.some.injEq] at living
      exact (Modest.refl mover process).answered behaviour _
    · rw [getElem?_put_self] at found
      cases found
      exact ⟨DescriptorTable.inherits_afterLoad _, .inl rfl, rfl, fun none => none, fun _ => rfl, fun _ _ => rfl,
        fun _ => rfl⟩
  · obtain ⟨earlier, living, rfl⟩ := getElem?_answer_self found
    exact (modest_perform present modest (Effect.leads_of_answer performed) living).answered behaviour reply
  · exact modest_perform present modest (Effect.leads_of_moved performed) found
  · rw [answer_eq behaviour (getElem?_put_self _ _ _), put_put, getElem?_put_self] at found
    cases found
    have fewer : Modest mover process (withoutOpening process) := by
      unfold withoutOpening
      split
      · exact .refl mover process
      · exact ⟨DescriptorTable.inherits_erase _ _, .inl rfl, rfl, fun _ => rfl, fun none => none,
          fun _ unmarked => unmarked, fun _ => rfl⟩
    exact fewer.answered behaviour _

end System

end Kernel

variable {τ : Type}

/-- What a stage has in its table when it comes to its program. -/
theorem has_stageTable {base : DescriptorTable} {channels : List Nat} {index : Nat} {object : Object}
    (has : (stageTable base channels index).Has object) :
    base.Has object ∨ input? channels index = some object ∨ output? channels index = some object := by
  obtain ⟨number, descriptor, present, rfl⟩ := has
  obtain rfl | rfl | other : number = 0 ∨ number = 1 ∨ 1 < number := by omega
  · rcases input_of_stageTable present with input | old
    · exact .inr (.inl input)
    · exact .inl ⟨0, descriptor, old, rfl⟩
  · rcases output_of_stageTable present with output | old
    · exact .inr (.inr output)
    · exact .inl ⟨1, descriptor, old, rfl⟩
  · rw [getElem?_stageTable_of_lt other] at present
    exact .inl ⟨number, descriptor, present, rfl⟩

/-- Where the endpoints of a run may be: the stage before a channel has its write end, the stage behind it the read
end. Until it loads its program the stage before it may have the read end, too. -/
def Placed (index place : Nat) (isStartup : Prop) (object : Object) (channel : Nat) : Prop :=
  object = .writeEnd channel ∧ place = index ∨ object = .readEnd channel ∧ (place + 1 = index ∨ place = index ∧ isStartup)

/-- A process of a machine on which the executor `host` has made these processes and channels. -/
structure Proper (host : Nat) (children channels : List Nat) (nextPipe number : Nat)
    (process : Process (Program τ)) : Prop where
  known : ∀ object pipe, process.descriptors.Has object → object.pipe? = some pipe → pipe < nextPipe
  ended : process.ending ≠ none → process.descriptors = Std.ExtTreeMap.empty
  executor : number = host →
    process.ending = none ∧ process.stopped = false ∧ process.opening = none ∧ process.written = 0
  stage : number ∈ children → process.stopped = false ∧ process.opening = none
  kind : number ≠ host → process.ending = none →
    (∃ startup, process.program = .startup startup) ∨ ∃ state, process.program = .image state
  strange : number ≠ host → number ∉ children → ∀ object channel, process.descriptors.Has object →
    object.pipe? = some channel → channel ∉ channels
  placed : ∀ index place object channel, children[index]? = some number → channels[place]? = some channel →
    process.descriptors.Has object → object.pipe? = some channel →
    Placed index place (∃ startup, process.program = .startup startup) object channel
  unsignaled : number ∈ children → ∀ state, process.program = .image state →
    process.handled = [] ∧ process.interrupted = false

/-- A machine on which the endpoints of a run of `host` are where they belong, and all else is older than the run:
what the executor had at its start are files and pipes below `floor`. -/
structure Confined (host floor : Nat) (base : DescriptorTable) (children channels : List Nat) (machine : Machine τ) :
    Prop where
  old : ∀ object pipe, base.Has object → object.pipe? = some pipe → pipe < floor
  floor_le : floor ≤ machine.nextPipe
  recent : ∀ channel ∈ channels, floor ≤ channel ∧ channel < machine.nextPipe
  distinctChannels : channels.Nodup
  distinctChildren : children.Nodup
  proper : ∀ number process, machine.processes[number]? = some process →
    Proper host children channels machine.nextPipe number process

namespace Proper

variable {host nextPipe later number mover : Nat} {children channels : List Nat} {process after : Process (Program τ)}

theorem undisturbed (proper : Proper host children channels nextPipe number process) (more : nextPipe ≤ later)
    (same : Undisturbed mover process after) : Proper host children channels later number after where
  known object pipe has isPipe :=
    Nat.lt_of_lt_of_le (proper.known object pipe (same.descriptors ▸ has) isPipe) more
  ended isEnded := same.descriptors.trans (proper.ended (same.ending ▸ isEnded))
  executor isHost := by
    rw [same.ending, same.stopped, same.opening, same.written]
    exact proper.executor isHost
  stage isChild := by
    rw [same.stopped, same.opening]
    exact proper.stage isChild
  kind notHost alive := by
    rw [same.program]
    exact proper.kind notHost (same.ending ▸ alive)
  strange notHost notChild object channel has := proper.strange notHost notChild object channel (same.descriptors ▸ has)
  placed index place object channel isChild isChannel has isPipe := by
    rw [same.program]
    exact proper.placed index place object channel isChild isChannel (same.descriptors ▸ has) isPipe
  unsignaled isChild state image := by
    obtain ⟨unhandled, unmarked⟩ := proper.unsignaled isChild state (same.program ▸ image)
    exact ⟨same.handled.trans unhandled, (same.interrupted unhandled).trans unmarked⟩

/-- Who has something has not ended. -/
theorem alive_of_has {object : Object} (proper : Proper host children channels nextPipe number process)
    (has : process.descriptors.Has object) : process.ending = none := by
  cases ending : process.ending with
  | none => rfl
  | some how =>
    rw [proper.ended (by simp [ending])] at has
    exact absurd has (DescriptorTable.not_has_empty object)

/-- The executor keeps within what it may have. -/
theorem of_host (notChild : host ∉ children)
    (known : ∀ object pipe, process.descriptors.Has object → object.pipe? = some pipe → pipe < nextPipe)
    (executor : process.ending = none ∧ process.stopped = false ∧ process.opening = none ∧ process.written = 0) :
    Proper host children channels nextPipe host process where
  known := known
  ended isEnded := absurd executor.1 isEnded
  executor _ := executor
  stage isChild := absurd isChild notChild
  kind notHost := absurd rfl notHost
  strange notHost := absurd rfl notHost
  placed _ _ _ _ isChild := absurd (List.mem_of_getElem? isChild) notChild
  unsignaled isChild := absurd isChild notChild

/-- An executor that is answered, and has less than before perhaps. -/
theorem answered {behaviour : Behaviour (Program τ)} {reply : Reply} {table : DescriptorTable}
    (proper : Proper host children channels nextPipe host process) (notChild : host ∉ children)
    (inherits : process.descriptors.Inherits table) :
    Proper host children channels nextPipe host ({ process with descriptors := table }.answered behaviour reply) := by
  obtain ⟨alive, going, -, -⟩ := proper.executor rfl
  exact of_host notChild (fun object pipe has => proper.known object pipe (inherits object has))
    ⟨alive, going, rfl, rfl⟩

end Proper

/-- No call on the way to a stage, and none of a stage, makes a process or sends a signal. -/
theorem Kernel.Call.quiet_of_bringsNothing {call : Call} (modest : call.bringsNothing = true) :
    call ≠ .fork ∧ ∀ target signal, call ≠ .kill target signal := by
  constructor
  · rintro rfl
    cases modest
  · rintro target signal rfl
    cases modest

namespace Confined

variable {images : Behaviour τ} {host floor mover number : Nat} {stages : List Stage} {base : DescriptorTable}
  {children channels : List Nat} {machine after : Machine τ} {process later : Process (Program τ)}

/-- What any process but the executor asks for. -/
theorem asks (confined : Confined host floor base children channels machine) (filters : images.Filters)
    (notHost : mover ≠ host) (present : machine.processes[mover]? = some process) (alive : process.ending = none) :
    ∃ call, (Program.behaviour images).next process.program = some call ∧ call.bringsNothing = true := by
  rcases (confined.proper mover process present).kind notHost alive with ⟨startup, program⟩ | ⟨state, program⟩
  · exact ⟨startup.next, by simp [Program.behaviour, program], startup.bringsNothing_next⟩
  · obtain ⟨call, next, onStreams⟩ := filters state
    exact ⟨call, by simp [Program.behaviour, program, next], Call.bringsNothing_of_isOnStreams onStreams⟩

/-- A process is made for one stage. -/
theorem index_unique (confined : Confined host floor base children channels machine) {index other number : Nat}
    (isChild : children[index]? = some number) (same : children[other]? = some number) : other = index :=
  (List.getElem?_inj (List.getElem?_eq_some_iff.mp same).1 confined.distinctChildren).mp (same.trans isChild.symm)

/-- A channel stands at one place. -/
theorem place_unique (confined : Confined host floor base children channels machine) {place other channel : Nat}
    (isChannel : channels[place]? = some channel) (same : channels[other]? = some channel) : other = place :=
  (List.getElem?_inj (List.getElem?_eq_some_iff.mp same).1 confined.distinctChannels).mp
    (same.trans isChannel.symm)

/-- What the executor had at the start of the run is no channel of the run. -/
theorem not_old (confined : Confined host floor base children channels machine) {place channel : Nat}
    {object : Object} (isChannel : channels[place]? = some channel) (isPipe : object.pipe? = some channel) :
    ¬ base.Has object := by
  intro has
  have below := confined.old object channel has isPipe
  have above := (confined.recent channel (List.mem_of_getElem? isChannel)).1
  omega

/-- The channels that a stage refers to are those around it. -/
theorem placed_stageTable (confined : Confined host floor base children channels machine) {index place channel : Nat}
    {object : Object} (has : (stageTable base channels index).Has object)
    (isChannel : channels[place]? = some channel) (isPipe : object.pipe? = some channel) (claim : Prop) :
    Placed index place claim object channel := by
  rcases has_stageTable has with old | input | output
  · exact absurd old (confined.not_old isChannel isPipe)
  · unfold input? at input
    split at input
    · cases input
    · obtain ⟨given, found, rfl⟩ := Option.map_eq_some_iff.mp input
      cases isPipe
      have same := confined.place_unique isChannel found
      exact .inr ⟨rfl, .inl (by omega)⟩
  · obtain ⟨given, found, rfl⟩ := Option.map_eq_some_iff.mp output
    cases isPipe
    exact .inl ⟨rfl, (confined.place_unique isChannel found).symm⟩

/-- What a process makes of itself by a move that brings nothing is proper. -/
theorem proper_step (confined : Confined host floor base children channels machine)
    (made : Made host stages base children channels machine) (filters : images.Filters) (notHost : mover ≠ host)
    (present : machine.processes[mover]? = some process)
    (moved : machine.step (Program.behaviour images) mover = some after)
    (found : after.processes[mover]? = some later) :
    Proper host children channels machine.nextPipe mover later := by
  have proper := confined.proper mover process present
  have alive := (System.alive_of_step present moved).1
  obtain ⟨call, asks, modest⟩ := confined.asks filters notHost present alive
  have remains := System.modest_step present asks modest moved found
  obtain ⟨earlier, living, goesOn⟩ := System.program_step made.numbered moved found
  obtain rfl : process = earlier := by rwa [present, Option.some.injEq] at living
  -- A startup may load its program here; everything else keeps its kind.
  have loads : ∀ index startup state, children[index]? = some mover → process.program = .startup startup →
      later.program = .image state →
      later.descriptors = (stageTable base channels index).afterLoad ∧ later.handled = [] ∧
        later.interrupted = false := by
    intro index startup state isChild program image
    obtain ⟨-, -, becomes⟩ := made.child index mover isChild
    have settled := becomes process present
    simp only [Becomes, program] at settled
    obtain ⟨-, -, rfl⟩ := loaded_of_image present program (settled.2 alive) moved found image
    exact ⟨rfl, rfl, rfl⟩
  have kinds : (∃ startup, later.program = .startup startup) ∨ ∃ state, later.program = .image state := by
    rcases goesOn with same | ⟨reply, same⟩ | ⟨files, working, environment, name, arguments, loaded⟩
    · rw [same]
      exact proper.kind notHost alive
    · rcases proper.kind notHost alive with ⟨startup, program⟩ | ⟨state, program⟩
      · exact .inl ⟨startup.resume reply, by rw [same, program]; rfl⟩
      · exact .inr ⟨images.resume state reply, by rw [same, program]; rfl⟩
    · obtain ⟨state, -, image⟩ := Program.load_eq_ok loaded
      exact .inr ⟨state, image.symm⟩
  refine ⟨?_, ?_, fun isHost => absurd isHost notHost, ?_, fun _ _ => kinds, ?_, ?_, ?_⟩
  · intro object pipe has isPipe
    exact proper.known object pipe (remains.inherits object has) isPipe
  · intro isEnded
    rcases remains.ending with same | empty
    · exact absurd (same.trans alive) isEnded
    · exact empty
  · intro isChild
    obtain ⟨going, unopened⟩ := proper.stage isChild
    exact ⟨remains.stopped.trans going, remains.opening unopened⟩
  · intro isOther notChild object channel has
    exact proper.strange isOther notChild object channel (remains.inherits object has)
  · intro index place object channel isChild isChannel has isPipe
    have placed := proper.placed index place object channel isChild isChannel (remains.inherits object has) isPipe
    rcases kinds with still | ⟨state, image⟩
    · rcases placed with write | ⟨read, behind | ⟨before, -⟩⟩
      · exact .inl write
      · exact .inr ⟨read, .inl behind⟩
      · exact .inr ⟨read, .inr ⟨before, still⟩⟩
    · rcases proper.kind notHost alive with ⟨startup, program⟩ | ⟨earlier, program⟩
      · rw [(loads index startup state isChild program image).1] at has
        exact confined.placed_stageTable (DescriptorTable.inherits_afterLoad _ object has) isChannel isPipe _
      · rcases placed with write | ⟨read, behind | ⟨before, startup, wrong⟩⟩
        · exact .inl write
        · exact .inr ⟨read, .inl behind⟩
        · rw [program] at wrong
          cases wrong
  · intro isChild state image
    rcases proper.kind notHost alive with ⟨startup, program⟩ | ⟨earlier, program⟩
    · obtain ⟨index, isChild⟩ := List.mem_iff_getElem?.mp isChild
      exact (loads index startup state isChild program image).2
    · obtain ⟨unhandled, unmarked⟩ := proper.unsignaled isChild earlier program
      exact ⟨remains.handled unhandled, remains.interrupted unhandled unmarked⟩

/-- A move of any process but the executor makes no process and leaves the others undisturbed. -/
theorem spares (confined : Confined host floor base children channels machine)
    (made : Made host stages base children channels machine) (filters : images.Filters) (notHost : mover ≠ host)
    (moved : machine.step (Program.behaviour images) mover = some after) :
    System.Spares (Undisturbed mover) mover machine after ∧ after.nextProcess = machine.nextProcess := by
  obtain ⟨process, -, present, -⟩ := System.step_eq_some moved
  obtain ⟨call, asks, modest⟩ := confined.asks filters notHost present (System.alive_of_step present moved).1
  obtain ⟨notFork, quiet⟩ := Call.quiet_of_bringsNothing modest
  refine ⟨System.step_quiet made.numbered (fun found living target signal kills => ?_) moved,
    System.nextProcess_step present asks notFork quiet moved⟩
  obtain rfl : process = found := by rwa [present, Option.some.injEq] at living
  rw [asks, Option.some.injEq] at kills
  exact quiet target signal kills

/-- A move of any process but the executor leaves a machine confined. -/
theorem step_other (confined : Confined host floor base children channels machine)
    (made : Made host stages base children channels machine) (filters : images.Filters) (notHost : mover ≠ host)
    (moved : machine.step (Program.behaviour images) mover = some after) :
    Confined host floor base children channels after := by
  obtain ⟨process, -, present, -⟩ := System.step_eq_some moved
  obtain ⟨spares, same⟩ := confined.spares made filters notHost moved
  refine ⟨confined.old, Nat.le_trans confined.floor_le spares.nextPipe, fun channel member => ?_,
    confined.distinctChannels, confined.distinctChildren, fun number later found => ?_⟩
  · have recent := confined.recent channel member
    exact ⟨recent.1, Nat.lt_of_lt_of_le recent.2 spares.nextPipe⟩
  · by_cases own : number = mover
    · subst own
      exact (confined.proper_step made filters notHost present moved found).undisturbed spares.nextPipe
        (.refl number later)
    · have older := spares.numbered.process number later found
      obtain ⟨earlier, living, undisturbed⟩ := spares.others number own (same ▸ older) later found
      exact (confined.proper number earlier living).undisturbed spares.nextPipe undisturbed

/-- A process is replaced by a proper one. -/
theorem put (confined : Confined host floor base children channels machine)
    (proper : Proper host children channels machine.nextPipe number later) :
    Confined host floor base children channels (machine.put number later) where
  old := confined.old
  floor_le := confined.floor_le
  recent := confined.recent
  distinctChannels := confined.distinctChannels
  distinctChildren := confined.distinctChildren
  proper other process found := by
    rw [System.getElem?_put] at found
    split at found
    · rename_i same
      subst same
      cases found
      exact proper
    · exact confined.proper other process found

/-- Processes are taken off the table. -/
theorem restrict (confined : Confined host floor base children channels machine)
    {processes : Std.ExtTreeMap Nat (Process (Program τ))}
    (there : ∀ (number : Nat) (process : Process (Program τ)), processes[number]? = some process →
      machine.processes[number]? = some process) :
    Confined host floor base children channels { machine with processes } where
  old := confined.old
  floor_le := confined.floor_le
  recent := confined.recent
  distinctChannels := confined.distinctChannels
  distinctChildren := confined.distinctChildren
  proper number process found := confined.proper number process (there number process found)

/-- A move by which the executor makes nothing leaves a machine confined. -/
theorem step_keeps (confined : Confined host floor base children channels machine) (notChild : host ∉ children)
    (present : machine.processes[host]? = some process) (keeps : KeepsMove images machine host process after) :
    Confined host floor base children channels after := by
  obtain ⟨processes, table, reply, there, -, inherits⟩ := keeps
  exact (confined.restrict there).put ((confined.proper host process present).answered notChild inherits)

/-- Nobody refers to a pipe that is only about to be made. -/
theorem announce (confined : Confined host floor base children channels machine) (pipes : Std.ExtTreeMap Nat Pipe) :
    Confined host floor base children (channels ++ [machine.nextPipe])
      { machine with pipes, nextPipe := machine.nextPipe + 1 } where
  old := confined.old
  floor_le := Nat.le_succ_of_le confined.floor_le
  recent channel member := by
    have above := confined.floor_le
    rcases List.mem_append.mp member with known | new
    · have recent := confined.recent channel known
      exact ⟨recent.1, Nat.lt_succ_of_lt recent.2⟩
    · obtain rfl := List.mem_singleton.mp new
      exact ⟨above, Nat.lt_succ_self _⟩
  distinctChannels := by
    rw [List.nodup_append]
    refine ⟨confined.distinctChannels, by simp, fun channel known other new => ?_⟩
    obtain rfl := List.mem_singleton.mp new
    have recent := (confined.recent channel known).2
    omega
  distinctChildren := confined.distinctChildren
  proper number process found := by
    have proper := confined.proper number process found
    have unknown : ∀ object, process.descriptors.Has object → object.pipe? ≠ some machine.nextPipe :=
      fun object has isPipe => Nat.lt_irrefl _ (proper.known object _ has isPipe)
    refine ⟨fun object pipe has isPipe => Nat.lt_succ_of_lt (proper.known object pipe has isPipe), proper.ended,
      proper.executor, proper.stage, proper.kind, ?_, ?_, proper.unsignaled⟩
    · intro notHost notChild object channel has isPipe member
      rcases List.mem_append.mp member with known | new
      · exact proper.strange notHost notChild object channel has isPipe known
      · obtain rfl := List.mem_singleton.mp new
        exact unknown object has isPipe
    · intro index place object channel isChild isChannel has isPipe
      by_cases known : place < channels.length
      · rw [List.getElem?_append_left known] at isChannel
        exact proper.placed index place object channel isChild isChannel has isPipe
      · rw [List.getElem?_append_right (by omega)] at isChannel
        obtain rfl := List.mem_singleton.mp (List.mem_of_getElem? isChannel)
        exact absurd isPipe (unknown object has)

/-- A new process is one of the children of the run. -/
theorem adopt (confined : Confined host floor base children channels machine) (numbered : machine.Numbered)
    (older : ∀ child ∈ children, child < machine.nextProcess)
    (proper : Proper host (children ++ [machine.nextProcess]) channels machine.nextPipe machine.nextProcess process) :
    Confined host floor base (children ++ [machine.nextProcess]) channels
      ({ machine with nextProcess := machine.nextProcess + 1 }.put machine.nextProcess process) where
  old := confined.old
  floor_le := confined.floor_le
  recent := confined.recent
  distinctChannels := confined.distinctChannels
  distinctChildren := by
    rw [List.nodup_append]
    refine ⟨confined.distinctChildren, by simp, fun child known other new => ?_⟩
    obtain rfl := List.mem_singleton.mp new
    have := older child known
    omega
  proper number later found := by
    rw [System.getElem?_put] at found
    split at found
    · rename_i same
      subst same
      cases found
      exact proper
    · have below := numbered.process number later found
      have old := confined.proper number later found
      have same : ∀ index : Nat, (children ++ [machine.nextProcess])[index]? = some number →
          children[index]? = some number := by
        intro index isChild
        by_cases known : index < children.length
        · rwa [List.getElem?_append_left known] at isChild
        · rw [List.getElem?_append_right (by omega)] at isChild
          have := List.mem_singleton.mp (List.mem_of_getElem? isChild)
          omega
      have member : number ∈ children ++ [machine.nextProcess] → number ∈ children := by
        intro isChild
        obtain ⟨index, isChild⟩ := List.mem_iff_getElem?.mp isChild
        exact List.mem_of_getElem? (same index isChild)
      exact ⟨old.known, old.ended, old.executor, fun isChild => old.stage (member isChild), old.kind,
        fun notHost notChild => old.strange notHost fun isChild => notChild (List.mem_append_left _ isChild),
        fun index place object channel isChild => old.placed index place object channel (same index isChild),
        fun isChild => old.unsignaled (member isChild)⟩

/-- A process that is made for the next stage has the endpoints around the stage, and the read end behind it. -/
theorem proper_child {run : Run} {stage : Stage} {later : List Stage} {streams : Streams} {carried : Option Nat}
    (confined : Confined host floor base children channels machine)
    (made : Made host stages base children channels machine) (present : machine.processes[host]? = some process)
    (executes : Executes stages base children channels run process)
    (forking : run.control = .forking stage later streams carried) :
    Proper host (children ++ [machine.nextProcess]) channels machine.nextPipe machine.nextProcess
      ({ process with
        parent := some host
        program := .startup (.begin stage streams carried)
        arrived := []
        interrupted := false } : Process (Program τ)) := by
  obtain ⟨alive, going, unopened, -⟩ := (confined.proper host process present).executor rfl
  obtain ⟨fits, adds, -, -⟩ := executes
  have counted : children.length = run.index := by
    have standing := fits
    simp only [Run.Fits, forking] at standing
    exact standing.2.2.2.2.2.1
  have apart : machine.nextProcess ≠ host := Nat.ne_of_gt made.host_lt
  refine ⟨(confined.proper host process present).known, fun isEnded => absurd alive isEnded,
    fun isHost => absurd isHost apart, fun _ => ⟨going, unopened⟩, fun _ _ => .inl ⟨_, rfl⟩,
    fun _ notChild => absurd (List.mem_append_right _ (List.mem_singleton_self _)) notChild, ?_, ?_⟩
  · intro index place object channel isChild isChannel has isPipe
    have last : index = run.index := by
      by_cases old : index < children.length
      · rw [List.getElem?_append_left old] at isChild
        have older := (made.child index _ isChild).2.1
        omega
      · have within := (List.getElem?_eq_some_iff.mp isChild).1
        simp only [List.length_append, List.length_singleton] at within
        omega
    subst last
    rcases adds.has has with old | ⟨number, isHeld⟩
    · exact absurd old (confined.not_old isChannel isPipe)
    · obtain ⟨-, other, given, found, ⟨rfl, near⟩ | ⟨rfl, behind⟩⟩ := Run.place_of_held fits isHeld
      · cases isPipe
        obtain rfl := confined.place_unique isChannel found
        exact .inr ⟨rfl, near.imp_right fun same => ⟨same, _, rfl⟩⟩
      · cases isPipe
        obtain rfl := confined.place_unique isChannel found
        exact .inl ⟨rfl, behind⟩
  · rintro - state ⟨⟩

/-- A move of the executor leaves a machine confined. -/
theorem step_host {run : Run} (confined : Confined host floor base children channels machine)
    (made : Made host stages base children channels machine) (present : machine.processes[host]? = some process)
    (executes : Executes stages base children channels run process)
    (move : RunMove images machine host process run after) :
    Confined host floor base
      (children ++ if machine.nextProcess < after.nextProcess then [machine.nextProcess] else [])
      (channels ++ if machine.nextPipe < after.nextPipe then [machine.nextPipe] else []) after := by
  have notChild := made.host_not_mem
  have proper := confined.proper host process present
  obtain ⟨alive, going, -, -⟩ := proper.executor rfl
  rcases move.makes with ⟨stage, later, incoming, read, write, between, table, opening, first, second, rfl⟩ |
    ⟨stage, later, streams, carried, forking, rfl⟩ | keeps
  · simp only [System.nextProcess_put, System.nextPipe_put, Nat.lt_irrefl, if_false, Nat.lt_succ_self, if_true,
      List.append_nil]
    refine (confined.announce _).put (.of_host notChild (fun object pipe has isPipe => ?_) ⟨alive, going, rfl, rfl⟩)
    obtain ⟨-, -, -, -, rfl⟩ := DescriptorTable.allocate_eq_ok first
    obtain ⟨-, -, -, -, rfl⟩ := DescriptorTable.allocate_eq_ok second
    rcases DescriptorTable.has_insert has with old | rfl
    · rcases DescriptorTable.has_insert old with old | rfl
      · exact Nat.lt_succ_of_lt (proper.known object pipe old isPipe)
      · cases isPipe
        exact Nat.lt_succ_self _
    · cases isPipe
      exact Nat.lt_succ_self _
  · simp only [System.nextProcess_put, System.nextPipe_put, Nat.lt_irrefl, if_false, Nat.lt_succ_self, if_true,
      List.append_nil]
    have adopted := confined.adopt made.numbered (fun child member => made.lt_of_mem member)
      (confined.proper_child made present executes forking)
    refine adopted.put (.of_host (fun member => ?_) proper.known ⟨alive, going, rfl, rfl⟩)
    rcases List.mem_append.mp member with known | new
    · exact notChild known
    · obtain rfl := List.mem_singleton.mp new
      exact Nat.lt_irrefl _ made.host_lt
  · have same := keeps.same
    simp only [same.1, same.2, Nat.lt_irrefl, if_false, List.append_nil]
    exact confined.step_keeps notChild present keeps

end Confined

/-- A machine on which an executor is about to execute stages. It is at work and in the middle of no call; all others
have ended, run an image or are on the way to one, such as those that earlier runs have left. -/
structure Ready (host : Nat) (stages : List Stage) (executor : Process (Program τ)) (machine : Machine τ) : Prop where
  numbered : machine.Numbered
  present : machine.processes[host]? = some executor
  begun : ∃ phase, executor.program = .executor (.ofStages phase stages)
  idle : executor.ending = none ∧ executor.stopped = false ∧ executor.opening = none ∧ executor.written = 0
  known : ∀ (number : Nat) (process : Process (Program τ)) (object : Object) (pipe : Nat),
    machine.processes[number]? = some process → process.descriptors.Has object → object.pipe? = some pipe →
    pipe < machine.nextPipe
  ended : ∀ (number : Nat) (process : Process (Program τ)), machine.processes[number]? = some process →
    process.ending ≠ none → process.descriptors = Std.ExtTreeMap.empty
  others : ∀ (number : Nat) (process : Process (Program τ)), machine.processes[number]? = some process →
    number ≠ host → process.ending = none →
    (∃ startup, process.program = .startup startup) ∨ ∃ state, process.program = .image state

namespace Ready

variable {images : Behaviour τ} {host : Nat} {stages : List Stage} {executor : Process (Program τ)}
  {start machine : Machine τ} {chronicle : Chronicle}

theorem underway (ready : Ready host stages executor start) :
    Underway host stages executor.descriptors [] [] start := by
  obtain ⟨phase, begun⟩ := ready.begun
  exact .start ready.numbered ready.present begun

theorem confined (ready : Ready host stages executor start) :
    Confined host start.nextPipe executor.descriptors [] [] start where
  old object pipe := ready.known host executor object pipe ready.present
  floor_le := Nat.le_refl _
  recent := by simp
  distinctChannels := .nil
  distinctChildren := .nil
  proper number process found := by
    refine ⟨fun object pipe => ready.known number process object pipe found, ready.ended number process found, ?_,
      by simp, ready.others number process found, by simp, by simp, by simp⟩
    rintro rfl
    obtain rfl : executor = process := by rwa [ready.present, Option.some.injEq] at found
    exact ready.idle

/-- All along a course the executor has made what is remembered, and the endpoints are where they belong. -/
theorem course (ready : Ready host stages executor start) (filters : images.Filters)
    (course : Course images host start chronicle machine) :
    Underway host stages executor.descriptors chronicle.children chronicle.channels machine ∧
      Confined host start.nextPipe executor.descriptors chronicle.children chronicle.channels machine := by
  refine Course.preserves (fun chronicle machine =>
    Underway host stages executor.descriptors chronicle.children chronicle.channels machine ∧
      Confined host start.nextPipe executor.descriptors chronicle.children chronicle.channels machine)
    ⟨ready.underway, ready.confined⟩ ?_ ?_ course
  · rintro chronicle before after mover ⟨underway, confined⟩ moved
    refine ⟨underway.step moved, ?_⟩
    by_cases own : mover = host
    · subst own
      obtain ⟨process, run, present, -, -, executes, move⟩ := underway.host_moves moved
      simpa [Chronicle.extend] using confined.step_host underway.toMade present executes move
    · simpa [Chronicle.extend, own] using confined.step_other underway.toMade filters own (moved.step_of_ne own)
  · rintro chronicle before clock ⟨⟨⟨⟨numbered⟩, older, few, behind, child⟩, executor⟩, confined⟩
    obtain ⟨old, floor_le, recent, distinctChannels, distinctChildren, proper⟩ := confined
    exact ⟨⟨⟨⟨numbered⟩, older, few, behind, child⟩, executor⟩,
      ⟨old, floor_le, recent, distinctChannels, distinctChildren, proper⟩⟩

/-- A machine that is about to execute copiers. -/
theorem copying {descriptors : DescriptorTable} (count : Nat)
    (files : ∀ object, descriptors.Has object → object.pipe? = none) :
    Ready 1 ((List.range count).map copierStage) (copyingExecutor descriptors count)
      (Machine.copying descriptors count) where
  numbered := numbered_copying descriptors count
  present := Std.ExtTreeMap.getElem?_insert_self
  begun := ⟨.idle, rfl⟩
  idle := ⟨rfl, rfl, rfl, rfl⟩
  known number process object pipe found has isPipe := by
    rw [(processes_copying found).2] at has
    rw [files object has] at isPipe
    cases isPipe
  ended number process found isEnded := by
    rw [(processes_copying found).2] at isEnded
    exact absurd rfl isEnded
  others number process found notHost := absurd (processes_copying found).1 notHost

/-- The standard streams of such a machine are files. -/
theorem pipe?_of_copiedStreams {object : Object} (has : copiedStreams.Has object) : object.pipe? = none := by
  obtain ⟨number, descriptor, present, rfl⟩ := has
  simp only [copiedStreams, Std.ExtTreeMap.getElem?_insert] at present
  split at present
  · cases present
    rfl
  split at present
  · cases present
    rfl
  split at present
  · cases present
    rfl
  · simp at present

end Ready

end Pipework
