import Pipework.Proofs.Ledger
import Pipework.Proofs.Reaping
import Pipework.Proofs.Streams

set_option autoImplicit false

/-!
The stages in conversation. All along a course every stage takes part in a conversation of its program, and the streams
of the executor hold what the stages at both ends have read and written (`Conversing`) — unless a process never becomes
a stage (`Lost`). Of a stage whose output nobody reads nothing is said any more (`Deaf`); the stage behind it will not be
told that its input has come to its end.
-/

namespace Pipework

open Kernel

variable {τ : Type} {images : Behaviour τ} {functions : Nat → Bytes → Bytes} {host mover number index : Nat}
  {stages : List Stage} {base : DescriptorTable} {input output : Object} {start machine after : Machine τ}
  {chronicle : Chronicle} {process later executor : Process (Program τ)}

/-- What is known of every point of a course. -/
structure Standing (images : Behaviour τ) (host : Nat) (stages : List Stage) (base : DescriptorTable) (start : Machine τ)
    (chronicle : Chronicle) (machine : Machine τ) : Prop where
  underway : Underway host stages base chronicle.children chronicle.channels machine
  confined : Confined host start.nextPipe base chronicle.children chronicle.channels machine
  flowing : Flowing start base chronicle.children chronicle.channels machine
  ledger : Ledger images chronicle machine
  family : Family host stages chronicle.children machine

theorem Ready.standing (ready : Ready host stages executor start) (filters : images.Filters)
    (positive : 0 < start.shape.pageSize) (course : Course images host start chronicle machine) :
    Standing images host stages executor.descriptors start chronicle machine where
  underway := (ready.course filters course).1
  confined := (ready.course filters course).2
  flowing := ready.flowing filters course
  ledger := ready.ledger filters positive course
  family := ready.family filters course

/-- A process that was made for a stage never becomes one. -/
def Lost (chronicle : Chronicle) (machine : Machine τ) : Prop :=
  ∃ number ∈ chronicle.children, chronicle.exchangesOf number = [] ∧
    ∀ process, machine.processes[number]? = some process → process.ending = none →
      ∃ startup, process.program = .startup startup ∧ startup.control.hasFailed = true

/-- Where the standard streams of an image lead. -/
structure Joined (stages : List Stage) (channels : List Nat) (input output : Object) (index : Nat)
    (process : Process (Program τ)) : Prop where
  input : ∀ entry, process.descriptors[0]? = some entry → index = 0 ∧ entry.object = input ∨
    ∃ place channel, index = place + 1 ∧ channels[place]? = some channel ∧ entry.object = .readEnd channel
  output : ∀ entry, process.descriptors[1]? = some entry → index + 1 = stages.length ∧ entry.object = output ∨
    ∃ channel, index + 1 < stages.length ∧ channels[index]? = some channel ∧ entry.object = .writeEnd channel

/-- Nobody reads what the stage at an index writes. -/
def Deaf (stages : List Stage) (output : Object) (chronicle : Chronicle) (machine : Machine τ) (index : Nat) : Prop :=
  index + 1 = stages.length ∧ Unread machine output ∨
    ∃ channel, chronicle.channels[index]? = some channel ∧ machine.holds (.readEnd channel) = false ∧
      chronicle.toldAt (index + 1) = false

section loaded

variable {channels : List Nat}

/-- A stage has its standard input when it has loaded its program. -/
theorem getElem?_loaded_zero (stdin : base[0]? = some ⟨input, false⟩) :
    (stageTable base channels index).afterLoad[0]? = some ⟨(input? channels index).getD input, false⟩ := by
  rw [DescriptorTable.getElem?_afterLoad, stageTable, DescriptorTable.getElem?_wired_zero, stdin]
  cases input? channels index <;> rfl

/-- A stage has its standard output when it has loaded its program. -/
theorem getElem?_loaded_one (stdout : base[1]? = some ⟨output, false⟩) :
    (stageTable base channels index).afterLoad[1]? = some ⟨(output? channels index).getD output, false⟩ := by
  rw [DescriptorTable.getElem?_afterLoad, stageTable, DescriptorTable.getElem?_wired_one, stdout]
  cases output? channels index <;> rfl

end loaded

namespace Standing

variable (standing : Standing images host stages base start chronicle machine) (filters : images.Filters)

include standing

theorem older_pipe : start.nextPipe ≤ machine.nextPipe := standing.confined.floor_le

theorem older {number : Nat} (member : number ∈ chronicle.children) : number < machine.nextProcess :=
  standing.underway.lt_of_mem member

/-- A stage that is an image has the streams of its stage. -/
theorem joined {state : τ} (stdin : base[0]? = some ⟨input, false⟩) (stdout : base[1]? = some ⟨output, false⟩)
    (isChild : chronicle.children[index]? = some number) (present : machine.processes[number]? = some process)
    (program : process.program = .image state) : Joined stages chronicle.channels input output index process := by
  have equipped := standing.flowing.stage index number process isChild present
  have made := standing.underway.toMade
  have isMade := (List.getElem?_eq_some_iff.mp isChild).1
  have few := standing.family.few
  have channelAt : ∀ {place : Nat}, place < chronicle.channels.length →
      ∃ channel, chronicle.channels[place]? = some channel := fun within => ⟨_, List.getElem?_eq_getElem within⟩
  refine ⟨fun entry isOpen => ?_, fun entry isOpen => ?_⟩
  · cases index with
    | zero =>
      have given := equipped.left state program 0 entry isOpen
      rw [getElem?_loaded_zero stdin] at given
      cases given
      exact .inl ⟨rfl, rfl⟩
    | succ place =>
      obtain ⟨channel, isChannel⟩ := channelAt (made.behind place (by omega) (by omega))
      exact .inr ⟨place, channel, rfl, isChannel, equipped.object_of_input program isChannel isOpen⟩
  · by_cases further : index + 1 < stages.length
    · obtain ⟨channel, isChannel⟩ := channelAt (made.behind index isMade further)
      exact .inr ⟨channel, further, isChannel, equipped.object_of_output program isChannel isOpen⟩
    · have last : chronicle.channels[index]? = none := by
        have := made.channels_le
        exact List.getElem?_eq_none (by omega)
      have given := equipped.left state program 1 entry isOpen
      rw [getElem?_loaded_one stdout, output?, last] at given
      cases given
      exact .inl ⟨by omega, rfl⟩

include filters

theorem remains (moved : machine.Moved images host mover after) : Remains mover machine after :=
  standing.confined.remains standing.underway filters moved

/-- No stage reads or writes anything unless an image moves that was loaded for it. -/
theorem still (present : machine.processes[mover]? = some process)
    (early : mover ∈ chronicle.children → ∃ startup, process.program = .startup startup)
    (moved : machine.Moved images host mover after) :
    Still images chronicle (chronicle.extend images host mover machine after) machine after :=
  standing.ledger.still standing.underway standing.confined standing.flowing filters present early moved

/-- A move of an image for which a stage was made. -/
theorem image_move {state : τ} (isChild : chronicle.children[index]? = some mover)
    (present : machine.processes[mover]? = some process) (program : process.program = .image state)
    (moved : machine.Moved images host mover after) :
    ImageMove images machine mover process state after (Machine.exchange? images machine mover) := by
  have member := List.mem_of_getElem? isChild
  have unmarked := ((standing.confined.proper mover process present).unsignaled member state program).2
  exact step_image present program filters unmarked (moved.step_of_ne (standing.underway.ne_host member))

/-- What a stage carries in a move. -/
theorem carries {state : τ} (isChild : chronicle.children[index]? = some mover)
    (present : machine.processes[mover]? = some process) (alive : process.ending = none)
    (program : process.program = .image state) (moved : machine.Moved images host mover after) :
    ∃ bytes, Carries machine process ((Machine.exchange? images machine mover).elim [] Exchange.taken) bytes
        ((Machine.exchange? images machine mover).any Exchange.isEnd) after.pipes after.files ∧
      (Machine.exchange? images machine mover).elim [] Exchange.given ++ Machine.begun images after mover =
        Machine.begun images machine mover ++ bytes :=
  (standing.image_move filters isChild present program moved).carries
    ((standing.ledger.booked mover (List.mem_of_getElem? isChild)).steady process state present alive program) present alive
    program

/-- Who is told that its input has come to its end has its standard input open. -/
theorem open_of_told (moved : machine.Moved images host mover after)
    (told : (chronicle.extend images host mover machine after).toldAt index = true) :
    chronicle.toldAt index = true ∨ chronicle.children[index]? = some mover ∧
      ∃ process state entry, machine.processes[mover]? = some process ∧ process.program = .image state ∧
        process.descriptors[0]? = some entry := by
  obtain ⟨process, present⟩ := moved.exists_mover
  have alive := moved.alive present
  have proper := standing.confined.proper mover process present
  by_cases loaded : mover ∈ chronicle.children ∧ ∃ state, process.program = .image state
  · obtain ⟨member, state, program⟩ := loaded
    have notHost : mover ≠ host := standing.underway.ne_host member
    rw [Chronicle.toldAt_extend (Chronicle.children_extend notHost), Bool.or_eq_true, Bool.and_eq_true,
      decide_eq_true_eq] at told
    rcases told with before | ⟨isChild, isEnd⟩
    · exact .inl before
    · obtain ⟨bytes, carries, -⟩ := standing.carries filters isChild present alive program moved
      obtain ⟨entry, isOpen⟩ := carries.entry_of_ended isEnd
      exact .inr ⟨isChild, process, state, entry, present, program, isOpen⟩
  · refine .inl ?_
    rwa [(standing.still filters present (fun member => ?_) moved).told] at told
    have notHost : mover ≠ host := standing.underway.ne_host member
    exact (proper.kind notHost alive).resolve_right fun image => loaded ⟨member, image⟩

end Standing

namespace Joined

variable {channels : List Nat} {opening : Nat} (joined : Joined stages channels input output index process)

include joined

/-- Only the first stage reads from a file. -/
theorem first_of_file (isFile : System.opening? process 0 = some opening) : index = 0 ∧ input = .file opening := by
  obtain ⟨entry, isOpen, same⟩ := System.descriptor_of_opening isFile
  rcases joined.input entry isOpen with ⟨first, object⟩ | ⟨place, channel, -, -, object⟩
  · exact ⟨first, object.symm.trans same⟩
  · rw [same] at object
    cases object

/-- Only the last stage writes to a file. -/
theorem last_of_file (isFile : System.opening? process 1 = some opening) :
    index + 1 = stages.length ∧ output = .file opening := by
  obtain ⟨entry, isOpen, same⟩ := System.descriptor_of_opening isFile
  rcases joined.output entry isOpen with ⟨last, object⟩ | ⟨channel, -, -, object⟩
  · exact ⟨last, object.symm.trans same⟩
  · rw [same] at object
    cases object

end Joined

/-- A process that never becomes a stage never does. -/
theorem Lost.step (lost : Lost chronicle machine) (standing : Standing images host stages base start chronicle machine)
    (filters : images.Filters) (moved : machine.Moved images host mover after) :
    Lost (chronicle.extend images host mover machine after) after := by
  obtain ⟨number, member, unheard, fails⟩ := lost
  refine ⟨number, List.mem_append_left _ member, ?_⟩
  by_cases own : number = mover
  · subst own
    obtain ⟨process, present⟩ := moved.exists_mover
    have stepped := moved.step_of_ne (standing.underway.ne_host member)
    obtain ⟨startup, program, failed⟩ := fails process present (moved.alive present)
    refine ⟨?_, fun later found living => ?_⟩
    · rw [Chronicle.exchangesOf_extend, unheard, if_pos rfl, exchange?_eq_none present (by simp [program])]
      rfl
    · obtain ⟨code, exits⟩ := Startup.hasFailed_iff_code?.mp failed
      obtain ⟨again, becoming, fails⟩ := Process.FailsWith.move ⟨startup, program, exits⟩ present stepped found
      exact ⟨again, becoming, Startup.hasFailed_iff_code?.mpr ⟨code, fails⟩⟩
  · refine ⟨?_, fun later found living => ?_⟩
    · rw [Chronicle.exchangesOf_extend, unheard, if_neg (Ne.symm own)]
      rfl
    · obtain ⟨earlier, there, same⟩ :=
        ((standing.remains filters moved).others number own (standing.older member)).back found
      obtain ⟨startup, program, failed⟩ := fails earlier there (same.ending ▸ living)
      exact ⟨startup, same.program.trans program, failed⟩

/-- Where nobody reads what a stage writes, nobody will. -/
theorem Deaf.step (deaf : Deaf stages output chronicle machine index)
    (standing : Standing images host stages base start chronicle machine) (filters : images.Filters)
    (stdin : base[0]? = some ⟨input, false⟩) (stdout : base[1]? = some ⟨output, false⟩)
    (moved : machine.Moved images host mover after) :
    Deaf stages output (chronicle.extend images host mover machine after) after index := by
  have remains := standing.remains filters moved
  rcases deaf with ⟨last, pipe, writes, unheld⟩ | ⟨channel, isChannel, unheld, untold⟩
  · have old := standing.confined.old output pipe ⟨1, _, stdout, rfl⟩ (Object.of_includes_writeEnd writes).1
    exact .inl ⟨last, pipe, writes, remains.unheld _ pipe rfl (Nat.lt_of_lt_of_le old standing.older_pipe) unheld⟩
  · have recent := (standing.confined.recent channel (List.mem_of_getElem? isChannel)).2
    refine .inr ⟨channel, ?_, remains.unheld _ channel rfl recent unheld, ?_⟩
    · exact (List.getElem?_append_left (List.getElem?_eq_some_iff.mp isChannel).1).trans isChannel
    · rw [← Bool.not_eq_true]
      intro told
      rcases standing.open_of_told filters moved told with before | ⟨isChild, process, state, entry, present, program, isOpen⟩
      · rw [untold] at before
        cases before
      · -- The stage behind the channel would hold its read end.
        rcases (standing.joined stdin stdout isChild present program).input entry isOpen with ⟨first, -⟩ |
          ⟨place, same, next, isSame, object⟩
        · cases first
        · cases next
          obtain rfl : channel = same := by rwa [isChannel, Option.some.injEq] at isSame
          have held : machine.holds (.readEnd channel) = true :=
            System.holds_iff.mpr ⟨mover, process, present, DescriptorTable.refersTo_iff.mpr
              ⟨.readEnd channel, ⟨0, entry, isOpen, object⟩, by simp [Object.includes]⟩⟩
          rw [unheld] at held
          cases held

/-- The conversation of a process that was made for a stage: it goes on as long as the process lives, and where the
process has ended after it was told of the end of its input it has come to the value of the stream function. -/
structure Spoken (images : Behaviour τ) (function : Bytes → Bytes) (chronicle : Chronicle) (machine : Machine τ)
    (deaf : Prop) (number : Nat) : Prop where
  talking : ∀ (process : Process (Program τ)) (state : τ), machine.processes[number]? = some process →
    process.ending = none → process.program = .image state →
    deaf ∨ ∃ first, Computes images first function ∧ Talks images first
      (process.talk state (chronicle.received number) (chronicle.written number) (chronicle.isTold number))
  done : (∀ process, machine.processes[number]? = some process → process.ending ≠ none) →
    chronicle.isTold number = true → deaf ∨ chronicle.written number = function (chronicle.received number)

namespace Spoken

variable {function : Bytes → Bytes} {deaf still : Prop}

/-- The conversation of a process is not touched when another one moves. -/
theorem other (spoken : Spoken images function chronicle machine deaf number) (remains : Remains mover machine after)
    (apart : number ≠ mover) (older : number < machine.nextProcess) (deafens : deaf → still) :
    Spoken images function (chronicle.extend images host mover machine after) after still number := by
  have outlives := remains.others number apart older
  have received : (chronicle.extend images host mover machine after).received number = chronicle.received number := by
    rw [Chronicle.received_extend, if_neg apart.symm, List.append_nil]
  have written : (chronicle.extend images host mover machine after).written number = chronicle.written number := by
    rw [Chronicle.written_extend, if_neg apart.symm, List.append_nil]
  have told : (chronicle.extend images host mover machine after).isTold number = chronicle.isTold number := by
    rw [Chronicle.isTold_extend, decide_eq_false apart.symm, Bool.false_and, Bool.or_false]
  refine ⟨fun later state found alive program => ?_, fun ended isTold => ?_⟩
  · obtain ⟨process, living, same⟩ := outlives.back found
    have talk : ∀ input output isTold, later.talk state input output isTold = process.talk state input output isTold := by
      intro input output isTold
      rw [Process.talk, Process.talk, same.descriptors]
    rw [received, written, told, talk]
    exact (spoken.talking process state living (same.ending ▸ alive) (same.program ▸ program)).imp deafens id
  · rw [received, written]
    rw [told] at isTold
    refine (spoken.done (fun process living alive => ?_) isTold).imp deafens id
    obtain ⟨later, found, same⟩ := outlives.forth living alive
    exact ended later found (same.ending.trans alive)

/-- Nothing is said before a program is loaded. -/
theorem early {startup : Startup} (present : machine.processes[number]? = some process) (alive : process.ending = none)
    (program : process.program = .startup startup) : Spoken images function chronicle machine deaf number := by
  refine ⟨fun other state found _ image => ?_, fun ended _ => absurd alive (ended process present)⟩
  obtain rfl : process = other := by rwa [present, Option.some.injEq] at found
  rw [program] at image
  cases image

end Spoken

/-- An opening leads to another file than an object. -/
def Foreign (start : Machine τ) (object : Object) (opening : Nat) : Prop :=
  ∀ number, object = .file number → start.files.fileOf? opening ≠ start.files.fileOf? number

/-- An executor whose standard input can be read to its end, and whose standard output takes all that is written to it.
Where these are files they are two, and no other process has one of them open. -/
structure Attached (host : Nat) (executor : Process (Program τ)) (input output : Object) (start : Machine τ) :
    Prop where
  stdin : executor.descriptors[0]? = some ⟨input, false⟩
  stdout : executor.descriptors[1]? = some ⟨output, false⟩
  source : Source start input
  sink : Sink start output
  apart : ∀ opening, input = .file opening → Foreign start output opening
  strangers : ∀ (number : Nat) (process : Process (Program τ)) (opening : Nat),
    start.processes[number]? = some process → number ≠ host → process.descriptors.Has (.file opening) →
    Foreign start input opening ∧ Foreign start output opening

/-- Whatever program is loaded for a stage, at whatever point of a course, computes the stream function of the stage. -/
def Provides (images : Behaviour τ) (host : Nat) (stages : List Stage) (start : Machine τ)
    (functions : Nat → Bytes → Bytes) : Prop :=
  ∀ (chronicle : Chronicle) (machine : Machine τ) (index number : Nat) (stage : Stage) (process : Process (Program τ))
    (state : τ), Course images host start chronicle machine → chronicle.children[index]? = some number →
    machine.processes[number]? = some process → stages[index]? = some stage →
    images.load machine.files process.working process.environment stage.name stage.arguments = .ok state →
    Computes images state (functions index)

/-- A run whose stages are in conversation. -/
structure Conversing (images : Behaviour τ) (functions : Nat → Bytes → Bytes) (host : Nat) (stages : List Stage)
    (input output : Object) (start : Machine τ) (chronicle : Chronicle) (machine : Machine τ) : Prop where
  files : ∀ opening, machine.files.fileOf? opening = start.files.fileOf? opening
  strangers : ∀ (number : Nat) (process : Process (Program τ)) (opening : Nat), number ≠ host →
    number ∉ chronicle.children → machine.processes[number]? = some process →
    process.descriptors.Has (.file opening) → Foreign start input opening ∧ Foreign start output opening
  drawn : Drawn start machine (chronicle.readAt 0) (chronicle.toldAt 0) input
  added : Added start machine (Machine.sentAt images chronicle machine (stages.length - 1)) output
  spoken : ∀ index number : Nat, chronicle.children[index]? = some number →
    Spoken images (functions index) chronicle machine (Deaf stages output chronicle machine index) number

/-- Who is neither the executor nor made for a stage was there before, and gets nothing. -/
theorem Standing.stranger (standing : Standing images host stages base start chronicle machine)
    (filters : images.Filters) (moved : machine.Moved images host mover after)
    (notHost : number ≠ host) (strange : number ∉ (chronicle.extend images host mover machine after).children)
    (found : after.processes[number]? = some later) :
    ∃ process, machine.processes[number]? = some process ∧
      ∀ object, later.descriptors.Has object → process.descriptors.Has object := by
  obtain ⟨process, present⟩ := moved.exists_mover
  have alive := moved.alive present
  have made := standing.underway.toMade
  by_cases own : number = mover
  · subst own
    obtain ⟨call, asks, modest⟩ := standing.confined.asks filters notHost present alive
    exact ⟨process, present, (System.modest_step present asks modest (moved.step_of_ne notHost) found).inherits⟩
  · have below := (standing.underway.step moved).numbered.process number later found
    have older : number < machine.nextProcess := by
      by_cases isHost : mover = host
      · subst isHost
        obtain ⟨_, _, -, -, -, -, move⟩ := standing.underway.host_moves moved
        rcases move.children chronicle made.host_lt with ⟨-, same⟩ | ⟨grown, same, -⟩
        · omega
        · have : number ≠ machine.nextProcess := by
            rintro rfl
            rw [grown] at strange
            exact strange (by simp)
          omega
      · have same := (standing.confined.spares made filters isHost (moved.step_of_ne isHost)).2
        omega
    obtain ⟨earlier, living, same⟩ := ((standing.remains filters moved).others number own older).back found
    exact ⟨earlier, living, fun object has => same.descriptors ▸ has⟩

namespace Conversing

section streams

variable {state : τ} (conversing : Conversing images functions host stages input output start chronicle machine)
  (standing : Standing images host stages base start chronicle machine) (stdin : base[0]? = some ⟨input, false⟩)
  (stdout : base[1]? = some ⟨output, false⟩) (isChild : chronicle.children[index]? = some number)
  (present : machine.processes[number]? = some process) (alive : process.ending = none)
  (program : process.program = .image state)

include conversing standing stdin stdout isChild present program

/-- Every stage can read its input to the end. -/
theorem source (entry : Descriptor) (isOpen : process.descriptors[0]? = some entry) :
    Source machine entry.object ∧ (chronicle.isTold number = true → Dry machine entry.object) := by
  have told : chronicle.toldAt index = chronicle.isTold number := by
    rw [Chronicle.toldAt, isChild, Option.elim_some]
  rw [← told]
  rcases (standing.joined stdin stdout isChild present program).input entry isOpen with ⟨rfl, object⟩ |
    ⟨place, channel, rfl, isChannel, object⟩
  · rw [object]
    exact ⟨conversing.drawn.source, conversing.drawn.dry⟩
  · obtain ⟨found, there, balanced⟩ := standing.ledger.balanced place channel isChannel
    rw [object]
    refine ⟨.pipe _ channel found (by simp [Object.includes]) there balanced.readsAtOnce balanced.filled, fun isTold => ?_⟩
    refine ⟨fun opened opening content isFile => (by cases isFile), fun pipe given includes same => ?_⟩
    obtain rfl : channel = pipe := by simpa [Object.includes] using includes
    obtain rfl : found = given := by rwa [there, Option.some.injEq] at same
    exact (balanced.ended isTold).1

/-- What every stage writes is taken. -/
theorem sink (entry : Descriptor) (isOpen : process.descriptors[1]? = some entry) : Sink machine entry.object := by
  rcases (standing.joined stdin stdout isChild present program).output entry isOpen with ⟨-, object⟩ |
    ⟨channel, -, isChannel, object⟩
  · rw [object]
    exact conversing.added.sink
  · obtain ⟨found, there, balanced⟩ := standing.ledger.balanced index channel isChannel
    rw [object]
    exact .pipe _ channel found (by simp [Object.includes]) there balanced.writesAtOnce

omit conversing

include alive

/-- Where nobody reads what a stage writes, the stage behind it was not told of an end. -/
theorem deaf_of_unread {entry : Descriptor} (isOpen : process.descriptors[1]? = some entry)
    (unread : Unread machine entry.object) : Deaf stages output chronicle machine index := by
  rcases (standing.joined stdin stdout isChild present program).output entry isOpen with ⟨last, object⟩ |
    ⟨channel, -, isChannel, object⟩
  · exact .inl ⟨last, object ▸ unread⟩
  · rw [object] at unread
    obtain ⟨pipe, includes, unheld⟩ := unread
    obtain rfl : channel = pipe := by simpa [Object.includes] using includes
    refine .inr ⟨channel, isChannel, unheld, ?_⟩
    rw [← Bool.not_eq_true]
    intro told
    obtain ⟨found, -, balanced⟩ := standing.ledger.balanced index channel isChannel
    rcases (balanced.ended told).2 number process isChild present with ended | ⟨-, closed⟩
    · exact ended alive
    · rw [isOpen] at closed
      cases closed

end streams

section step

variable (conversing : Conversing images functions host stages input output start chronicle machine)
  (standing : Standing images host stages executor.descriptors start chronicle machine) (filters : images.Filters)
  (positive : 0 < start.shape.pageSize) (attached : Attached host executor input output start)
  (moved : machine.Moved images host mover after)

include conversing standing filters moved

theorem strangers_step (number : Nat) (later : Process (Program τ)) (opening : Nat) (notHost : number ≠ host)
    (strange : number ∉ (chronicle.extend images host mover machine after).children)
    (found : after.processes[number]? = some later) (has : later.descriptors.Has (.file opening)) :
    Foreign start input opening ∧ Foreign start output opening := by
  obtain ⟨process, present, had⟩ := standing.stranger filters moved notHost strange found
  exact conversing.strangers number process opening notHost (fun member => strange (List.mem_append_left _ member))
    present (had _ has)

include attached in
/-- The conversations of those who do not move. -/
theorem spoken_other {index number : Nat} (isChild : chronicle.children[index]? = some number) (apart : number ≠ mover) :
    Spoken images (functions index) (chronicle.extend images host mover machine after) after
      (Deaf stages output (chronicle.extend images host mover machine after) after index) number :=
  (conversing.spoken index number isChild).other (standing.remains filters moved) apart
    (standing.older (List.mem_of_getElem? isChild))
    fun deaf => deaf.step standing filters attached.stdin attached.stdout moved

include attached in
/-- The conversation of a stage that moves goes on. -/
theorem spoken_own {state : τ} (isChild : chronicle.children[index]? = some mover)
    (present : machine.processes[mover]? = some process) (program : process.program = .image state) :
    Spoken images (functions index) (chronicle.extend images host mover machine after) after
      (Deaf stages output (chronicle.extend images host mover machine after) after index) mover := by
  have alive := moved.alive present
  have notHost : mover ≠ host := standing.underway.ne_host (List.mem_of_getElem? isChild)
  have deafened : Deaf stages output chronicle machine index →
      Spoken images (functions index) (chronicle.extend images host mover machine after) after
        (Deaf stages output (chronicle.extend images host mover machine after) after index) mover := by
    intro deaf
    have still := deaf.step standing filters attached.stdin attached.stdout moved
    exact ⟨fun _ _ _ _ _ => .inl still, fun _ _ => .inl still⟩
  rcases (conversing.spoken index mover isChild).talking process state present alive program with
    deaf | ⟨first, computes, talks⟩
  · exact deafened deaf
  have move := standing.image_move filters isChild present program moved
  obtain ⟨call, asks, modest⟩ := standing.confined.asks filters notHost present alive
  obtain ⟨later, found⟩ : ∃ later, after.processes[mover]? = some later := by
    have there := System.retains_step present asks modest (moved.step_of_ne notHost) mover
      (Std.ExtTreeMap.mem_iff_isSome_getElem?.mpr (by
        rw [present]
        rfl))
    exact Option.isSome_iff_exists.mp (Std.ExtTreeMap.mem_iff_isSome_getElem?.mp there)
  rcases move.talks present alive program talks
      (conversing.source standing attached.stdin attached.stdout isChild present program)
      (conversing.sink standing attached.stdin attached.stdout isChild present program) found with
    ⟨entry, isOpen, unread⟩ | ⟨next, living, image, goesOn⟩ | ⟨nothing, ended, code, exits⟩
  · exact deafened (deaf_of_unread standing attached.stdin attached.stdout isChild present alive program isOpen unread)
  · refine ⟨fun same state found' _ image' => .inr ⟨first, computes, ?_⟩, fun ended _ => absurd living (ended later found)⟩
    obtain rfl : later = same := by rwa [found, Option.some.injEq] at found'
    rw [image] at image'
    cases image'
    rw [Chronicle.received_extend, Chronicle.written_extend, Chronicle.isTold_extend, if_pos rfl, if_pos rfl,
      decide_eq_true rfl, Bool.true_and]
    exact goesOn
  · refine ⟨fun same state found' living _ => ?_, fun _ told => .inr ?_⟩
    · obtain rfl : later = same := by rwa [found, Option.some.injEq] at found'
      exact absurd living ended
    · rw [Chronicle.isTold_extend, nothing, Option.any_none, Bool.and_false, Bool.or_false] at told
      rw [Chronicle.received_extend, Chronicle.written_extend, nothing, Option.elim_none, Option.elim_none, ite_self,
        List.append_nil, List.append_nil]
      exact computes _ code talks told exits

include positive

/-- A move by which no stage reads or writes anything, and that uses other files. -/
theorem step_still {used : Nat → Prop}
    (still : Still images chronicle (chronicle.extend images host mover machine after) machine after)
    (touched : machine.files.Touched used after.files)
    (foreign : ∀ opening, used opening → Foreign start input opening ∧ Foreign start output opening)
    (spoken : ∀ index number : Nat, (chronicle.extend images host mover machine after).children[index]? = some number →
      Spoken images (functions index) (chronicle.extend images host mover machine after) after
        (Deaf stages output (chronicle.extend images host mover machine after) after index) number) :
    Conversing images functions host stages input output start (chronicle.extend images host mover machine after)
      after where
  files opening := touched.fileOf?.trans (conversing.files opening)
  strangers := conversing.strangers_step standing filters moved
  drawn := by
    rw [still.read, still.told]
    refine conversing.drawn.idle (standing.flowing.shape ▸ positive) standing.older_pipe (standing.remains filters moved)
      fun number isFile => touched.view? fun opening isUsed => ?_
    rw [conversing.files, conversing.files]
    exact (foreign opening isUsed).1 number isFile
  added := by
    rw [still.sent]
    refine conversing.added.idle standing.older_pipe (standing.remains filters moved)
      fun number isFile => touched.view? fun opening isUsed => ?_
    rw [conversing.files, conversing.files]
    exact (foreign opening isUsed).2 number isFile
  spoken := spoken

include attached

/-- A move of the executor. -/
theorem step_host (isHost : mover = host) :
    Conversing images functions host stages input output start (chronicle.extend images host mover machine after)
      after := by
  subst isHost
  have made := standing.underway.toMade
  obtain ⟨process, run, present, alive, -, -, move⟩ := standing.underway.host_moves moved
  have still := standing.still filters present (fun member => absurd member made.host_not_mem) moved
  have touched : machine.files.Touched (fun _ => False) after.files := move.files ▸ .same
  refine conversing.step_still standing filters positive moved still touched (by simp) fun index number isChild => ?_
  have old : ∀ {index number : Nat}, chronicle.children[index]? = some number →
      Spoken images (functions index) (chronicle.extend images mover mover machine after) after
        (Deaf stages output (chronicle.extend images mover mover machine after) after index) number := by
    intro index number isChild
    refine conversing.spoken_other standing filters attached moved isChild ?_
    exact made.ne_host (List.mem_of_getElem? isChild)
  rcases move.children chronicle made.host_lt with ⟨kept, -⟩ | ⟨grown, -, later, startup, there, isStartup, living⟩
  · rw [kept] at isChild
    exact old isChild
  · rw [grown] at isChild
    by_cases within : index < chronicle.children.length
    · rw [List.getElem?_append_left within] at isChild
      exact old isChild
    · rw [List.getElem?_append_right (by omega)] at isChild
      obtain rfl := List.mem_singleton.mp (List.mem_of_getElem? isChild)
      exact .early there (living.trans alive) isStartup

/-- A move of a process that has nothing to do with the run. -/
theorem step_stranger (notHost : mover ≠ host) (strange : mover ∉ chronicle.children) :
    Conversing images functions host stages input output start (chronicle.extend images host mover machine after)
      after := by
  obtain ⟨process, present⟩ := moved.exists_mover
  obtain ⟨call, asks, modest⟩ := standing.confined.asks filters notHost present (moved.alive present)
  have still := standing.still filters present (fun member => absurd member strange) moved
  have touched := System.touched_step present asks modest (moved.step_of_ne notHost)
  refine conversing.step_still standing filters positive moved still touched
    (fun opening => conversing.strangers mover process opening notHost strange present) fun index number isChild => ?_
  rw [Chronicle.children_extend notHost] at isChild
  refine conversing.spoken_other standing filters attached moved isChild ?_
  rintro rfl
  exact strange (List.mem_of_getElem? isChild)

/-- A move of a process on its way to its program. -/
theorem step_startup {startup : Startup} (provides : Provides images host stages start functions)
    (course : Course images host start chronicle machine) (isChild : chronicle.children[index]? = some mover)
    (present : machine.processes[mover]? = some process) (program : process.program = .startup startup)
    (begun : startup.control.hasFailed = false) :
    Conversing images functions host stages input output start (chronicle.extend images host mover machine after)
      after := by
  have member := List.mem_of_getElem? isChild
  have notHost : mover ≠ host := standing.underway.ne_host member
  have alive := moved.alive present
  have stepped := moved.step_of_ne notHost
  have settled := (standing.flowing.stage index mover process isChild present).settled startup program alive
  have still := standing.still filters present (fun _ => ⟨startup, program⟩) moved
  have touched : machine.files.Touched (fun _ => False) after.files :=
    (Pipework.step_startup present program (fun _ => settled) stepped).files begun ▸ .same
  have silent : (chronicle.extend images host mover machine after).exchangesOf mover = [] := by
    rw [Chronicle.exchangesOf_extend, (standing.ledger.booked mover member).early process startup present program,
      exchange?_eq_none present (by simp [program])]
    simp
  refine conversing.step_still standing filters positive moved still touched (by simp) fun other number isOther => ?_
  rw [Chronicle.children_extend notHost] at isOther
  by_cases own : number = mover
  · subst own
    obtain rfl := standing.confined.index_unique isOther isChild
    refine ⟨fun later state found living image => .inr ?_, fun _ told => ?_⟩
    · obtain ⟨-, loads, result⟩ := loaded_of_image present program (fun _ => settled) stepped found image
      have becomes := (standing.underway.child index number isChild).2.2 process present
      unfold Becomes at becomes
      rw [program] at becomes
      obtain ⟨⟨stage, isStage, name, arguments⟩, -⟩ := becomes
      rw [name, arguments] at loads
      refine ⟨state, provides chronicle machine index number stage process state course isChild present isStage loads, ?_⟩
      have talk : later.talk state [] [] false = { state } := by
        rw [result, Process.talk]
        simp only [Std.ExtTreeMap.contains_eq_isSome_getElem?, getElem?_loaded_zero attached.stdin,
          getElem?_loaded_one attached.stdout, Option.isSome_some]
      rw [Chronicle.received, Chronicle.written, Chronicle.isTold, silent]
      exact talk ▸ .start
    · rw [Chronicle.isTold, silent] at told
      cases told
  · exact conversing.spoken_other standing filters attached moved isOther own

/-- A move of an image that was loaded for a stage. -/
theorem step_image {state : τ} (isChild : chronicle.children[index]? = some mover)
    (present : machine.processes[mover]? = some process) (program : process.program = .image state) :
    Conversing images functions host stages input output start (chronicle.extend images host mover machine after)
      after := by
  have member := List.mem_of_getElem? isChild
  have notHost : mover ≠ host := standing.underway.ne_host member
  have alive := moved.alive present
  have kept : (chronicle.extend images host mover machine after).children = chronicle.children :=
    Chronicle.children_extend notHost
  have remains := standing.remains filters moved
  have older : ∀ number ∈ chronicle.children, number < machine.nextProcess := fun _ member => standing.older member
  have joined := standing.joined attached.stdin attached.stdout isChild present program
  have move := standing.image_move filters isChild present program moved
  obtain ⟨bytes, carries, begun⟩ := standing.carries filters isChild present alive program moved
  have theirs : ∀ {other : Nat}, other ≠ index → chronicle.children[other]? ≠ some mover := fun apart same =>
    apart (standing.confined.index_unique isChild same)
  have foreign : ∀ {first last : Nat}, input = .file first → output = .file last →
      machine.files.fileOf? first ≠ machine.files.fileOf? last := by
    intro first last isInput isOutput
    rw [conversing.files, conversing.files]
    exact attached.apart first isInput last isOutput
  refine ⟨fun opening => carries.touched.fileOf?.trans (conversing.files opening),
    conversing.strangers_step standing filters moved, ?_, ?_, fun other number isOther => ?_⟩
  · rw [Chronicle.readAt_extend kept, Chronicle.toldAt_extend kept]
    have roomy : 0 < machine.shape.pageSize := standing.flowing.shape ▸ positive
    by_cases first : index = 0
    · subst first
      have isInput : ∀ entry, process.descriptors[0]? = some entry → entry.object = input := by
        intro entry isOpen
        rcases joined.input entry isOpen with ⟨-, object⟩ | ⟨place, channel, next, -⟩
        · exact object
        · cases next
      rw [if_pos isChild, decide_eq_true isChild, Bool.true_and]
      refine conversing.drawn.step roomy standing.older_pipe remains (fun number now content isFile view reads => ?_)
        fun pipe found reads there filled => carries.drawn_pipe isInput reads there filled
      exact carries.drawn_file (fun entry isOpen => (isInput entry isOpen).trans isFile)
        (fun opening isOutput => (foreign isFile (joined.last_of_file isOutput).2).symm) view reads
    · rw [if_neg (theirs (Ne.symm first)), decide_eq_false (theirs (Ne.symm first)), Bool.false_and, Bool.or_false,
        List.append_nil]
      refine conversing.drawn.idle roomy standing.older_pipe remains fun number isFile => carries.touched.view? ?_
      rintro opening (isInput | isOutput)
      · exact absurd (joined.first_of_file isInput).1 first
      · exact (foreign isFile (joined.last_of_file isOutput).2).symm
  · rw [Machine.sentAt_extend kept remains older fun _ => begun]
    have added := conversing.added
    by_cases last : index + 1 = stages.length
    · have isOutput : ∀ entry, process.descriptors[1]? = some entry → entry.object = output := by
        intro entry isOpen
        rcases joined.output entry isOpen with ⟨-, object⟩ | ⟨channel, further, -⟩
        · exact object
        · omega
      obtain rfl : stages.length - 1 = index := by omega
      rw [if_pos isChild]
      refine added.step standing.older_pipe remains fun number now content isFile view writes atEnd => ?_
      exact carries.added_file (fun entry isOpen => (isOutput entry isOpen).trans isFile)
        (fun opening isInput => foreign (joined.first_of_file isInput).2 isFile) view writes atEnd
    · have isMade := (List.getElem?_eq_some_iff.mp isChild).1
      have few := standing.family.few
      rw [if_neg (theirs (by omega)), List.append_nil]
      refine added.idle standing.older_pipe remains fun number isFile => carries.touched.view? ?_
      rintro opening (isInput | isOutput)
      · exact foreign (joined.first_of_file isInput).2 isFile
      · exact absurd (joined.last_of_file isOutput).1 last
  · rw [kept] at isOther
    by_cases own : number = mover
    · subst own
      obtain rfl := standing.confined.index_unique isOther isChild
      exact conversing.spoken_own standing filters attached moved isChild present program
    · exact conversing.spoken_other standing filters attached moved isOther own

end step

/-- Nothing has been said at the start. -/
theorem begin (ready : Ready host stages executor start) (attached : Attached host executor input output start) :
    Conversing images functions host stages input output start {} start where
  files _ := rfl
  strangers number process opening notHost _ present has := attached.strangers number process opening present notHost has
  drawn := .begin attached.source fun pipe isPipe =>
    ready.known host executor input pipe ready.present ⟨0, _, attached.stdin, rfl⟩ isPipe
  added := .begin attached.sink fun pipe isPipe =>
    ready.known host executor output pipe ready.present ⟨1, _, attached.stdout, rfl⟩ isPipe
  spoken := by simp

/-- Nothing is said while time passes. -/
theorem time (conversing : Conversing images functions host stages input output start chronicle machine) (clock : Nat) :
    Conversing images functions host stages input output start chronicle { machine with clock } where
  files := conversing.files
  strangers := conversing.strangers
  drawn := by
    cases conversing.drawn with
    | file number first now content began view reads sum ended =>
      exact .file number first now content began view reads sum ended
    | pipe _ pipe found reads older there waits filled ended =>
      exact .pipe _ pipe found reads older there waits filled ended
  added := by
    cases conversing.added with
    | file number first now content began view writes atEnd =>
      exact .file number first now content began view writes atEnd
    | pipe _ pipe found writes older there waits => exact .pipe _ pipe found writes older there waits
  spoken index number isChild :=
    ⟨(conversing.spoken index number isChild).talking, (conversing.spoken index number isChild).done⟩

end Conversing

/-- All along a course the stages are in conversation, unless a process never becomes a stage. -/
theorem Ready.conversing (ready : Ready host stages executor start) (filters : images.Filters)
    (positive : 0 < start.shape.pageSize) (attached : Attached host executor input output start)
    (provides : Provides images host stages start functions) (course : Course images host start chronicle machine) :
    Lost chronicle machine ∨ Conversing images functions host stages input output start chronicle machine := by
  induction course with
  | start => exact .inr (.begin ready attached)
  | time earlier passed ih =>
    obtain ⟨clock, rfl⟩ := System.passTime_eq_some passed
    exact ih.imp id fun conversing => conversing.time clock
  | @step chronicle machine after earlier mover moved ih =>
    have standing := ready.standing filters positive earlier
    rcases ih with lost | conversing
    · exact .inl (lost.step standing filters moved)
    by_cases isHost : mover = host
    · exact .inr (conversing.step_host standing filters positive attached moved isHost)
    by_cases isChild : mover ∈ chronicle.children
    · obtain ⟨process, present⟩ := moved.exists_mover
      obtain ⟨index, place⟩ := List.mem_iff_getElem?.mp isChild
      rcases (standing.confined.proper mover process present).kind isHost (moved.alive present) with ⟨startup, program⟩ | ⟨state, program⟩
      · cases failed : startup.control.hasFailed with
        | false =>
          exact .inr (conversing.step_startup standing filters positive attached moved provides earlier place present
            program failed)
        | true =>
          have lost : Lost chronicle machine := by
            refine ⟨mover, isChild, (standing.ledger.booked mover isChild).early process startup present program, ?_⟩
            intro same living _
            obtain rfl : process = same := by rwa [present, Option.some.injEq] at living
            exact ⟨startup, program, failed⟩
          exact .inl (lost.step standing filters moved)
      · exact .inr (conversing.step_image standing filters positive attached moved place present program)
    · exact .inr (conversing.step_stranger standing filters positive attached moved isHost isChild)

end Pipework
