import Pipework.Proofs.History
import Pipework.Proofs.Ownership
import Pipework.Proofs.Remains

set_option autoImplicit false

/-!
The books of the channels. All along a course what the stage before a channel has written is what the stage behind it
has read and what is still in the channel (`Balanced.book`); and who was told that its input has come to its end was told
so when the channel was empty and the stage before it wrote nothing any more.
-/

namespace Pipework

open Kernel

variable {τ : Type} {images : Behaviour τ} {host mover number : Nat} {base : DescriptorTable}
  {machine after : Machine τ} {chronicle : Chronicle} {process later : Process (Program τ)}

namespace Chronicle

/-- The bytes that the stage at an index has read. -/
def readAt (chronicle : Chronicle) (index : Nat) : Bytes := (chronicle.children[index]?).elim [] chronicle.received

/-- Whether the stage at an index was told that its input has come to its end. -/
def toldAt (chronicle : Chronicle) (index : Nat) : Bool := (chronicle.children[index]?).elim false chronicle.isTold

/-- Who was told is a stage. -/
theorem lt_of_toldAt {chronicle : Chronicle} {index : Nat} (told : chronicle.toldAt index = true) :
    index < chronicle.children.length := by
  unfold toldAt at told
  cases isChild : chronicle.children[index]? with
  | none => simp [isChild] at told
  | some number => exact (List.getElem?_eq_some_iff.mp isChild).1

end Chronicle

/-- The bytes that the stage at an index has written. -/
def Machine.sentAt (images : Behaviour τ) (chronicle : Chronicle) (machine : Machine τ) (index : Nat) : Bytes :=
  (chronicle.children[index]?).elim [] (Machine.sent images chronicle machine)

/-- The stage at an index writes nothing any more: it has ended, or it has closed its standard output. -/
def Silent (children : List Nat) (machine : Machine τ) (index : Nat) : Prop :=
  ∀ (number : Nat) (process : Process (Program τ)), children[index]? = some number →
    machine.processes[number]? = some process →
    process.ending ≠ none ∨ (∃ state, process.program = .image state) ∧ process.descriptors[1]? = none

/-- The book of the channel at a place. -/
structure Balanced (images : Behaviour τ) (chronicle : Chronicle) (machine : Machine τ) (place : Nat) (found : Pipe) :
    Prop where
  filled : found.Filled
  readsAtOnce : found.readsAtOnce = false
  writesAtOnce : found.writesAtOnce = false
  book : machine.sentAt images chronicle place = chronicle.readAt (place + 1) ++ found.content
  ended : chronicle.toldAt (place + 1) = true → found.content = [] ∧ Silent chronicle.children machine place

/-- What is remembered of a process that was made for a stage. -/
structure Booked (chronicle : Chronicle) (machine : Machine τ) (number : Nat) : Prop where
  early : ∀ (process : Process (Program τ)) (startup : Startup), machine.processes[number]? = some process →
    process.program = .startup startup → chronicle.exchangesOf number = []
  steady : ∀ (process : Process (Program τ)) (state : τ), machine.processes[number]? = some process →
    process.ending = none → process.program = .image state → Steady machine process

/-- The books of a run. -/
structure Ledger (images : Behaviour τ) (chronicle : Chronicle) (machine : Machine τ) : Prop where
  recent : ∀ entry ∈ chronicle.exchanges, entry.1 < machine.nextProcess
  booked : ∀ number ∈ chronicle.children, Booked chronicle machine number
  balanced : ∀ place channel : Nat, chronicle.channels[place]? = some channel →
    ∃ found, machine.pipes[channel]? = some found ∧ Balanced images chronicle machine place found

/-- No stage has read or written anything. -/
structure Still (images : Behaviour τ) (chronicle now : Chronicle) (machine after : Machine τ) : Prop where
  sent : ∀ index, Machine.sentAt images now after index = Machine.sentAt images chronicle machine index
  read : ∀ index, now.readAt index = chronicle.readAt index
  told : ∀ index, now.toldAt index = chronicle.toldAt index

/-- The book of a channel stays as it is when no stage reads or writes anything. -/
theorem Balanced.still {now : Chronicle} {place : Nat} {found : Pipe}
    (balanced : Balanced images chronicle machine place found) (still : Still images chronicle now machine after)
    (silent : chronicle.toldAt (place + 1) = true → Silent chronicle.children machine place →
      Silent now.children after place) : Balanced images now after place found where
  filled := balanced.filled
  readsAtOnce := balanced.readsAtOnce
  writesAtOnce := balanced.writesAtOnce
  book := by rw [still.sent, still.read, balanced.book]
  ended told := by
    rw [still.told] at told
    exact ⟨(balanced.ended told).1, silent told (balanced.ended told).2⟩

section other

variable (remains : Remains mover machine after) (apart : number ≠ mover) (older : number < machine.nextProcess)

include remains apart older

/-- What another process has begun stays as it is. -/
theorem Machine.begun_other : Machine.begun images after number = Machine.begun images machine number := by
  have outlives := remains.others number apart older
  unfold Machine.begun
  cases earlier : machine.processes[number]? with
  | none =>
    rw [earlier] at outlives
    cases found : after.processes[number]? with
    | none => rfl
    | some later =>
      obtain ⟨process, living, -⟩ := outlives.back found
      cases living
  | some process =>
    rw [earlier] at outlives
    cases found : after.processes[number]? with
    | some later =>
      obtain ⟨given, living, same⟩ := outlives.back found
      cases living
      exact Process.begun_undisturbed same
    | none =>
      rw [found] at outlives
      cases outlives with
      | collected ended => exact (Process.begun_of_ended ended).symm

/-- What is remembered of another process stays as it is. -/
theorem Booked.other
    (known : ∀ process object pipe, machine.processes[number]? = some process → process.descriptors.Has object →
      object.pipe? = some pipe → pipe < machine.nextPipe)
    (booked : Booked chronicle machine number) :
    Booked (chronicle.extend images host mover machine after) after number where
  early later startup found program := by
    obtain ⟨process, living, same⟩ := (remains.others number apart older).back found
    rw [Chronicle.exchangesOf_extend, if_neg apart.symm, List.append_nil]
    exact booked.early process startup living (same.program ▸ program)
  steady later state found alive program unwritten := by
    obtain ⟨process, living, same⟩ := (remains.others number apart older).back found
    obtain ⟨pipe, given, outlet, waits⟩ :=
      booked.steady process state living (same.ending ▸ alive) (same.program ▸ program) (same.written ▸ unwritten)
    obtain ⟨entry, isOpen, writes, there⟩ := System.descriptor_of_outlet outlet
    have old := known process entry.object pipe living ⟨1, entry, isOpen, rfl⟩ (Object.of_includes_writeEnd writes).1
    obtain ⟨replaced, now, -, writesAtOnce, -⟩ := remains.ways old there
    rw [← same.descriptors] at isOpen
    refine ⟨pipe, replaced, ?_, writesAtOnce.trans waits⟩
    rw [System.outlet?_eq isOpen writes, now, Option.map_some]

/-- Another stage that writes nothing any more stays so. -/
theorem Silent.other {children : List Nat} {index : Nat} (silent : Silent children machine index)
    (isChild : children[index]? = some number) : Silent children after index := by
  intro same later isSame found
  obtain rfl : number = same := by rwa [isChild, Option.some.injEq] at isSame
  obtain ⟨process, living, undisturbed⟩ := (remains.others number apart older).back found
  rw [undisturbed.ending, undisturbed.program, undisturbed.descriptors]
  exact silent number process isChild living

end other

section own

variable (present : machine.processes[number]? = some process)

include present

/-- What is remembered of an image that moves. -/
theorem Booked.own_image {state : τ} (program : process.program = .image state)
    (move : ImageMove images machine number process state after (Machine.exchange? images machine number)) :
    Booked (chronicle.extend images host number machine after) after number where
  early later startup found program' := by
    obtain ⟨⟨next, image⟩, -⟩ := move.own present program found
    rw [image] at program'
    cases program'
  steady later next found alive image := by
    have answered : ∀ {table : DescriptorTable} {reply : Reply},
        Steady after ({ process with descriptors := table }.answered (Program.behaviour images) reply) :=
      fun unwritten => absurd rfl unwritten
    have ends : ∀ {how : Termination}, (machine.finish number how).processes[number]? = some later →
        Steady after later := by
      intro how found
      rw [System.getElem?_finish_self how present] at found
      cases found
      cases alive
    generalize Machine.exchange? images machine number = exchange at move
    cases move with
    | received limit reply between asks performed =>
      rw [System.getElem?_put_self] at found
      cases found
      exact answered
    | wrote data reply between asks performed =>
      rw [System.getElem?_put_self] at found
      cases found
      exact answered
    | writing data pipe given replaced rest asks outlet waits took remains =>
      rw [System.getElem?_put_self] at found
      cases found
      intro unwritten
      obtain ⟨entry, isOpen, writes, there⟩ := System.descriptor_of_outlet outlet
      refine ⟨pipe, replaced, (System.outlet?_eq isOpen writes).trans ?_, (System.taken_takes took).writesAtOnce.trans waits⟩
      rw [System.pipes_put, System.putPipe, Std.ExtTreeMap.getElem?_insert_self, Option.map_some]
    | killed data pipe given asks outlet unread unbegun => exact ends found
    | closed place standard asks =>
      rw [System.getElem?_put_self] at found
      cases found
      exact answered
    | exited code asks => exact ends found

/-- Nothing is remembered of a process that is only about to become a stage, and it has begun nothing. -/
theorem Booked.own_startup {startup : Startup} {index : Nat} {channels : List Nat}
    (booked : Booked chronicle machine number) (equipped : Equipped base channels index process)
    (alive : process.ending = none) (program : process.program = .startup startup)
    (moved : machine.step (Program.behaviour images) number = some after) :
    Booked (chronicle.extend images host number machine after) after number ∧
      Machine.begun images machine number = [] ∧ Machine.begun images after number = [] := by
  have notImage : ∀ state, process.program ≠ .image state := by simp [program]
  have unwritten : ∀ (later : Process (Program τ)) (state : τ), after.processes[number]? = some later →
      later.program = .image state → later.written = 0 := by
    intro later state found image
    obtain ⟨loading, -, result⟩ :=
      loaded_of_image present program (fun _ => equipped.settled startup program alive) moved found image
    rw [result]
    exact equipped.unwritten startup program (by rw [loading]; rfl)
  refine ⟨⟨fun later again found program' => ?_, fun later state found _ image waiting => ?_⟩, ?_, ?_⟩
  · rw [Chronicle.exchangesOf_extend, exchange?_eq_none present notImage, if_pos rfl]
    simpa using booked.early process startup present program
  · exact absurd (unwritten later state found image) waiting
  · rw [Machine.begun_eq present, Process.begun_of_not_image notImage]
  · cases found : after.processes[number]? with
    | none => exact Machine.begun_absent found
    | some later =>
      rw [Machine.begun_eq found]
      by_cases image : ∃ state, later.program = .image state
      · obtain ⟨state, image⟩ := image
        exact Process.begun_of_unwritten (unwritten later state found image)
      · exact Process.begun_of_not_image fun state same => image ⟨state, same⟩

/-- A stage that writes nothing any more stays so when it moves. -/
theorem Silent.own {state : τ} {children : List Nat} {index : Nat} {exchange : Option (Call × Reply)}
    (silent : Silent children machine index) (isChild : children[index]? = some number)
    (alive : process.ending = none) (program : process.program = .image state)
    (move : ImageMove images machine number process state after exchange) : Silent children after index := by
  intro same later isSame found
  obtain rfl : number = same := by rwa [isChild, Option.some.injEq] at isSame
  obtain ⟨image, fewer⟩ := move.own present program found
  refine .inr ⟨image, ?_⟩
  rcases silent number process isChild present with ended | ⟨-, closed⟩
  · exact absurd alive ended
  · cases isOpen : later.descriptors[1]? with
    | none => rfl
    | some descriptor =>
      rw [fewer 1 descriptor isOpen] at closed
      cases closed

end own

/-- A stage that writes nothing any more stays so, whoever moves. -/
theorem Silent.step {children : List Nat} {index : Nat} (silent : Silent children machine index)
    (remains : Remains mover machine after) (older : ∀ number ∈ children, number < machine.nextProcess)
    (own : children[index]? = some mover → Silent children after index) : Silent children after index := by
  cases isChild : children[index]? with
  | none =>
    intro number later same
    rw [isChild] at same
    cases same
  | some number =>
    by_cases moves : number = mover
    · exact own (moves ▸ isChild)
    · exact silent.other remains moves (older number (List.mem_of_getElem? isChild)) isChild

section sums

variable (kept : (chronicle.extend images host mover machine after).children = chronicle.children)

include kept

theorem Chronicle.readAt_extend (index : Nat) :
    (chronicle.extend images host mover machine after).readAt index = chronicle.readAt index ++
      if chronicle.children[index]? = some mover then
        (Machine.exchange? images machine mover).elim [] Exchange.taken
      else [] := by
  unfold readAt
  rw [kept]
  cases chronicle.children[index]? with
  | none => simp
  | some number => simp [received_extend, eq_comm]

theorem Chronicle.toldAt_extend (index : Nat) :
    (chronicle.extend images host mover machine after).toldAt index = (chronicle.toldAt index ||
      (decide (chronicle.children[index]? = some mover) &&
        (Machine.exchange? images machine mover).any Exchange.isEnd)) := by
  unfold toldAt
  rw [kept]
  cases chronicle.children[index]? with
  | none => simp
  | some number => simp [isTold_extend, eq_comm]

variable {bytes : Bytes} (remains : Remains mover machine after)
  (older : ∀ number ∈ chronicle.children, number < machine.nextProcess)
  (own : mover ∈ chronicle.children →
    (Machine.exchange? images machine mover).elim [] Exchange.given ++ Machine.begun images after mover =
      Machine.begun images machine mover ++ bytes)

include remains older own

theorem Machine.sentAt_extend (index : Nat) :
    Machine.sentAt images (chronicle.extend images host mover machine after) after index =
      Machine.sentAt images chronicle machine index ++
        if chronicle.children[index]? = some mover then bytes else [] := by
  unfold sentAt
  rw [kept]
  cases isChild : chronicle.children[index]? with
  | none => simp
  | some number =>
    have member := List.mem_of_getElem? isChild
    simp only [Option.elim_some, sent, Chronicle.written_extend, Option.some.injEq]
    by_cases same : number = mover
    · subst same
      rw [if_pos rfl, if_pos rfl, List.append_assoc, own member, List.append_assoc]
    · rw [if_neg (Ne.symm same), if_neg same, List.append_nil, List.append_nil,
        Machine.begun_other remains same (older number member)]

/-- The book of a channel is kept when what comes to it is what the stage before it writes, and what goes is what the
stage behind it reads. -/
theorem Balanced.step {place : Nat} {found replaced : Pipe} (balanced : Balanced images chronicle machine place found)
    (filled : replaced.Filled) (readsAtOnce : replaced.readsAtOnce = found.readsAtOnce)
    (writesAtOnce : replaced.writesAtOnce = found.writesAtOnce)
    (content : found.content ++ (if chronicle.children[place]? = some mover then bytes else []) =
      (if chronicle.children[place + 1]? = some mover then
        (Machine.exchange? images machine mover).elim [] Exchange.taken
      else []) ++ replaced.content)
    (silent : Silent chronicle.children machine place →
      (chronicle.children[place]? = some mover → bytes = []) ∧ Silent chronicle.children after place)
    (ended : chronicle.children[place + 1]? = some mover →
      (Machine.exchange? images machine mover).any Exchange.isEnd = true →
      found.content = [] ∧ Silent chronicle.children machine place) :
    Balanced images (chronicle.extend images host mover machine after) after place replaced where
  filled := filled
  readsAtOnce := readsAtOnce.trans balanced.readsAtOnce
  writesAtOnce := writesAtOnce.trans balanced.writesAtOnce
  book := by
    rw [Machine.sentAt_extend kept remains older own, Chronicle.readAt_extend kept, balanced.book, List.append_assoc,
      content, List.append_assoc]
  ended told := by
    have before : found.content = [] ∧ Silent chronicle.children machine place := by
      rw [Chronicle.toldAt_extend kept, Bool.or_eq_true, Bool.and_eq_true, decide_eq_true_eq] at told
      rcases told with told | ⟨isReader, isEnd⟩
      · exact balanced.ended told
      · exact ended isReader isEnd
    obtain ⟨nothing, still⟩ := silent before.2
    have written : (if chronicle.children[place]? = some mover then bytes else []) = [] := by
      split
      · exact nothing ‹_›
      · rfl
    rw [before.1, written] at content
    rw [kept]
    exact ⟨(List.append_eq_nil_iff.mp content.symm).2, still⟩

end sums

end Pipework
