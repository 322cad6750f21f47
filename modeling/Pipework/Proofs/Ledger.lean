import Pipework.Proofs.Books

set_option autoImplicit false

/-!
The books of the channels are kept by every move: what an image carries goes from the stage before a channel to the one
behind it (`Carries.flow`), and all other moves leave the sums as they are (`Still`).
-/

namespace Pipework

open Kernel

variable {τ : Type} {images : Behaviour τ} {host mover number : Nat} {stages : List Stage} {base : DescriptorTable}
  {start machine after : Machine τ} {chronicle : Chronicle} {process later : Process (Program τ)}

/-- Where the standard streams of a process lead, seen from a channel before which or behind which it may be. -/
structure Adjoins (machine : Machine τ) (process : Process (Program τ)) (channel : Nat) (writer reader : Prop) :
    Prop where
  apart : writer → ¬ reader
  outlet : ∀ pipe found, machine.outlet? process 1 = some (pipe, found) → (writer ↔ pipe = channel)
  outletFile : writer → System.opening? process 1 = none
  inlet : ∀ pipe found, machine.inlet? process 0 = some (pipe, found) → (reader ↔ pipe = channel)
  inletFile : reader → System.opening? process 0 = none

/-- The streams of an image lead to the channels around its stage. -/
theorem adjoins_of_image {children channels : List Nat} {floor index place channel : Nat} {state : τ}
    (confined : Confined host floor base children channels machine)
    (made : Made host stages base children channels machine) (flowing : Flowing start base children channels machine)
    (isChild : children[index]? = some mover) (present : machine.processes[mover]? = some process)
    (program : process.program = .image state) (isChannel : channels[place]? = some channel) :
    Adjoins machine process channel (children[place]? = some mover) (children[place + 1]? = some mover) where
  apart isWriter isReader := by
    have same := (List.getElem?_inj (List.getElem?_eq_some_iff.mp isWriter).1 confined.distinctChildren).mp
      (isWriter.trans isReader.symm)
    omega
  outlet pipe found outlet := by
    obtain ⟨entry, isOpen, writes, -⟩ := System.descriptor_of_outlet outlet
    constructor
    · intro isWriter
      rw [(flowing.stage place mover process isWriter present).object_of_output program isChannel isOpen] at writes
      simpa [Object.includes, eq_comm] using writes
    · rintro rfl
      have holds : process.descriptors.refersTo (.writeEnd pipe) = true :=
        DescriptorTable.refersTo_iff.mpr ⟨entry.object, ⟨1, entry, isOpen, rfl⟩, writes⟩
      exact (confined.holder_of_write isChannel present holds).resolve_left (made.child index mover isChild).1
  outletFile isWriter := by
    cases isFile : System.opening? process 1 with
    | none => rfl
    | some opening =>
      obtain ⟨entry, isOpen, same⟩ := System.descriptor_of_opening isFile
      rw [(flowing.stage place mover process isWriter present).object_of_output program isChannel isOpen] at same
      cases same
  inlet pipe found inlet := by
    obtain ⟨entry, isOpen, reads, -⟩ := System.descriptor_of_inlet inlet
    constructor
    · intro isReader
      rw [(flowing.stage (place + 1) mover process isReader present).object_of_input program isChannel isOpen] at reads
      simpa [Object.includes, eq_comm] using reads
    · rintro rfl
      have holds : process.descriptors.refersTo (.readEnd pipe) = true :=
        DescriptorTable.refersTo_iff.mpr ⟨entry.object, ⟨0, entry, isOpen, rfl⟩, reads⟩
      rcases (confined.holder_of_read isChannel present holds).resolve_left (made.child index mover isChild).1 with
        ⟨-, startup, early⟩ | isReader
      · rw [program] at early
        cases early
      · exact isReader
  inletFile isReader := by
    cases isFile : System.opening? process 0 with
    | none => rfl
    | some opening =>
      obtain ⟨entry, isOpen, same⟩ := System.descriptor_of_opening isFile
      rw [(flowing.stage (place + 1) mover process isReader present).object_of_input program isChannel isOpen] at same
      cases same

/-- Nothing is written on a standard output that is closed. -/
theorem Carries.nothing_of_closed {taken bytes : Bytes} {ended : Bool} {pipes : Std.ExtTreeMap Nat Pipe} {files : Files}
    (carries : Carries machine process taken bytes ended pipes files) (closed : process.descriptors[1]? = none) :
    bytes = [] := by
  cases carries with
  | poured pipe found replaced bytes outlet poured =>
    obtain ⟨entry, isOpen, -⟩ := System.descriptor_of_outlet outlet
    rw [closed] at isOpen
    cases isOpen
  | wroteFile opening data files isFile wrote =>
    obtain ⟨entry, isOpen, -⟩ := System.descriptor_of_opening isFile
    rw [closed] at isOpen
    cases isOpen
  | _ => rfl

/-- What a process carries, seen from a channel: what comes to the channel is written by the stage before it, and what
goes is read by the stage behind it, who is told of its end only when it is empty and nobody can write to it. -/
theorem Carries.flow {taken bytes : Bytes} {ended : Bool} {pipes : Std.ExtTreeMap Nat Pipe} {files : Files} {channel : Nat}
    {found : Pipe} {writer reader : Prop} [Decidable writer] [Decidable reader]
    (carries : Carries machine process taken bytes ended pipes files) (positive : 0 < machine.shape.pageSize)
    (there : machine.pipes[channel]? = some found) (filled : found.Filled)
    (adjoins : Adjoins machine process channel writer reader) :
    ∃ replaced : Pipe, pipes[channel]? = some replaced ∧ replaced.Filled ∧ replaced.readsAtOnce = found.readsAtOnce ∧
      replaced.writesAtOnce = found.writesAtOnce ∧
      found.content ++ (if writer then bytes else []) = (if reader then taken else []) ++ replaced.content ∧
      (reader → ended = true → found.content = [] ∧ machine.holds (.writeEnd channel) = false) := by
  cases carries with
  | idle => exact ⟨found, there, filled, rfl, rfl, by simp, by simp⟩
  | ended pipe given inlet empty unwritten =>
    refine ⟨found, there, filled, rfl, rfl, by simp, fun isReader _ => ?_⟩
    obtain rfl := (adjoins.inlet pipe given inlet).mp isReader
    obtain ⟨entry, -, -, same⟩ := System.descriptor_of_inlet inlet
    obtain rfl : found = given := by rwa [there, Option.some.injEq] at same
    exact ⟨by rw [Pipe.content, empty]; rfl, unwritten⟩
  | drew pipe given limit inlet positive nonempty =>
    by_cases same : pipe = channel
    · subst same
      have isReader := (adjoins.inlet pipe given inlet).mpr rfl
      have notWriter : ¬ writer := fun isWriter => adjoins.apart isWriter isReader
      obtain ⟨entry, -, -, here⟩ := System.descriptor_of_inlet inlet
      obtain rfl : found = given := by rwa [there, Option.some.injEq] at here
      refine ⟨(found.take limit).2, Std.ExtTreeMap.getElem?_insert_self, Pipe.take_filled filled limit, rfl, rfl, ?_,
        fun _ nothing => ?_⟩
      · rw [if_neg notWriter, if_pos isReader, List.append_nil]
        exact Pipe.content_take found limit
      · exact absurd (List.isEmpty_iff.mp nothing) (Pipe.take_ne_nil filled nonempty positive)
    · have notReader : ¬ reader := fun isReader => same ((adjoins.inlet pipe given inlet).mp isReader)
      refine ⟨found, ?_, filled, rfl, rfl, by simp [notReader], fun isReader => absurd isReader notReader⟩
      rw [Std.ExtTreeMap.getElem?_insert, if_neg (by simpa using same), there]
  | poured pipe given replaced bytes outlet poured =>
    by_cases same : pipe = channel
    · subst same
      have isWriter := (adjoins.outlet pipe given outlet).mpr rfl
      obtain ⟨entry, -, -, here⟩ := System.descriptor_of_outlet outlet
      obtain rfl : found = given := by rwa [there, Option.some.injEq] at here
      refine ⟨replaced, Std.ExtTreeMap.getElem?_insert_self, poured.filled positive filled, poured.readsAtOnce,
        poured.writesAtOnce, ?_, fun isReader => absurd isReader (adjoins.apart isWriter)⟩
      rw [if_pos isWriter, if_neg (adjoins.apart isWriter), List.nil_append, poured.content]
    · have notWriter : ¬ writer := fun isWriter => same ((adjoins.outlet pipe given outlet).mp isWriter)
      refine ⟨found, ?_, filled, rfl, rfl, by simp [notWriter], by simp⟩
      rw [Std.ExtTreeMap.getElem?_insert, if_neg (by simpa using same), there]
  | readFile opening limit data files isFile read =>
    have notReader : ¬ reader := fun isReader => by simp [adjoins.inletFile isReader] at isFile
    exact ⟨found, there, filled, rfl, rfl, by simp [notReader], fun isReader => absurd isReader notReader⟩
  | wroteFile opening data files isFile wrote =>
    have notWriter : ¬ writer := fun isWriter => by simp [adjoins.outletFile isWriter] at isFile
    exact ⟨found, there, filled, rfl, rfl, by simp [notWriter], by simp⟩

/-- Where nobody can write to a channel any more, the stage before it writes nothing. -/
theorem silent_of_unheld {children channels : List Nat} {floor place channel : Nat}
    (confined : Confined host floor base children channels machine)
    (made : Made host stages base children channels machine) (flowing : Flowing start base children channels machine)
    (isChannel : channels[place]? = some channel) (unheld : machine.holds (.writeEnd channel) = false) :
    Silent children machine place := by
  intro number process isChild present
  rw [← Bool.not_eq_true] at unheld
  have equipped := flowing.stage place number process isChild present
  have none : ∀ entry : Descriptor, entry.object = .writeEnd channel → ∀ number : Nat,
      process.descriptors[number]? ≠ some entry := by
    intro entry same number isOpen
    refine unheld (System.holds_iff.mpr ⟨_, process, present, DescriptorTable.refersTo_iff.mpr ⟨.writeEnd channel, ?_, ?_⟩⟩)
    · exact ⟨number, entry, isOpen, same⟩
    · simp [Object.includes]
  by_cases alive : process.ending = .none
  · refine .inr ?_
    rcases (confined.proper number process present).kind (made.child place number isChild).1 alive with
      ⟨startup, program⟩ | ⟨state, program⟩
    · have inherits := Startup.Control.inherits_of_outcome (equipped.settled startup program alive)
      have wired : (stageTable base channels place).Has (.writeEnd channel) := by
        refine ⟨1, ⟨.writeEnd channel, false⟩, ?_, rfl⟩
        rw [stageTable, DescriptorTable.getElem?_wired_one, output?, isChannel]
        rfl
      obtain ⟨number, entry, isOpen, same⟩ := inherits _ wired
      exact absurd isOpen (none entry same number)
    · refine ⟨⟨state, program⟩, ?_⟩
      cases isOpen : process.descriptors[1]? with
      | none => rfl
      | some entry => exact absurd isOpen (none entry (equipped.object_of_output program isChannel isOpen) 1)
  · exact .inl alive

namespace Ledger

/-- What is remembered of those who do not move. -/
theorem booked_other {floor child : Nat} (ledger : Ledger images chronicle machine)
    (confined : Confined host floor base chronicle.children chronicle.channels machine)
    (made : Made host stages base chronicle.children chronicle.channels machine) (remains : Remains mover machine after)
    (member : child ∈ chronicle.children) (apart : child ≠ mover) :
    Booked (chronicle.extend images host mover machine after) after child :=
  (ledger.booked child member).other remains apart (made.lt_of_mem member)
    fun process object pipe present => (confined.proper child process present).known object pipe

section same

variable {floor : Nat} (ledger : Ledger images chronicle machine)
  (confined : Confined host floor base chronicle.children chronicle.channels machine)
  (made : Made host stages base chronicle.children chronicle.channels machine) (remains : Remains mover machine after)
  (kept : (chronicle.extend images host mover machine after).children = chronicle.children)
  (keptChannels : (chronicle.extend images host mover machine after).channels = chronicle.channels)
  (present : machine.processes[mover]? = some process)

include ledger made remains present

/-- Only processes that were there are remembered. -/
theorem recent_step :
    ∀ entry ∈ (chronicle.extend images host mover machine after).exchanges, entry.1 < after.nextProcess := by
  intro entry member
  have older := remains.nextProcess
  rcases List.mem_append.mp member with old | new
  · have := ledger.recent entry old
    omega
  · obtain ⟨given, -, rfl⟩ := List.mem_map.mp new
    have := made.numbered.process mover process present
    dsimp only
    omega

include kept

section quiet

variable (quiet : mover ∈ chronicle.children →
  (process.ending = none ∧ ∃ startup, process.program = .startup startup) ∧
  Machine.begun images machine mover = [] ∧ Machine.begun images after mover = [])

include quiet

omit ledger in
/-- No stage reads or writes anything while others move, or a process on its way to an image. -/
theorem still_idle : Still images chronicle (chronicle.extend images host mover machine after) machine after := by
  have older : ∀ number ∈ chronicle.children, number < machine.nextProcess := fun _ member => made.lt_of_mem member
  have unasked : ∀ {index : Nat}, chronicle.children[index]? = some mover →
      Machine.exchange? images machine mover = none := by
    intro index isChild
    obtain ⟨⟨-, startup, program⟩, -⟩ := quiet (List.mem_of_getElem? isChild)
    exact exchange?_eq_none present (by simp [program])
  have own : mover ∈ chronicle.children →
      (Machine.exchange? images machine mover).elim [] Exchange.given ++ Machine.begun images after mover =
        Machine.begun images machine mover ++ [] := by
    intro member
    obtain ⟨index, isChild⟩ := List.mem_iff_getElem?.mp member
    rw [unasked isChild, (quiet member).2.1, (quiet member).2.2]
    rfl
  refine ⟨fun index => ?_, fun index => ?_, fun index => ?_⟩
  · rw [Machine.sentAt_extend kept remains older own, ite_self, List.append_nil]
  · rw [Chronicle.readAt_extend kept]
    split
    · rw [unasked ‹_›, Option.elim_none, List.append_nil]
    · rw [List.append_nil]
  · rw [Chronicle.toldAt_extend kept]
    by_cases isChild : chronicle.children[index]? = some mover
    · rw [unasked isChild, Option.any_none, Bool.and_false, Bool.or_false]
    · rw [decide_eq_false isChild, Bool.false_and, Bool.or_false]

/-- A move by which no stage reads or writes anything keeps the book of a channel that it does not touch. -/
theorem balanced_idle {place channel : Nat} (isChannel : chronicle.channels[place]? = some channel)
    (same : after.pipes[channel]? = machine.pipes[channel]?) :
    ∃ found, after.pipes[channel]? = some found ∧
      Balanced images (chronicle.extend images host mover machine after) after place found := by
  obtain ⟨found, there, balanced⟩ := ledger.balanced place channel isChannel
  refine ⟨found, same.trans there, balanced.still (still_idle made remains kept present quiet) fun _ silent => ?_⟩
  rw [kept]
  refine silent.step remains (fun _ member => made.lt_of_mem member) fun isChild => ?_
  obtain ⟨⟨alive, startup, program⟩, -⟩ := quiet (List.mem_of_getElem? isChild)
  rcases silent mover process isChild present with ended | ⟨⟨state, image⟩, -⟩
  · exact absurd alive ended
  · rw [program] at image
    cases image

end quiet

include confined keptChannels

/-- A move by which no stage reads or writes anything. -/
theorem step_idle (pipes : ∀ channel ∈ chronicle.channels, after.pipes[channel]? = machine.pipes[channel]?)
    (quiet : mover ∈ chronicle.children →
      (process.ending = none ∧ ∃ startup, process.program = .startup startup) ∧
      Machine.begun images machine mover = [] ∧ Machine.begun images after mover = [])
    (own : mover ∈ chronicle.children → Booked (chronicle.extend images host mover machine after) after mover) :
    Ledger images (chronicle.extend images host mover machine after) after where
  recent := ledger.recent_step made remains present
  booked number member := by
    rw [kept] at member
    by_cases same : number = mover
    · exact same ▸ own (same ▸ member)
    · exact ledger.booked_other confined made remains member same
  balanced place channel isChannel := by
    rw [keptChannels] at isChannel
    exact ledger.balanced_idle made remains kept present quiet isChannel
      (pipes channel (List.mem_of_getElem? isChannel))

/-- A move of an image. -/
theorem step_image {index : Nat} {state : τ} (flowing : Flowing start base chronicle.children chronicle.channels machine)
    (positive : 0 < start.shape.pageSize) (isChild : chronicle.children[index]? = some mover)
    (alive : process.ending = none) (program : process.program = .image state)
    (move : ImageMove images machine mover process state after (Machine.exchange? images machine mover)) :
    Ledger images (chronicle.extend images host mover machine after) after := by
  have older : ∀ number ∈ chronicle.children, number < machine.nextProcess := fun _ member => made.lt_of_mem member
  have member := List.mem_of_getElem? isChild
  obtain ⟨bytes, carries, begun⟩ := move.carries ((ledger.booked mover member).steady process state present alive program)
    present alive program
  refine ⟨ledger.recent_step made remains present, fun number isMember => ?_, fun place channel isChannel => ?_⟩
  · rw [kept] at isMember
    by_cases own : number = mover
    · subst own
      exact .own_image present program move
    · exact ledger.booked_other confined made remains isMember own
  · rw [keptChannels] at isChannel
    obtain ⟨found, there, balanced⟩ := ledger.balanced place channel isChannel
    obtain ⟨replaced, now, filled, readsAtOnce, writesAtOnce, content, ended⟩ := carries.flow (flowing.shape ▸ positive)
      there balanced.filled (adjoins_of_image confined made flowing isChild present program isChannel)
    refine ⟨replaced, now, balanced.step kept remains older (fun _ => begun) filled readsAtOnce writesAtOnce content ?_ ?_⟩
    · intro silent
      refine ⟨fun isWriter => ?_, silent.step remains older fun isWriter => ?_⟩
      · rcases silent mover process isWriter present with ended | ⟨-, closed⟩
        · exact absurd alive ended
        · exact carries.nothing_of_closed closed
      · exact silent.own present isWriter alive program move
    · intro isReader isEnd
      obtain ⟨nothing, unheld⟩ := ended isReader isEnd
      exact ⟨nothing, silent_of_unheld confined made flowing isChannel unheld⟩

end same

end Ledger

/-- What is remembered of a process that is on its way to an image is nothing. -/
theorem Chronicle.exchangesOf_new (recent : ∀ entry ∈ chronicle.exchanges, entry.1 < machine.nextProcess) :
    chronicle.exchangesOf machine.nextProcess = [] := by
  unfold exchangesOf
  rw [List.filterMap_eq_nil_iff]
  intro entry member
  rw [if_neg (Nat.ne_of_lt (recent entry member))]

namespace Ledger

variable {floor : Nat}

section fork

variable {startup : Startup} (ledger : Ledger images chronicle machine)
  (confined : Confined host floor base chronicle.children chronicle.channels machine)
  (made : Made host stages base chronicle.children chronicle.channels machine) (remains : Remains host machine after)
  (unasked : Machine.exchange? images machine host = none)
  (grown : (chronicle.extend images host host machine after).children = chronicle.children ++ [machine.nextProcess])
  (there : after.processes[machine.nextProcess]? = some later) (program : later.program = .startup startup)

include ledger made remains unasked grown there program

/-- A process that is made has read and written nothing, and so has the stage for which there was none. -/
theorem still_fork : Still images chronicle (chronicle.extend images host host machine after) machine after := by
  have unknown := Chronicle.exchangesOf_new ledger.recent
  have same : ∀ number, (chronicle.extend images host host machine after).exchangesOf number =
      chronicle.exchangesOf number := by
    intro number
    simp [Chronicle.exchangesOf_extend, unasked]
  have sum : ∀ {α : Type} (index : Nat) (first : α) (before now : Nat → α),
      (∀ number ∈ chronicle.children, now number = before number) → now machine.nextProcess = first →
      ((chronicle.children ++ [machine.nextProcess])[index]?).elim first now =
        (chronicle.children[index]?).elim first before := by
    intro α index first before now unchanged nothing
    cases isChild : chronicle.children[index]? with
    | some number =>
      rw [List.getElem?_append_left (List.getElem?_eq_some_iff.mp isChild).1, isChild]
      exact unchanged number (List.mem_of_getElem? isChild)
    | none =>
      have beyond := List.getElem?_eq_none_iff.mp isChild
      rw [List.getElem?_append_right beyond]
      cases (index - chronicle.children.length) with
      | zero => exact nothing
      | succ more => rfl
  refine ⟨fun index => ?_, fun index => ?_, fun index => ?_⟩
  · unfold Machine.sentAt
    rw [grown]
    refine sum index [] _ _ (fun number member => ?_) ?_
    · have apart := made.ne_host member
      rw [Machine.sent, Machine.sent, Chronicle.written, same, Machine.begun_other remains apart (made.lt_of_mem member),
        Chronicle.written]
    · rw [Machine.sent, Chronicle.written, same, unknown, Machine.begun_eq there,
        Process.begun_of_not_image (by simp [program])]
      rfl
  · unfold Chronicle.readAt
    rw [grown]
    refine sum index [] _ _ (fun number _ => ?_) ?_
    · rw [Chronicle.received, same, Chronicle.received]
    · rw [Chronicle.received, same, unknown]
      rfl
  · unfold Chronicle.toldAt
    rw [grown]
    refine sum index false _ _ (fun number _ => ?_) ?_
    · rw [Chronicle.isTold, same, Chronicle.isTold]
    · rw [Chronicle.isTold, same, unknown]
      rfl

include confined

/-- A process is made for the next stage. -/
theorem step_fork
    (recent : ∀ entry ∈ (chronicle.extend images host host machine after).exchanges, entry.1 < after.nextProcess)
    (channels : (chronicle.extend images host host machine after).channels = chronicle.channels)
    (pipes : after.pipes = machine.pipes) :
    Ledger images (chronicle.extend images host host machine after) after := by
  have still := ledger.still_fork made remains unasked grown there program
  refine ⟨recent, fun number member => ?_, fun place channel isChannel => ?_⟩
  · rw [grown] at member
    rcases List.mem_append.mp member with old | new
    · exact ledger.booked_other confined made remains old (made.ne_host old)
    · obtain rfl := List.mem_singleton.mp new
      refine ⟨fun _ _ _ _ => ?_, fun process state found _ image => ?_⟩
      · simp [Chronicle.exchangesOf_extend, unasked, Chronicle.exchangesOf_new ledger.recent]
      · obtain rfl : later = process := by rwa [there, Option.some.injEq] at found
        rw [program] at image
        cases image
  · rw [channels] at isChannel
    obtain ⟨found, present, balanced⟩ := ledger.balanced place channel isChannel
    refine ⟨found, by rw [pipes, present], balanced.still still fun isTold silent number process isChild => ?_⟩
    have within := Chronicle.lt_of_toldAt isTold
    rw [grown, List.getElem?_append_left (by omega)] at isChild
    exact silent.step remains (fun _ member => made.lt_of_mem member)
      (fun isChild => absurd (List.mem_of_getElem? isChild) made.host_not_mem) number process isChild

end fork

/-- A move of the executor. -/
theorem step_host {run : Run} (ledger : Ledger images chronicle machine)
    (confined : Confined host floor base chronicle.children chronicle.channels machine)
    (made : Made host stages base chronicle.children chronicle.channels machine)
    (remains : Remains host machine after) (present : machine.processes[host]? = some process)
    (program : process.program = .executor run)
    (executes : Executes stages base chronicle.children chronicle.channels run process)
    (move : RunMove images machine host process run after) :
    Ledger images (chronicle.extend images host host machine after) after := by
  have unasked : Machine.exchange? images machine host = none := exchange?_eq_none present (by simp [program])
  have recent := ledger.recent_step made remains present
  rcases move.makes with ⟨stage, following, incoming, read, write, between, table, opening, first, second, rfl⟩ |
    ⟨stage, following, streams, carried, forking, rfl⟩ | keeps
  · have fits := executes.fits
    simp only [Run.Fits, opening] at fits
    obtain ⟨-, -, -, counted, opened, -⟩ := fits
    generalize result : ({ machine with
      pipes := machine.pipes.insert machine.nextPipe {}
      nextPipe := machine.nextPipe + 1 } : Machine τ).put host
        ({ process with descriptors := table }.answered (Program.behaviour images) (.ends read write)) = after
      at remains recent
    have kept : (chronicle.extend images host host machine after).children = chronicle.children := by
      subst result
      simp [Chronicle.extend]
    have channels : (chronicle.extend images host host machine after).channels =
        chronicle.channels ++ [machine.nextPipe] := by
      subst result
      simp [Chronicle.extend]
    refine ⟨recent, fun number member => ?_, fun place channel isChannel => ?_⟩
    · rw [kept] at member
      exact ledger.booked_other confined made remains member (made.ne_host member)
    · rw [channels] at isChannel
      by_cases old : place < chronicle.channels.length
      · rw [List.getElem?_append_left old] at isChannel
        have apart : machine.nextPipe ≠ channel :=
          Nat.ne_of_gt (confined.recent channel (List.mem_of_getElem? isChannel)).2
        refine ledger.balanced_idle made remains kept present (fun member => absurd member made.host_not_mem) isChannel ?_
        rw [← result, System.pipes_put, Std.ExtTreeMap.getElem?_insert, if_neg (by simpa using apart)]
      · rw [List.getElem?_append_right (by omega)] at isChannel
        obtain rfl := List.mem_singleton.mp (List.mem_of_getElem? isChannel)
        have unmade : chronicle.children[place]? = none ∧ chronicle.children[place + 1]? = none := by
          constructor <;> (rw [List.getElem?_eq_none_iff]; omega)
        refine ⟨{}, ?_, by simp [Pipe.Filled], rfl, rfl, ?_, ?_⟩
        · rw [← result, System.pipes_put, Std.ExtTreeMap.getElem?_insert_self]
        · simp [Machine.sentAt, Chronicle.readAt, kept, unmade, Pipe.content]
        · simp [Chronicle.toldAt, kept, unmade]
  · generalize result : (({ machine with nextProcess := machine.nextProcess + 1 } : Machine τ).put machine.nextProcess
        { process with
          parent := some host
          program := .startup (.begin stage streams carried)
          arrived := []
          interrupted := false }).put host
        (process.answered (Program.behaviour images) (.number machine.nextProcess)) = after at remains recent
    have grown : (chronicle.extend images host host machine after).children =
        chronicle.children ++ [machine.nextProcess] := by
      subst result
      simp [Chronicle.extend]
    have channels : (chronicle.extend images host host machine after).channels = chronicle.channels := by
      subst result
      simp [Chronicle.extend]
    have pipes : after.pipes = machine.pipes := by
      subst result
      rfl
    have new : ∃ later, after.processes[machine.nextProcess]? = some later ∧
        later.program = .startup (.begin stage streams carried) := by
      subst result
      rw [System.getElem?_put, if_neg (Nat.ne_of_lt made.host_lt), System.getElem?_put_self]
      exact ⟨_, rfl, rfl⟩
    obtain ⟨child, there, early⟩ := new
    exact ledger.step_fork confined made remains unasked grown there early recent channels pipes
  · have same := keeps.same
    refine ledger.step_idle confined made remains ?_ ?_ present (fun channel _ => ?_) (fun member =>
      absurd member made.host_not_mem) fun member => absurd member made.host_not_mem
    · simp [Chronicle.extend, same.1]
    · simp [Chronicle.extend, same.2]
    · cases keeps
      rfl

end Ledger

namespace Startup

/-- The failures of a process on its way to its program go to its diagnostics; it touches no other pipe. -/
theorem pipes_step {startup : Startup} {final : DescriptorTable} {pipe : Nat}
    (move : StartupMove images machine number process startup final after)
    (diagnostics : ∀ part parts code, startup.control = .complaining part parts code →
      ∀ entry : Descriptor, process.descriptors[diagnostics]? = some entry → entry.object.pipe? ≠ some pipe) :
    after.pipes[pipe]? = machine.pipes[pipe]? := by
  have complained : ∀ {part : Bytes} {parts : List Bytes} {code : Nat} {between : Machine τ},
      startup.control = .complaining part parts code →
      (machine.perform number process (.write Startup.diagnostics part)).Leads between →
      between.pipes[pipe]? = machine.pipes[pipe]? := by
    intro part parts code between complaining led
    refine (System.plumbed_write led).unserved ?_
    rintro object ⟨entry, isOpen, rfl⟩
    exact diagnostics part parts code complaining entry isOpen
  cases move with
  | complained part parts code reply between complaining wrote =>
    rw [(System.answer_rest _ between number reply).2.1]
    exact complained complaining (Effect.leads_of_answer wrote)
  | complaining part parts code after complaining wrote => exact complained complaining (Effect.leads_of_moved wrote)
  | exited code exiting => rw [(machine.finish_rest number _).2.1]
  | _ => rfl

end Startup

/-- An executor makes at most one process in a move, which is then on its way to an image. -/
theorem RunMove.children {run : Run} (move : RunMove images machine host process run after) (chronicle : Chronicle)
    (older : host < machine.nextProcess) :
    (chronicle.extend images host host machine after).children = chronicle.children ∧
      after.nextProcess = machine.nextProcess ∨
    (chronicle.extend images host host machine after).children = chronicle.children ++ [machine.nextProcess] ∧
      after.nextProcess = machine.nextProcess + 1 ∧
      ∃ later startup, after.processes[machine.nextProcess]? = some later ∧ later.program = .startup startup ∧
        later.ending = process.ending := by
  rcases move.makes with ⟨stage, following, incoming, read, write, between, table, opening, first, second, rfl⟩ |
    ⟨stage, following, streams, carried, forking, rfl⟩ | keeps
  · exact .inl ⟨by simp [Chronicle.extend], rfl⟩
  · refine .inr ⟨by simp [Chronicle.extend], rfl, ?_⟩
    rw [System.getElem?_put, if_neg (Nat.ne_of_lt older), System.getElem?_put_self]
    exact ⟨_, _, rfl, rfl, rfl⟩
  · exact .inl ⟨by simp [Chronicle.extend, keeps.same.1], keeps.same.1⟩

/-- No stage reads or writes anything unless an image moves that was loaded for it. -/
theorem Ledger.still (ledger : Ledger images chronicle machine)
    (underway : Underway host stages base chronicle.children chronicle.channels machine)
    (confined : Confined host start.nextPipe base chronicle.children chronicle.channels machine)
    (flowing : Flowing start base chronicle.children chronicle.channels machine) (filters : images.Filters)
    (present : machine.processes[mover]? = some process)
    (early : mover ∈ chronicle.children → ∃ startup, process.program = .startup startup)
    (moved : machine.Moved images host mover after) :
    Still images chronicle (chronicle.extend images host mover machine after) machine after := by
  have made := underway.toMade
  have remains := confined.remains underway filters moved
  have alive := moved.alive present
  by_cases own : mover = host
  · subst own
    obtain ⟨executor, run, living, -, program, -, move⟩ := underway.host_moves moved
    rcases move.children chronicle made.host_lt with ⟨kept, -⟩ | ⟨grown, -, later, startup, there, isStartup, -⟩
    · exact still_idle made remains kept present fun member => absurd member made.host_not_mem
    · exact ledger.still_fork made remains (exchange?_eq_none living (by simp [program])) grown there isStartup
  · refine still_idle made remains (Chronicle.children_extend own) present fun member => ?_
    obtain ⟨startup, program⟩ := early member
    obtain ⟨index, isChild⟩ := List.mem_iff_getElem?.mp member
    have quiet : Booked (chronicle.extend images host mover machine after) after mover ∧ _ :=
      (ledger.booked mover member).own_startup present (flowing.stage index mover process isChild present) alive program
        (moved.step_of_ne own)
    exact ⟨⟨alive, startup, program⟩, quiet.2⟩

/-- The books are kept by every move. -/
theorem Ledger.step (ledger : Ledger images chronicle machine)
    (underway : Underway host stages base chronicle.children chronicle.channels machine)
    (confined : Confined host start.nextPipe base chronicle.children chronicle.channels machine)
    (flowing : Flowing start base chronicle.children chronicle.channels machine) (filters : images.Filters)
    (positive : 0 < start.shape.pageSize)
    (moved : machine.Moved images host mover after) :
    Ledger images (chronicle.extend images host mover machine after) after := by
  have made := underway.toMade
  have remains := confined.remains underway filters moved
  obtain ⟨process, present⟩ := moved.exists_mover
  have alive := moved.alive present
  by_cases own : mover = host
  · subst own
    obtain ⟨executor, run, living, -, program, executes, move⟩ := underway.host_moves moved
    exact ledger.step_host confined made remains living program executes move
  have stepped := moved.step_of_ne own
  have kept : (chronicle.extend images host mover machine after).children = chronicle.children :=
    Chronicle.children_extend own
  have keptChannels : (chronicle.extend images host mover machine after).channels = chronicle.channels :=
    Chronicle.channels_extend own
  have proper := confined.proper mover process present
  by_cases isMember : mover ∈ chronicle.children
  · obtain ⟨index, isChild⟩ := List.mem_iff_getElem?.mp isMember
    have equipped := flowing.stage index mover process isChild present
    rcases proper.kind own alive with ⟨startup, program⟩ | ⟨state, program⟩
    · have settled := equipped.settled startup program alive
      obtain ⟨booked, before, now⟩ := (ledger.booked mover isMember).own_startup present equipped alive program stepped
      refine ledger.step_idle confined made remains kept keptChannels present (fun channel isChannel => ?_)
        (fun _ => ⟨⟨alive, startup, program⟩, before, now⟩) fun _ => booked
      refine Startup.pipes_step (step_startup present program (fun _ => settled) stepped) ?_
      intro part parts code complaining entry isOpen isPipe
      rw [equipped.diagnostics_of_complaining program alive complaining] at isOpen
      obtain ⟨place, isChannel⟩ := List.mem_iff_getElem?.mp isChannel
      exact confined.not_old isChannel isPipe ⟨_, entry, isOpen, rfl⟩
    · have unmarked := (proper.unsignaled isMember state program).2
      exact ledger.step_image confined made remains kept keptChannels present flowing positive isChild alive program
        (Pipework.step_image present program filters unmarked stepped)
  · refine ledger.step_idle confined made remains kept keptChannels present (fun channel isChannel => ?_)
      (fun member => absurd member isMember) fun member => absurd member isMember
    rcases remains.pipes channel (confined.recent channel isChannel).2 with same | ⟨given, object, found, replaced, living,
      has, -, -, served⟩
    · exact same
    · obtain rfl : process = given := by rwa [present, Option.some.injEq] at living
      exact absurd isChannel (proper.strange own isMember object channel has served.pipe?)

/-- All along a course the books are kept. -/
theorem Ready.ledger {executor : Process (Program τ)} (ready : Ready host stages executor start)
    (filters : images.Filters) (positive : 0 < start.shape.pageSize)
    (course : Course images host start chronicle machine) : Ledger images chronicle machine := by
  induction course with
  | start => exact ⟨by simp, by simp, by simp⟩
  | time earlier passed ih =>
    obtain ⟨clock, rfl⟩ := System.passTime_eq_some passed
    refine ⟨ih.recent, fun number member => ⟨(ih.booked number member).early, (ih.booked number member).steady⟩,
      fun place channel isChannel => ?_⟩
    obtain ⟨found, there, filled, reads, writes, book, ended⟩ := ih.balanced place channel isChannel
    exact ⟨found, there, filled, reads, writes, book, ended⟩
  | step earlier mover moved ih =>
    obtain ⟨underway, confined⟩ := ready.course filters earlier
    exact ih.step underway confined (ready.flowing filters earlier) filters positive moved

end Pipework
