import Pipework.Channel
import Pipework.Proofs.Contents
import Pipework.Proofs.Descriptor
import Pipework.Proofs.Frame

set_option autoImplicit false

/-!
Channels of one process, as their user sees them. A `Conduit` is a channel with what was written to it and read from
it, and with the descriptors of its ends as long as they are live. A system conducts a list of them (`Conducting`) if
the process holds just the live ends and each channel has a pipe of its own in which the rest of its bytes is; every
call on an end leads on to such a system.
-/

namespace Pipework

open Kernel

/-- What the kernel takes an end of a channel for. -/
def Side.object : Side → Nat → Object
  | read, pipe => .readEnd pipe
  | write, pipe => .writeEnd pipe

/-- Whether calls on this side answer at once. -/
def Kernel.Pipe.answersAtOnce (pipe : Pipe) : Side → Bool
  | .read => pipe.readsAtOnce
  | .write => pipe.writesAtOnce

/-- A channel and what has passed through it. -/
structure Conduit where
  /-- The name under which its ends are owned. -/
  name : String
  /-- The descriptor of the read end, until it is released. -/
  read : Option Nat := none
  /-- The descriptor of the write end, until it is released. -/
  write : Option Nat := none
  /-- What writes have put into the channel. -/
  accepted : Bytes := []
  /-- What reads have got out of it. -/
  returned : Bytes := []

namespace Conduit

/-- The descriptor of an end that is live. -/
def end? (conduit : Conduit) : Side → Option Nat
  | .read => conduit.read
  | .write => conduit.write

/-- The channel once an end is released. -/
def release (side : Side) (conduit : Conduit) : Conduit :=
  match side with
  | .read => { conduit with read := none }
  | .write => { conduit with write := none }

/-- The descriptors of the live ends of a channel whose pipe has this number. -/
def held (pipe : Nat) (conduit : Conduit) : List (Nat × Object) :=
  (conduit.read.map (·, .readEnd pipe)).toList ++ (conduit.write.map (·, .writeEnd pipe)).toList

/-- The pipe is that of the channel: what was accepted and not returned is in it. -/
structure Fits (conduit : Conduit) (pipe : Pipe) : Prop where
  filled : pipe.Filled
  within : pipe.Within {}
  content : conduit.returned ++ pipe.content = conduit.accepted
  atOnce : ∀ side, (conduit.end? side).isSome → pipe.answersAtOnce side = true

variable {conduit : Conduit} {pipe : Pipe} {side other : Side} {number place : Nat} {object : Object}

@[simp] theorem end?_release_self : (conduit.release side).end? side = none := by cases side <;> rfl

theorem end?_release_of_ne (apart : other ≠ side) : (conduit.release side).end? other = conduit.end? other := by
  cases side <;> cases other <;> first | rfl | exact absurd rfl apart

@[simp] theorem name_release : (conduit.release side).name = conduit.name := by cases side <;> rfl

theorem Fits.release (fits : conduit.Fits pipe) (side : Side) : (conduit.release side).Fits pipe where
  filled := fits.filled
  within := fits.within
  content := by cases side <;> exact fits.content
  atOnce other live := by
    by_cases same : other = side
    · rw [same, end?_release_self] at live
      cases live
    · exact fits.atOnce other (end?_release_of_ne same ▸ live)

/-- A pipe without pages is that of a new channel. -/
theorem Fits.of_new {name : String} {read write : Option Nat} (empty : pipe.pages = [])
    (readsAtOnce : read.isSome → pipe.readsAtOnce = true) (writesAtOnce : write.isSome → pipe.writesAtOnce = true) :
    Fits { name, read, write } pipe where
  filled := by simp [Pipe.Filled, empty]
  within := ⟨by simp [empty], by simp [empty]⟩
  content := by simp [Pipe.content, empty]
  atOnce side live := by
    cases side
    · exact readsAtOnce live
    · exact writesAtOnce live

/-- A channel from which nothing is left to read has a pipe without pages. -/
theorem Fits.empty_iff (fits : conduit.Fits pipe) : pipe.pages = [] ↔ conduit.returned = conduit.accepted := by
  rw [← fits.content]
  constructor
  · intro empty
    simp [Pipe.content, empty]
  · intro same
    exact fits.filled.pages_of_content (by simpa using same)

/-- What the pipe takes in the channel accepts. -/
theorem Fits.accept {replaced : Pipe} {data rest : Bytes} (fits : conduit.Fits pipe)
    (took : pipe.accept {} data = (replaced, rest)) :
    Fits { conduit with accepted := conduit.accepted ++ data.take (data.length - rest.length) } replaced := by
  obtain ⟨⟨taken, whole, content⟩, readsAtOnce, writesAtOnce⟩ := Pipe.accept_takes took
  refine ⟨Pipe.accept_filled (by decide) fits.filled took, fits.within.accept took, ?_, fun side live => ?_⟩
  · simp [content, ← fits.content, whole]
  · have before := fits.atOnce side live
    cases side
    · exact readsAtOnce.trans before
    · exact writesAtOnce.trans before

/-- There is room for some byte where nothing is left to read. -/
theorem Fits.rest_lt {replaced : Pipe} {data rest : Bytes} (fits : conduit.Fits pipe)
    (drained : conduit.returned = conduit.accepted) (some : data ≠ [])
    (took : pipe.accept {} data = (replaced, rest)) : rest.length < data.length := by
  have empty := fits.empty_iff.mpr drained
  rw [Pipe.accept_of_empty empty] at took
  exact Pipe.length_rest_lt (by decide) (by decide) empty some took

/-- What is taken out of the pipe the channel returns. -/
theorem Fits.take (fits : conduit.Fits pipe) (limit : Nat) :
    Fits { conduit with returned := conduit.returned ++ (pipe.take limit).1 } (pipe.take limit).2 where
  filled := Pipe.take_filled fits.filled limit
  within := fits.within.take limit
  content := by rw [List.append_assoc, ← Pipe.content_take, fits.content]
  atOnce := fits.atOnce

theorem mem_held : (number, object) ∈ conduit.held place ↔
    ∃ side, conduit.end? side = some number ∧ object = side.object place := by
  constructor
  · intro inside
    rcases List.mem_append.mp inside with read | write
    · obtain ⟨descriptor, live, same⟩ := Option.map_eq_some_iff.mp (Option.mem_toList.mp read)
      cases same
      exact ⟨.read, live, rfl⟩
    · obtain ⟨descriptor, live, same⟩ := Option.map_eq_some_iff.mp (Option.mem_toList.mp write)
      cases same
      exact ⟨.write, live, rfl⟩
  · rintro ⟨side, live, rfl⟩
    cases side <;> simp_all [end?, Side.object, held]

theorem held_perm_release (live : conduit.end? side = some number) (place : Nat) :
    (conduit.held place).Perm ((number, side.object place) :: (conduit.release side).held place) := by
  cases side with
  | read => simp_all [held, end?, release, Side.object]
  | write =>
    have live : conduit.write = some number := live
    simp only [held, release, Side.object, live, Option.map_some, Option.toList_some, Option.map_none,
      Option.toList_none, List.append_nil]
    exact List.perm_append_singleton _ _

end Conduit

/-- The descriptors of all live ends, when the pipe of the first channel has this number. -/
def heldEnds (first : Nat) : List Conduit → List (Nat × Object)
  | [] => []
  | conduit :: later => conduit.held first ++ heldEnds (first + 1) later

section

variable {before after conduits : List Conduit} {conduit changed : Conduit} {side : Side} {first number : Nat}
  {object : Object}

theorem heldEnds_append (first : Nat) (before after : List Conduit) :
    heldEnds first (before ++ after) = heldEnds first before ++ heldEnds (first + before.length) after := by
  induction before generalizing first with
  | nil => simp [heldEnds]
  | cons conduit before ih =>
    have counted : first + 1 + before.length = first + (before.length + 1) := by omega
    simp [heldEnds, ih, counted]

/-- Only the live ends count. -/
theorem heldEnds_congr (same : ∀ side, changed.end? side = conduit.end? side) :
    heldEnds first (before ++ changed :: after) = heldEnds first (before ++ conduit :: after) := by
  have read : changed.read = conduit.read := same .read
  have write : changed.write = conduit.write := same .write
  simp [heldEnds_append, heldEnds, Conduit.held, read, write]

theorem heldEnds_perm_release (live : conduit.end? side = some number) :
    (heldEnds first (before ++ conduit :: after)).Perm
      ((number, side.object (first + before.length)) :: heldEnds first (before ++ conduit.release side :: after)) := by
  rw [heldEnds_append, heldEnds_append, heldEnds, heldEnds]
  have own := (Conduit.held_perm_release live (first + before.length)).append_right
    (heldEnds (first + before.length + 1) after)
  exact (own.append_left _).trans List.perm_middle

theorem mem_heldEnds : (number, object) ∈ heldEnds first conduits ↔
    ∃ (index : Nat) (conduit : Conduit) (side : Side), conduits[index]? = some conduit ∧
      conduit.end? side = some number ∧ object = side.object (first + index) := by
  induction conduits generalizing first with
  | nil => simp [heldEnds]
  | cons conduit later ih =>
    rw [heldEnds, List.mem_append, Conduit.mem_held, ih]
    constructor
    · rintro (⟨side, live, rfl⟩ | ⟨index, conduit, side, found, live, rfl⟩)
      · exact ⟨0, conduit, side, rfl, live, rfl⟩
      · exact ⟨index + 1, conduit, side, found, live, by rw [Nat.add_right_comm, Nat.add_assoc]⟩
    · rintro ⟨index, found, side, here, live, rfl⟩
      cases index with
      | zero =>
        cases here
        exact .inl ⟨side, live, rfl⟩
      | succ index => exact .inr ⟨index, found, side, here, live, by rw [Nat.add_right_comm, Nat.add_assoc]⟩

end

/-- A system with a process that can own channels: nothing holds the pipes that are still to be made. -/
structure Suits (process : Process Unit) (system : System Unit) : Prop where
  present : system.processes[Channels.owner]? = some process
  /-- No write is under way. -/
  unwritten : process.written = 0
  ignores : process.ignored.contains Signal.pipe = true
  shape : system.shape = {}
  unheld : ∀ (side : Side) (pipe : Nat), system.nextPipe ≤ pipe → system.holds (side.object pipe) = false

/-- A system as it is when its process has made these channels, from this start. -/
structure Conducting (start : System Unit) (process : Process Unit) (conduits : List Conduit) (system : System Unit) :
    Prop where
  present : ∃ table, system.processes[Channels.owner]? = some { process with descriptors := table } ∧
    process.descriptors.Adds (heldEnds start.nextPipe conduits) table
  others : ∀ number, number ≠ Channels.owner → system.processes[number]? = start.processes[number]?
  shape : system.shape = {}
  nextPipe : system.nextPipe = start.nextPipe + conduits.length
  pipes : ∀ (index : Nat) (conduit : Conduit), conduits[index]? = some conduit →
    ∃ pipe, system.pipes[start.nextPipe + index]? = some pipe ∧ conduit.Fits pipe

@[simp] theorem Side.includes_object {side other : Side} {pipe place : Nat} :
    (side.object pipe).includes (other.object place) = true ↔ side = other ∧ pipe = place := by
  cases side <;> cases other <;> simp [Side.object, Object.includes]

namespace Conducting

variable {start system : System Unit} {process : Process Unit} {before after conduits : List Conduit}
  {conduit changed : Conduit} {side : Side} {index number : Nat}

theorem begin (suits : Suits process start) : Conducting start process [] start where
  present := ⟨process.descriptors, suits.present, .refl _⟩
  others := fun _ _ => rfl
  shape := suits.shape
  nextPipe := rfl
  pipes := fun index conduit found => by simp at found

/-- An end of a channel is held as long as it is live. -/
theorem holds (conducting : Conducting start process conduits system) (suits : Suits process start)
    (found : conduits[index]? = some conduit) (side : Side) :
    system.holds (side.object (start.nextPipe + index)) = (conduit.end? side).isSome := by
  obtain ⟨table, present, adds⟩ := conducting.present
  have unheld := suits.unheld side (start.nextPipe + index) (by omega)
  rw [Bool.eq_iff_iff, System.holds_iff]
  constructor
  · rintro ⟨holder, entry, here, refers⟩
    by_cases own : holder = Channels.owner
    · obtain ⟨whole, has, included⟩ := DescriptorTable.refersTo_iff.mp refers
      obtain rfl : { process with descriptors := table } = entry := by simpa [own, present] using here
      obtain base | ⟨number, inside⟩ := adds.has has
      · have kept : start.holds (side.object (start.nextPipe + index)) = true := System.holds_iff.mpr
          ⟨Channels.owner, process, suits.present, DescriptorTable.refersTo_iff.mpr ⟨whole, base, included⟩⟩
        rw [unheld] at kept
        cases kept
      · obtain ⟨place, other, otherSide, there, live, rfl⟩ := mem_heldEnds.mp inside
        obtain ⟨rfl, same⟩ := Side.includes_object.mp included
        obtain rfl : place = index := by omega
        obtain rfl : other = conduit := Option.some.inj (there.symm.trans found)
        simp [live]
    · rw [conducting.others holder own] at here
      have kept : start.holds (side.object (start.nextPipe + index)) = true :=
        System.holds_iff.mpr ⟨holder, entry, here, refers⟩
      rw [unheld] at kept
      cases kept
  · intro live
    obtain ⟨number, live⟩ := Option.isSome_iff_exists.mp live
    have inside : (number, side.object (start.nextPipe + index)) ∈ heldEnds start.nextPipe conduits :=
      mem_heldEnds.mpr ⟨index, conduit, side, found, live, rfl⟩
    exact ⟨Channels.owner, _, present, DescriptorTable.refersTo_iff.mpr
      ⟨_, ⟨number, _, adds.getElem?_of_mem inside, rfl⟩, Side.includes_object.mpr ⟨rfl, rfl⟩⟩⟩

theorem request_eq (present : system.processes[number]? = some process) (call : Call) :
    system.request number call =
      match system.perform number process call with
      | .answer reply after => (reply, after)
      | .moved after => (.failed .again, after)
      | .blocked => (.failed .again, system) := by
  simp only [System.request, present]
  cases system.perform number process call <;> rfl

theorem request_close {table left : DescriptorTable}
    (present : system.processes[Channels.owner]? = some { process with descriptors := table })
    (closes : table.close number = .ok left) :
    system.request Channels.owner (.close number) =
      (.done, system.put Channels.owner { process with descriptors := left }) := by
  simp [request_eq present, System.perform, System.tableAnswer, System.putTable, closes]

theorem request_answerAtOnce {table : DescriptorTable} {object : Object}
    (present : system.processes[Channels.owner]? = some { process with descriptors := table })
    (found : table[number]? = some ⟨object, true⟩) :
    system.request Channels.owner (.answerAtOnce number) = (.done, system.setAnswerAtOnce object) := by
  simp [request_eq present, System.perform, found]

theorem getElem?_middle {α : Type} {before after : List α} {one found : α} {index : Nat} (other : α)
    (here : (before ++ one :: after)[index]? = some found) :
    index = before.length ∧ found = one ∨ index ≠ before.length ∧ (before ++ other :: after)[index]? = some found := by
  rcases Nat.lt_trichotomy index before.length with less | rfl | more
  · rw [List.getElem?_append_left less] at here ⊢
    exact .inr ⟨by omega, here⟩
  · simp at here
    exact .inl ⟨rfl, here.symm⟩
  · obtain ⟨further, rfl⟩ := Nat.exists_eq_add_of_lt more
    refine .inr ⟨by omega, ?_⟩
    rw [List.getElem?_append_right (by omega)] at here ⊢
    simpa [show before.length + further + 1 - before.length = further + 1 by omega] using here

/-- What is done to one channel leaves the others as they are. -/
theorem change {next : System Unit} {table : DescriptorTable} {pipe : Pipe}
    (conducting : Conducting start process (before ++ conduit :: after) system)
    (present : next.processes[Channels.owner]? = some { process with descriptors := table })
    (adds : process.descriptors.Adds (heldEnds start.nextPipe (before ++ changed :: after)) table)
    (others : ∀ number, number ≠ Channels.owner → next.processes[number]? = system.processes[number]?)
    (shape : next.shape = system.shape) (nextPipe : next.nextPipe = system.nextPipe)
    (own : next.pipes[start.nextPipe + before.length]? = some pipe) (fits : changed.Fits pipe)
    (apart : ∀ number, number ≠ start.nextPipe + before.length → next.pipes[number]? = system.pipes[number]?) :
    Conducting start process (before ++ changed :: after) next where
  present := ⟨table, present, adds⟩
  others number other := (others number other).trans (conducting.others number other)
  shape := shape.trans conducting.shape
  nextPipe := by
    rw [nextPipe, conducting.nextPipe]
    simp
  pipes index found here := by
    obtain ⟨rfl, rfl⟩ | ⟨elsewhere, there⟩ := getElem?_middle conduit here
    · exact ⟨pipe, own, fits⟩
    · obtain ⟨pipe, present, fits⟩ := conducting.pipes index found there
      exact ⟨pipe, (apart _ (by omega)).trans present, fits⟩

/-- A live end can be closed. -/
theorem close (conducting : Conducting start process (before ++ conduit :: after) system)
    (live : conduit.end? side = some number) :
    ∃ next, system.request Channels.owner (.close number) = (.done, next) ∧
      Conducting start process (before ++ conduit.release side :: after) next := by
  obtain ⟨table, present, adds⟩ := conducting.present
  obtain ⟨closes, left⟩ := (adds.perm (heldEnds_perm_release live)).close
  obtain ⟨pipe, own, fits⟩ := conducting.pipes before.length conduit (by simp)
  refine ⟨_, request_close present closes, conducting.change (System.getElem?_put_self ..) left (fun other apart => ?_)
    rfl rfl own (fits.release side) fun _ _ => rfl⟩
  rw [System.getElem?_put, if_neg (Ne.symm apart)]

/-- The bytes of a channel can change while its ends stay as they are. -/
theorem putPipe {pipe : Pipe} (conducting : Conducting start process (before ++ conduit :: after) system)
    (same : ∀ side, changed.end? side = conduit.end? side) (fits : changed.Fits pipe) :
    Conducting start process (before ++ changed :: after) (system.putPipe (start.nextPipe + before.length) pipe) := by
  obtain ⟨table, present, adds⟩ := conducting.present
  refine conducting.change present (by rwa [heldEnds_congr same]) (fun _ _ => rfl) rfl rfl ?_ fits
    fun number apart => ?_
  · simp [System.putPipe]
  · simp [System.putPipe, Std.ExtTreeMap.getElem?_insert, Ne.symm apart]

/-- The descriptor of a live end leads to the pipe of its channel. -/
theorem lookup (conducting : Conducting start process (before ++ conduit :: after) system)
    (live : conduit.end? side = some number) :
    ∃ table : DescriptorTable, system.processes[Channels.owner]? = some { process with descriptors := table } ∧
      table[number]? = some ⟨side.object (start.nextPipe + before.length), true⟩ := by
  obtain ⟨table, present, adds⟩ := conducting.present
  exact ⟨table, present, adds.getElem?_of_mem (mem_heldEnds.mpr ⟨before.length, conduit, side, by simp, live, rfl⟩)⟩

theorem request_read (conducting : Conducting start process (before ++ conduit :: after) system)
    (live : conduit.end? .read = some number) (limit : Nat) :
    system.request Channels.owner (.read number limit) =
      match system.readPipe (start.nextPipe + before.length) limit with
      | .answer reply after => (reply, after)
      | .moved after => (.failed .again, after)
      | .blocked => (.failed .again, system) := by
  obtain ⟨table, present, found⟩ := conducting.lookup live
  simp [request_eq present, System.perform, found, Side.object]

theorem request_write (conducting : Conducting start process (before ++ conduit :: after) system)
    (live : conduit.end? .write = some number) (data : Bytes) :
    ∃ table, system.request Channels.owner (.write number data) =
      match system.writePipe Channels.owner { process with descriptors := table }
        (start.nextPipe + before.length) data with
      | .answer reply after => (reply, after)
      | .moved after => (.failed .again, after)
      | .blocked => (.failed .again, system) := by
  obtain ⟨table, present, found⟩ := conducting.lookup live
  exact ⟨table, by simp [request_eq present, System.perform, found, Side.object]⟩

/-- What comes of a read from a channel. -/
inductive Reads (start : System Unit) (process : Process Unit) (before : List Conduit) (conduit : Conduit)
    (after : List Conduit) (limit : Nat) (system : System Unit) : Reply × System Unit → Prop where
  | nothing (zero : limit = 0) : Reads start process before conduit after limit system (.data [], system)
  | ended (positive : 0 < limit) (empty : conduit.returned = conduit.accepted) (closed : conduit.write = none) :
      Reads start process before conduit after limit system (.data [], system)
  | again (positive : 0 < limit) (empty : conduit.returned = conduit.accepted) (live : conduit.write.isSome) :
      Reads start process before conduit after limit system (.failed .again, system)
  | data (bytes : Bytes) (next : System Unit) (some : bytes ≠ []) (fits : bytes.length ≤ limit)
      (left : conduit.returned ≠ conduit.accepted)
      (onward : Conducting start process
        (before ++ { conduit with returned := conduit.returned ++ bytes } :: after) next) :
      Reads start process before conduit after limit system (.data bytes, next)

theorem reads (conducting : Conducting start process (before ++ conduit :: after) system) (suits : Suits process start)
    (live : conduit.end? .read = some number) (limit : Nat) :
    Reads start process before conduit after limit system (system.request Channels.owner (.read number limit)) := by
  have here : (before ++ conduit :: after)[before.length]? = some conduit := by simp
  obtain ⟨pipe, own, fits⟩ := conducting.pipes before.length conduit here
  have written : system.holds (.writeEnd (start.nextPipe + before.length)) = conduit.write.isSome :=
    conducting.holds suits here .write
  have atOnce : pipe.readsAtOnce = true := fits.atOnce .read (by simp [live])
  rw [conducting.request_read live limit, System.readPipe, own]
  dsimp only
  by_cases zero : limit = 0
  · rw [if_pos zero]
    exact .nothing zero
  rw [if_neg zero]
  by_cases empty : pipe.pages = []
  · have drained := fits.empty_iff.mp empty
    rw [if_pos (by simp [empty]), written]
    cases closed : conduit.write with
    | none => exact .ended (by omega) drained closed
    | some other =>
      rw [if_neg (by simp), if_pos atOnce]
      exact .again (by omega) drained (by simp [closed])
  · rw [if_neg (by simpa using empty)]
    refine .data _ _ (Pipe.take_ne_nil fits.filled empty (by omega)) (Pipe.takes_length pipe limit rfl)
      (fun drained => empty (fits.empty_iff.mpr drained)) ?_
    exact conducting.putPipe (fun side => by cases side <;> rfl) (fits.take limit)

/-- What comes of a write into a channel. -/
inductive Writes (start : System Unit) (process : Process Unit) (before : List Conduit) (conduit : Conduit)
    (after : List Conduit) (data : Bytes) (system : System Unit) : Reply × System Unit → Prop where
  | nothing (empty : data = []) : Writes start process before conduit after data system (.number 0, system)
  | broken (some : data ≠ []) (closed : conduit.read = none) :
      Writes start process before conduit after data system (.failed .brokenPipe, system)
  /-- There is no room, so something is left in the channel. -/
  | full (some : data ≠ []) (live : conduit.read.isSome) (left : conduit.returned ≠ conduit.accepted) :
      Writes start process before conduit after data system (.failed .again, system)
  | taken (count : Nat) (next : System Unit) (some : data ≠ []) (live : conduit.read.isSome) (positive : 0 < count)
      (within : count ≤ data.length)
      (onward : Conducting start process
        (before ++ { conduit with accepted := conduit.accepted ++ data.take count } :: after) next) :
      Writes start process before conduit after data system (.number count, next)

theorem writes (conducting : Conducting start process (before ++ conduit :: after) system)
    (suits : Suits process start) (live : conduit.end? .write = some number) (data : Bytes) :
    Writes start process before conduit after data system
      (system.request Channels.owner (.write number data)) := by
  have here : (before ++ conduit :: after)[before.length]? = some conduit := by simp
  obtain ⟨pipe, own, fits⟩ := conducting.pipes before.length conduit here
  have reading : system.holds (.readEnd (start.nextPipe + before.length)) = conduit.read.isSome :=
    conducting.holds suits here .read
  have atOnce : pipe.writesAtOnce = true := fits.atOnce .write (by simp [live])
  obtain ⟨table, request⟩ := conducting.request_write live data
  rw [request, System.writePipe, own]
  dsimp only
  by_cases empty : data = []
  · rw [if_pos (by simp [empty])]
    exact .nothing empty
  rw [if_neg (by simpa using empty), reading]
  cases closed : conduit.read with
  | none =>
    rw [if_pos (by simp), if_neg (by simp [suits.unwritten]), if_pos suits.ignores]
    exact .broken empty closed
  | some reader =>
    rw [if_neg (by simp), if_pos suits.unwritten, conducting.shape]
    obtain ⟨⟨replaced, rest⟩, took⟩ : ∃ result, pipe.accept {} data = result := ⟨_, rfl⟩
    have onward := conducting.putPipe (fun side => by cases side <;> rfl) (fits.accept took)
    have longer : 0 < data.length := List.length_pos_iff.mpr empty
    rw [took]
    dsimp only
    by_cases all : rest = []
    · have complete : data.length - rest.length = data.length := by simp [all]
      rw [complete] at onward
      rw [if_pos (by simp [all])]
      exact .taken _ _ empty (by simp [closed]) longer (Nat.le_refl _) onward
    · rw [if_neg (by simpa using all), (Pipe.accept_takes took).writesAtOnce, if_pos atOnce]
      by_cases none : data.length - rest.length = 0
      · rw [if_pos none]
        refine .full empty (by simp [closed]) fun drained => ?_
        have some := fits.rest_lt drained empty took
        omega
      · rw [if_neg none]
        exact .taken _ _ empty (by simp [closed]) (by omega) (by omega) onward

/-- A new channel comes after the others. -/
theorem added {next : System Unit} {table : DescriptorTable}
    (conducting : Conducting start process conduits system) (conduit : Conduit) (pipe : Pipe)
    (present : next.processes[Channels.owner]? = some { process with descriptors := table })
    (adds : process.descriptors.Adds (heldEnds start.nextPipe conduits ++ conduit.held system.nextPipe) table)
    (others : ∀ number, number ≠ Channels.owner → next.processes[number]? = system.processes[number]?)
    (shape : next.shape = system.shape) (nextPipe : next.nextPipe = system.nextPipe + 1)
    (own : next.pipes[system.nextPipe]? = some pipe) (fits : conduit.Fits pipe)
    (apart : ∀ number, number ≠ system.nextPipe → next.pipes[number]? = system.pipes[number]?) :
    Conducting start process (conduits ++ [conduit]) next where
  present := ⟨table, present, by simpa [heldEnds_append, heldEnds, conducting.nextPipe] using adds⟩
  others number other := (others number other).trans (conducting.others number other)
  shape := shape.trans conducting.shape
  nextPipe := by
    rw [nextPipe, conducting.nextPipe]
    simp [Nat.add_assoc]
  pipes index found here := by
    rw [List.getElem?_append] at here
    split at here
    · obtain ⟨pipe, present, fits⟩ := conducting.pipes index found here
      exact ⟨pipe, (apart _ (by have := conducting.nextPipe; omega)).trans present, fits⟩
    · rename_i beyond
      obtain ⟨rfl, same⟩ : index = conduits.length ∧ conduit = found := by
        have only := List.getElem?_eq_some_iff.mp here
        simp at only
        obtain ⟨within, same⟩ := only
        exact ⟨by omega, same⟩
      rw [← conducting.nextPipe]
      exact ⟨pipe, own, same ▸ fits⟩

/-- A pipe that was just made: its ends are held besides, and nothing else has changed. -/
structure Opened (process : Process Unit) (conduits : List Conduit) (start system : System Unit) (read write : Nat)
    (next : System Unit) : Prop where
  present : ∃ table, next.processes[Channels.owner]? = some { process with descriptors := table } ∧
    process.descriptors.Adds ((write, .writeEnd system.nextPipe) :: (read, .readEnd system.nextPipe) ::
      heldEnds start.nextPipe conduits) table
  others : ∀ number, number ≠ Channels.owner → next.processes[number]? = system.processes[number]?
  shape : next.shape = system.shape
  nextPipe : next.nextPipe = system.nextPipe + 1
  pipes : next.pipes = system.pipes.insert system.nextPipe {}

theorem opened (conducting : Conducting start process conduits system) :
    (∃ errno, system.request Channels.owner .pipe = (.failed errno, system)) ∨
      ∃ read write next, system.request Channels.owner .pipe = (.ends read write, next) ∧
        Opened process conduits start system read write next := by
  obtain ⟨table, present, adds⟩ := conducting.present
  cases first : table.allocate process.limit 0 ⟨.readEnd system.nextPipe, true⟩ with
  | error errno => exact .inl ⟨errno, by simp [request_eq present, System.perform, System.makePipe, first]⟩
  | ok given =>
    obtain ⟨read, between⟩ := given
    cases second : between.allocate process.limit 0 ⟨.writeEnd system.nextPipe, true⟩ with
    | error errno => exact .inl ⟨errno, by simp [request_eq present, System.perform, System.makePipe, first, second]⟩
    | ok given =>
      obtain ⟨write, after⟩ := given
      refine .inr ⟨read, write, { system.putTable Channels.owner { process with descriptors := table } after with
        pipes := system.pipes.insert system.nextPipe {}, nextPipe := system.nextPipe + 1 }, ?_, ?_⟩
      · simp [request_eq present, System.perform, System.makePipe, first, second]
      · refine ⟨⟨after, ?_, (adds.allocate first).allocate second⟩, fun other apart => ?_, rfl, rfl, rfl⟩
        · exact System.getElem?_put_self ..
        · exact (System.getElem?_put ..).trans (if_neg (Ne.symm apart))

namespace Opened

variable {next : System Unit} {read write : Nat}

/-- A channel whose ends answer at once is added to the others. -/
theorem answers (opened : Opened process conduits start system read write next)
    (conducting : Conducting start process conduits system) (name : String) :
    Conducting start process (conduits ++ [{ name, read := some read, write := some write }])
      ((next.request Channels.owner (.answerAtOnce read)).2.request Channels.owner (.answerAtOnce write)).2 := by
  obtain ⟨table, present, adds⟩ := opened.present
  have readEnd : table[read]? = some ⟨.readEnd system.nextPipe, true⟩ := adds.getElem?_of_mem (by simp)
  have writeEnd : table[write]? = some ⟨.writeEnd system.nextPipe, true⟩ := adds.getElem?_of_mem (by simp)
  rw [request_answerAtOnce present readEnd]
  dsimp only
  have answering : (next.setAnswerAtOnce (.readEnd system.nextPipe)).processes[Channels.owner]? =
      some { process with descriptors := table } := present
  rw [request_answerAtOnce answering writeEnd]
  refine conducting.added _ { readsAtOnce := true, writesAtOnce := true } present ?_ opened.others opened.shape
    opened.nextPipe ?_ ?_ fun number apart => ?_
  · refine adds.perm ((List.Perm.swap ..).trans ?_)
    change ([_, _] ++ heldEnds start.nextPipe conduits).Perm _
    exact List.perm_append_comm
  · simp [System.setAnswerAtOnce, opened.pipes]
  · exact .of_new rfl (fun _ => rfl) fun _ => rfl
  · simp [System.setAnswerAtOnce, opened.pipes, Std.ExtTreeMap.getElem?_modify, Std.ExtTreeMap.getElem?_insert,
      Ne.symm apart]

/-- A channel that is dropped at once leaves nothing but its place. -/
theorem closes (opened : Opened process conduits start system read write next)
    (conducting : Conducting start process conduits system) (name : String) :
    Conducting start process (conduits ++ [{ name := name }])
      ((next.request Channels.owner (.close read)).2.request Channels.owner (.close write)).2 := by
  obtain ⟨table, present, adds⟩ := opened.present
  obtain ⟨closesRead, left⟩ := (adds.perm (List.Perm.swap ..)).close
  obtain ⟨closesWrite, none⟩ := left.close
  rw [request_close present closesRead]
  dsimp only
  rw [request_close (System.getElem?_put_self ..) closesWrite, System.put_put]
  refine conducting.added _ {} (System.getElem?_put_self ..) ?_ (fun other apart => ?_) opened.shape
    opened.nextPipe ?_ ?_ fun number apart => ?_
  · simpa [Conduit.held] using none
  · rw [System.getElem?_put, if_neg (Ne.symm apart), opened.others other apart]
  · simp [opened.pipes]
  · exact .of_new rfl (by simp) (by simp)
  · simp [opened.pipes, Std.ExtTreeMap.getElem?_insert, Ne.symm apart]

end Opened

end Conducting

end Pipework
