import Pipework.Proofs.Plumbing

set_option autoImplicit false

/-!
What images have read and written in a course. The exchanges that a chronicle remembers say which bytes an image was
given and which it has got rid of; what has been taken of a write that is not answered yet is read off its process
(`Machine.sent`). Each move of an image carries bytes: what it reads comes out of a pipe or a file, and what it writes
goes into one (`ImageMove.carries`).
-/

namespace Pipework

open Kernel

namespace Exchange

/-- The bytes that an image was given from its standard input. -/
def taken : Call × Reply → Bytes
  | (.read 0 _, .data bytes) => bytes
  | _ => []

/-- The bytes that an image has got rid of on its standard output. -/
def given : Call × Reply → Bytes
  | (.write 1 data, .number count) => data.take count
  | _ => []

/-- Whether an image was told that its standard input has come to its end. -/
def isEnd : Call × Reply → Bool
  | (.read 0 limit, .data bytes) => decide (0 < limit) && bytes.isEmpty
  | _ => false

end Exchange

namespace Chronicle

/-- What a process has asked and was answered, oldest first. -/
def exchangesOf (chronicle : Chronicle) (number : Nat) : List (Call × Reply) :=
  chronicle.exchanges.filterMap fun entry => if entry.1 = number then some entry.2 else none

/-- The bytes that a process has read from its standard input. -/
def received (chronicle : Chronicle) (number : Nat) : Bytes :=
  (chronicle.exchangesOf number).flatMap Exchange.taken

/-- The bytes of all writes to its standard output for which a process was answered. -/
def written (chronicle : Chronicle) (number : Nat) : Bytes :=
  (chronicle.exchangesOf number).flatMap Exchange.given

/-- Whether a process was told that its standard input has come to its end. -/
def isTold (chronicle : Chronicle) (number : Nat) : Bool := (chronicle.exchangesOf number).any Exchange.isEnd

end Chronicle

variable {τ : Type}

/-- What has been taken of the present write of an image to its standard output. -/
def Kernel.Process.begun (images : Behaviour τ) (process : Process (Program τ)) : Bytes :=
  match process.ending, process.program with
  | none, .image state =>
    match images.next state with
    | some (.write 1 data) => data.take process.written
    | _ => []
  | _, _ => []

namespace Machine

/-- What has been taken of the present write of a process to its standard output. -/
def begun (images : Behaviour τ) (machine : Machine τ) (number : Nat) : Bytes :=
  (machine.processes[number]?).elim [] (Process.begun images)

/-- The bytes that a process has written to its standard output, with those of a write that is still going on. -/
def sent (images : Behaviour τ) (chronicle : Chronicle) (machine : Machine τ) (number : Nat) : Bytes :=
  chronicle.written number ++ machine.begun images number

end Machine

section extend

variable (chronicle : Chronicle) (images : Behaviour τ) (host mover number : Nat) (before after : Machine τ)

theorem Chronicle.exchangesOf_extend :
    (chronicle.extend images host mover before after).exchangesOf number =
      chronicle.exchangesOf number ++
        if mover = number then (Machine.exchange? images before mover).toList else [] := by
  simp only [exchangesOf, extend, List.filterMap_append]
  cases Machine.exchange? images before mover <;> by_cases own : mover = number <;> simp [own]

theorem Chronicle.received_extend :
    (chronicle.extend images host mover before after).received number =
      chronicle.received number ++
        if mover = number then (Machine.exchange? images before mover).elim [] Exchange.taken else [] := by
  simp only [received, exchangesOf_extend, List.flatMap_append]
  cases Machine.exchange? images before mover <;> by_cases own : mover = number <;> simp [own]

theorem Chronicle.written_extend :
    (chronicle.extend images host mover before after).written number =
      chronicle.written number ++
        if mover = number then (Machine.exchange? images before mover).elim [] Exchange.given else [] := by
  simp only [written, exchangesOf_extend, List.flatMap_append]
  cases Machine.exchange? images before mover <;> by_cases own : mover = number <;> simp [own]

theorem Chronicle.isTold_extend :
    (chronicle.extend images host mover before after).isTold number =
      (chronicle.isTold number ||
        (decide (mover = number) && (Machine.exchange? images before mover).any Exchange.isEnd)) := by
  simp only [isTold, exchangesOf_extend, List.any_append]
  cases Machine.exchange? images before mover <;> by_cases own : mover = number <;> simp [own]

end extend

variable {images : Behaviour τ} {machine after : Machine τ} {number mover : Nat} {process later : Process (Program τ)}
  {state : τ}

/-- Only images are remembered. -/
theorem exchange?_eq_none (present : machine.processes[number]? = some process)
    (other : ∀ state, process.program ≠ .image state) : Machine.exchange? images machine number = none := by
  unfold Machine.exchange?
  rw [present]
  cases program : process.program with
  | image state => exact absurd program (other state)
  | _ => simp only [program]

namespace Kernel.Process

theorem begun_of_unwritten (unwritten : process.written = 0) : process.begun images = [] := by
  unfold begun
  split
  · split
    · rw [unwritten, List.take_zero]
    · rfl
  · rfl

theorem begun_of_ended (ended : process.ending ≠ none) : process.begun images = [] := by
  unfold begun
  split
  · rename_i alive _
    exact absurd alive ended
  · rfl

theorem begun_of_not_image (other : ∀ state, process.program ≠ .image state) : process.begun images = [] := by
  unfold begun
  split
  · rename_i program
    exact absurd program (other _)
  · rfl

/-- Only an image that is writing has begun a write. -/
theorem begun_of_image (alive : process.ending = none) (program : process.program = .image state) {call : Call}
    (asks : images.next state = some call) (other : ∀ data, call ≠ .write 1 data) : process.begun images = [] := by
  unfold begun
  simp only [alive, program, asks]
  split
  · rename_i data same
    exact absurd (Option.some.inj same) (other data)
  · rfl

theorem begun_of_writing (alive : process.ending = none) (program : process.program = .image state) {data : Bytes}
    (asks : images.next state = some (.write 1 data)) : process.begun images = data.take process.written := by
  unfold begun
  simp only [alive, program, asks]

theorem begun_undisturbed (same : Undisturbed mover process later) : later.begun images = process.begun images := by
  unfold begun
  rw [same.ending, same.program, same.written]

end Kernel.Process

/-- A process that is there has begun what its table entry says. -/
theorem Machine.begun_eq (present : machine.processes[number]? = some process) :
    machine.begun images number = process.begun images := by
  rw [begun, present, Option.elim_some]

theorem Machine.begun_absent (absent : machine.processes[number]? = none) : machine.begun images number = [] := by
  rw [begun, absent, Option.elim_none]

/-- A pipe to which bytes have come. -/
structure Kernel.Pipe.Poured (shape : PipeShape) (found : Pipe) (bytes : Bytes) (replaced : Pipe) : Prop where
  content : replaced.content = found.content ++ bytes
  readsAtOnce : replaced.readsAtOnce = found.readsAtOnce
  writesAtOnce : replaced.writesAtOnce = found.writesAtOnce
  filled : 0 < shape.pageSize → found.Filled → replaced.Filled

/-- What a process carries through its standard streams in one move: the bytes that it reads and writes, whether it is
told that there are no more, and the pipes and the files that are left. -/
inductive Carries (machine : Machine τ) (process : Process (Program τ)) :
    Bytes → Bytes → Bool → Std.ExtTreeMap Nat Pipe → Files → Prop where
  | idle : Carries machine process [] [] false machine.pipes machine.files
  | ended (pipe : Nat) (found : Pipe) (inlet : machine.inlet? process 0 = some (pipe, found))
      (empty : found.pages = []) (unwritten : machine.holds (.writeEnd pipe) = false) (isEnd : Bool) :
      Carries machine process [] [] isEnd machine.pipes machine.files
  | drew (pipe : Nat) (found : Pipe) (limit : Nat) (inlet : machine.inlet? process 0 = some (pipe, found))
      (positive : 0 < limit) (nonempty : found.pages ≠ []) :
      Carries machine process (found.take limit).1 [] (found.take limit).1.isEmpty
        (machine.pipes.insert pipe (found.take limit).2) machine.files
  | poured (pipe : Nat) (found replaced : Pipe) (bytes : Bytes)
      (outlet : machine.outlet? process 1 = some (pipe, found)) (poured : found.Poured machine.shape bytes replaced) :
      Carries machine process [] bytes false (machine.pipes.insert pipe replaced) machine.files
  | readFile (opening limit : Nat) (data : Bytes) (files : Files) (isFile : System.opening? process 0 = some opening)
      (read : machine.files.read opening limit = .ok (data, files)) :
      Carries machine process data [] (decide (0 < limit) && data.isEmpty) machine.pipes files
  | wroteFile (opening : Nat) (data : Bytes) (files : Files) (isFile : System.opening? process 1 = some opening)
      (wrote : machine.files.write machine.now opening data = .ok files) :
      Carries machine process [] data false machine.pipes files

/-- A process that has begun a write waits for room in a pipe. -/
def Steady (machine : Machine τ) (process : Process (Program τ)) : Prop :=
  process.written ≠ 0 →
    ∃ pipe found, machine.outlet? process 1 = some (pipe, found) ∧ found.writesAtOnce = false

namespace Steady

theorem unwritten_of_noPipe (steady : Steady machine process) (noPipe : machine.outlet? process 1 = none) :
    process.written = 0 := by
  by_cases unwritten : process.written = 0
  · exact unwritten
  · obtain ⟨pipe, found, outlet, -⟩ := steady unwritten
    rw [noPipe] at outlet
    cases outlet

theorem unwritten_of_atOnce {pipe : Nat} {found : Pipe} (steady : Steady machine process)
    (outlet : machine.outlet? process 1 = some (pipe, found)) (atOnce : found.writesAtOnce = true) :
    process.written = 0 := by
  by_cases unwritten : process.written = 0
  · exact unwritten
  · obtain ⟨other, given, same, waits⟩ := steady unwritten
    rw [outlet] at same
    cases same
    rw [atOnce] at waits
    cases waits

end Steady

namespace Kernel.System

variable {σ : Type} {system : System σ} {caller : Process σ}

/-- A file is no pipe. -/
theorem outlet?_of_opening {descriptor opening : Nat} (isFile : opening? caller descriptor = some opening) :
    system.outlet? caller descriptor = none := by
  unfold opening? at isFile
  split at isFile
  · rename_i same
    unfold outlet?
    rw [same]
  · cases isFile

/-- What a pipe takes on of a write comes to what was in it, and to what it has taken before. -/
theorem poured_of_taken {found replaced : Pipe} {data rest : Bytes}
    (took : system.taken caller found data = (replaced, rest)) :
    ∃ bytes, found.Poured system.shape bytes replaced ∧
      data.take (data.length - rest.length) = data.take caller.written ++ bytes := by
  have takes := taken_takes took
  obtain ⟨bytes, whole, appended⟩ := takes.content
  refine ⟨bytes, ⟨appended, takes.readsAtOnce, takes.writesAtOnce, fun positive filled =>
    taken_filled positive filled took⟩, ?_⟩
  have split : data = (data.take caller.written ++ bytes) ++ rest := by
    rw [List.append_assoc, ← whole, List.take_append_drop]
  have size : data.length - rest.length = (data.take caller.written ++ bytes).length := by
    have lengths := congrArg List.length split
    rw [List.length_append] at lengths
    omega
  calc data.take (data.length - rest.length)
      = ((data.take caller.written ++ bytes) ++ rest).take (data.take caller.written ++ bytes).length := by
        rw [size, ← split]
    _ = data.take caller.written ++ bytes := List.take_left

end Kernel.System

namespace ImageMove

/-- What an image has asked, was answered and has begun in a move is what it carries. -/
theorem carries {exchange : Option (Call × Reply)} (steady : Steady machine process)
    (present : machine.processes[number]? = some process) (alive : process.ending = none)
    (program : process.program = .image state) (move : ImageMove images machine number process state after exchange) :
    ∃ bytes, Carries machine process (exchange.elim [] Exchange.taken) bytes (exchange.any Exchange.isEnd) after.pipes
        after.files ∧
      exchange.elim [] Exchange.given ++ Machine.begun images after number = Machine.begun images machine number ++ bytes := by
  rw [Machine.begun_eq present]
  have goesOn : ∀ {between : Machine τ} {table : DescriptorTable} {reply : Reply},
      Machine.begun images
        (between.put number ({ process with descriptors := table }.answered (Program.behaviour images) reply)) number =
        [] := by
    intro between table reply
    rw [Machine.begun_eq (System.getElem?_put_self _ _ _)]
    exact Process.begun_of_unwritten rfl
  have ends : ∀ {how : Termination}, Machine.begun images (machine.finish number how) number = [] := by
    intro how
    rw [Machine.begun_eq (System.getElem?_finish_self how present)]
    exact Process.begun_of_ended (by simp)
  cases move with
  | received limit reply between asks performed =>
    have received := machine.perform_read number process 0 limit
    rw [performed] at received
    have unbegun : process.begun images = [] := Process.begun_of_image alive program asks (by simp)
    refine ⟨[], ?_, ?_⟩
    · cases received with
      | refused errno noPipe => exact .idle
      | file opening data files isFile read => exact .readFile opening limit data files isFile read
      | nothing pipe found inlet zero =>
        subst zero
        exact .idle
      | ended pipe found inlet empty unwritten => exact .ended pipe found inlet empty unwritten _
      | again pipe found inlet atOnce => exact .idle
      | data pipe found inlet positive nonempty =>
        simpa [Exchange.taken, Exchange.isEnd, positive] using .drew pipe found limit inlet positive nonempty
    · rw [goesOn, unbegun]
      rfl
  | wrote data reply between asks performed =>
    have wrote := machine.perform_write number process 1 data
    rw [performed] at wrote
    rw [goesOn, List.append_nil, Process.begun_of_writing alive program asks]
    cases wrote with
    | refused errno noPipe =>
      refine ⟨[], .idle, ?_⟩
      rw [steady.unwritten_of_noPipe noPipe]
      rfl
    | file opening files isFile wrote =>
      refine ⟨data, .wroteFile opening data files isFile wrote, ?_⟩
      rw [steady.unwritten_of_noPipe (System.outlet?_of_opening isFile)]
      simp [Exchange.given]
    | nothing pipe found outlet empty =>
      subst empty
      exact ⟨[], .idle, by simp [Exchange.given]⟩
    | cut pipe found outlet unread begun => exact ⟨[], .idle, by simp [Exchange.given]⟩
    | broken pipe found outlet unread unbegun =>
      refine ⟨[], .idle, ?_⟩
      rw [unbegun]
      rfl
    | whole pipe found replaced outlet took =>
      obtain ⟨bytes, poured, taken⟩ := System.poured_of_taken took
      refine ⟨bytes, .poured pipe found replaced bytes outlet poured, ?_⟩
      simpa [Exchange.given] using taken
    | full pipe found outlet atOnce =>
      refine ⟨[], .idle, ?_⟩
      rw [steady.unwritten_of_atOnce outlet atOnce]
      rfl
    | atOnce pipe found replaced rest outlet atOnce took =>
      obtain ⟨bytes, poured, taken⟩ := System.poured_of_taken took
      exact ⟨bytes, .poured pipe found replaced bytes outlet poured, taken⟩
  | writing data pipe found replaced rest asks outlet waits took remains =>
    obtain ⟨bytes, poured, taken⟩ := System.poured_of_taken took
    refine ⟨bytes, .poured pipe found replaced bytes outlet poured, ?_⟩
    have now : Process.begun images ({ process with written := data.length - rest.length } : Process (Program τ)) =
        data.take (data.length - rest.length) := by
      simp only [Process.begun, alive, program, asks]
    rw [Machine.begun_eq (System.getElem?_put_self _ _ _), now, Process.begun_of_writing alive program asks]
    exact taken
  | killed data pipe found asks outlet unread unbegun =>
    obtain ⟨-, pipes, files⟩ := machine.finish_rest number (.signaled Signal.pipe)
    refine ⟨[], ?_, ?_⟩
    · rw [pipes, files]
      exact .idle
    · rw [ends, Process.begun_of_unwritten unbegun]
      rfl
  | closed place standard asks =>
    refine ⟨[], .idle, ?_⟩
    rw [goesOn, Process.begun_of_image alive program asks (by simp)]
    rfl
  | exited code asks =>
    obtain ⟨-, pipes, files⟩ := machine.finish_rest number (.exited (code % 256))
    refine ⟨[], ?_, ?_⟩
    · rw [pipes, files]
      exact .idle
    · rw [ends, Process.begun_of_image alive program asks (by simp)]
      rfl

end ImageMove

end Pipework
