import Pipework.Proofs.Contents
import Pipework.Proofs.Course
import Pipework.Proofs.History

set_option autoImplicit false

/-!
The conversations of a program with its standard streams, apart from all machines: whatever it asks there, it is given
some next bytes of its input until this ends, and all that it writes is taken. A program computes a stream function if
every conversation in which it was told of the end of its input, and then exits, comes to the value of the function
(`Computes`). As long as its streams are fit for it and somebody reads what it writes, an image on a machine takes part
in such a conversation (`ImageMove.talks`).
-/

namespace Pipework

open Kernel

variable {τ : Type}

/-- How far a conversation has come. -/
structure Talk (τ : Type) where
  state : τ
  input : Bytes := []
  output : Bytes := []
  /-- Whether the standard input is open. -/
  reads : Bool := true
  /-- Whether the standard output is open. -/
  writes : Bool := true
  /-- Whether the program was told that its input has come to its end. -/
  ended : Bool := false

/-- The program goes on with an answer. -/
def Talk.answered (images : Behaviour τ) (talk : Talk τ) (reply : Reply) : Talk τ :=
  { talk with state := images.resume talk.state reply }

/-- The conversations of a program. It is given at most as many bytes as it asks for, none only at the end of its
input, and none behind the end. -/
inductive Talks (images : Behaviour τ) (first : τ) : Talk τ → Prop where
  | start : Talks images first { state := first }
  | read {talk : Talk τ} (limit : Nat) (chunk : Bytes) (earlier : Talks images first talk)
      (asks : images.next talk.state = some (.read 0 limit)) (isOpen : talk.reads = true)
      (within : chunk.length ≤ limit) (behind : talk.ended = true → chunk = []) :
      Talks images first { talk.answered images (.data chunk) with
        input := talk.input ++ chunk
        ended := talk.ended || (decide (0 < limit) && chunk.isEmpty) }
  | unread {talk : Talk τ} (limit : Nat) (earlier : Talks images first talk)
      (asks : images.next talk.state = some (.read 0 limit)) (closed : talk.reads = false) :
      Talks images first (talk.answered images (.failed .badDescriptor))
  | wrote {talk : Talk τ} (data : Bytes) (earlier : Talks images first talk)
      (asks : images.next talk.state = some (.write 1 data)) (isOpen : talk.writes = true) :
      Talks images first { talk.answered images (.number data.length) with output := talk.output ++ data }
  | unwritten {talk : Talk τ} (data : Bytes) (earlier : Talks images first talk)
      (asks : images.next talk.state = some (.write 1 data)) (closed : talk.writes = false) :
      Talks images first (talk.answered images (.failed .badDescriptor))
  | closedInput {talk : Talk τ} (earlier : Talks images first talk)
      (asks : images.next talk.state = some (.close 0)) :
      Talks images first { talk.answered images (if talk.reads then .done else .failed .badDescriptor) with
        reads := false }
  | closedOutput {talk : Talk τ} (earlier : Talks images first talk)
      (asks : images.next talk.state = some (.close 1)) :
      Talks images first { talk.answered images (if talk.writes then .done else .failed .badDescriptor) with
        writes := false }

/-- A program computes a stream function: whenever it has read its input to the end and exits, it has written the value
of its input. -/
def Computes (images : Behaviour τ) (first : τ) (function : Bytes → Bytes) : Prop :=
  ∀ (talk : Talk τ) (code : Nat), Talks images first talk → talk.ended = true →
    images.next talk.state = some (.exit code) → talk.output = function talk.input

/-- A copier computes the identity. -/
theorem copier_computes : Computes copier none id := by
  -- What it has read is what it has written and what it holds.
  have kept : ∀ talk : Talk (Option Bytes), Talks copier none talk →
      talk.reads = true ∧ talk.writes = true ∧ talk.input = talk.output ++ talk.state.getD [] := by
    intro talk talks
    induction talks with
    | start => exact ⟨rfl, rfl, rfl⟩
    | @read talk limit chunk earlier asks isOpen within behind ih =>
      obtain ⟨reads, writes, sum⟩ := ih
      refine ⟨reads, writes, ?_⟩
      obtain ⟨state, input, output⟩ := talk
      cases state with
      | none => simpa [Talk.answered, copier] using sum
      | some data => cases data <;> simp [copier] at asks
    | unread limit earlier asks closed ih =>
      rw [ih.1] at closed
      cases closed
    | @wrote talk data earlier asks isOpen ih =>
      obtain ⟨reads, writes, sum⟩ := ih
      refine ⟨reads, writes, ?_⟩
      obtain ⟨state, input, output⟩ := talk
      cases state with
      | none => simp [copier] at asks
      | some held =>
        cases held with
        | nil => simp [copier] at asks
        | cons byte more =>
          obtain rfl : byte :: more = data := by simpa [copier] using asks
          simpa [Talk.answered, copier] using sum
    | unwritten data earlier asks closed ih =>
      rw [ih.2.1] at closed
      cases closed
    | @closedInput talk earlier asks ih =>
      obtain ⟨_ | _ | _, input, output⟩ := talk <;> simp [copier] at asks
    | @closedOutput talk earlier asks ih =>
      obtain ⟨_ | _ | _, input, output⟩ := talk <;> simp [copier] at asks
  intro talk code talks _ exits
  obtain ⟨-, -, sum⟩ := kept talk talks
  obtain ⟨state, input, output⟩ := talk
  cases state with
  | none => simp [copier] at exits
  | some data =>
    cases data with
    | nil => simpa using sum.symm
    | cons byte more => simp [copier] at exits

/-- What can be read to its end: a regular file, or a pipe on which one waits. -/
inductive Source (machine : Machine τ) : Object → Prop where
  | file (number : Nat) (opening : Opening) (content : Bytes)
      (view : machine.files.view? number = some (opening, content)) (reads : opening.access.reads = true) :
      Source machine (.file number)
  | pipe (object : Object) (pipe : Nat) (found : Pipe) (reads : object.includes (.readEnd pipe) = true)
      (there : machine.pipes[pipe]? = some found) (waits : found.readsAtOnce = false) (filled : found.Filled) :
      Source machine object

/-- What takes all that is written to it: a regular file at its end, or a pipe on which one waits. -/
inductive Sink (machine : Machine τ) : Object → Prop where
  | file (number : Nat) (opening : Opening) (content : Bytes)
      (view : machine.files.view? number = some (opening, content)) (writes : opening.access.writes = true)
      (atEnd : opening.access = .append ∨ opening.offset = content.length) : Sink machine (.file number)
  | pipe (object : Object) (pipe : Nat) (found : Pipe) (writes : object.includes (.writeEnd pipe) = true)
      (there : machine.pipes[pipe]? = some found) (waits : found.writesAtOnce = false) : Sink machine object

/-- Nothing is left to be read. -/
structure Dry (machine : Machine τ) (object : Object) : Prop where
  file : ∀ (number : Nat) (opening : Opening) (content : Bytes), object = .file number →
    machine.files.view? number = some (opening, content) → content.drop opening.offset = []
  pipe : ∀ (pipe : Nat) (found : Pipe), object.includes (.readEnd pipe) = true → machine.pipes[pipe]? = some found →
    found.content = []

/-- Nobody reads what is written. -/
def Unread (machine : Machine τ) (object : Object) : Prop :=
  ∃ pipe, object.includes (.writeEnd pipe) = true ∧ machine.holds (.readEnd pipe) = false

namespace Kernel.System

variable {machine between : Machine τ} {number place limit : Nat} {process : Process (Program τ)} {entry : Descriptor}
  {reply : Reply} {data : Bytes}

theorem perform_read_closed (closed : process.descriptors[place]? = none) :
    machine.perform number process (.read place limit) = .answer (.failed .badDescriptor) machine := by
  simp only [perform, closed]

theorem perform_write_closed (closed : process.descriptors[place]? = none) :
    machine.perform number process (.write place data) = .answer (.failed .badDescriptor) machine := by
  simp only [perform, closed]

/-- A source gives some next bytes, and none once it is dry. -/
theorem reply_of_source (isOpen : process.descriptors[place]? = some entry) (source : Source machine entry.object)
    (performed : machine.perform number process (.read place limit) = .answer reply between) :
    ∃ chunk, reply = .data chunk ∧ chunk.length ≤ limit ∧ (Dry machine entry.object → chunk = []) := by
  have received := machine.perform_read number process place limit
  rw [performed] at received
  generalize isObject : entry.object = object at source
  cases source with
  | file opened opening content view reads =>
    have read := Files.read_of_view limit view reads
    simp only [perform, isOpen, isObject, read] at performed
    cases performed
    refine ⟨_, rfl, List.length_take_le _ _, fun dry => ?_⟩
    rw [dry.file opened opening content rfl view, List.take_nil]
  | pipe object pipe found reads there waits filled =>
    have inlet : machine.inlet? process place = some (pipe, found) := by
      rw [inlet?_eq isOpen (isObject ▸ reads), there, Option.map_some]
    cases received with
    | refused errno noPipe =>
      rw [inlet] at noPipe
      cases noPipe
    | file opening data files isFile read =>
      obtain ⟨other, same, isFile⟩ := descriptor_of_opening isFile
      obtain rfl : entry = other := by rwa [isOpen, Option.some.injEq] at same
      rw [← isObject, isFile] at reads
      cases reads
    | nothing pipe found inlet zero => exact ⟨[], rfl, Nat.zero_le _, fun _ => rfl⟩
    | ended pipe found inlet empty unwritten => exact ⟨[], rfl, Nat.zero_le _, fun _ => rfl⟩
    | again other given same atOnce =>
      rw [inlet] at same
      cases same
      rw [waits] at atOnce
      cases atOnce
    | data other given same positive nonempty =>
      rw [inlet] at same
      cases same
      refine ⟨_, rfl, Pipe.takes_length found limit rfl, fun dry => absurd ?_ nonempty⟩
      exact filled.pages_of_content (dry.pipe pipe found reads there)

/-- A sink takes all that is written, unless nobody reads it. -/
theorem reply_of_sink (isOpen : process.descriptors[place]? = some entry) (sink : Sink machine entry.object)
    (performed : machine.perform number process (.write place data) = .answer reply between) :
    reply = .number data.length ∨ Unread machine entry.object := by
  have wrote := machine.perform_write number process place data
  rw [performed] at wrote
  generalize isObject : entry.object = object at sink
  cases sink with
  | file opened opening content view writes atEnd =>
    obtain ⟨after, wrote, -⟩ := Files.write_of_view machine.now data view writes atEnd
    simp only [perform, isOpen, isObject, wrote] at performed
    cases performed
    exact .inl rfl
  | pipe object pipe found writes there waits =>
    have outlet : machine.outlet? process place = some (pipe, found) := by
      rw [outlet?_eq isOpen (isObject ▸ writes), there, Option.map_some]
    have unread : ∀ {other : Nat} {given : Pipe}, machine.outlet? process place = some (other, given) →
        machine.holds (.readEnd other) = false → Unread machine object := by
      intro other given same unread
      rw [outlet] at same
      cases same
      exact ⟨pipe, writes, unread⟩
    have waiting : ∀ {other : Nat} {given : Pipe}, machine.outlet? process place = some (other, given) →
        given.writesAtOnce ≠ true := by
      intro other given same
      rw [outlet] at same
      cases same
      simp [waits]
    cases wrote with
    | refused errno noPipe =>
      rw [outlet] at noPipe
      cases noPipe
    | file opening files isFile wrote => exact .inl rfl
    | nothing other given same empty => exact .inl (by rw [empty]; rfl)
    | cut other given same nobody begun => exact .inr (unread same nobody)
    | broken other given same nobody unbegun => exact .inr (unread same nobody)
    | whole other given replaced same took => exact .inl rfl
    | full other given same atOnce => exact absurd atOnce (waiting same)
    | atOnce other given replaced rest same atOnce took => exact absurd atOnce (waiting same)

end Kernel.System

/-- How far an image has come in its conversation, from what it has read and written and whether it was told that its
input has come to its end. -/
def Kernel.Process.talk (process : Process (Program τ)) (state : τ) (input output : Bytes) (ended : Bool) : Talk τ where
  state
  input
  output
  reads := process.descriptors.contains 0
  writes := process.descriptors.contains 1
  ended

namespace ImageMove

variable {images : Behaviour τ} {machine after : Machine τ} {number : Nat} {process later : Process (Program τ)}
  {first state : τ} {input output : Bytes} {ended : Bool} {exchange : Option (Call × Reply)}

/-- An image whose streams are fit for it goes on with its conversation or exits, unless nobody reads what it
writes. -/
theorem talks (present : machine.processes[number]? = some process) (alive : process.ending = none)
    (program : process.program = .image state)
    (talks : Talks images first (process.talk state input output ended))
    (source : ∀ entry, process.descriptors[0]? = some entry →
      Source machine entry.object ∧ (ended = true → Dry machine entry.object))
    (sink : ∀ entry, process.descriptors[1]? = some entry → Sink machine entry.object)
    (move : ImageMove images machine number process state after exchange)
    (found : after.processes[number]? = some later) :
    (∃ entry, process.descriptors[1]? = some entry ∧ Unread machine entry.object) ∨
    (∃ next, later.ending = none ∧ later.program = .image next ∧
      Talks images first (later.talk next (input ++ exchange.elim [] Exchange.taken)
        (output ++ exchange.elim [] Exchange.given) (ended || exchange.any Exchange.isEnd))) ∨
    exchange = none ∧ later.ending ≠ none ∧ ∃ code, images.next state = some (.exit code) := by
  have image : ∀ (table : DescriptorTable) (reply : Reply),
      ({ process with descriptors := table }.answered (Program.behaviour images) reply).program =
        .image (images.resume state reply) := by
    intro table reply
    simp [Process.answered, program, Program.behaviour]
  cases move with
  | received limit reply between asks performed =>
    rw [System.getElem?_put_self] at found
    cases found
    refine .inr (.inl ⟨_, alive, image process.descriptors reply, ?_⟩)
    cases isOpen : process.descriptors[0]? with
    | none =>
      rw [System.perform_read_closed isOpen] at performed
      cases performed
      have closed : (process.talk state input output ended).reads = false := by
        simp only [Process.talk, Std.ExtTreeMap.contains_eq_isSome_getElem?, isOpen]
        rfl
      simpa [Exchange.taken, Exchange.given, Exchange.isEnd, Process.talk, Process.answered, Talk.answered]
        using talks.unread limit asks closed
    | some entry =>
      obtain ⟨fit, dry⟩ := source entry isOpen
      obtain ⟨chunk, rfl, within, nothing⟩ := System.reply_of_source isOpen fit performed
      have reads : (process.talk state input output ended).reads = true := by
        simp only [Process.talk, Std.ExtTreeMap.contains_eq_isSome_getElem?, isOpen]
        rfl
      simpa [Exchange.taken, Exchange.given, Exchange.isEnd, Process.talk, Process.answered, Talk.answered]
        using talks.read limit chunk asks reads within fun isEnded => nothing (dry isEnded)
  | wrote data reply between asks performed =>
    rw [System.getElem?_put_self] at found
    cases found
    cases isOpen : process.descriptors[1]? with
    | none =>
      rw [System.perform_write_closed isOpen] at performed
      cases performed
      refine .inr (.inl ⟨_, alive, image process.descriptors _, ?_⟩)
      have closed : (process.talk state input output ended).writes = false := by
        simp only [Process.talk, Std.ExtTreeMap.contains_eq_isSome_getElem?, isOpen]
        rfl
      simpa [Exchange.taken, Exchange.given, Exchange.isEnd, Process.talk, Process.answered, Talk.answered]
        using talks.unwritten data asks closed
    | some entry =>
      rcases System.reply_of_sink isOpen (sink entry isOpen) performed with rfl | unread
      · refine .inr (.inl ⟨_, alive, image process.descriptors _, ?_⟩)
        have writes : (process.talk state input output ended).writes = true := by
          simp only [Process.talk, Std.ExtTreeMap.contains_eq_isSome_getElem?, isOpen]
          rfl
        simpa [Exchange.taken, Exchange.given, Exchange.isEnd, Process.talk, Process.answered, Talk.answered]
          using talks.wrote data asks writes
      · exact .inl ⟨entry, rfl, unread⟩
  | writing data pipe given replaced rest asks outlet waits took remains =>
    rw [System.getElem?_put_self] at found
    cases found
    refine .inr (.inl ⟨state, alive, program, ?_⟩)
    simpa [Process.talk] using talks
  | killed data pipe given asks outlet unread unbegun =>
    obtain ⟨entry, isOpen, writes, -⟩ := System.descriptor_of_outlet outlet
    exact .inl ⟨entry, isOpen, pipe, writes, unread⟩
  | closed place standard asks =>
    rw [System.getElem?_put_self] at found
    cases found
    refine .inr (.inl ⟨_, alive, image _ _, ?_⟩)
    rcases standard with rfl | rfl
    · have apart : (compare 0 1 != Ordering.eq) = true := rfl
      simpa [Exchange.taken, Exchange.given, Exchange.isEnd, Process.talk, Process.answered, Talk.answered, apart]
        using talks.closedInput asks
    · have apart : (compare 1 0 != Ordering.eq) = true := rfl
      simpa [Exchange.taken, Exchange.given, Exchange.isEnd, Process.talk, Process.answered, Talk.answered, apart]
        using talks.closedOutput asks
  | exited code asks =>
    rw [System.getElem?_finish_self _ present] at found
    cases found
    exact .inr (.inr ⟨rfl, by simp, code, asks⟩)

end ImageMove

end Pipework
