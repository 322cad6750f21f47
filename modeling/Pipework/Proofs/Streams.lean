import Pipework.Proofs.Conversation
import Pipework.Proofs.Remains

set_option autoImplicit false

/-!
The two streams of an executor that its stages take over: the input, of which the first stage reads, and the output, to
which the last one writes. All along a run what was read is the beginning of what there was to be read (`Drawn`), and
what was written is added to what there was (`Added`).
-/

namespace Pipework

open Kernel

namespace Kernel.System

variable {σ : Type} {system after : System σ} {mover : Nat} {process : Process σ} {call : Call}

/-- A call that brings nothing uses no files but those that its caller has open. -/
theorem touched_perform (modest : call.bringsNothing = true) (led : (system.perform mover process call).Leads after) :
    system.files.Touched (fun opening => process.descriptors.Has (.file opening)) after.files := by
  have table : ∀ {result : Except Errno DescriptorTable}, (system.tableAnswer mover process result).Leads after →
      after.files = system.files := by
    intro result led
    cases result <;> (cases led; rfl)
  have idle : after.files = system.files →
      system.files.Touched (fun opening => process.descriptors.Has (.file opening)) after.files := by
    intro same
    rw [same]
    exact .same
  cases call with
  | close descriptor => exact idle (table led)
  | duplicate source target => exact idle (table led)
  | keepOnExec descriptor => exact idle (table led)
  | duplicateFrom source least =>
    simp only [perform] at led
    generalize process.descriptors.duplicateFrom process.limit source least = result at led
    cases result <;> (cases led; exact .same)
  | read descriptor limit =>
    have received := system.perform_read mover process descriptor limit
    generalize system.perform mover process (.read descriptor limit) = effect at led received
    cases received with
    | file opening data files isFile read =>
      cases led
      obtain ⟨entry, isOpen, same⟩ := descriptor_of_opening isFile
      exact .read opening limit data files ⟨descriptor, entry, isOpen, same⟩ read
    | blocked => cases led
    | _ =>
      cases led
      exact .same
  | write descriptor data =>
    have wrote := system.perform_write mover process descriptor data
    generalize system.perform mover process (.write descriptor data) = effect at led wrote
    cases wrote with
    | file opening files isFile wrote =>
      cases led
      obtain ⟨entry, isOpen, same⟩ := descriptor_of_opening isFile
      exact .wrote opening _ data files ⟨descriptor, entry, isOpen, same⟩ wrote
    | killed pipe found outlet unread unbegun =>
      cases led
      exact idle (system.finish_rest mover _).2.2
    | blocked => cases led
    | _ =>
      cases led
      exact .same
  | load program arguments =>
    cases led
    exact .same
  | exit code =>
    cases led
    exact idle (system.finish_rest mover _).2.2
  | _ => cases modest

/-- A move that brings nothing uses no files but those that the process has open. -/
theorem touched_step {behaviour : Behaviour σ} (present : system.processes[mover]? = some process)
    (asks : behaviour.next process.program = some call) (modest : call.bringsNothing = true)
    (moved : system.step behaviour mover = some after) :
    system.files.Touched (fun opening => process.descriptors.Has (.file opening)) after.files := by
  obtain ⟨given, asked, living, -, -, same, how⟩ := step_eq_some moved
  obtain rfl : process = given := by rwa [present, Option.some.injEq] at living
  obtain rfl : call = asked := by rwa [asks, Option.some.injEq] at same
  rcases how with ⟨rfl, -⟩ | ⟨program, arguments, -, rfl⟩ | ⟨-, ⟨reply, between, performed, rfl⟩ | performed |
    ⟨-, -, rfl⟩⟩
  · cases modest
  · unfold load
    split
    · rw [(answer_rest behaviour system mover _).2.2]
      exact .same
    · exact .same
  · rw [(answer_rest behaviour between mover reply).2.2]
    exact touched_perform modest (Effect.leads_of_answer performed)
  · exact touched_perform modest (Effect.leads_of_moved performed)
  · rw [(answer_rest behaviour _ mover _).2.2]
    exact .same

end Kernel.System

variable {τ : Type} {mover : Nat} {start machine after : Machine τ} {object : Object} {told isEnd : Bool}
  {received written taken bytes : Bytes}

/-- What has become of a source from which some bytes were read. -/
inductive Drawn (start machine : Machine τ) (received : Bytes) (told : Bool) : Object → Prop where
  | file (number : Nat) (first now : Opening) (content : Bytes)
      (began : start.files.view? number = some (first, content))
      (view : machine.files.view? number = some (now, content)) (reads : now.access.reads = true)
      (sum : content.drop first.offset = received ++ content.drop now.offset)
      (ended : told = true → content.drop now.offset = []) : Drawn start machine received told (.file number)
  | pipe (object : Object) (pipe : Nat) (found : Pipe) (reads : object.includes (.readEnd pipe) = true)
      (older : pipe < start.nextPipe) (there : machine.pipes[pipe]? = some found) (waits : found.readsAtOnce = false)
      (filled : found.Filled)
      (ended : told = true → found.content = [] ∧ machine.holds (.writeEnd pipe) = false) :
      Drawn start machine received told object

/-- What has become of a sink to which some bytes were written. -/
inductive Added (start machine : Machine τ) (written : Bytes) : Object → Prop where
  | file (number : Nat) (first now : Opening) (content : Bytes)
      (began : start.files.view? number = some (first, content))
      (view : machine.files.view? number = some (now, content ++ written)) (writes : now.access.writes = true)
      (atEnd : now.access = .append ∨ now.offset = (content ++ written).length) :
      Added start machine written (.file number)
  | pipe (object : Object) (pipe : Nat) (found : Pipe) (writes : object.includes (.writeEnd pipe) = true)
      (older : pipe < start.nextPipe) (there : machine.pipes[pipe]? = some found)
      (waits : found.writesAtOnce = false) : Added start machine written object

namespace Drawn

theorem begin (source : Source start object) (known : ∀ pipe, object.pipe? = some pipe → pipe < start.nextPipe) :
    Drawn start start [] false object := by
  cases source with
  | file number opening content view reads =>
    exact .file number opening opening content view view reads rfl (by simp)
  | pipe object pipe found reads there waits filled =>
    exact .pipe object pipe found reads (known pipe (Object.of_includes_readEnd reads).1) there waits filled (by simp)

theorem source (drawn : Drawn start machine received told object) : Source machine object := by
  cases drawn with
  | file number first now content began view reads sum ended => exact .file number now content view reads
  | pipe object pipe found reads older there waits filled ended =>
    exact .pipe object pipe found reads there waits filled

/-- Behind the end of the source nothing comes any more. -/
theorem dry (drawn : Drawn start machine received told object) (isTold : told = true) : Dry machine object := by
  cases drawn with
  | file number first now content began view reads sum ended =>
    refine ⟨fun other opening given same seen => ?_, fun pipe found includes => by cases includes⟩
    cases same
    rw [view] at seen
    cases seen
    exact ended isTold
  | pipe object pipe found reads older there waits filled ended =>
    refine ⟨fun other opening given same => ?_, fun other given includes present => ?_⟩
    · subst same
      cases reads
    · have same := (Object.of_includes_readEnd reads).1.symm.trans (Object.of_includes_readEnd includes).1
      cases same
      rw [there] at present
      cases present
      exact (ended isTold).1

/-- A move by which some bytes are read from the source, and perhaps its end is told. -/
theorem step (drawn : Drawn start machine received told object) (positive : 0 < machine.shape.pageSize)
    (older : start.nextPipe ≤ machine.nextPipe) (remains : Remains mover machine after)
    (file : ∀ (number : Nat) (now : Opening) (content : Bytes), object = .file number →
      machine.files.view? number = some (now, content) → now.access.reads = true →
      ∃ offset, after.files.view? number = some ({ now with offset }, content) ∧
        content.drop now.offset = taken ++ content.drop offset ∧ (isEnd = true → content.drop now.offset = []))
    (pipe : ∀ (pipe : Nat) (found : Pipe), object.includes (.readEnd pipe) = true →
      machine.pipes[pipe]? = some found → found.Filled → isEnd = true →
      found.content = [] ∧ machine.holds (.writeEnd pipe) = false) :
    Drawn start after (received ++ taken) (told || isEnd) object := by
  cases drawn with
  | file number first now content began view reads sum ended =>
    obtain ⟨offset, seen, whole, last⟩ := file number now content rfl view reads
    refine .file number first { now with offset } content began seen reads ?_ fun isTold => ?_
    · rw [sum, whole, List.append_assoc]
    · have nothing : content.drop now.offset = [] := by
        rcases Bool.or_eq_true_iff.mp isTold with before | isNow
        · exact ended before
        · exact last isNow
      rw [nothing] at whole
      exact (List.append_eq_nil_iff.mp whole.symm).2
  | pipe object number found reads old there waits filled ended =>
    obtain ⟨replaced, now, readsAtOnce, -, fills⟩ := remains.ways (Nat.lt_of_lt_of_le old older) there
    refine .pipe object number replaced reads old now (readsAtOnce.trans waits) (fills positive filled) fun isTold => ?_
    have before : found.content = [] ∧ machine.holds (.writeEnd number) = false := by
      rcases Bool.or_eq_true_iff.mp isTold with before | isNow
      · exact ended before
      · exact pipe number found reads there filled isNow
    obtain ⟨nothing, unheld⟩ := before
    exact ⟨remains.stays_empty (Nat.lt_of_lt_of_le old older) there nothing unheld now,
      remains.unheld _ number rfl (Nat.lt_of_lt_of_le old older) unheld⟩

/-- A move by which nothing is read from the source. -/
theorem idle (drawn : Drawn start machine received told object) (positive : 0 < machine.shape.pageSize)
    (older : start.nextPipe ≤ machine.nextPipe) (remains : Remains mover machine after)
    (same : ∀ number, object = .file number → after.files.view? number = machine.files.view? number) :
    Drawn start after received told object := by
  have still : Drawn start after (received ++ []) (told || false) object := by
    refine drawn.step positive older remains (fun number now content isFile view _ => ?_) (by simp)
    exact ⟨now.offset, (same number isFile).trans view, rfl, by simp⟩
  simpa using still

end Drawn

namespace Added

theorem begin (sink : Sink start object) (known : ∀ pipe, object.pipe? = some pipe → pipe < start.nextPipe) :
    Added start start [] object := by
  cases sink with
  | file number opening content view writes atEnd =>
    exact .file number opening opening content view (by rw [List.append_nil, view]) writes (by rwa [List.append_nil])
  | pipe object pipe found writes there waits =>
    exact .pipe object pipe found writes (known pipe (Object.of_includes_writeEnd writes).1) there waits

theorem sink (added : Added start machine written object) : Sink machine object := by
  cases added with
  | file number first now content began view writes atEnd => exact .file number now _ view writes atEnd
  | pipe object pipe found writes older there waits => exact .pipe object pipe found writes there waits

/-- A move by which some bytes are written to the sink. -/
theorem step (added : Added start machine written object) (older : start.nextPipe ≤ machine.nextPipe)
    (remains : Remains mover machine after)
    (file : ∀ (number : Nat) (now : Opening) (content : Bytes), object = .file number →
      machine.files.view? number = some (now, content) → now.access.writes = true →
      now.access = .append ∨ now.offset = content.length →
      ∃ offset, after.files.view? number = some ({ now with offset }, content ++ bytes) ∧
        (now.access = .append ∨ offset = (content ++ bytes).length)) :
    Added start after (written ++ bytes) object := by
  cases added with
  | file number first now content began view writes atEnd =>
    obtain ⟨offset, seen, stands⟩ := file number now _ rfl view writes atEnd
    rw [List.append_assoc] at seen stands
    exact .file number first { now with offset } content began seen writes stands
  | pipe object number found writes old there waits =>
    obtain ⟨replaced, now, -, writesAtOnce, -⟩ := remains.ways (Nat.lt_of_lt_of_le old older) there
    exact .pipe object number replaced writes old now (writesAtOnce.trans waits)

/-- A move by which nothing is written to the sink. -/
theorem idle (added : Added start machine written object) (older : start.nextPipe ≤ machine.nextPipe)
    (remains : Remains mover machine after)
    (same : ∀ number, object = .file number → after.files.view? number = machine.files.view? number) :
    Added start after written object := by
  have still : Added start after (written ++ []) object := by
    refine added.step older remains fun number now content isFile view _ atEnd => ⟨now.offset, ?_, ?_⟩
    · rw [same number isFile, view, List.append_nil]
    · rwa [List.append_nil]
  simpa using still

end Added

section carries

variable {process : Process (Program τ)} {ended : Bool} {pipes : Std.ExtTreeMap Nat Pipe} {files : Files} {number : Nat}
  {now : Opening} {content : Bytes} (carries : Carries machine process taken bytes ended pipes files)

include carries

/-- A process carries nothing through files but those behind its standard streams. -/
theorem Carries.touched :
    machine.files.Touched
      (fun opening => System.opening? process 0 = some opening ∨ System.opening? process 1 = some opening) files := by
  cases carries with
  | readFile opening limit data files isFile read => exact .read opening limit taken files (.inl isFile) read
  | wroteFile opening data files isFile wrote => exact .wrote opening _ bytes files (.inr isFile) wrote
  | _ => exact .same

/-- Who is told of the end of its input has one. -/
theorem Carries.entry_of_ended (isEnded : ended = true) : ∃ entry, process.descriptors[0]? = some entry := by
  cases carries with
  | ended pipe found inlet empty unwritten =>
    obtain ⟨entry, isOpen, -⟩ := System.descriptor_of_inlet inlet
    exact ⟨entry, isOpen⟩
  | drew pipe found limit inlet positive nonempty =>
    obtain ⟨entry, isOpen, -⟩ := System.descriptor_of_inlet inlet
    exact ⟨entry, isOpen⟩
  | readFile opening limit data files isFile read =>
    obtain ⟨entry, isOpen, -⟩ := System.descriptor_of_opening isFile
    exact ⟨entry, isOpen⟩
  | _ => cases isEnded

/-- What is read of a file comes next in it, and its end is told where it is. -/
theorem Carries.drawn_file (isInput : ∀ entry, process.descriptors[0]? = some entry → entry.object = .file number)
    (foreign : ∀ opening, System.opening? process 1 = some opening →
      machine.files.fileOf? opening ≠ machine.files.fileOf? number)
    (view : machine.files.view? number = some (now, content)) (reads : now.access.reads = true) :
    ∃ offset, files.view? number = some ({ now with offset }, content) ∧
      content.drop now.offset = taken ++ content.drop offset ∧ (ended = true → content.drop now.offset = []) := by
  have noPipe : ∀ {pipe : Nat} {found : Pipe}, machine.inlet? process 0 ≠ some (pipe, found) := by
    intro pipe found inlet
    obtain ⟨entry, isOpen, includes, -⟩ := System.descriptor_of_inlet inlet
    rw [isInput entry isOpen] at includes
    cases includes
  cases carries with
  | idle => exact ⟨now.offset, view, rfl, by simp⟩
  | ended pipe found inlet empty unwritten => exact absurd inlet noPipe
  | drew pipe found limit inlet positive nonempty => exact absurd inlet noPipe
  | poured pipe found replaced bytes outlet poured => exact ⟨now.offset, view, rfl, by simp⟩
  | readFile opening limit data files isFile read =>
    obtain ⟨entry, isOpen, same⟩ := System.descriptor_of_opening isFile
    rw [isInput entry isOpen] at same
    cases same
    obtain ⟨rfl, seen⟩ := Files.view?_read_self view reads read
    refine ⟨_, seen, ?_, fun last => ?_⟩
    · rw [← List.drop_drop]
      have size : ((content.drop now.offset).take limit).length ≤ limit := List.length_take_le _ _
      by_cases more : limit ≤ (content.drop now.offset).length
      · rw [List.length_take, Nat.min_eq_left more, List.take_append_drop]
      · rw [List.take_of_length_le (by omega), List.drop_length, List.append_nil]
    · obtain ⟨positive, nothing⟩ := Bool.and_eq_true_iff.mp last
      rcases List.take_eq_nil_iff.mp (List.isEmpty_iff.mp nothing) with zero | empty
      · rw [zero] at positive
        cases positive
      · exact empty
  | wroteFile opening data files isFile wrote =>
    exact ⟨now.offset, (Files.view?_write (foreign opening isFile) wrote).trans view, rfl, by simp⟩

/-- The end of a pipe is told when it is empty and nobody can write to it. -/
theorem Carries.drawn_pipe {pipe : Nat} {found : Pipe}
    (isInput : ∀ entry, process.descriptors[0]? = some entry → entry.object = object)
    (reads : object.includes (.readEnd pipe) = true) (there : machine.pipes[pipe]? = some found) (filled : found.Filled)
    (isEnded : ended = true) : found.content = [] ∧ machine.holds (.writeEnd pipe) = false := by
  have same : ∀ {other : Nat} {given : Pipe}, machine.inlet? process 0 = some (other, given) →
      pipe = other ∧ found = given := by
    intro other given inlet
    obtain ⟨entry, isOpen, includes, present⟩ := System.descriptor_of_inlet inlet
    rw [isInput entry isOpen] at includes
    have named := (Object.of_includes_readEnd reads).1.symm.trans (Object.of_includes_readEnd includes).1
    cases named
    rw [there] at present
    cases present
    exact ⟨rfl, rfl⟩
  cases carries with
  | ended other given inlet empty unwritten =>
    obtain ⟨rfl, rfl⟩ := same inlet
    exact ⟨by rw [Pipe.content, empty]; rfl, unwritten⟩
  | drew other given limit inlet positive nonempty =>
    obtain ⟨rfl, rfl⟩ := same inlet
    exact absurd (List.isEmpty_iff.mp isEnded) (Pipe.take_ne_nil filled nonempty positive)
  | readFile opening limit data files isFile read =>
    obtain ⟨entry, isOpen, isFile⟩ := System.descriptor_of_opening isFile
    rw [← isInput entry isOpen, isFile] at reads
    cases reads
  | _ => cases isEnded

/-- What is written to a file that stands at its end is added to it. -/
theorem Carries.added_file (isOutput : ∀ entry, process.descriptors[1]? = some entry → entry.object = .file number)
    (foreign : ∀ opening, System.opening? process 0 = some opening →
      machine.files.fileOf? opening ≠ machine.files.fileOf? number)
    (view : machine.files.view? number = some (now, content)) (writes : now.access.writes = true)
    (atEnd : now.access = .append ∨ now.offset = content.length) :
    ∃ offset, files.view? number = some ({ now with offset }, content ++ bytes) ∧
      (now.access = .append ∨ offset = (content ++ bytes).length) := by
  have still : files.view? number = machine.files.view? number → bytes = [] →
      ∃ offset, files.view? number = some ({ now with offset }, content ++ bytes) ∧
        (now.access = .append ∨ offset = (content ++ bytes).length) := by
    rintro same rfl
    refine ⟨now.offset, ?_, ?_⟩
    · rw [same, view, List.append_nil]
    · rwa [List.append_nil]
  cases carries with
  | poured pipe found replaced bytes outlet poured =>
    obtain ⟨entry, isOpen, includes, -⟩ := System.descriptor_of_outlet outlet
    rw [isOutput entry isOpen] at includes
    cases includes
  | readFile opening limit data files isFile read =>
    refine still (Files.view?_read ?_ read) rfl
    rintro rfl
    exact foreign opening isFile rfl
  | wroteFile opening data files isFile wrote =>
    obtain ⟨entry, isOpen, same⟩ := System.descriptor_of_opening isFile
    rw [isOutput entry isOpen] at same
    cases same
    obtain ⟨after, written, offset, seen, stands⟩ := Files.write_of_view machine.now bytes view writes atEnd
    rw [wrote] at written
    cases written
    exact ⟨offset, seen, stands⟩
  | _ => exact still rfl rfl

end carries

end Pipework
