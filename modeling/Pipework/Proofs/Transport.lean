import Pipework.Proofs.Conversing

set_option autoImplicit false

/-!
Lossless transport. Whatever the stages are and in whichever order the processes move, each stage reads what the stage
before it has written, in order and from the beginning, and is told of an end only when it has read all of it and no
more will come. So a run whose stages read their input to the end and that succeeds comes to the composition of the
stream functions of its stages (`lossless_transport`).
-/

namespace Pipework

open Kernel

/-- What comes out of so many stages, one behind the other, when these are their stream functions. -/
def composed (functions : Nat → Bytes → Bytes) (count : Nat) (input : Bytes) : Bytes :=
  (List.range count).foldl (fun bytes index => functions index bytes) input

theorem composed_succ (functions : Nat → Bytes → Bytes) (count : Nat) (input : Bytes) :
    composed functions (count + 1) input = functions count (composed functions count input) := by
  rw [composed, List.range_succ, List.foldl_append]
  rfl

variable {τ : Type} {images : Behaviour τ} {functions : Nat → Bytes → Bytes} {host : Nat} {stages : List Stage}
  {base : DescriptorTable} {input output : Object} {start machine : Machine τ} {chronicle : Chronicle}
  {executor : Process (Program τ)}

namespace Standing

variable (standing : Standing images host stages base start chronicle machine)

include standing

/-- What a stage has read is the beginning of what the stage before it has written; the rest is in the channel. -/
theorem in_order {place : Nat} (further : place + 1 < stages.length) :
    ∃ rest, Machine.sentAt images chronicle machine place = chronicle.readAt (place + 1) ++ rest ∧
      ∀ channel : Nat, chronicle.channels[place]? = some channel →
        ∃ found : Pipe, machine.pipes[channel]? = some found ∧ found.content = rest := by
  cases isChannel : chronicle.channels[place]? with
  | some channel =>
    obtain ⟨found, there, balanced⟩ := standing.ledger.balanced place channel isChannel
    refine ⟨found.content, balanced.book, fun same isSame => ?_⟩
    cases isSame
    exact ⟨found, there, rfl⟩
  | none =>
    -- The stages around a channel that is not open yet are not made, either.
    have unopened := List.getElem?_eq_none_iff.mp isChannel
    have unmade : chronicle.children.length ≤ place := by
      refine Nat.le_of_not_lt fun isMade => ?_
      have := standing.underway.behind place isMade further
      omega
    refine ⟨[], ?_, fun channel isSome => by cases isSome⟩
    simp [Machine.sentAt, Chronicle.readAt, List.getElem?_eq_none unmade,
      List.getElem?_eq_none (show chronicle.children.length ≤ place + 1 by omega)]

/-- A stage that is told of the end of its input has read all that the stage before it has written, and that one writes
no more. -/
theorem end_of_stream {place : Nat} (further : place + 1 < stages.length) (told : chronicle.toldAt (place + 1) = true) :
    chronicle.readAt (place + 1) = Machine.sentAt images chronicle machine place ∧
      ∃ number, chronicle.children[place]? = some number ∧
        ∀ process, machine.processes[number]? = some process →
          process.ending ≠ none ∨ process.descriptors[1]? = none := by
  have within := Chronicle.lt_of_toldAt told
  have isMade : place < chronicle.children.length := by omega
  have isChannel := List.getElem?_eq_getElem (standing.underway.behind place isMade further)
  obtain ⟨found, -, balanced⟩ := standing.ledger.balanced place _ isChannel
  obtain ⟨nothing, silent⟩ := balanced.ended told
  refine ⟨by rw [balanced.book, nothing, List.append_nil], _, List.getElem?_eq_getElem isMade, fun process present => ?_⟩
  exact (silent _ process (List.getElem?_eq_getElem isMade) present).imp id fun closed => closed.2

end Standing

/-- What the stages of a run have made of its input when all of them have ended. -/
theorem Conversing.composes
    (conversing : Conversing images functions host stages input output start chronicle machine)
    (standing : Standing images host stages base start chronicle machine)
    (complete : chronicle.children.length = stages.length)
    (gone : ∀ number ∈ chronicle.children, machine.processes[number]? = none)
    (told : ∀ index, index < stages.length → chronicle.toldAt index = true)
    (heard : ∀ pipe, output.includes (.writeEnd pipe) = true → machine.holds (.readEnd pipe) = true) :
    ∀ index, index < stages.length →
      Machine.sentAt images chronicle machine index = composed functions (index + 1) (chronicle.readAt 0) := by
  have computed : ∀ index, index < stages.length →
      Machine.sentAt images chronicle machine index = functions index (chronicle.readAt index) := by
    intro index within
    obtain ⟨number, isChild⟩ : ∃ number, chronicle.children[index]? = some number :=
      ⟨_, List.getElem?_eq_getElem (complete ▸ within)⟩
    have absent := gone number (List.mem_of_getElem? isChild)
    have isTold : chronicle.isTold number = true := by
      simpa [Chronicle.toldAt, isChild] using told index within
    have sent : Machine.sentAt images chronicle machine index = chronicle.written number := by
      rw [Machine.sentAt, isChild, Option.elim_some, Machine.sent, Machine.begun_absent absent, List.append_nil]
    have read : chronicle.readAt index = chronicle.received number := by
      rw [Chronicle.readAt, isChild, Option.elim_some]
    rw [sent, read]
    refine ((conversing.spoken index number isChild).done (by simp [absent]) isTold).resolve_left ?_
    rintro (⟨-, pipe, writes, unread⟩ | ⟨channel, isChannel, -, untold⟩)
    · rw [heard pipe writes] at unread
      cases unread
    · have opened := (List.getElem?_eq_some_iff.mp isChannel).1
      have few := standing.underway.channels_le
      rw [told (index + 1) (by omega)] at untold
      cases untold
  intro index
  induction index with
  | zero =>
    intro within
    rw [computed 0 within, composed_succ]
    rfl
  | succ index ih =>
    intro within
    calc Machine.sentAt images chronicle machine (index + 1)
        = functions (index + 1) (chronicle.readAt (index + 1)) := computed (index + 1) within
      _ = functions (index + 1) (Machine.sentAt images chronicle machine index) := by
        rw [(standing.end_of_stream within (told (index + 1) within)).1]
      _ = functions (index + 1) (composed functions (index + 1) (chronicle.readAt 0)) := by rw [ih (by omega)]
      _ = composed functions (index + 1 + 1) (chronicle.readAt 0) := (composed_succ _ _ _).symm

/-- A run all of whose stages were told of the end of their input has lost none. -/
theorem not_lost_of_told (complete : chronicle.children.length = stages.length)
    (told : ∀ index, index < stages.length → chronicle.toldAt index = true) : ¬ Lost chronicle machine := by
  rintro ⟨number, member, unheard, -⟩
  obtain ⟨index, isChild⟩ := List.mem_iff_getElem?.mp member
  have isTold := told index (complete ▸ (List.getElem?_eq_some_iff.mp isChild).1)
  rw [Chronicle.toldAt, isChild, Option.elim_some, Chronicle.isTold, unheard] at isTold
  cases isTold

/-- All along a run each stage reads what the stage before it has written, in order and from the beginning: what it has
not read yet is in the channel between them, and nothing else is. It is told of an end only when it has read all of it,
and the stage before it has ended or closed its standard output. Hence a run that succeeds, and whose stages have all
read their input to its end, has written the composition of their stream functions, whoever moved when. -/
theorem lossless_transport (filters : images.Filters) (ready : Ready host stages executor start)
    (roomy : 0 < start.shape.capacity) (course : Course images host start chronicle machine) :
    (∀ place, place + 1 < stages.length →
      chronicle.readAt (place + 1) <+: Machine.sentAt images chronicle machine place ∧
      (∀ channel : Nat, chronicle.channels[place]? = some channel →
        ∃ found : Pipe, machine.pipes[channel]? = some found ∧
          Machine.sentAt images chronicle machine place = chronicle.readAt (place + 1) ++ found.content) ∧
      (chronicle.toldAt (place + 1) = true →
        chronicle.readAt (place + 1) = Machine.sentAt images chronicle machine place ∧
        ∃ number, chronicle.children[place]? = some number ∧
          ∀ process, machine.processes[number]? = some process →
            process.ending ≠ none ∨ process.descriptors[1]? = none)) ∧
    (∀ (functions : Nat → Bytes → Bytes) (input output : Object) (run : Run) (report : Report),
      Provides images host stages start functions → Attached host executor input output start → stages ≠ [] →
      machine.run? host = some run → run.outcome? = some (.ok report) →
      (∀ index, index < stages.length → chronicle.toldAt index = true) →
      (∀ pipe, output.includes (.writeEnd pipe) = true → machine.holds (.readEnd pipe) = true) →
      Machine.sentAt images chronicle machine (stages.length - 1) =
          composed functions stages.length (chronicle.readAt 0) ∧
        (∀ number opening content, input = .file number → start.files.view? number = some (opening, content) →
          chronicle.readAt 0 = content.drop opening.offset) ∧
        ∀ number opening content, output = .file number → start.files.view? number = some (opening, content) →
          ∃ now, machine.files.view? number =
            some (now, content ++ composed functions stages.length (chronicle.readAt 0))) := by
  have positive : 0 < start.shape.pageSize := Nat.pos_of_mul_pos_left roomy
  have standing := ready.standing filters positive course
  refine ⟨fun place further => ⟨?_, fun channel isChannel => ?_, standing.end_of_stream further⟩, ?_⟩
  · obtain ⟨rest, sum, -⟩ := standing.in_order further
    exact ⟨rest, sum.symm⟩
  · obtain ⟨rest, sum, inChannel⟩ := standing.in_order further
    obtain ⟨found, there, content⟩ := inChannel channel isChannel
    exact ⟨found, there, content ▸ sum⟩
  · intro functions input output run report provides attached nonempty runs succeeded told heard
    have finished := Run.control_of_outcome? succeeded
    obtain ⟨complete, -, gone⟩ := ready.all_gone filters course nonempty runs finished
    have conversing := (ready.conversing filters positive attached provides course).resolve_left
      (not_lost_of_told complete told)
    have size : stages.length - 1 + 1 = stages.length := by
      have := List.length_pos_iff.mpr nonempty
      omega
    have whole := conversing.composes standing complete gone told heard (stages.length - 1) (by omega)
    rw [size] at whole
    refine ⟨whole, fun number opening content isFile view => ?_, fun number opening content isFile view => ?_⟩
    · have drawn := conversing.drawn
      rw [isFile] at drawn
      cases drawn with
      | file _ first now given began seen reads sum ended =>
        rw [view] at began
        cases began
        rw [sum, ended (told 0 (by omega)), List.append_nil]
      | pipe _ pipe found reads => cases reads
    · have added := conversing.added
      rw [isFile] at added
      cases added with
      | file _ first now given began seen writes atEnd =>
        rw [view] at began
        cases began
        exact ⟨now, whole ▸ seen⟩
      | pipe _ pipe found writes => cases writes

/-- The streams of copiers are two files, and nobody else is there. -/
theorem attached_copying (count : Nat) :
    Attached 1 (copyingExecutor copiedStreams count) (.file 0) (.file 1) (Machine.copying copiedStreams count) where
  stdin := by rfl
  stdout := by rfl
  source := .file 0 ⟨0, 0, .read⟩ [7, 8, 9] (by rfl) rfl
  sink := .file 1 ⟨1, 0, .append⟩ [6] (by rfl) rfl (.inl rfl)
  apart := by
    intro opening isFirst number isSecond
    cases isFirst
    cases isSecond
    have apart : copiedFiles.fileOf? 0 ≠ copiedFiles.fileOf? 1 := by decide
    exact apart
  strangers number process opening present notHost _ := absurd (processes_copying present).1 notHost

/-- Two copiers, between which there is room for a single byte, append what there is to be read to a file. -/
theorem lossless_transport_of_copiers :
    ∃ (chronicle : Chronicle) (machine : Machine (Option Bytes)) (now : Opening),
      Course copier 1 (.copying copiedStreams 2) chronicle machine ∧
      chronicle.readAt 1 = Machine.sentAt copier chronicle machine 0 ∧
      machine.files.view? 1 = some (now, [6, 7, 8, 9]) := by
  obtain ⟨chronicle, machine, course, checked⟩ := Course.exists_of_follow copier 1 (.copying copiedStreams 2)
    ([1, 1, 1, 1, 1, 2, 2, 2, 2, 2, 2, 3, 3, 3, 3, 3, 2, 2, 3, 3, 2, 2, 2, 1, 3, 3, 3, 3, 1, 1].map .step)
    (fun chronicle machine =>
      (machine.run? 1).any (fun run => run.outcome?.any fun outcome => outcome.toOption.isSome) &&
        chronicle.toldAt 0 && chronicle.toldAt 1) (by decide +kernel)
  simp only [Bool.and_eq_true, Option.any_eq_true, Option.isSome_iff_exists] at checked
  obtain ⟨⟨⟨run, runs, outcome, ended, report, succeeded⟩, first⟩, second⟩ := checked
  have succeeded : run.outcome? = some (.ok report) := by
    cases outcome with
    | error fault => cases succeeded
    | ok given =>
      cases succeeded
      exact ended
  have provides : Provides copier 1 ((List.range 2).map copierStage) (Machine.copying copiedStreams 2) fun _ => id := by
    intro chronicle machine index number stage process state _ _ _ _ loads
    cases loads
    exact copier_computes
  have told : ∀ index, index < 2 → chronicle.toldAt index = true := by
    intro index within
    obtain rfl | rfl : index = 0 ∨ index = 1 := by omega
    · exact first
    · exact second
  obtain ⟨inOrder, comes⟩ := lossless_transport copier_filters (Ready.copying 2 fun _ => Ready.pipe?_of_copiedStreams)
    (by decide) course
  obtain ⟨-, read, added⟩ := comes (fun _ => id) (.file 0) (.file 1) run report provides (attached_copying 2) (by decide)
    runs succeeded told (by simp [Object.includes])
  obtain ⟨now, seen⟩ := added 1 ⟨1, 0, .append⟩ [6] rfl rfl
  rw [read 0 ⟨0, 0, .read⟩ [7, 8, 9] rfl rfl] at seen
  exact ⟨chronicle, machine, now, course, ((inOrder 0 (by decide)).2.2 second).1, seen⟩

end Pipework
