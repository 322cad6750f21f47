import Pipework.Proofs.Confinement

set_option autoImplicit false

/-!
Who holds the endpoints of a run. In every course the write end of a channel is held by the executor and the stage
before the channel at most, the read end by the executor and the stage behind it, and until it loads its program by
the stage before it; and the executor lets go of them in time. So in the end every stage sees the end of its input
when the stage before it is done.
-/

namespace Pipework

open Kernel

variable {τ : Type} {images : Behaviour τ} {host floor : Nat} {stages : List Stage} {base : DescriptorTable}
  {children channels : List Nat} {machine : Machine τ}

namespace Confined

variable {number place channel : Nat} {process : Process (Program τ)}

/-- Who holds the write end of a channel: the executor or the stage before it. -/
theorem holder_of_write (confined : Confined host floor base children channels machine)
    (isChannel : channels[place]? = some channel) (present : machine.processes[number]? = some process)
    (holds : process.descriptors.refersTo (.writeEnd channel) = true) :
    number = host ∨ children[place]? = some number := by
  obtain ⟨whole, has, includes⟩ := DescriptorTable.refersTo_iff.mp holds
  obtain ⟨isPipe, notRead⟩ := Object.of_includes_writeEnd includes
  have proper := confined.proper number process present
  by_cases isHost : number = host
  · exact .inl isHost
  by_cases isChild : number ∈ children
  · obtain ⟨index, isChild⟩ := List.mem_iff_getElem?.mp isChild
    rcases proper.placed index place whole channel isChild isChannel has isPipe with ⟨-, rfl⟩ | ⟨read, -⟩
    · exact .inr isChild
    · exact absurd read notRead
  · exact absurd (List.mem_of_getElem? isChannel) (proper.strange isHost isChild whole channel has isPipe)

/-- Who holds the read end of a channel: the executor, the stage behind it, or the stage before it on its way to its
program. -/
theorem holder_of_read (confined : Confined host floor base children channels machine)
    (isChannel : channels[place]? = some channel) (present : machine.processes[number]? = some process)
    (holds : process.descriptors.refersTo (.readEnd channel) = true) :
    number = host ∨ (children[place]? = some number ∧ ∃ startup, process.program = .startup startup) ∨
      children[place + 1]? = some number := by
  obtain ⟨whole, has, includes⟩ := DescriptorTable.refersTo_iff.mp holds
  obtain ⟨isPipe, notWrite⟩ := Object.of_includes_readEnd includes
  have proper := confined.proper number process present
  by_cases isHost : number = host
  · exact .inl isHost
  by_cases isChild : number ∈ children
  · obtain ⟨index, isChild⟩ := List.mem_iff_getElem?.mp isChild
    rcases proper.placed index place whole channel isChild isChannel has isPipe with ⟨write, -⟩ | ⟨-, rfl | ⟨rfl, early⟩⟩
    · exact absurd write notWrite
    · exact .inr (.inr isChild)
    · exact .inr (.inl ⟨isChild, early⟩)
  · exact absurd (List.mem_of_getElem? isChannel) (proper.strange isHost isChild whole channel has isPipe)

/-- The executor holds an end of a channel only while it spawns the stages around it. -/
theorem held_by_executor {executor : Process (Program τ)} {run : Run} {object : Object}
    (confined : Confined host floor base children channels machine)
    (executes : Executes stages base children channels run executor) (isChannel : channels[place]? = some channel)
    (has : executor.descriptors.Has object) (isPipe : object.pipe? = some channel) :
    run.phase = .spawning run.index ∧
      (object = .readEnd channel ∧ (place + 1 = run.index ∨ place = run.index) ∨
        object = .writeEnd channel ∧ place = run.index) := by
  rcases executes.adds.has has with old | ⟨number, isHeld⟩
  · exact absurd old (confined.not_old isChannel isPipe)
  · obtain ⟨spawning, other, given, found, ends⟩ := Run.place_of_held executes.fits isHeld
    refine ⟨spawning, ?_⟩
    rcases ends with ⟨rfl, near⟩ | ⟨rfl, behind⟩
    · cases isPipe
      obtain rfl := confined.place_unique isChannel found
      exact .inl ⟨rfl, near⟩
    · cases isPipe
      obtain rfl := confined.place_unique isChannel found
      exact .inr ⟨rfl, behind⟩

end Confined

/-- The endpoints of a run, in every course and whoever moves: each is held by the executor and the stages that it is
for at most; the executor has let go of a write end when it opens the next channel or makes the next process, and of
a read end when it turns to the stage after the next or to waiting; and when it waits and all stages have loaded their
programs or ended, only the stage that writes to a channel and the one that reads from it hold its ends. -/
theorem endpoints_owned {executor : Process (Program τ)} {start : Machine τ} {chronicle : Chronicle}
    (filters : images.Filters) (ready : Ready host stages executor start)
    (course : Course images host start chronicle machine) :
    (∀ (place channel number : Nat) (process : Process (Program τ)), chronicle.channels[place]? = some channel →
      machine.processes[number]? = some process →
      (process.descriptors.refersTo (.writeEnd channel) = true →
        number = host ∨ chronicle.children[place]? = some number) ∧
      (process.descriptors.refersTo (.readEnd channel) = true →
        number = host ∨
        (chronicle.children[place]? = some number ∧ ∃ startup, process.program = .startup startup) ∨
        chronicle.children[place + 1]? = some number)) ∧
    (∀ (process : Process (Program τ)) (run : Run) (place channel : Nat), machine.processes[host]? = some process → process.program = .executor run →
      chronicle.channels[place]? = some channel →
      (∀ index, run.next = some .pipe ∨ run.next = some .fork → run.phase = .spawning index → place < index →
        process.descriptors.refersTo (.writeEnd channel) = false) ∧
      ((∃ index, run.phase = .spawning index ∧ place + 2 ≤ index) ∨ run.phase = .reaping ∨ run.phase = .idle →
        process.descriptors.refersTo (.readEnd channel) = false)) ∧
    (∀ (executor : Process (Program τ)) (run : Run), machine.processes[host]? = some executor → executor.program = .executor run →
      run.phase = .reaping →
      (∀ child ∈ chronicle.children, ∀ process : Process (Program τ), machine.processes[child]? = some process →
        process.ending ≠ none ∨ ∃ state, process.program = .image state) →
      ∀ (place channel number : Nat) (process : Process (Program τ)), chronicle.channels[place]? = some channel →
        machine.processes[number]? = some process →
        (process.descriptors.refersTo (.writeEnd channel) = true → chronicle.children[place]? = some number) ∧
        (process.descriptors.refersTo (.readEnd channel) = true → chronicle.children[place + 1]? = some number)) := by
  obtain ⟨underway, confined⟩ := ready.course filters course
  have executes : ∀ (process : Process (Program τ)) (run : Run), machine.processes[host]? = some process →
      process.program = .executor run →
      Executes stages executor.descriptors chronicle.children chronicle.channels run process := by
    intro process run present program
    obtain ⟨given, same, executes⟩ := underway.executor process present
    rw [program, Program.executor.injEq] at same
    exact same ▸ executes ((confined.proper host process present).executor rfl).1
  have waits : ∀ (process : Process (Program τ)) (run : Run) (place channel : Nat) (object : Object),
      machine.processes[host]? = some process → process.program = .executor run → run.phase = .reaping →
      chronicle.channels[place]? = some channel → object.pipe? = some channel → ¬ process.descriptors.Has object := by
    intro process run place channel object present program waiting isChannel isPipe has
    have spawning := (confined.held_by_executor (executes process run present program) isChannel has isPipe).1
    rw [waiting] at spawning
    cases spawning
  refine ⟨?_, ?_, ?_⟩
  · intro place channel number process isChannel present
    exact ⟨confined.holder_of_write isChannel present, confined.holder_of_read isChannel present⟩
  · intro process run place channel present program isChannel
    have held := fun (object : Object) (has : process.descriptors.Has object) =>
      confined.held_by_executor (executes process run present program) isChannel has
    refine ⟨fun index _ spawning passed => ?_, fun late => ?_⟩
    · rw [← Bool.not_eq_true]
      intro holds
      obtain ⟨whole, has, includes⟩ := DescriptorTable.refersTo_iff.mp holds
      obtain ⟨isPipe, notRead⟩ := Object.of_includes_writeEnd includes
      obtain ⟨same, ⟨read, -⟩ | ⟨-, behind⟩⟩ := held whole has isPipe
      · exact notRead read
      · rw [spawning, Phase.spawning.injEq] at same
        omega
    · rw [← Bool.not_eq_true]
      intro holds
      obtain ⟨whole, has, includes⟩ := DescriptorTable.refersTo_iff.mp holds
      obtain ⟨isPipe, notWrite⟩ := Object.of_includes_readEnd includes
      obtain ⟨same, ⟨-, near⟩ | ⟨write, -⟩⟩ := held whole has isPipe
      · rw [same] at late
        rcases late with ⟨index, spawning, far⟩ | waiting | idle
        · rw [Phase.spawning.injEq] at spawning
          omega
        · cases waiting
        · cases idle
      · exact notWrite write
  · intro process run present program waiting settled place channel number other isChannel there
    have notHost : ∀ object, object.pipe? = some channel → other.descriptors.Has object → number ≠ host := by
      rintro object isPipe has rfl
      obtain rfl : process = other := by rwa [present, Option.some.injEq] at there
      exact waits process run place channel object present program waiting isChannel isPipe has
    refine ⟨fun holds => ?_, fun holds => ?_⟩
    · obtain ⟨whole, has, includes⟩ := DescriptorTable.refersTo_iff.mp holds
      exact (confined.holder_of_write isChannel there holds).resolve_left
        (notHost whole (Object.of_includes_writeEnd includes).1 has)
    · obtain ⟨whole, has, includes⟩ := DescriptorTable.refersTo_iff.mp holds
      rcases (confined.holder_of_read isChannel there holds).resolve_left
        (notHost whole (Object.of_includes_readEnd includes).1 has) with ⟨isChild, startup, early⟩ | behind
      · rcases settled number (List.mem_of_getElem? isChild) other there with ended | ⟨state, image⟩
        · rw [(confined.proper number other there).ended ended] at has
          exact absurd has (DescriptorTable.not_has_empty whole)
        · rw [early] at image
          cases image
      · exact behind

/-- While the first of two stages still has both ends of the channel, and the executor the read end, nobody but the
executor and the first stage can write to it. -/
theorem endpoints_owned_between_forks :
    ∃ (chronicle : Chronicle) (machine : Machine (Option Bytes)),
      Course copier 1 (.copying copiedStreams 2) chronicle machine ∧ chronicle.children = [2] ∧
      chronicle.channels = [0] ∧
      ∀ (number : Nat) (process : Process (Program (Option Bytes))), machine.processes[number]? = some process →
        process.descriptors.refersTo (.writeEnd 0) = true → number = 1 ∨ number = 2 := by
  obtain ⟨chronicle, machine, course, checked⟩ := Course.exists_of_follow copier 1 (.copying copiedStreams 2)
    ([1, 1, 1].map .step)
    (fun chronicle _ => chronicle.children == [2] && chronicle.channels == [0]) (by decide +kernel)
  simp only [Bool.and_eq_true, beq_iff_eq] at checked
  obtain ⟨children, channels⟩ := checked
  have owned := (endpoints_owned copier_filters (Ready.copying 2 fun _ => Ready.pipe?_of_copiedStreams) course).1
  refine ⟨chronicle, machine, course, children, channels, fun number process present holds => ?_⟩
  have isChannel : chronicle.channels[0]? = some 0 := by rw [channels]; rfl
  rcases (owned 0 0 number process isChannel present).1 holds with isHost | isChild
  · exact .inl isHost
  · rw [children] at isChild
    exact .inr (by simpa using isChild.symm)

end Pipework
