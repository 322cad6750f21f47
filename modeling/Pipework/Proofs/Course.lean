import Pipework.Executor.Execution
import Pipework.Proofs.Move

set_option autoImplicit false

/-!
Courses: all ways in which a machine can go on from a state, whichever process moves. When one of the processes,
the host, asks for a pipe for its pipeline, it may be refused, even if the machine could have made one. A course
remembers what cannot be read off the state that it has come to: the processes and the pipes that the host has made
in it, and what the images that were loaded have asked and were answered.

Statements about all filters and all machines can be tried on a filter and a machine for it: `copier` copies its
standard input to its standard output, and `Machine.copying` is about to execute a pipeline of copiers.
-/

namespace Pipework

open Kernel

/-- What a process is rid of when a call of its fails: a number that it has tried to close. -/
def Kernel.Process.released {σ : Type} (process : Process σ) : Call → Process σ
  | .close descriptor => { process with descriptors := process.descriptors.erase descriptor }
  | _ => process

/-- A call of a process fails, whatever the machine could have answered. -/
inductive Mishap {τ : Type} (images : Behaviour τ) (mishaps : Call → Bool) (host : Nat) (before : Machine τ) :
    Machine τ → Prop where
  | mk (process : Process (Program τ)) (call : Call) (errno : Errno) (present : before.processes[host]? = some process)
      (alive : process.ending = none) (going : process.stopped = false)
      (asks : (Program.behaviour images).next process.program = some call) (possible : mishaps call = true) :
      Mishap images mishaps host before
        (before.put host ((process.released call).answered (Program.behaviour images) (.failed errno)))

/-- One move of many. -/
inductive Stride where
  | step (mover : Nat)
  /-- The call of the host fails. -/
  | mishap (errno : Errno)

/-- What is remembered of a course, oldest first. -/
structure Chronicle where
  /-- The processes that the host has made. -/
  children : List Nat := []
  /-- The pipes that the host has made. -/
  channels : List Nat := []
  /-- Who asked what, and what the answer was. -/
  exchanges : List (Nat × Call × Reply) := []

/-- What is remembered of a call that has some effect: the call with its answer, if there is one. -/
def Kernel.Effect.exchange {σ : Type} (process : Process σ) (call : Call) : Effect σ → Option (Call × Reply)
  | .answer reply _ => some (call, reply)
  | .moved _ => none
  | .blocked => some (call, System.interruption process)

namespace Machine

variable {τ : Type}

/-- What a process asks in its next move and is answered at once, if it runs an image. -/
def exchange? (images : Behaviour τ) (machine : Machine τ) (number : Nat) : Option (Call × Reply) :=
  match machine.processes[number]? with
  | none => none
  | some process =>
    match process.program with
    | .image state =>
      match images.next state with
      | none => none
      | some .fork => some (.fork, .number machine.nextProcess)
      | some (.load program arguments) =>
        match images.load machine.files process.working process.environment program arguments with
        | .error errno => some (.load program arguments, .failed errno)
        | .ok _ => none
      | some call => (machine.perform number process call).exchange process call
    | _ => none

variable {machine : Machine τ} {host : Nat}

/-- The process that a run belongs to. -/
theorem run?_eq_some {run : Run} (runs : machine.run? host = some run) :
    ∃ process, machine.processes[host]? = some process ∧ process.program = .executor run := by
  unfold run? at runs
  cases present : machine.processes[host]? with
  | none => simp [present] at runs
  | some process =>
    refine ⟨process, rfl, ?_⟩
    simp only [present, Option.map_some] at runs
    split at runs
    · rename_i same
      cases runs
      exact Option.some.inj same
    · cases runs

/-- A process that is to execute a program from its beginning is otherwise what it was. -/
theorem of_putProgram {program : Program τ} {process : Process (Program τ)}
    (found : (machine.putProgram host program).processes[host]? = some process) :
    ∃ earlier, machine.processes[host]? = some earlier ∧ process = { earlier with program } := by
  simp only [putProgram, Std.ExtTreeMap.getElem?_modify_self] at found
  obtain ⟨earlier, present, rfl⟩ := Option.map_eq_some_iff.mp found
  exact ⟨earlier, present, rfl⟩

theorem program_of_putProgram {program : Program τ} {process : Process (Program τ)}
    (found : (machine.putProgram host program).processes[host]? = some process) : process.program = program := by
  obtain ⟨earlier, -, rfl⟩ := of_putProgram found
  rfl

theorem putProgram_eq {process : Process (Program τ)} (present : machine.processes[host]? = some process)
    (program : Program τ) : machine.putProgram host program = machine.put host { process with program } := by
  unfold putProgram System.put
  congr 1
  apply Std.ExtTreeMap.ext_getElem?
  intro number
  rw [Std.ExtTreeMap.getElem?_modify, Std.ExtTreeMap.getElem?_insert]
  split
  · rename_i same
    obtain rfl : host = number := by simpa using same
    rw [present, Option.map_some]
  · rfl

/-- The machine after a failure of the call of the host, if that can fail. -/
def failing (images : Behaviour τ) (mishaps : Call → Bool) (host : Nat) (machine : Machine τ) (errno : Errno) :
    Option (Machine τ) :=
  match machine.processes[host]? with
  | none => none
  | some process =>
    if process.ending.isSome || process.stopped then none
    else
      match (Program.behaviour images).next process.program with
      | none => none
      | some call =>
        if mishaps call then
          some (machine.put host ((process.released call).answered (Program.behaviour images) (.failed errno)))
        else none

theorem mishap_of_failing {images : Behaviour τ} {mishaps : Call → Bool} {errno : Errno} {after : Machine τ}
    (failed : machine.failing images mishaps host errno = some after) : Mishap images mishaps host machine after := by
  unfold failing at failed
  split at failed
  · cases failed
  rename_i process present
  split at failed
  · cases failed
  rename_i going
  simp only [Bool.or_eq_true, not_or, Bool.not_eq_true, Option.isSome_eq_false_iff, Option.isNone_iff_eq_none] at going
  split at failed
  · cases failed
  rename_i call asks
  split at failed
  · rename_i possible
    cases failed
    exact .mk process call errno present going.1 going.2 asks possible
  · cases failed

/-- A move in a course: a process moves; or the host asks for a pipe for its pipeline and is refused it, whatever the
reason. -/
inductive Moved (images : Behaviour τ) (host mover : Nat) (before after : Machine τ) : Prop where
  | step (moved : before.step (Program.behaviour images) mover = some after)
  | refused {run : Run} (own : mover = host) (runs : before.run? host = some run)
      (failed : Mishap images (fun call => decide (call = .pipe)) host before after)

namespace Moved

variable {images : Behaviour τ} {mover : Nat} {before after : Machine τ} {process : Process (Program τ)}

/-- Who moves is there. -/
theorem exists_mover (moved : before.Moved images host mover after) :
    ∃ process, before.processes[mover]? = some process := by
  cases moved with
  | step moved =>
    obtain ⟨process, -, present, -⟩ := System.step_eq_some moved
    exact ⟨process, present⟩
  | refused own runs failed =>
    obtain ⟨process, -, -, present, -⟩ := failed
    exact ⟨process, own ▸ present⟩

/-- Who moves lives. -/
theorem alive (moved : before.Moved images host mover after) (present : before.processes[mover]? = some process) :
    process.ending = none := by
  cases moved with
  | step moved => exact (System.alive_of_step present moved).1
  | refused own runs failed =>
    obtain ⟨same, -, -, there, alive, -⟩ := failed
    obtain rfl : same = process := by rwa [own, there, Option.some.injEq] at present
    exact alive

/-- Nobody but the host is refused anything without a reason. -/
theorem step_of_ne (moved : before.Moved images host mover after) (notHost : mover ≠ host) :
    before.step (Program.behaviour images) mover = some after := by
  cases moved with
  | step moved => exact moved
  | refused own => exact absurd own notHost

/-- All but who moves are spared. -/
theorem spares (moved : before.Moved images host mover after) (numbered : before.Numbered) :
    System.Spares Disturbed mover before after := by
  cases moved with
  | step moved => exact System.step_spares numbered moved
  | refused own runs failed =>
    obtain ⟨process, call, errno, present, -⟩ := failed
    refine .of_processes numbered rfl (Nat.le_refl _) (fun _ _ => ⟨process, own ▸ present⟩) ?_
    intro other notMover later found
    rw [System.getElem?_put, if_neg (own ▸ notMover.symm)] at found
    exact ⟨later, found, .refl later⟩

end Moved

end Machine

/-- What is remembered once a process has moved. -/
def Chronicle.extend {τ : Type} (chronicle : Chronicle) (images : Behaviour τ) (host mover : Nat)
    (before after : Machine τ) : Chronicle where
  children := chronicle.children ++
    if mover = host ∧ before.nextProcess < after.nextProcess then [before.nextProcess] else []
  channels := chronicle.channels ++
    if mover = host ∧ before.nextPipe < after.nextPipe then [before.nextPipe] else []
  exchanges := chronicle.exchanges ++ (Machine.exchange? images before mover).toList.map (mover, ·)

namespace Chronicle

variable {τ : Type} {chronicle : Chronicle} {images : Behaviour τ} {host mover : Nat} {before after : Machine τ}

/-- Only the host makes processes that are remembered. -/
theorem children_extend (notHost : mover ≠ host) :
    (chronicle.extend images host mover before after).children = chronicle.children := by
  simp [extend, notHost]

/-- Only the host makes pipes that are remembered. -/
theorem channels_extend (notHost : mover ≠ host) :
    (chronicle.extend images host mover before after).channels = chronicle.channels := by
  simp [extend, notHost]

end Chronicle

/-- The machines that can be come to from `start`, with what is remembered of the way there. -/
inductive Course {τ : Type} (images : Behaviour τ) (host : Nat) (start : Machine τ) :
    Chronicle → Machine τ → Prop where
  | start : Course images host start {} start
  | step {chronicle : Chronicle} {before after : Machine τ} (earlier : Course images host start chronicle before)
      (mover : Nat) (moved : before.Moved images host mover after) :
      Course images host start (chronicle.extend images host mover before after) after
  | time {chronicle : Chronicle} {before after : Machine τ} (earlier : Course images host start chronicle before)
      (passed : before.passTime = some after) : Course images host start chronicle after

namespace Course

variable {τ : Type} {images : Behaviour τ} {host : Nat} {start : Machine τ}

/-- Who moves in a move, and the machine after it, if it can be made. -/
def stride (images : Behaviour τ) (host : Nat) (machine : Machine τ) : Stride → Option (Nat × Machine τ)
  | .step mover => (machine.step (Program.behaviour images) mover).map (mover, ·)
  | .mishap errno =>
    if (machine.run? host).isSome then
      (machine.failing images (fun call => decide (call = .pipe)) host errno).map (host, ·)
    else none

theorem moved_of_stride {first : Stride} {machine after : Machine τ} {mover : Nat}
    (strode : stride images host machine first = some (mover, after)) :
    machine.Moved images host mover after := by
  cases first with
  | step number =>
    obtain ⟨next, moved, same⟩ := Option.map_eq_some_iff.mp strode
    cases same
    exact .step moved
  | mishap errno =>
    simp only [stride] at strode
    split at strode
    · rename_i runs
      obtain ⟨run, runs⟩ := Option.isSome_iff_exists.mp runs
      obtain ⟨next, failed, same⟩ := Option.map_eq_some_iff.mp strode
      cases same
      exact .refused rfl runs (Machine.mishap_of_failing failed)
    · cases strode

/-- Moves one after the other. -/
def follow (images : Behaviour τ) (host : Nat) :
    List Stride → Chronicle × Machine τ → Option (Chronicle × Machine τ)
  | [], point => some point
  | first :: later, (chronicle, machine) =>
    match stride images host machine first with
    | none => none
    | some (mover, after) =>
      follow images host later (chronicle.extend images host mover machine after, after)

/-- Moves one after the other make a course. -/
theorem of_follow {strides : List Stride} {point : Chronicle × Machine τ}
    (followed : follow images host strides ({}, start) = some point) :
    Course images host start point.1 point.2 := by
  have further : ∀ (strides : List Stride) (from_ : Chronicle × Machine τ),
      Course images host start from_.1 from_.2 → follow images host strides from_ = some point →
      Course images host start point.1 point.2 := by
    intro strides
    induction strides with
    | nil =>
      intro from_ course followed
      cases followed
      exact course
    | cons first later ih =>
      intro from_ course followed
      unfold follow at followed
      split at followed
      · cases followed
      · rename_i mover after strode
        exact ih _ (course.step mover (moved_of_stride strode)) followed
  exact further strides ({}, start) .start followed

/-- What is found after moves one after the other is found in a course. -/
theorem exists_of_follow (images : Behaviour τ) (host : Nat) (start : Machine τ) (strides : List Stride)
    (check : Chronicle → Machine τ → Bool)
    (checked : (follow images host strides ({}, start)).any (fun point => check point.1 point.2) = true) :
    ∃ chronicle machine, Course images host start chronicle machine ∧ check chronicle machine = true := by
  obtain ⟨point, followed, found⟩ := (Option.any_eq_true _ _).mp checked
  exact ⟨point.1, point.2, of_follow followed, found⟩

/-- What holds at the start and is kept by every move and by the passing of time holds all along. -/
theorem preserves (invariant : Chronicle → Machine τ → Prop) (first : invariant {} start)
    (step : ∀ (chronicle : Chronicle) (before after : Machine τ) (mover : Nat),
      invariant chronicle before → before.Moved images host mover after →
      invariant (chronicle.extend images host mover before after) after)
    (time : ∀ (chronicle : Chronicle) (before : Machine τ) (clock : Nat),
      invariant chronicle before → invariant chronicle { before with clock })
    {chronicle : Chronicle} {machine : Machine τ} (course : Course images host start chronicle machine) :
    invariant chronicle machine := by
  induction course with
  | start => exact first
  | step earlier mover moved ih => exact step _ _ _ mover ih moved
  | time earlier passed ih =>
    obtain ⟨clock, rfl⟩ := System.passTime_eq_some passed
    exact time _ _ clock ih

end Course

/-- A filter that copies its input to its output, two bytes at a time. Its state is what it has read and not yet
written; when nothing comes any more it exits. -/
def copier : Behaviour (Option Bytes) where
  next
    | none => some (.read 0 2)
    | some [] => some (.exit 0)
    | some data => some (.write 1 data)
  resume
    | none, .data data => some data
    | none, _ => some []
    | some _, .number _ => none
    | some _, _ => some []
  load _ _ _ _ _ := .ok none

/-- A stage at a position; whatever its name, a copier is loaded for it. -/
def copierStage (position : Nat) : Stage := ⟨position, "cat", by decide⟩

/-- Two files, from one of which can be read while the other one is appended to. -/
def copiedFiles : Files where
  table := (Std.ExtTreeMap.empty.insert 0 { node := .regular [7, 8, 9], mode := 0o644 }).insert 1
    { node := .regular [6], mode := 0o644 }
  nextFile := 2
  openings := (Std.ExtTreeMap.empty.insert 0 ⟨0, 0, .read⟩).insert 1 ⟨1, 0, .append⟩
  nextOpening := 2

/-- A process that is about to execute copiers, with some descriptors. -/
def copyingExecutor (descriptors : DescriptorTable) (count : Nat) : Process (Program (Option Bytes)) where
  program := .executor (.ofStages .idle ((List.range count).map copierStage))
  descriptors

/-- A machine on which the process 1 is about to execute copiers. Its pipes have room for a single byte. -/
def Machine.copying (descriptors : DescriptorTable) (count : Nat) : Machine (Option Bytes) where
  processes := Std.ExtTreeMap.empty.insert 1 (copyingExecutor descriptors count)
  nextProcess := 2
  pipes := Std.ExtTreeMap.empty
  nextPipe := 0
  files := copiedFiles
  shape := ⟨1, 1⟩
  clock := 0

/-- The standard streams for `copiedFiles`: both outputs are appended to the same file. -/
def copiedStreams : DescriptorTable :=
  ((Std.ExtTreeMap.empty.insert 0 ⟨.file 0, false⟩).insert 1 ⟨.file 1, false⟩).insert 2 ⟨.file 1, false⟩

/-- Whether a program is on its way to an image. -/
def Program.isStartup {τ : Type} : Program τ → Bool
  | startup _ => true
  | _ => false

/-- Whether a program is an image. -/
def Program.isImage {τ : Type} : Program τ → Bool
  | image _ => true
  | _ => false

theorem Program.isStartup_iff {τ : Type} {program : Program τ} :
    program.isStartup = true ↔ ∃ child, program = .startup child := by
  cases program <;> simp [isStartup]

theorem Program.isImage_iff {τ : Type} {program : Program τ} :
    program.isImage = true ↔ ∃ state, program = .image state := by
  cases program <;> simp [isImage]

/-- There is nobody else on such a machine. -/
theorem processes_copying {descriptors : DescriptorTable} {count number : Nat}
    {process : Process (Program (Option Bytes))}
    (found : (Machine.copying descriptors count).processes[number]? = some process) :
    number = 1 ∧ process = copyingExecutor descriptors count := by
  simp only [Machine.copying, Std.ExtTreeMap.getElem?_insert] at found
  split at found
  · rename_i same
    obtain rfl : 1 = number := by simpa using same
    cases found
    exact ⟨rfl, rfl⟩
  · simp at found

theorem numbered_copying (descriptors : DescriptorTable) (count : Nat) :
    (Machine.copying descriptors count).Numbered where
  process number process found := by
    rw [(processes_copying found).1]
    exact Nat.lt_succ_self 1

end Pipework
