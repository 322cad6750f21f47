import Pipework.Proofs.Course
import Pipework.Proofs.RunMove
import Pipework.Proofs.StartupMove

set_option autoImplicit false

/-!
The descriptor tables of an executor and of the processes that it makes, in every course of a machine and
whatever other processes do. `Underway` is what every move keeps: the table of the executor is the one it began
with and the endpoints that its run holds, and each process that it has made will load its program with that
table, in which the standard streams are the ends of its channels. The main theorem is `load_descriptors`.
-/

namespace Pipework

open Kernel
open Kernel.DescriptorTable (Adds)

/-- What the standard input of a stage is replaced with. -/
def input? (channels : List Nat) (index : Nat) : Option Object :=
  if index = 0 then none else (channels[index - 1]?).map .readEnd

/-- What the standard output of a stage is replaced with. -/
def output? (channels : List Nat) (index : Nat) : Option Object := (channels[index]?).map .writeEnd

/-- The table with which the process of a stage comes to the loading of its program, when its maker had the table
`base`. -/
def stageTable (base : DescriptorTable) (channels : List Nat) (index : Nat) : DescriptorTable :=
  base.wired (input? channels index) (output? channels index)

section stageTable

variable {base : DescriptorTable} {channels : List Nat} {index : Nat} {entry : Descriptor}

/-- The standard input of a stage was replaced, or is that of its maker. -/
theorem input_of_stageTable (isOpen : (stageTable base channels index)[0]? = some entry) :
    input? channels index = some entry.object ∨ base[0]? = some entry := by
  rw [stageTable, DescriptorTable.getElem?_wired_zero, Option.or_eq_some_iff] at isOpen
  rcases isOpen with wired | ⟨-, old⟩
  · obtain ⟨object, input, rfl⟩ := Option.map_eq_some_iff.mp wired
    exact .inl input
  · exact .inr old

/-- The standard output of a stage was replaced, or is that of its maker. -/
theorem output_of_stageTable (isOpen : (stageTable base channels index)[1]? = some entry) :
    output? channels index = some entry.object ∨ base[1]? = some entry := by
  rw [stageTable, DescriptorTable.getElem?_wired_one, Option.or_eq_some_iff] at isOpen
  rcases isOpen with wired | ⟨-, old⟩
  · obtain ⟨object, output, rfl⟩ := Option.map_eq_some_iff.mp wired
    exact .inl output
  · exact .inr old

/-- All other descriptors of a stage are those of its maker. -/
theorem getElem?_stageTable_of_lt {number : Nat} (other : 1 < number) :
    (stageTable base channels index)[number]? = base[number]? :=
  DescriptorTable.getElem?_wired_of_lt base _ _ other

end stageTable

variable {τ : Type}

/-- An executor with its run: it stands somewhere among its stages, and besides the descriptors it began with it
has those endpoints that it should hold there. -/
structure Executes (stages : List Stage) (base : DescriptorTable) (children channels : List Nat) (run : Run)
    (executor : Process (Program τ)) : Prop where
  fits : run.Fits stages children.length channels.length
  adds : Adds base (run.held channels) executor.descriptors
  below : ∀ entry ∈ run.held channels, entry.1 < executor.limit
  unopened : run.control = .reaping → executor.opening = none

/-- An executor that stands among its stages has no line to refuse. -/
theorem Executes.working {stages : List Stage} {base : DescriptorTable} {children channels : List Nat} {run : Run}
    {executor : Process (Program τ)} (executes : Executes stages base children channels run executor) (text : Bytes) :
    run.control ≠ .complaining text := by
  intro complaining
  have fits := executes.fits
  simp [Run.Fits, complaining] at fits

/-- A process that was made for a stage: it has loaded its program, or will do so with the table of the stage, or
has failed to. -/
def Becomes (stages : List Stage) (base : DescriptorTable) (channels : List Nat) (index : Nat)
    (process : Process (Program τ)) : Prop :=
  match process.program with
  | .startup startup =>
    (∃ stage, stages[index]? = some stage ∧ startup.program = stage.name ∧ startup.arguments = stage.arguments) ∧
      (process.ending = none → startup.control.hasFailed = false →
        startup.control.outcome process.limit process.descriptors = .ok (stageTable base channels index))
  | .image _ => True
  | _ => False

/-- The processes that were made for the first stages, and the channels between them. -/
structure Made (host : Nat) (stages : List Stage) (base : DescriptorTable) (children channels : List Nat)
    (machine : Machine τ) : Prop where
  numbered : machine.Numbered
  host_lt : host < machine.nextProcess
  channels_le : channels.length ≤ stages.length - 1
  behind : ∀ index, index < children.length → index + 1 < stages.length → index < channels.length
  child : ∀ (index number : Nat), children[index]? = some number →
    number ≠ host ∧ number < machine.nextProcess ∧
      ∀ process, machine.processes[number]? = some process → Becomes stages base channels index process

/-- A machine on which the executor `host`, which began with the table `base`, has made what is remembered. -/
structure Underway (host : Nat) (stages : List Stage) (base : DescriptorTable) (children channels : List Nat)
    (machine : Machine τ) : Prop extends Made host stages base children channels machine where
  executor : ∀ process, machine.processes[host]? = some process →
    ∃ run, process.program = .executor run ∧
      (process.ending = none → Executes stages base children channels run process)

/-- The table of a process that was made does not change when later channels are opened. -/
theorem stageTable_append (base : DescriptorTable) {channels : List Nat} (made : List Nat) {index : Nat}
    (within : index < channels.length) :
    stageTable base (channels ++ made) index = stageTable base channels index := by
  have before : index - 1 < channels.length := by omega
  simp [stageTable, input?, output?, List.getElem?_append_left within, List.getElem?_append_left before]

/-- A process that was made with the endpoints around its stage gets the table of the stage. -/
theorem wired_eq_stageTable {channels : List Nat} {streams : Streams} {later : List Stage} {index : Nat}
    (reads : streams.stdin.isSome = decide (0 < index)) (writes : streams.stdout.isSome = !later.isEmpty)
    (counted : channels.length = Run.channelsWith index later) (base : DescriptorTable) :
    base.wired (streams.stdin.map fun _ => .readEnd (channels.getD (index - 1) 0))
      (streams.stdout.map fun _ => .writeEnd (channels.getD index 0)) = stageTable base channels index := by
  have input : (streams.stdin.map fun _ => Object.readEnd (channels.getD (index - 1) 0)) =
      input? channels index := by
    by_cases first : index = 0
    · have none : streams.stdin = none := by simpa [first] using reads
      simp [input?, first, none]
    · obtain ⟨endpoint, some⟩ := Option.isSome_iff_exists.mp (reads.trans (by simpa using Nat.pos_of_ne_zero first))
      have within : index - 1 < channels.length := by
        rw [counted, Run.channelsWith]
        split <;> omega
      simp [input?, first, some, List.getD_eq_getElem?_getD, List.getElem?_eq_getElem within]
  have output : (streams.stdout.map fun _ => Object.writeEnd (channels.getD index 0)) =
      output? channels index := by
    by_cases last : later.isEmpty = true
    · have none : streams.stdout = none := by simpa [last] using writes
      have beyond : channels.length ≤ index := by simp [counted, Run.channelsWith, last]
      simp [output?, none, List.getElem?_eq_none beyond]
    · obtain ⟨endpoint, some⟩ := Option.isSome_iff_exists.mp (writes.trans (by simpa using last))
      have within : index < channels.length := by simp [counted, Run.channelsWith, last]
      simp [output?, some, List.getD_eq_getElem?_getD, List.getElem?_eq_getElem within]
  rw [stageTable, input, output]

variable {images : Behaviour τ} {host mover : Nat} {stages : List Stage} {base : DescriptorTable}
  {children channels : List Nat} {machine after : Machine τ}

namespace Becomes

variable {index number : Nat} {process later : Process (Program τ)}

theorem disturbed (becomes : Becomes stages base channels index process) (disturbed : Disturbed process later) :
    Becomes stages base channels index later := by
  unfold Becomes at becomes ⊢
  rw [disturbed.program]
  cases program : process.program with
  | startup startup =>
    rw [program] at becomes
    refine ⟨becomes.1, fun alive begun => ?_⟩
    obtain ⟨lives, same⟩ := disturbed.alive alive
    rw [disturbed.limit, same]
    exact becomes.2 lives begun
  | image state => trivial
  | _ => simp [program] at becomes

/-- A process that was made for a stage keeps to it when it moves. -/
theorem step (becomes : Becomes stages base channels index process) (numbered : machine.Numbered)
    (present : machine.processes[number]? = some process)
    (moved : machine.step (Program.behaviour images) number = some after)
    (found : after.processes[number]? = some later) : Becomes stages base channels index later := by
  unfold Becomes at becomes
  cases program : process.program with
  | executor run => simp [program] at becomes
  | trial task => simp [program] at becomes
  | image state =>
    obtain ⟨earlier, living, how⟩ := System.program_step numbered moved found
    obtain rfl : process = earlier := by rwa [present, Option.some.injEq] at living
    have still : ∃ state, later.program = .image state := by
      rw [program] at how
      rcases how with same | ⟨reply, same⟩ | ⟨files, working, environment, name, arguments, loads⟩
      · exact ⟨state, same⟩
      · exact ⟨_, same⟩
      · obtain ⟨next, -, same⟩ := Program.load_eq_ok loads
        exact ⟨next, same.symm⟩
    obtain ⟨state, still⟩ := still
    simp [Becomes, still]
  | startup startup =>
    have unmoved := becomes
    rw [program] at becomes
    obtain ⟨⟨stage, listed, named, given⟩, settled⟩ := becomes
    have alive := (System.alive_of_step present moved).1
    -- Whatever it is answered, it is for the same stage; it remains to see with which table it goes on.
    have answered : ∀ (earlier : Process (Program τ)) {reply : Reply}, earlier.program = .startup startup →
        ((startup.resume reply).control.hasFailed = false →
          (startup.resume reply).control.outcome earlier.limit earlier.descriptors =
            .ok (stageTable base channels index)) →
        Becomes stages base channels index (earlier.answered (Program.behaviour images) reply) := by
      intro earlier reply same settled
      simp only [Becomes, Process.answered, same, Program.behaviour]
      exact ⟨⟨stage, listed, named, given⟩, fun _ => settled⟩
    have failed : ∀ {reply : Reply} {claim : Prop}, (startup.resume reply).control.hasFailed = true →
        (startup.resume reply).control.hasFailed = false → claim := by
      intro reply claim hasFailed begun
      rw [hasFailed] at begun
      cases begun
    cases step_startup present program (settled alive) moved with
    | rewired reply table settled opened begun inherits erased =>
      rw [System.getElem?_put_self] at found
      cases found
      exact answered { process with descriptors := table } program fun _ => settled
    | refused errno loading =>
      rw [System.getElem?_put_self] at found
      cases found
      exact answered process program (failed (Startup.hasFailed_of_refused loading errno))
    | loaded state loading loads =>
      rw [System.getElem?_put_self] at found
      cases found
      trivial
    | complained part parts code reply between complaining wrote =>
      obtain ⟨earlier, living, rfl⟩ := System.getElem?_answer_self found
      have same := System.write_disturbed present (Effect.leads_of_answer wrote) living
      exact answered earlier (same.program.trans program) (failed (Startup.hasFailed_of_complaining complaining reply))
    | complaining part parts code after complaining wrote =>
      exact disturbed unmoved (System.write_disturbed present (Effect.leads_of_moved wrote) found)
    | interrupted part parts code complaining interrupted =>
      rw [System.getElem?_put_self] at found
      cases found
      have same : (System.withoutOpening process).program = process.program := by
        unfold System.withoutOpening
        split <;> rfl
      exact answered _ (same.trans program) (failed (Startup.hasFailed_of_complaining complaining _))
    | exited code exiting =>
      obtain ⟨earlier, living, same⟩ := System.finish_disturbed found
      obtain rfl : process = earlier := by rwa [present, Option.some.injEq] at living
      exact disturbed unmoved same

end Becomes

namespace Made

/-- The executor is none of the processes that it has made. -/
theorem host_not_mem (made : Made host stages base children channels machine) : host ∉ children := by
  intro member
  obtain ⟨index, isChild⟩ := List.mem_iff_getElem?.mp member
  exact (made.child index host isChild).1 rfl

/-- A process that was made is not the executor. -/
theorem ne_host {number : Nat} (made : Made host stages base children channels machine) (member : number ∈ children) :
    number ≠ host := by
  rintro rfl
  exact made.host_not_mem member

/-- A process that was made is older than the next one. -/
theorem lt_of_mem {number : Nat} (made : Made host stages base children channels machine)
    (member : number ∈ children) : number < machine.nextProcess := by
  obtain ⟨index, isChild⟩ := List.mem_iff_getElem?.mp member
  exact (made.child index number isChild).2.1

/-- A move of any process leaves what was made as it was. -/
theorem step (made : Made host stages base children channels machine)
    (moved : machine.Moved images host mover after) : Made host stages base children channels after := by
  have spares := moved.spares made.numbered
  refine ⟨spares.numbered, Nat.lt_of_lt_of_le made.host_lt spares.nextProcess, made.channels_le, made.behind, ?_⟩
  intro index number isChild
  obtain ⟨notHost, older, becomes⟩ := made.child index number isChild
  refine ⟨notHost, Nat.lt_of_lt_of_le older spares.nextProcess, ?_⟩
  intro later found
  by_cases own : number = mover
  · subst own
    obtain ⟨process, present⟩ := moved.exists_mover
    exact (becomes process present).step made.numbered present (moved.step_of_ne notHost) found
  · obtain ⟨earlier, present, disturbed⟩ := spares.others number own older later found
    exact (becomes earlier present).disturbed disturbed

/-- A channel is opened where every process that was made has those that it needs. -/
theorem opened (made : Made host stages base children channels machine) (number : Nat)
    (complete : children.length ≤ channels.length) (more : channels.length + 1 < stages.length) :
    Made host stages base children (channels ++ [number]) machine where
  numbered := made.numbered
  host_lt := made.host_lt
  channels_le := by
    simp only [List.length_append, List.length_singleton]
    omega
  behind index isMade notLast := by
    have := made.behind index isMade notLast
    simp only [List.length_append, List.length_singleton]
    omega
  child index child isChild := by
    have isMade := (List.getElem?_eq_some_iff.mp isChild).1
    have same := stageTable_append base [number] (show index < channels.length by omega)
    obtain ⟨notHost, older, becomes⟩ := made.child index child isChild
    refine ⟨notHost, older, fun process present => ?_⟩
    have kept := becomes process present
    unfold Becomes at kept ⊢
    rwa [same]

/-- A process is made for the next stage. -/
theorem forked {number : Nat} (made : Made host stages base children channels machine) (notHost : number ≠ host)
    (older : number < machine.nextProcess)
    (connected : children.length + 1 < stages.length → children.length < channels.length)
    (becomes : ∀ process, machine.processes[number]? = some process →
      Becomes stages base channels children.length process) :
    Made host stages base (children ++ [number]) channels machine where
  numbered := made.numbered
  host_lt := made.host_lt
  channels_le := made.channels_le
  behind index isMade notLast := by
    simp only [List.length_append, List.length_singleton] at isMade
    by_cases last : index = children.length
    · subst last
      exact connected notLast
    · exact made.behind index (by omega) notLast
  child index child isChild := by
    by_cases old : index < children.length
    · rw [List.getElem?_append_left old] at isChild
      exact made.child index child isChild
    · rw [List.getElem?_append_right (by omega)] at isChild
      have last : index = children.length := by
        have within := (List.getElem?_eq_some_iff.mp isChild).1
        simp only [List.length_singleton] at within
        omega
      subst last
      obtain rfl : number = child := by simpa using isChild
      exact ⟨notHost, older, becomes⟩

end Made

namespace Underway

/-- A machine at the start of a run. -/
theorem start {phase : Phase} {executor : Process (Program τ)} (numbered : machine.Numbered)
    (present : machine.processes[host]? = some executor)
    (begun : executor.program = .executor (.ofStages phase stages)) :
    Underway host stages executor.descriptors [] [] machine where
  numbered := numbered
  host_lt := numbered.process host executor present
  channels_le := by simp
  behind := by simp
  child := by simp
  executor process found := by
    rw [present] at found
    cases found
    obtain ⟨fits, holds⟩ := Run.ofStages_fits phase stages []
    refine ⟨_, begun, fun _ => ⟨fits, holds ▸ .refl _, by simp [holds], ?_⟩⟩
    cases stages with
    | nil => simp [Run.ofStages, Run.start, Run.goOn]
    | cons stage later => cases later <;> simp [Run.ofStages, Run.start, Run.spawnNext, Run.goOn]

/-- The executor goes on with an answer, and with another table perhaps. -/
theorem answered (process : Process (Program τ)) {more others : List Nat} {replacement : Process (Program τ)} {run : Run}
    {reply : Reply} {between : Machine τ} (made : Made host stages base more others (between.put host replacement))
    (same : replacement = process.answered (Program.behaviour images) reply)
    (program : process.program = .executor run) (notChild : reply ≠ .child)
    (fits : (run.resume reply).Fits stages more.length others.length)
    (adds : Adds base ((run.resume reply).held others) process.descriptors)
    (below : ∀ entry ∈ (run.resume reply).held others, entry.1 < process.limit) :
    Underway host stages base more others (between.put host replacement) where
  toMade := made
  executor later found := by
    rw [System.getElem?_put_self, same] at found
    cases found
    exact ⟨_, program_answered program notChild, fun _ => ⟨fits, adds, below, fun _ => rfl⟩⟩

/-- A move of the executor leads to a machine on which it has made what it should have. -/
theorem move {process : Process (Program τ)} {run : Run} (made : Made host stages base children channels machine)
    (present : machine.processes[host]? = some process) (program : process.program = .executor run)
    (executes : Executes stages base children channels run process)
    (moved : machine.Moved images host host after) :
    Underway host stages base
      (children ++ if machine.nextProcess < after.nextProcess then [machine.nextProcess] else [])
      (channels ++ if machine.nextPipe < after.nextPipe then [machine.nextPipe] else []) after := by
  have kept := made.step moved
  have move := moved.run_move made.numbered present program executes.working
  obtain ⟨fits, adds, below, unopened⟩ := executes
  cases move with
  | opened stage later incoming read write between table opening first second =>
    have notZero := DescriptorTable.ne_zero_of_allocate first second
    have counted : children.length = run.index ∧ channels.length = run.index ∧
        run.index + 1 < stages.length := by
      simp only [Run.Fits, opening] at fits
      obtain ⟨rest, more, -, made, counted, -⟩ := fits
      have size := congrArg List.length rest
      have longer : 0 < later.length := List.length_pos_iff.mpr (by simpa using more)
      simp only [List.length_drop, List.length_cons] at size
      exact ⟨made, counted, by omega⟩
    rw [counted.1] at fits
    obtain ⟨opens, holds⟩ := Run.resume_opened machine.nextPipe read opening fits notZero
    let ends := [(write, Object.writeEnd machine.nextPipe), (read, Object.readEnd machine.nextPipe)]
    have swap : (ends ++ run.held channels).Perm (run.held channels ++ ends) := List.perm_append_comm
    have both : Adds base (run.held channels ++ ends) table := ((adds.allocate first).allocate second).perm swap
    simp only [System.nextProcess_put, System.nextPipe_put, Nat.lt_irrefl, if_false, Nat.lt_succ_self, if_true,
      List.append_nil]
    refine answered { process with descriptors := table }
      (kept.opened machine.nextPipe (by omega) (by omega)) rfl program (by simp) (counted.1 ▸ opens)
      (holds ▸ both) ?_
    rw [holds]
    intro entry member
    rcases List.mem_append.mp member with old | new
    · exact below entry old
    · have readBelow := (DescriptorTable.allocate_eq_ok first).2.1
      have writeBelow := (DescriptorTable.allocate_eq_ok second).2.1
      simp only [List.mem_cons, List.not_mem_nil, or_false] at new
      rcases new with rfl | rfl
      · exact writeBelow
      · exact readBelow
  | refused stage later incoming errno opening =>
    have counted : children.length = run.index := by
      simp only [Run.Fits, opening] at fits
      exact fits.2.2.2.1
    rw [counted] at fits
    obtain ⟨refuses, holds⟩ := Run.resume_refused channels errno opening fits
    simp only [System.nextProcess_put, System.nextPipe_put, Nat.lt_irrefl, if_false, List.append_nil]
    exact answered process kept rfl program (by simp) (counted ▸ refuses) (holds ▸ adds) (holds ▸ below)
  | forked stage later streams carried forking =>
    obtain ⟨rest, reads, writes, notZero, -, counted, opened, -⟩ : stages.drop run.index = stage :: later ∧
        streams.stdin.isSome = decide (0 < run.index) ∧ streams.stdout.isSome = !later.isEmpty ∧
        streams.stdout ≠ some 0 ∧ carried.isSome = !later.isEmpty ∧ children.length = run.index ∧
        channels.length = Run.channelsWith run.index later ∧ run.phase = .spawning run.index := by
      simpa only [Run.Fits, forking] using fits
    have listed : stages[run.index]? = some stage := by rw [← List.head?_drop, rest, List.head?_cons]
    have within : ∀ number, streams.stdin = some number ∨ streams.stdout = some number → number < process.limit := by
      rintro number (read | write)
      · exact below (number, .readEnd (channels.getD (run.index - 1) 0)) (by simp [Run.held, forking, read])
      · exact below (number, .writeEnd (channels.getD run.index 0)) (by simp [Run.held, forking, write])
    have settled := Startup.outcome_begin stage (by simpa only [Run.held, forking] using adds) within notZero
    rw [wired_eq_stageTable reads writes opened] at settled
    obtain ⟨spawns, holds⟩ := Run.resume_spawned channels machine.nextProcess forking
      (counted ▸ fits)
    have apart : machine.nextProcess ≠ host := Nat.ne_of_gt made.host_lt
    simp only [System.nextProcess_put, System.nextPipe_put, Nat.lt_irrefl, if_false, Nat.lt_succ_self, if_true,
      List.append_nil]
    refine answered process (kept.forked apart (Nat.lt_succ_self _) ?_ ?_) rfl program (by simp)
      (by simpa [counted] using spawns) (holds ▸ adds) (holds ▸ below)
    · intro notLast
      have size := congrArg List.length rest
      simp only [List.length_drop, List.length_cons] at size
      have more : later.isEmpty = false := by
        rw [List.isEmpty_eq_false_iff, ← List.length_pos_iff]
        omega
      rw [counted, opened, Run.channelsWith, more]
      exact Nat.lt_succ_self _
    · intro child found
      rw [System.getElem?_put, if_neg apart.symm, System.getElem?_put_self] at found
      cases found
      rw [counted]
      exact ⟨⟨stage, listed, rfl, rfl⟩, fun _ _ => settled⟩
  | closed endpoint table closing closed =>
    obtain ⟨object, rest, holds, closes, left⟩ := Run.resume_closed channels closing fits
    rw [holds] at adds below
    obtain ⟨closable, remaining⟩ := adds.close
    obtain rfl := DescriptorTable.eq_of_close closed
    simp only [System.nextProcess_put, System.nextPipe_put, Nat.lt_irrefl, if_false, List.append_nil]
    exact answered { process with descriptors := _ } kept rfl program (by simp) closes
      (left ▸ remaining) (left ▸ fun entry member => below entry (List.mem_cons_of_mem _ member))
  | unclosed endpoint errno closing unclosed =>
    obtain ⟨object, rest, holds, -, -⟩ := Run.resume_closed channels closing fits
    rw [holds] at adds
    rw [adds.close.1] at unclosed
    cases unclosed
  | reaped child ended how reaping there apart parent ending =>
    obtain ⟨waits, left⟩ := Run.resume_waited channels (.ended child how) reaping fits
    have nothing : run.held channels = [] := by simp [Run.held, reaping]
    rw [nothing] at adds
    simp only [System.nextProcess_put, System.nextPipe_put, Nat.lt_irrefl, if_false, List.append_nil]
    exact answered process kept rfl program (by simp) waits (left ▸ adds) (by simp [left])
  | alone reaping none =>
    obtain ⟨waits, left⟩ := Run.resume_waited channels (.failed .noChild) reaping fits
    have nothing : run.held channels = [] := by simp [Run.held, reaping]
    rw [nothing] at adds
    simp only [System.nextProcess_put, System.nextPipe_put, Nat.lt_irrefl, if_false, List.append_nil]
    exact answered process kept rfl program (by simp) waits (left ▸ adds) (by simp [left])
  | interrupted reaping interrupted =>
    obtain ⟨waits, left⟩ := Run.resume_waited channels (System.interruption process) reaping fits
    have nothing : run.held channels = [] := by simp [Run.held, reaping]
    have same : System.withoutOpening process = process := by simp [System.withoutOpening, unopened reaping]
    have notChild : System.interruption process ≠ .child := by
      unfold System.interruption
      split <;> simp
    rw [nothing] at adds
    rw [same] at kept ⊢
    simp only [System.nextProcess_put, System.nextPipe_put, Nat.lt_irrefl, if_false, List.append_nil]
    exact answered process kept rfl program notChild waits (left ▸ adds) (by simp [left])

/-- Every move of a machine leads to one on which the executor has made what is remembered. -/
theorem step {chronicle : Chronicle} (underway : Underway host stages base chronicle.children chronicle.channels machine)
    (moved : machine.Moved images host mover after) :
    Underway host stages base (chronicle.extend images host mover machine after).children
      (chronicle.extend images host mover machine after).channels after := by
  by_cases own : mover = host
  · subst own
    obtain ⟨process, present⟩ := moved.exists_mover
    obtain ⟨run, program, executes⟩ := underway.executor process present
    simpa [Chronicle.extend] using move underway.toMade present program (executes (moved.alive present)) moved
  · have spares := moved.spares underway.numbered
    simp only [Chronicle.extend, own, false_and, if_false, List.append_nil]
    refine ⟨underway.toMade.step moved, fun later found => ?_⟩
    obtain ⟨process, present, disturbed⟩ := spares.others host (Ne.symm own) underway.host_lt later found
    obtain ⟨run, program, executes⟩ := underway.executor process present
    refine ⟨run, disturbed.program.trans program, fun alive => ?_⟩
    obtain ⟨lives, same⟩ := disturbed.alive alive
    obtain ⟨fits, adds, below, unopened⟩ := executes lives
    exact ⟨fits, same ▸ adds, disturbed.limit ▸ below, fun reaping => disturbed.opening.trans (unopened reaping)⟩

/-- A move of the executor is one of those that are listed. -/
theorem host_moves (underway : Underway host stages base children channels machine)
    (moved : machine.Moved images host host after) :
    ∃ process run, machine.processes[host]? = some process ∧ process.ending = none ∧
      process.program = .executor run ∧ Executes stages base children channels run process ∧
      RunMove images machine host process run after := by
  obtain ⟨process, present⟩ := moved.exists_mover
  obtain ⟨run, program, executes⟩ := underway.executor process present
  have alive := moved.alive present
  have executes := executes alive
  exact ⟨process, run, present, alive, program, executes,
    moved.run_move underway.numbered present program executes.working⟩

/-- All along a course the executor has made what is remembered. -/
theorem course {first : Machine τ} {chronicle : Chronicle} (start : Underway host stages base [] [] first)
    (course : Course images host first chronicle machine) :
    Underway host stages base chronicle.children chronicle.channels machine := by
  refine Course.preserves (fun chronicle machine =>
    Underway host stages base chronicle.children chronicle.channels machine) start ?_ ?_ course
  · intro chronicle before after mover underway moved
    exact underway.step moved
  · intro chronicle before clock underway
    obtain ⟨⟨⟨numbered⟩, older, channels_le, behind, child⟩, executor⟩ := underway
    exact ⟨⟨⟨numbered⟩, older, channels_le, behind, child⟩, executor⟩

end Underway

/-- Where the process of a stage loads its program, the descriptors that it keeps are those that the executor had at
the start of the run and would itself have kept; only the standard input is the read end of the channel before the
stage, if there is a stage before it, and the standard output is the write end of the channel behind the stage, if
there is one behind it. -/
theorem load_descriptors {phase : Phase} {start before : Machine τ} {executor process loaded : Process (Program τ)}
    {chronicle : Chronicle} {index child : Nat} {startup : Startup} {state : τ} (numbered : start.Numbered)
    (present : start.processes[host]? = some executor)
    (begun : executor.program = .executor (.ofStages phase stages))
    (course : Course images host start chronicle before) (isChild : chronicle.children[index]? = some child)
    (found : before.processes[child]? = some process) (becoming : process.program = .startup startup)
    (moved : before.step (Program.behaviour images) child = some after)
    (loads : after.processes[child]? = some loaded) (image : loaded.program = .image state) :
    index < stages.length ∧
    (∀ number, loaded.descriptors[number]? =
      if number = 0 ∧ 0 < index then
        (chronicle.channels[index - 1]?).map fun channel => ⟨.readEnd channel, false⟩
      else if number = 1 ∧ index + 1 < stages.length then
        (chronicle.channels[index]?).map fun channel => ⟨.writeEnd channel, false⟩
      else executor.descriptors.afterLoad[number]?) ∧
    (0 < index → (chronicle.channels[index - 1]?).isSome) ∧
    (index + 1 < stages.length → (chronicle.channels[index]?).isSome) := by
  have underway := (Underway.start numbered present begun).course course
  obtain ⟨-, -, becomes⟩ := underway.child index child isChild
  have kept := becomes process found
  simp only [Becomes, becoming] at kept
  obtain ⟨⟨stage, listed, -, -⟩, settled⟩ := kept
  have within := (List.getElem?_eq_some_iff.mp listed).1
  have isMade := (List.getElem?_eq_some_iff.mp isChild).1
  have alive := (System.alive_of_step found moved).1
  obtain ⟨-, -, result⟩ := loaded_of_image found becoming (settled alive) moved loads image
  have descriptors : loaded.descriptors = (stageTable executor.descriptors chronicle.channels index).afterLoad := by
    rw [result]
  have few := underway.channels_le
  have before : 0 < index → index - 1 < chronicle.channels.length := fun positive =>
    underway.behind (index - 1) (by omega) (by omega)
  have behind : index + 1 < stages.length → index < chronicle.channels.length := underway.behind index isMade
  refine ⟨within, fun number => ?_, fun positive => by simp [before positive], fun more => by simp [behind more]⟩
  rw [descriptors, DescriptorTable.getElem?_afterLoad, DescriptorTable.getElem?_afterLoad, stageTable]
  obtain rfl | rfl | other : number = 0 ∨ number = 1 ∨ 1 < number := by omega
  · rw [DescriptorTable.getElem?_wired_zero, input?]
    by_cases first : index = 0
    · simp [first]
    · have positive : 0 < index := by omega
      simp [first, positive, List.getElem?_eq_getElem (before positive)]
  · rw [DescriptorTable.getElem?_wired_one, output?]
    by_cases last : index + 1 < stages.length
    · simp [last, List.getElem?_eq_getElem (behind last)]
    · simp [last, List.getElem?_eq_none (show chronicle.channels.length ≤ index by omega)]
  · rw [DescriptorTable.getElem?_wired_of_lt _ _ _ other, if_neg (by omega), if_neg (by omega)]

/-- Where the executor begins without a standard input, the read end of the first channel takes its number; the second
of two stages has it there when it has loaded its program. -/
theorem load_descriptors_without_input :
    ∃ (chronicle : Chronicle) (before after : Machine (Option Bytes)) (loaded : Process (Program (Option Bytes))),
      Course copier 1 (.copying (copiedStreams.erase 0) 2) chronicle before ∧ chronicle.channels = [0] ∧
      before.step (Program.behaviour copier) 3 = some after ∧ after.processes[3]? = some loaded ∧
      loaded.descriptors[0]? = some ⟨.readEnd 0, false⟩ ∧ loaded.descriptors[1]? = some ⟨.file 1, false⟩ := by
  obtain ⟨chronicle, before, course, checked⟩ := Course.exists_of_follow copier 1 (.copying (copiedStreams.erase 0) 2)
    ([1, 1, 1, 1, 3].map .step)
    (fun chronicle before => chronicle.children == [2, 3] && chronicle.channels == [0] &&
      (before.processes[3]?).any (fun process => process.program.isStartup) &&
      (before.step (Program.behaviour copier) 3).any fun after => (after.processes[3]?).any fun loaded =>
        loaded.program.isImage) (by decide +kernel)
  simp only [Bool.and_eq_true, beq_iff_eq, Option.any_eq_true] at checked
  obtain ⟨⟨⟨children, channels⟩, process, found, becoming⟩, after, moved, loaded, loads, image⟩ := checked
  have second : chronicle.children[1]? = some 3 := by rw [children]; rfl
  obtain ⟨startup, isStartup⟩ := Program.isStartup_iff.mp becoming
  obtain ⟨state, isImage⟩ := Program.isImage_iff.mp image
  obtain ⟨-, descriptors, -, -⟩ := load_descriptors (numbered_copying _ _) rfl rfl course second found isStartup moved
    loads isImage
  rw [channels] at descriptors
  exact ⟨chronicle, before, after, loaded, course, channels, moved, loads, (descriptors 0).trans (by decide +kernel),
    (descriptors 1).trans (by decide +kernel)⟩

end Pipework
