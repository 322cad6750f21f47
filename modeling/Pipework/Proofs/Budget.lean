import Pipework.Proofs.Course
import Pipework.Proofs.Fate
import Pipework.Proofs.Foresight

set_option autoImplicit false

/-!
The budget of descriptors. How many further descriptors a process can hold is the `room` of its table, and what an
executor holds besides takes just so much of it (`Adds.room`). A channel needs room for two, whatever is held already;
since an executor holds at most one endpoint when it opens a channel, and none when it opens the first one, its budget
does not depend on how many stages there are: room for two is enough for two stages, and room for three for any number
(`budget_of_stages`).
-/

namespace Pipework

open Kernel

namespace Kernel.DescriptorTable

variable {table base other between after : DescriptorTable} {limit number : Nat}

/-- How many numbers below a limit are free. -/
def room (table : DescriptorTable) : Nat → Nat
  | 0 => 0
  | limit + 1 => room table limit + if limit ∈ table then 0 else 1

theorem SameRoom.room (same : table.SameRoom other) (limit : Nat) : table.room limit = other.room limit := by
  induction limit with
  | zero => rfl
  | succ limit ih => simp only [DescriptorTable.room, ih, same limit]

/-- A number that is taken besides is free no longer. -/
theorem room_insert (free : number ∉ table) (descriptor : Descriptor) (limit : Nat) :
    room (table.insert number descriptor) limit + (if number < limit then 1 else 0) = room table limit := by
  induction limit with
  | zero => rfl
  | succ limit ih =>
    simp only [room, Std.ExtTreeMap.mem_insert, Std.compare_eq_iff_eq]
    by_cases here : number = limit
    · subst here
      simp only [Nat.lt_irrefl, if_false] at ih
      simp [free, ih]
    · have same : (number < limit + 1) ↔ number < limit := by omega
      simp only [here, false_or, same]
      omega

theorem room_eq_zero (full : table.lowestFree 0 limit = none) : table.room limit = 0 := by
  have none : ∀ lower, lower ≤ limit → table.room lower = 0 := by
    intro lower below
    induction lower with
    | zero => rfl
    | succ lower ih =>
      have taken := mem_of_lowestFree_eq_none full (Nat.zero_le lower) (by omega)
      simp [room, ih (by omega), taken]
  exact none limit (Nat.le_refl _)

/-- What is given a number had room, and takes one. -/
theorem room_of_free (free : table[number]? = none) (below : number < limit) (descriptor : Descriptor) :
    room (table.insert number descriptor) limit + 1 = table.room limit := by
  have absent : number ∉ table := by
    rw [Std.ExtTreeMap.mem_iff_isSome_getElem?, free]
    simp
  have taken := room_insert absent descriptor limit
  rwa [if_pos below] at taken

theorem room_of_lowestFree (found : table.lowestFree 0 limit = some number) (descriptor : Descriptor) :
    room (table.insert number descriptor) limit + 1 = table.room limit := by
  obtain ⟨-, below, free, -⟩ := lowestFree_eq_some found
  exact room_of_free free (by omega) descriptor

/-- A channel is given to who has room for both of its ends, and to nobody else. -/
theorem ends_eq (table : DescriptorTable) (limit : Nat) :
    (∃ read write, table.ends limit = .ends read write ∧ 2 ≤ table.room limit) ∨
      table.ends limit = .failed .tooManyOpen ∧ table.room limit < 2 := by
  unfold ends
  split
  · rename_i full
    exact .inr ⟨rfl, by rw [room_eq_zero full]; omega⟩
  · rename_i read found
    have taken := room_of_lowestFree found ⟨.readEnd 0, true⟩
    split
    · rename_i full
      exact .inr ⟨rfl, by rw [← taken, room_eq_zero full]; omega⟩
    · rename_i write second
      have both := room_of_lowestFree second ⟨.readEnd 0, true⟩
      exact .inl ⟨read, write, rfl, by omega⟩

/-- Numbers that are taken besides take just so much room. -/
theorem room_taking {numbers : List Nat} (free : ∀ number ∈ numbers, number ∉ base) (once : numbers.Nodup)
    (below : ∀ number ∈ numbers, number < limit) :
    (base.taking numbers).room limit + numbers.length = base.room limit := by
  induction numbers with
  | nil => rfl
  | cons number later ih =>
    obtain ⟨apart, once⟩ := List.nodup_cons.mp once
    have rest := ih (fun other member => free other (List.mem_cons_of_mem _ member)) once
      fun other member => below other (List.mem_cons_of_mem _ member)
    have absent : (base.taking later)[number]? = none := by
      rw [← Option.not_isSome_iff_eq_none, ← Std.ExtTreeMap.mem_iff_isSome_getElem?, mem_taking]
      exact fun taken => taken.elim (free number (List.mem_cons_self ..)) apart
    have taken := room_of_free absent (below number (List.mem_cons_self ..)) ⟨.readEnd 0, true⟩
    have unfolded : base.taking (number :: later) = (base.taking later).insert number ⟨.readEnd 0, true⟩ := rfl
    rw [unfolded, List.length_cons]
    omega

/-- What is held besides takes just so much room. -/
theorem Adds.room {held : List (Nat × Object)} (adds : Adds base held table)
    (below : ∀ entry ∈ held, entry.1 < limit) : table.room limit + held.length = base.room limit := by
  rw [adds.sameRoom.room, ← List.length_map (f := Prod.fst)]
  refine room_taking (fun number member => ?_) adds.distinct fun number member => ?_
  · obtain ⟨entry, isHeld, rfl⟩ := List.mem_map.mp member
    rw [Std.ExtTreeMap.mem_iff_isSome_getElem?, adds.fresh entry isHeld]
    simp
  · obtain ⟨entry, isHeld, rfl⟩ := List.mem_map.mp member
    exact below entry isHeld

end Kernel.DescriptorTable

/-- How many endpoints an executor of so many stages holds at most. -/
def mostHeld : Nat → Nat
  | 0 | 1 => 0
  | 2 => 2
  | _ + 3 => 3

theorem le_mostHeld {count held : Nat} (any : held = 0 ∨ 2 ≤ count) (more : held ≤ 2 ∨ 3 ≤ count) (few : held ≤ 3) :
    held ≤ mostHeld count := by
  unfold mostHeld
  split <;> omega

/-- Room for so many further descriptors is enough for so many stages. -/
def Suffices (room count : Nat) : Prop := count ≤ 1 ∨ count = 2 ∧ 2 ≤ room ∨ 3 ≤ count ∧ 3 ≤ room

namespace Run

variable {run : Run} {stages : List Stage} {children : Nat} {channels : List Nat}

/-- A run that has left its stages behind: it waits for their processes, or has done so. -/
def HasSpawned (run : Run) : Prop :=
  match run.control with
  | .reaping | .finished (.ok _) | .finished (.error (.wait _)) => True
  | _ => False

theorem length_endpoints {number : Option Nat} {claim : Bool} (isSome : number.isSome = claim) (object : Object) :
    (endpoints number object).length = claim.toNat := by
  subst isSome
  cases number <;> rfl

theorem length_of_drop {stage : Stage} {later : List Stage} (rest : stages.drop run.index = stage :: later) :
    stages.length = run.index + 1 + later.length := by
  have size := congrArg List.length rest
  simp only [List.length_drop, List.length_cons] at size
  omega

/-- What is held for all stages but the first. -/
theorem toNat_pos_le (index : Nat) : (decide (0 < index)).toNat ≤ index ∧ (decide (0 < index)).toNat ≤ 1 := by
  by_cases first : 0 < index <;> simp [first]
  omega

/-- An executor holds an endpoint before all stages but the first, and two more behind all but the last. -/
theorem Fits.held_le (fits : run.Fits stages children channels.length) :
    (run.held channels).length ≤ mostHeld stages.length := by
  have before := toNat_pos_le run.index
  have behind : ∀ later : List Stage, (!later.isEmpty).toNat ≤ later.length ∧ (!later.isEmpty).toNat ≤ 1 := by
    rintro (_ | ⟨stage, later⟩) <;> simp
  cases control : run.control with
  | opening stage later incoming =>
    simp only [Fits, control] at fits
    obtain ⟨rest, more, reads, -⟩ := fits
    have size := length_of_drop rest
    have longer : 0 < later.length := List.length_pos_iff.mpr (by simpa using more)
    simp only [held, control, length_endpoints reads]
    exact le_mostHeld (by omega) (by omega) (by omega)
  | forking stage later streams carried =>
    simp only [Fits, control] at fits
    obtain ⟨rest, reads, writes, -, carries, -⟩ := fits
    have size := length_of_drop rest
    have behind := behind later
    simp only [held, control, List.length_append, length_endpoints reads, length_endpoints writes,
      length_endpoints carries]
    exact le_mostHeld (by omega) (by omega) (by omega)
  | closingRead stage later endpoint stdout carried =>
    simp only [Fits, control] at fits
    obtain ⟨rest, positive, writes, carries, -⟩ := fits
    have size := length_of_drop rest
    have behind := behind later
    simp only [held, control, List.length_cons, List.length_append, length_endpoints writes, length_endpoints carries]
    exact le_mostHeld (by omega) (by omega) (by omega)
  | closingWrite stage later endpoint carried =>
    simp only [Fits, control] at fits
    obtain ⟨rest, more, carries, -⟩ := fits
    have size := length_of_drop rest
    have longer : 0 < later.length := List.length_pos_iff.mpr (by simpa using more)
    simp only [held, control, List.length_cons, length_endpoints carries, Bool.toNat_true]
    exact le_mostHeld (by omega) (by omega) (by omega)
  | dropping endpoint others fault =>
    simp only [Fits, control] at fits
    obtain ⟨within, positive, -⟩ := fits
    simp only [held, control, List.length_singleton]
    exact le_mostHeld (by omega) (by omega) (by omega)
  | _ => simp [held, control]

end Run

/-- How far an executor has come that began with some room: it holds few endpoints besides the table with which it
began; if it has left its stages behind there was room enough for them; and if it has come to a fault before that,
then there was not, and it has made the processes before the first channel for which there was no room. -/
structure Run.Affords (room : Nat) (stages : List Stage) (made : List Nat) (run : Run) : Prop where
  spawned : run.HasSpawned → Suffices room stages.length
  refused : ∀ fault, run.fault? = some fault → ¬ run.HasSpawned → ¬ Suffices room stages.length ∧
    (∃ stage, fault = .pipe made.length stage .tooManyOpen ∧ stages[made.length]? = some stage) ∧
    run.report.spawned = made ∧ (made.length = 0 ∧ room < 2 ∨ made.length = 1 ∧ room = 2)

variable {τ : Type} {images : Behaviour τ} {host : Nat} {base : DescriptorTable} {stages : List Stage} {limit : Nat}
  {start machine after : Machine τ} {tally : Tally} {process later : Process (Program τ)} {run : Run}
  {children channels : List Nat}

/-- Whether a run asks for a channel behind a stage. -/
def Run.IsOpening (run : Run) : Prop := ∃ stage later incoming, run.control = .opening stage later incoming

/-- An executor that asks for no channel goes on with an answer, and is refused nothing before it waits. -/
theorem RunMove.granted (move : RunMove images machine host process run after)
    (program : process.program = .executor run) (others : ¬ run.IsOpening)
    (closes : ∀ endpoint errno, run.next = some (.close endpoint) → process.descriptors.close endpoint ≠ .error errno) :
    after.nextPipe = machine.nextPipe ∧
      (after.nextProcess = machine.nextProcess ∨ run.next = some .fork) ∧
      ∃ (reply : Reply) (later : Process (Program τ)), after.processes[host]? = some later ∧
        later.program = .executor (run.resume reply) ∧ ∀ errno, reply = .failed errno → run.control = .reaping := by
  have answered : ∀ {table : DescriptorTable} {reply : Reply}, reply ≠ .child →
      ({ process with descriptors := table }.answered (Program.behaviour images) reply).program =
        .executor (run.resume reply) := by
    intro table reply notChild
    have same : { process with descriptors := table }.program = .executor run := program
    exact program_answered same notChild
  cases move with
  | opened stage following incoming read write between table opening first second =>
    exact absurd ⟨stage, following, incoming, opening⟩ others
  | refused stage following incoming errno opening => exact absurd ⟨stage, following, incoming, opening⟩ others
  | forked stage following streams carried forking =>
    exact ⟨rfl, .inr (by simp [Run.next, forking]), _, _, System.getElem?_put_self _ _ _, answered (by simp), by simp⟩
  | closed endpoint table closing closed =>
    exact ⟨rfl, .inl rfl, _, _, System.getElem?_put_self _ _ _, answered (by simp), by simp⟩
  | unclosed endpoint errno closing unclosed => exact absurd unclosed (closes endpoint errno closing)
  | reaped child ended how reaping there apart parent ending =>
    exact ⟨rfl, .inl rfl, _, _, System.getElem?_put_self _ _ _, answered (by simp), fun _ _ => reaping⟩
  | alone reaping none =>
    exact ⟨rfl, .inl rfl, _, _, System.getElem?_put_self _ _ _, answered (by simp), fun _ _ => reaping⟩
  | interrupted reaping interrupted =>
    have same : (System.withoutOpening process).program = .executor run := by
      unfold System.withoutOpening
      split <;> exact program
    exact ⟨rfl, .inl rfl, _, _, System.getElem?_put_self _ _ _,
      program_answered same (System.interruption_plain process).1, fun _ _ => reaping⟩

/-- An executor that asks for a channel gets one, or is refused it and makes nothing. -/
theorem RunMove.asked (move : RunMove images machine host process run after) (program : process.program = .executor run)
    (opening : run.IsOpening) :
    after.nextProcess = machine.nextProcess ∧ ∃ (reply : Reply) (later : Process (Program τ)),
      after.processes[host]? = some later ∧ later.program = .executor (run.resume reply) ∧
        ((∃ read write, reply = .ends read write ∧ after.nextPipe = machine.nextPipe + 1) ∨
          ∃ errno, reply = .failed errno ∧ after.nextPipe = machine.nextPipe) := by
  obtain ⟨stage, rest, incoming, opening⟩ := opening
  cases move with
  | opened stage following incoming read write between table opening first second =>
    have same : { process with descriptors := table }.program = .executor run := program
    exact ⟨rfl, _, _, System.getElem?_put_self _ _ _, program_answered same (by simp), .inl ⟨read, write, rfl, rfl⟩⟩
  | refused stage following incoming errno opening =>
    exact ⟨rfl, _, _, System.getElem?_put_self _ _ _, program_answered program (by simp), .inr ⟨errno, rfl, rfl⟩⟩
  | forked stage following streams carried forking => cases opening.symm.trans forking
  | closed endpoint table closing closed => simp [Run.next, opening] at closing
  | unclosed endpoint errno closing unclosed => simp [Run.next, opening] at closing
  | reaped child ended how reaping there apart parent ending => cases opening.symm.trans reaping
  | alone reaping none => cases opening.symm.trans reaping
  | interrupted reaping interrupted => cases opening.symm.trans reaping

/-- An executor that asks for a channel is answered what its table has room for. -/
theorem step_opening (present : machine.processes[host]? = some process) (program : process.program = .executor run)
    (opening : run.IsOpening) (moved : machine.step (Program.behaviour images) host = some after)
    (found : after.processes[host]? = some later) :
    later.program = .executor (run.resume (process.descriptors.ends process.limit)) := by
  obtain ⟨stage, rest, incoming, opening⟩ := opening
  obtain ⟨between, made⟩ := machine.makePipe_ends host process
  have asks : (Program.behaviour images).next process.program = some .pipe := by
    simp [Program.behaviour, program, Run.next, opening]
  have performed : machine.perform host process .pipe =
      .answer (process.descriptors.ends process.limit) between := made
  obtain rfl := System.step_of_answer moved present asks (by simp) performed
  obtain ⟨middle, there, rfl⟩ := System.getElem?_answer_self found
  have same := System.program_perform present (Effect.leads_of_answer performed) there
  refine program_answered (same.trans program) ?_
  rcases process.descriptors.ends_eq process.limit with ⟨read, write, given, -⟩ | ⟨refused, -⟩
  · simp [given]
  · simp [refused]

/-- Where a run stands that asks for a channel: it has opened one behind each stage before, and holds an end at most. -/
theorem Run.Fits.opening {count : Nat} (fits : run.Fits stages count channels.length) (opening : run.IsOpening) :
    count = run.index ∧ channels.length = run.index ∧
      (run.held channels).length = (decide (0 < run.index)).toNat ∧ run.index + 1 < stages.length ∧
      ∃ stage, stages[run.index]? = some stage ∧ (∀ read write, (run.resume (.ends read write)).fault? = none) ∧
        ∀ errno, (run.resume (.failed errno)).fault? = some (.pipe run.index stage errno) := by
  obtain ⟨stage, rest, incoming, opening⟩ := opening
  simp only [Run.Fits, opening] at fits
  obtain ⟨left, more, reads, made, opened, -⟩ := fits
  have size := Run.length_of_drop left
  have longer : 0 < rest.length := List.length_pos_iff.mpr (by simpa using more)
  refine ⟨made, opened, ?_, by omega, stage, by rw [← List.head?_drop, left, List.head?_cons], fun read write => ?_,
    fun errno => ?_⟩
  · simp only [Run.held, opening, Run.length_endpoints reads]
  · simp [Run.resume, opening, Run.goOn, Run.fault?]
  · simp only [Run.resume, opening, Run.fault?_giveUp]

/-- What is true all along of an executor whose process began with some room: it has opened a channel only where there
was room for it, and it comes to a fault only where there was none, unless it fails in waiting. -/
structure Affords (host : Nat) (stages : List Stage) (base : DescriptorTable) (limit : Nat)
    (children channels : List Nat) (machine : Machine τ) : Prop where
  underway : Underway host stages base children channels machine
  limited : ∀ process, machine.processes[host]? = some process → process.limit = limit
  first : 1 ≤ channels.length → 2 ≤ base.room limit
  second : 2 ≤ channels.length → 3 ≤ base.room limit
  refused : ∀ run fault, machine.run? host = some run → run.fault? = some fault →
    (∃ errno, fault = .wait errno) ∨ ∃ stage, fault = .pipe channels.length stage .tooManyOpen ∧
      children.length = channels.length ∧ stages[channels.length]? = some stage ∧
      channels.length + 1 < stages.length ∧ base.room limit < min 3 (channels.length + 2)

namespace Affords

/-- A move in which the executor asks for a channel. -/
theorem ask (affords : Affords host stages base limit children channels machine)
    (present : machine.processes[host]? = some process) (program : process.program = .executor run)
    (executes : Executes stages base children channels run process) (opening : run.IsOpening)
    (moved : machine.step (Program.behaviour images) host = some after) :
    Affords host stages base limit
      (children ++ if machine.nextProcess < after.nextProcess then [machine.nextProcess] else [])
      (channels ++ if machine.nextPipe < after.nextPipe then [machine.nextPipe] else []) after := by
  have underway := Underway.move affords.underway.toMade present program executes (.step moved)
  have move := step_executor affords.underway.numbered present program executes.working moved
  have limited : ∀ later, after.processes[host]? = some later → later.limit = limit := fun later found =>
    (move.settings found).1.trans (affords.limited process present)
  have room := executes.adds.room executes.below
  rw [affords.limited process present] at room
  obtain ⟨made, opened, held, within, stage, listed, calm, refuses⟩ := executes.fits.opening opening
  obtain ⟨unforked, reply, later, found, goes, answers⟩ := move.asked program opening
  have ends := Program.executor.inj (goes.symm.trans (step_opening present program opening moved found))
  rw [affords.limited process present] at ends
  have only : ∀ last, after.run? host = some last → last = run.resume reply := by
    intro last runs
    simp only [Machine.run?, found, Option.map_some, goes, Option.some.injEq] at runs
    exact runs.symm
  rw [unforked, if_neg (Nat.lt_irrefl _), List.append_nil] at underway ⊢
  rcases answers with ⟨read, write, rfl, grown⟩ | ⟨errno, rfl, same⟩
  · have enough : 2 ≤ process.descriptors.room limit := by
      rcases process.descriptors.ends_eq limit with ⟨-, -, -, enough⟩ | ⟨refused, -⟩
      · exact enough
      · have failed := refuses .tooManyOpen
        rw [← refused, ← ends, calm] at failed
        cases failed
    rw [grown, if_pos (Nat.lt_succ_self _)] at underway ⊢
    refine ⟨underway, limited, fun _ => by omega, fun two => ?_, fun last fault runs failed => ?_⟩
    · rw [List.length_append, List.length_singleton] at two
      have later : 0 < run.index := by omega
      simp only [held, later, decide_true, Bool.toNat_true] at room
      omega
    · obtain rfl := only last runs
      rw [calm] at failed
      cases failed
  · obtain ⟨rfl, short⟩ : errno = .tooManyOpen ∧ process.descriptors.room limit < 2 := by
      rcases process.descriptors.ends_eq limit with ⟨read, write, given, -⟩ | ⟨refused, short⟩
      · have failed := refuses errno
        rw [ends, given, calm] at failed
        cases failed
      · have failed := refuses errno
        rw [ends, refused, refuses] at failed
        simp only [Option.some.injEq, Fault.pipe.injEq, true_and] at failed
        exact ⟨failed.symm, short⟩
    rw [same, if_neg (Nat.lt_irrefl _), List.append_nil] at underway ⊢
    refine ⟨underway, limited, affords.first, affords.second, fun last fault runs failed => .inr ⟨stage, ?_⟩⟩
    obtain rfl := only last runs
    rw [refuses, Option.some.injEq] at failed
    refine ⟨by rw [opened, failed], by omega, by rw [opened, listed], by omega, ?_⟩
    have one := Run.toNat_pos_le run.index
    omega

theorem move (affords : Affords host stages base limit children channels machine)
    (present : machine.processes[host]? = some process)
    (moved : machine.step (Program.behaviour images) host = some after) :
    Affords host stages base limit
      (children ++ if machine.nextProcess < after.nextProcess then [machine.nextProcess] else [])
      (channels ++ if machine.nextPipe < after.nextPipe then [machine.nextPipe] else []) after := by
  obtain ⟨run, program, executes⟩ := affords.underway.executor process present
  have executes := executes (System.alive_of_step present moved).1
  have runs : machine.run? host = some run := by simp [Machine.run?, present, program]
  have underway := Underway.move affords.underway.toMade present program executes (.step moved)
  have move := step_executor affords.underway.numbered present program executes.working moved
  have limited : ∀ later, after.processes[host]? = some later → later.limit = limit := fun later found =>
    (move.settings found).1.trans (affords.limited process present)
  by_cases opening : run.IsOpening
  · exact affords.ask present program executes opening moved
  · have closes : ∀ endpoint errno, run.next = some (.close endpoint) →
        process.descriptors.close endpoint ≠ .error errno := by
      intro endpoint errno closing
      obtain ⟨object, rest, holds, -⟩ := Run.resume_closed channels closing executes.fits
      have adds := executes.adds
      rw [holds] at adds
      simp [adds.close.1]
    obtain ⟨samePipes, made, reply, later, found, goes, granted⟩ := move.granted program opening closes
    rw [samePipes, if_neg (Nat.lt_irrefl _), List.append_nil] at underway ⊢
    refine ⟨underway, limited, affords.first, affords.second, fun last fault given failed => ?_⟩
    obtain rfl : last = run.resume reply := by
      simp only [Machine.run?, found, Option.map_some, goes, Option.some.injEq] at given
      exact given.symm
    rcases Run.fails_of_resume failed with before | ⟨refused, fails⟩ | waited
    · have unforked : run.next ≠ some .fork := by
        unfold Run.fault? at before
        intro forks
        unfold Run.next at forks
        split at before <;> simp_all
      rw [made.resolve_right unforked, if_neg (Nat.lt_irrefl _), List.append_nil]
      exact affords.refused run fault runs before
    · rw [granted _ refused] at fails
      exact fails.elim
    · exact .inl waited

theorem begun {phase : Phase} {executor : Process (Program τ)} (numbered : machine.Numbered)
    (present : machine.processes[host]? = some executor)
    (begins : executor.program = .executor (.ofStages phase stages)) :
    Affords host stages executor.descriptors executor.limit [] [] machine where
  underway := .start numbered present begins
  limited process found := by rw [Option.some.inj (found.symm.trans present)]
  first none := by simp at none
  second none := by simp at none
  refused run fault runs failed := by
    simp only [Machine.run?, present, Option.map_some, begins, Option.some.injEq] at runs
    subst runs
    cases stages with
    | nil => cases failed
    | cons stage later => cases Run.fault?_spawnNext.symm.trans failed

theorem step {chronicle : Chronicle} {mover : Nat}
    (affords : Affords host stages base limit chronicle.children chronicle.channels machine)
    (moved : machine.step (Program.behaviour images) mover = some after) :
    Affords host stages base limit (chronicle.extend images host mover machine after).children
      (chronicle.extend images host mover machine after).channels after := by
  by_cases own : mover = host
  · subst own
    obtain ⟨process, -, present, -⟩ := System.step_eq_some moved
    simpa [Chronicle.extend] using affords.move present moved
  · have spares := System.step_spares affords.underway.numbered moved
    have before : ∀ later, after.processes[host]? = some later →
        ∃ process, machine.processes[host]? = some process ∧ Disturbed process later :=
      spares.others host (Ne.symm own) affords.underway.host_lt
    have underway := affords.underway.step (.step moved)
    simp only [Chronicle.extend, own, false_and, if_false, List.append_nil] at underway ⊢
    refine ⟨underway, fun later found => ?_, affords.first, affords.second, fun run fault runs failed => ?_⟩
    · obtain ⟨process, present, disturbed⟩ := before later found
      exact disturbed.limit.trans (affords.limited process present)
    · obtain ⟨later, found, program⟩ := Machine.run?_eq_some runs
      obtain ⟨process, present, disturbed⟩ := before later found
      refine affords.refused run fault ?_ failed
      simp [Machine.run?, present, ← disturbed.program, program]

/-- All along a passage in which no call fails without a reason. -/
theorem passage {first : Machine τ} (affords : Affords host stages base limit [] [] first)
    (passage : Passage images (fun _ => false) host first tally machine) :
    ∃ chronicle : Chronicle, chronicle.children = tally.made ∧
      Affords host stages base limit chronicle.children chronicle.channels machine := by
  induction passage with
  | start => exact ⟨{}, rfl, affords⟩
  | time earlier passed ih =>
    obtain ⟨chronicle, children, underway, limited, first, second, refused⟩ := ih
    obtain ⟨⟨⟨numbered⟩, older, channels_le, behind, child⟩, executor⟩ := underway
    obtain ⟨clock, rfl⟩ := System.passTime_eq_some passed
    exact ⟨chronicle, children, ⟨⟨⟨numbered⟩, older, channels_le, behind, child⟩, executor⟩, limited, first, second,
      refused⟩
  | mishap earlier failed ih =>
    obtain ⟨-, -, -, -, -, -, -, possible⟩ := failed
    cases possible
  | step earlier mover moved ih =>
    obtain ⟨chronicle, children, affords⟩ := ih
    exact ⟨_, by simp only [Chronicle.extend, Tally.extend, children], affords.step moved⟩

/-- A run that has left its stages behind had enough room for them. -/
theorem suffices_of_hasSpawned (affords : Affords host stages base limit children channels machine)
    (present : machine.processes[host]? = some process) (alive : process.ending = none)
    (program : process.program = .executor run) (spawned : run.HasSpawned) :
    Suffices (base.room limit) stages.length := by
  obtain ⟨same, there, executes⟩ := affords.underway.executor process present
  obtain rfl : run = same := Program.executor.inj (program.symm.trans there)
  have fits := (executes alive).fits
  have counted : stages = [] ∨ channels.length + 1 = stages.length := by
    unfold Run.HasSpawned at spawned
    unfold Run.Fits at fits
    split at spawned <;> simp_all
    rcases fits with ⟨rfl, -⟩ | ⟨-, counted⟩
    · exact .inl rfl
    · exact .inr counted
  have first := affords.first
  have second := affords.second
  unfold Suffices
  rcases counted with rfl | counted
  · exact .inl (Nat.zero_le _)
  · omega

/-- What the run of an executor affords. -/
theorem affords_run (affords : Affords host stages base limit children channels machine)
    (present : machine.processes[host]? = some process) (alive : process.ending = none)
    (program : process.program = .executor run) (reports : run.report.spawned = children) :
    run.Affords (base.room limit) stages children where
  spawned := affords.suffices_of_hasSpawned present alive program
  refused fault failed unspawned := by
    have first := affords.first
    have second := affords.second
    have runs : machine.run? host = some run := by simp [Machine.run?, present, program]
    rcases affords.refused run fault runs failed with ⟨errno, rfl⟩ | ⟨stage, rfl, made, listed, within, short⟩
    · -- a run that has failed in waiting drops nothing
      obtain ⟨same, there, executes⟩ := affords.underway.executor process present
      obtain rfl : run = same := Program.executor.inj (program.symm.trans there)
      have fits := (executes alive).fits
      unfold Run.fault? at failed
      split at failed
      · cases failed
        simp_all [Run.HasSpawned]
      · cases failed
        simp_all [Run.Fits]
      · cases failed
    · refine ⟨?_, ⟨stage, by rw [made], made ▸ listed⟩, reports, by omega⟩
      unfold Suffices
      omega

end Affords

/-- What is true wherever an executor has come to, as long as its process lives: it holds few endpoints, and its run
affords what it has made. -/
theorem Passage.affords {phase : Phase} (hosts : start.Hosts host)
    (executor : start.processes[host]? = some process)
    (passage : Passage images (fun _ => false) host (start.putProgram host (.executor (.ofStages phase stages))) tally
      machine)
    (present : machine.processes[host]? = some later) (alive : later.ending = none) :
    (∃ held, process.descriptors.Adds held later.descriptors ∧ held.length ≤ mostHeld stages.length) ∧
      ∃ run, later.program = .executor run ∧ (∃ replies, run = (Run.ofStages phase stages).follow replies) ∧
        run.Affords (process.descriptors.room process.limit) stages tally.made := by
  have hosts' := hosts.putProgram (.executor (.ofStages phase stages))
  have there : (start.putProgram host (.executor (.ofStages phase stages))).processes[host]? =
      some { process with program := .executor (.ofStages phase stages) } := by
    simp [Machine.putProgram, executor]
  obtain ⟨chronicle, children, affords⟩ := (Affords.begun hosts'.numbered there rfl).passage passage
  obtain ⟨run, program, executes⟩ := affords.underway.executor later present
  obtain ⟨same, again, keeping⟩ := passage.keeping hosts' (fun _ => Machine.program_of_putProgram)
    (Run.report_start _ _) rfl later present
  obtain rfl : run = same := Program.executor.inj (program.symm.trans again)
  refine ⟨⟨_, (executes alive).adds, (executes alive).fits.held_le⟩, run, program, keeping.follows, ?_⟩
  exact children ▸ affords.affords_run present alive program (keeping.spawned.trans children.symm)

/-- An executor that rests and has not left its stages behind has come to a fault. -/
theorem fault_of_rests (runs : machine.run? host = some run) (rests : machine.Rests host)
    (unspawned : ¬ run.HasSpawned) :
    ∃ fault, run.outcome? = some (.error fault) ∧ run.fault? = some fault := by
  obtain ⟨same, again, rests⟩ := rests
  obtain rfl : run = same := Option.some.inj (runs.symm.trans again)
  rcases rests with ⟨outcome, ended⟩ | ⟨reaping, -⟩
  · have control := Run.control_of_outcome? ended
    cases outcome with
    | ok report => exact absurd (by simp [Run.HasSpawned, control]) unspawned
    | error fault => exact ⟨fault, ended, by simp [Run.fault?, control]⟩
  · exact absurd (by simp [Run.HasSpawned, reaping]) unspawned

/-- However many stages there are, an executor holds few endpoints besides the descriptors with which it began: none
for one stage, at most two for two, and at most three for more. It leaves its stages behind just if there is room for
two further descriptors, when there are two stages, or for three, when there are more; it comes to that by its own
moves. If there is not, it comes by its own moves to the fault that the channel behind the first stage was refused to
it, or, with room for two, the channel behind the second one, when it has made the processes of the stages before. -/
theorem budget_of_stages {phase : Phase} (hosts : start.Hosts host) (executor : start.processes[host]? = some process)
    (passage : Passage images (fun _ => false) host (start.putProgram host (.executor (.ofStages phase stages))) tally
      machine)
    (present : machine.processes[host]? = some later) (alive : later.ending = none) :
    (∃ held, process.descriptors.Adds held later.descriptors ∧ held.length ≤ mostHeld stages.length) ∧
    (∃ run, later.program = .executor run ∧ run.Affords (process.descriptors.room process.limit) stages tally.made) ∧
    (later.stopped = false → ∃ count tally' after run,
      Passage.follow images (fun _ => false) host (List.replicate count (.step host)) (tally, machine) =
        some (tally', after) ∧ after.run? host = some run ∧
      run.Affords (process.descriptors.room process.limit) stages tally'.made ∧
      (run.HasSpawned ↔ Suffices (process.descriptors.room process.limit) stages.length) ∧
      (¬ run.HasSpawned → ∃ fault, run.outcome? = some (.error fault) ∧ run.fault? = some fault)) := by
  obtain ⟨holds, run, program, ⟨replies, rfl⟩, affords⟩ := passage.affords hosts executor present alive
  refine ⟨holds, ⟨_, program, affords⟩, fun going => ?_⟩
  by_cases none : stages = []
  · subst none
    have same : (Run.ofStages phase []).follow replies = .ofStages phase [] := Run.follow_of_finished rfl replies
    rw [same] at program affords
    have spawned : (Run.ofStages phase []).HasSpawned := trivial
    exact ⟨0, tally, machine, _, rfl, by simp [Machine.run?, present, program], affords,
      ⟨affords.spawned, fun _ => spawned⟩, fun unspawned => absurd spawned unspawned⟩
  · obtain ⟨count, tally', after, last, followed, further, found, living, -, rests⟩ :=
      passage.comes_to_rest (hosts.putProgram _) (fun _ => Machine.program_of_putProgram) (Run.report_start _ _)
        (Run.collects_start none rfl rfl) rfl present alive going
    obtain ⟨-, run, program', -, affords'⟩ := further.affords hosts executor found living
    have runs : after.run? host = some run := by simp [Machine.run?, found, program']
    refine ⟨count, tally', after, run, followed, runs, affords', ⟨affords'.spawned, fun enough => ?_⟩,
      fault_of_rests runs rests⟩
    refine Classical.byContradiction fun unspawned => ?_
    obtain ⟨fault, -, failed⟩ := fault_of_rests runs rests unspawned
    exact (affords'.refused fault failed unspawned).1 enough

/-- A machine on which the process 1 is about to execute three copiers, with standard input closed and no number above
3: it can be given the numbers 0 and 3. -/
def Machine.cramped : Machine (Option Bytes) :=
  { Machine.copying (copiedStreams.erase 0) 3 with
    processes := Std.ExtTreeMap.empty.insert 1 { copyingExecutor (copiedStreams.erase 0) 3 with limit := 4 } }

theorem Machine.hosts_cramped : Machine.cramped.Hosts 1 := by
  refine ⟨⟨fun number process present => ?_⟩, Nat.lt_succ_self 1⟩
  simp only [Machine.cramped, Std.ExtTreeMap.getElem?_insert] at present
  split at present
  · rename_i same
    obtain rfl : 1 = number := by simpa using same
    exact Nat.lt_succ_self 1
  · simp at present

/-- There is room for the channel behind the first of three copiers, and none for the one behind the second. -/
theorem budget_of_copiers :
    DescriptorTable.room (copiedStreams.erase 0) 4 = 2 ∧
    ∃ count tally after run,
      Passage.follow copier (fun _ => false) 1 (List.replicate count (.step 1))
        ({}, Machine.cramped.putProgram 1 (.executor (.ofStages .idle ((List.range 3).map copierStage)))) =
          some (tally, after) ∧
      after.run? 1 = some run ∧ run.outcome? = some (.error (.pipe 1 (copierStage 1) .tooManyOpen)) ∧
      run.report.spawned = tally.made ∧ tally.made.length = 1 := by
  have room : DescriptorTable.room (copiedStreams.erase 0) 4 = 2 := by decide
  have few : ¬ Suffices (DescriptorTable.room (copiedStreams.erase 0) 4) ((List.range 3).map copierStage).length := by
    simp [Suffices, room]
  have present : Machine.cramped.processes[1]? =
      some { copyingExecutor (copiedStreams.erase 0) 3 with limit := 4 } := by rfl
  have begun : Passage copier (fun _ => false) 1
      (Machine.cramped.putProgram 1 (.executor (.ofStages .idle ((List.range 3).map copierStage)))) {}
      (Machine.cramped.putProgram 1 (.executor (.ofStages .idle ((List.range 3).map copierStage)))) := .start
  obtain ⟨-, -, comes⟩ := budget_of_stages Machine.hosts_cramped present begun (by rfl) rfl
  obtain ⟨count, tally, after, run, followed, runs, run_affords, spawned, fails⟩ := comes rfl
  have unspawned : ¬ run.HasSpawned := fun has => few (spawned.mp has)
  obtain ⟨fault, ended, failed⟩ := fails unspawned
  obtain ⟨-, ⟨stage, rfl, listed⟩, made, ⟨-, short⟩ | ⟨one, -⟩⟩ := run_affords.refused fault failed unspawned
  · exact absurd short (by decide)
  · rw [one] at ended listed
    obtain rfl : copierStage 1 = stage := by simpa using listed
    exact ⟨room, count, tally, after, run, followed, runs, ended, made, one⟩

end Pipework
