import Pipework.Proofs.Collection
import Pipework.Proofs.Proceedings
import Pipework.Proofs.Recasting
import Pipework.Proofs.Release
import Pipework.Proofs.Wiring

set_option autoImplicit false

/-!
What can be foreseen of an executor. Until it waits, the answers that it gets depend on nothing but the numbers that its
process began with, the limit on them, and the endpoints that it owns (`Run.foreseen`): which processes it has made,
what these do and when, it is not told. So two executions of the same stages go the same way until they wait
(`Run.Concur`).
-/

namespace Pipework

open Kernel

namespace Kernel.DescriptorTable

/-- The same numbers are free. -/
def SameRoom (one other : DescriptorTable) : Prop := ∀ number, number ∈ one ↔ number ∈ other

variable {one other base table : DescriptorTable}

theorem SameRoom.insert (same : one.SameRoom other) (number : Nat) (first second : Descriptor) :
    SameRoom (one.insert number first) (other.insert number second) := by
  intro place
  simp [Std.ExtTreeMap.mem_insert, same place]

theorem SameRoom.lowestFree (same : one.SameRoom other) (least count : Nat) :
    one.lowestFree least count = other.lowestFree least count := by
  induction count generalizing least with
  | zero => rfl
  | succ count ih => simp only [DescriptorTable.lowestFree, same least, ih]

/-- What is answered to who asks for a channel: the two lowest numbers that are free, or that there are too few. -/
def ends (limit : Nat) (table : DescriptorTable) : Reply :=
  match table.lowestFree 0 limit with
  | none => .failed .tooManyOpen
  | some read =>
    match lowestFree (table.insert read ⟨.readEnd 0, true⟩) 0 limit with
    | none => .failed .tooManyOpen
    | some write => .ends read write

theorem SameRoom.ends (same : one.SameRoom other) (limit : Nat) : one.ends limit = other.ends limit := by
  have room := fun read => SameRoom.lowestFree (same.insert read ⟨.readEnd 0, true⟩ ⟨.readEnd 0, true⟩) 0 limit
  simp only [DescriptorTable.ends, same.lowestFree, room]

/-- A table in which these numbers are taken besides. -/
def taking (base : DescriptorTable) (numbers : List Nat) : DescriptorTable :=
  numbers.foldr (fun number table => table.insert number ⟨.readEnd 0, true⟩) base

theorem mem_taking {numbers : List Nat} {number : Nat} :
    number ∈ base.taking numbers ↔ number ∈ base ∨ number ∈ numbers := by
  induction numbers with
  | nil => simp [taking]
  | cons first later ih =>
    rw [taking, List.foldr_cons, Std.ExtTreeMap.mem_insert]
    rw [taking] at ih
    simp only [ih, List.mem_cons, Std.compare_eq_iff_eq]
    grind

/-- What is held takes its numbers. -/
theorem Adds.sameRoom {held : List (Nat × Object)} (adds : Adds base held table) :
    table.SameRoom (base.taking (held.map Prod.fst)) := by
  intro number
  rw [mem_taking, Std.ExtTreeMap.mem_iff_isSome_getElem?, Std.ExtTreeMap.mem_iff_isSome_getElem?]
  simp only [Option.isSome_iff_exists, adds.entries, List.mem_map, Prod.exists, exists_and_right, exists_eq_right]
  constructor
  · rintro ⟨descriptor, old | ⟨isHeld, -⟩⟩
    · exact .inl ⟨descriptor, old⟩
    · exact .inr ⟨descriptor.object, isHeld⟩
  · rintro (⟨descriptor, old⟩ | ⟨object, isHeld⟩)
    · exact ⟨descriptor, .inl old⟩
    · exact ⟨⟨object, true⟩, .inr ⟨isHeld, rfl⟩⟩

end Kernel.DescriptorTable

/-- Which numbers a channel gets depends on which are free. -/
theorem Kernel.System.makePipe_ends {σ : Type} (system : System σ) (number : Nat) (process : Process σ) :
    ∃ after, system.makePipe number process = .answer (process.descriptors.ends process.limit) after := by
  have same : process.descriptors.SameRoom process.descriptors := fun _ => Iff.rfl
  have room := fun read => DescriptorTable.SameRoom.lowestFree
    (same.insert read ⟨.readEnd system.nextPipe, true⟩ ⟨.readEnd 0, true⟩) 0 process.limit
  unfold System.makePipe DescriptorTable.ends
  simp only [DescriptorTable.allocate, Nat.sub_zero]
  cases process.descriptors.lowestFree 0 process.limit with
  | none => exact ⟨_, rfl⟩
  | some read =>
    dsimp only
    rw [room]
    cases DescriptorTable.lowestFree (process.descriptors.insert read ⟨.readEnd 0, true⟩) 0 process.limit with
    | none => exact ⟨_, rfl⟩
    | some write => exact ⟨_, rfl⟩

namespace Run

theorem owned_recast (recasting : Recasting) (run : Run) : (recasting.run run).owned = run.owned := by
  obtain ⟨phase, control⟩ := run
  cases control <;> rfl

/-- What a run is answered when it does not wait, if its process began with the table `base` and may have so many
descriptors. The process that it makes has no name here. -/
def foreseen (base : DescriptorTable) (limit : Nat) (run : Run) : Reply :=
  match run.control with
  | .opening _ _ _ => (base.taking run.owned).ends limit
  | .forking _ _ _ _ => .number 0
  | _ => .done

theorem foreseen_recast (recasting : Recasting) (base : DescriptorTable) (limit : Nat) (run : Run) :
    (recasting.run run).foreseen base limit = run.foreseen base limit := by
  have same := owned_recast recasting run
  obtain ⟨phase, control⟩ := run
  cases control with
  | opening stage later incoming => exact congrArg (fun owned => (base.taking owned).ends limit) same
  | _ => rfl

/-- Whether a run gets the answers that can be foreseen when it does not wait. -/
def Foresees (base : DescriptorTable) (limit : Nat) : Run → List (Call × Reply) → Prop
  | _, [] => True
  | run, (call, reply) :: later =>
    (call.waits = false → Recasting.nameless.reply reply = run.foreseen base limit) ∧
      (run.resume reply).Foresees base limit later

theorem foresees_append {base : DescriptorTable} {limit : Nat} (run : Run) (talk later : List (Call × Reply)) :
    run.Foresees base limit (talk ++ later) ↔
      run.Foresees base limit talk ∧ (run.follow (talk.map Prod.snd)).Foresees base limit later := by
  induction talk generalizing run with
  | nil => simp [Foresees, follow]
  | cons first rest ih => simp [Foresees, ih, and_assoc, follow]

end Run

variable {τ : Type} {images : Behaviour τ} {host : Nat} {base : DescriptorTable} {start machine after : Machine τ}
  {process later : Process (Program τ)} {run begun : Run} {call : Call} {reply : Reply}

/-- An executor that does not wait is answered what can be foreseen. -/
theorem Owning.said_foreseen (owning : Owning base run process) (present : machine.processes[host]? = some process)
    (alive : process.ending = none) (working : ∀ text, run.control ≠ .complaining text) (next : run.next = some call)
    (said : machine.said? (Program.behaviour images) host = some (call, reply)) (others : call.waits = false) :
    Recasting.nameless.reply reply = run.foreseen base process.limit := by
  have asks : (Program.behaviour images).next process.program = some call := by
    simpa [Program.behaviour, owning.program] using next
  have closed : ∀ endpoint, call = .close endpoint → reply = .done := by
    rintro endpoint rfl
    rw [said?_plain present asks (by simp)] at said
    simp only [System.perform, System.tableAnswer, owning.close_eq alive next] at said
    cases said
    rfl
  cases control : run.control with
  | opening stage rest incoming =>
    obtain rfl : .pipe = call := by simpa [Run.next, control] using next
    obtain ⟨held, same, adds⟩ := owning.table alive
    obtain ⟨between, made⟩ := machine.makePipe_ends host process
    rw [said?_plain present asks (by simp)] at said
    simp only [System.perform, made, adds.sameRoom.ends, same] at said
    cases said
    simp only [Run.foreseen, control]
    unfold DescriptorTable.ends
    repeat' split
    all_goals rfl
  | forking stage rest streams carried =>
    obtain rfl : .fork = call := by simpa [Run.next, control] using next
    obtain rfl : reply = .number machine.nextProcess := by
      simpa [System.said?, present, asks, eq_comm] using said
    simp [Run.foreseen, control, Recasting.reply, Recasting.nameless]
  | reaping =>
    obtain rfl : .wait = call := by simpa [Run.next, control] using next
    cases others
  | complaining text => exact absurd control (working text)
  | finished outcome => simp [Run.next, control] at next
  | closingRead stage rest endpoint stdout carried =>
    obtain rfl := closed endpoint (by simpa [Run.next, control, eq_comm] using next)
    simp [Run.foreseen, control, Recasting.reply]
  | closingWrite stage rest endpoint carried =>
    obtain rfl := closed endpoint (by simpa [Run.next, control, eq_comm] using next)
    simp [Run.foreseen, control, Recasting.reply]
  | dropping endpoint rest fault =>
    obtain rfl := closed endpoint (by simpa [Run.next, control, eq_comm] using next)
    simp [Run.foreseen, control, Recasting.reply]

/-- An executor changes neither how many descriptors its process may have nor which signals this ignores. -/
theorem RunMove.settings (move : RunMove images machine host process run after)
    (found : after.processes[host]? = some later) :
    later.limit = process.limit ∧ later.ignored = process.ignored := by
  cases move with
  | interrupted reaping interrupted =>
    rw [System.getElem?_put_self] at found
    cases found
    unfold System.withoutOpening
    split <;> exact ⟨rfl, rfl⟩
  | _ =>
    rw [System.getElem?_put_self] at found
    cases found
    exact ⟨rfl, rfl⟩

variable {minutes : Minutes} {limit : Nat} {ignored : List Signal}

/-- What can be foreseen of an executor as long as nothing fails without a reason: its process owns what the run says,
and keeps its limit and the signals that it ignores. -/
structure Proceedings.Foretold (base : DescriptorTable) (limit : Nat) (ignored : List Signal) (run : Run)
    (process : Process (Program τ)) : Prop where
  owning : Owning base run process
  limit : process.limit = limit
  ignored : process.ignored = ignored

/-- An executor that does not complain gets the answers that can be foreseen until it waits. -/
theorem Proceedings.foresees (proceedings : Proceedings images (fun _ => false) host start minutes machine)
    (hosts : start.Hosts host) (working : ∀ replies text, (begun.follow replies).control ≠ .complaining text)
    (begins : ∀ process, start.processes[host]? = some process → Foretold base limit ignored begun process) :
    begun.Foresees base limit (minutes.talk host) ∧ ∀ process, machine.processes[host]? = some process →
      Foretold base limit ignored (begun.follow ((minutes.talk host).map Prod.snd)) process := by
  induction proceedings with
  | start => exact ⟨trivial, begins⟩
  | time earlier passed ih =>
    obtain ⟨clock, rfl⟩ := System.passTime_eq_some passed
    exact ih
  | mishap earlier process call errno present alive going asks possible => cases possible
  | @step minutes before after earlier mover moved ih =>
    have settled := earlier.hosts hosts
    obtain ⟨foresees, foretold⟩ := ih
    have hears := (earlier.step mover moved).hears hosts fun process present => (begins process present).owning.program
    by_cases own : mover = host
    · subst own
      obtain ⟨process, -, present, -⟩ := System.step_eq_some moved
      obtain ⟨owning, limit, ignored⟩ := foretold process present
      have alive := (System.alive_of_step present moved).1
      rw [Minutes.talk_append, Minutes.talk_own] at hears ⊢
      refine ⟨(begun.foresees_append _ _).mpr ⟨foresees, ?_⟩, fun later found => ?_⟩
      · cases said : before.said? (Program.behaviour images) mover with
        | none => trivial
        | some exchange =>
          obtain ⟨call, reply⟩ := exchange
          have asks := ((begun.asks_append _ _).mp hears.asks).2
          rw [said] at asks
          exact ⟨fun others =>
            limit ▸ owning.said_foreseen present alive (working _) asks.1 said others, trivial⟩
      · obtain ⟨next, owns⟩ := owning.step settled.numbered present moved found
        obtain rfl : next = _ := Program.executor.inj (owns.program.symm.trans (hears.program later found))
        have same := (step_executor settled.numbered present owning.program (working _) moved).settings found
        exact ⟨owns, same.1.trans limit, same.2.trans ignored⟩
    · rw [Minutes.talk_append, Minutes.talk_other own, List.append_nil]
      refine ⟨foresees, fun later found => ?_⟩
      obtain ⟨process, present, disturbed⟩ :=
        (System.step_spares settled.numbered moved).others host (Ne.symm own) settled.given later found
      obtain ⟨owning, limit, ignored⟩ := foretold process present
      exact ⟨owning.disturbed disturbed, disturbed.limit.trans limit, disturbed.ignored.trans ignored⟩

namespace Run

/-- What a run has asked and was answered before it has begun to wait. -/
def early (talk : List (Call × Reply)) : List (Call × Reply) := talk.takeWhile fun entry => !entry.1.waits

/-- What a run has asked and was answered since it has begun to wait. -/
def late (talk : List (Call × Reply)) : List (Call × Reply) := talk.dropWhile fun entry => !entry.1.waits

/-- A run that has come to waiting, or to its end. -/
def Settled (run : Run) : Prop := ∀ call, run.next = some call → call.waits = true

/-- Two conversations go the same way, but for the numbers of processes, as long as both go on; and none goes on where
the other one has settled. -/
structure Concur (first second : Run) (one other : List (Call × Reply)) : Prop where
  along : ∀ count, count ≤ one.length → count ≤ other.length →
    (one.take count).map Prod.fst = (other.take count).map Prod.fst ∧
      Recasting.nameless.run (first.follow ((one.take count).map Prod.snd)) =
        Recasting.nameless.run (second.follow ((other.take count).map Prod.snd))
  last : (first.follow (one.map Prod.snd)).Settled → other.length ≤ one.length
  least : (second.follow (other.map Prod.snd)).Settled → one.length ≤ other.length

variable {first second : Run} {talk one other : List (Call × Reply)}

theorem early_waits : ∀ entry ∈ early talk, entry.1.waits = false := by
  intro entry member
  simpa using List.all_eq_true.mp List.all_takeWhile entry member

theorem early_append_late (talk : List (Call × Reply)) : early talk ++ late talk = talk :=
  List.takeWhile_append_dropWhile

/-- Who has begun to wait has done so with a call that waits. -/
theorem waits_of_late {entry : Call × Reply} {later : List (Call × Reply)} (waits : late talk = entry :: later) :
    entry.1.waits = true := by
  have some : talk.dropWhile (fun entry => !entry.1.waits) ≠ [] := by
    rw [← late, waits]
    simp
  have head := List.head_dropWhile_not (fun entry : Call × Reply => !entry.1.waits) some
  rw [late] at waits
  simpa [waits] using head

theorem Asks.early (asks : run.Asks talk) : run.Asks (early talk) := by
  rw [← early_append_late talk] at asks
  exact ((run.asks_append _ _).mp asks).1

theorem Foresees.early (foresees : run.Foresees base limit talk) : run.Foresees base limit (early talk) := by
  rw [← early_append_late talk] at foresees
  exact ((run.foresees_append _ _).mp foresees).1

theorem next_eq_of_alike (alike : Recasting.nameless.run first = Recasting.nameless.run second) :
    first.next = second.next := by
  rw [← next_recast Recasting.nameless first, alike, next_recast]

/-- Where a run has settled, a conversation that does not wait has come to its end. -/
theorem Settled.eq_nil (settled : run.Settled) (asks : run.Asks talk) (early : ∀ entry ∈ talk, entry.1.waits = false) :
    talk = [] := by
  cases talk with
  | nil => rfl
  | cons entry later =>
    have waits := settled entry.1 asks.1
    rw [early entry (List.mem_cons_self ..)] at waits
    cases waits

/-- Conversations that do not wait, and in which what can be foreseen is answered, go the same way. -/
theorem concur (alike : Recasting.nameless.run first = Recasting.nameless.run second) (asks : first.Asks one)
    (asked : second.Asks other) (foresees : first.Foresees base limit one)
    (foreseen : second.Foresees base limit other) (early : ∀ entry ∈ one, entry.1.waits = false)
    (soon : ∀ entry ∈ other, entry.1.waits = false) : Concur first second one other := by
  have next := next_eq_of_alike alike
  induction one generalizing first second other with
  | nil =>
    refine ⟨fun count none _ => ?_, fun settled => ?_, fun _ => Nat.zero_le _⟩
    · obtain rfl : count = 0 := Nat.le_zero.mp none
      exact ⟨rfl, alike⟩
    · have settled : second.Settled := fun call asks => settled call (next.trans asks)
      exact Nat.le_of_eq (congrArg List.length (settled.eq_nil asked soon))
  | cons entry rest ih =>
    cases other with
    | nil =>
      refine ⟨fun count _ none => ?_, fun _ => Nat.zero_le _, fun settled => ?_⟩
      · obtain rfl : count = 0 := Nat.le_zero.mp none
        exact ⟨rfl, alike⟩
      · have settled : first.Settled := fun call asks => settled call (next.symm.trans asks)
        cases settled.eq_nil asks early
    | cons another others =>
      obtain ⟨call, reply⟩ := entry
      obtain ⟨again, answer⟩ := another
      obtain rfl : call = again := Option.some.inj (asks.1.symm.trans (next.trans asked.1))
      have notWaits := early _ (List.mem_cons_self ..)
      have same : Recasting.nameless.reply reply = Recasting.nameless.reply answer := by
        rw [foresees.1 notWaits, foreseen.1 notWaits, ← foreseen_recast .nameless, alike, foreseen_recast]
      have onward := recast_resume_congr alike same
      have concur := ih onward asks.2 asked.2 foresees.2 foreseen.2
        (fun entry member => early entry (List.mem_cons_of_mem _ member))
        (fun entry member => soon entry (List.mem_cons_of_mem _ member)) (next_eq_of_alike onward)
      refine ⟨fun count short brief => ?_, fun settled => Nat.succ_le_succ (concur.last settled),
        fun settled => Nat.succ_le_succ (concur.least settled)⟩
      cases count with
      | zero => exact ⟨rfl, alike⟩
      | succ count =>
        obtain ⟨calls, runs⟩ := concur.along count (Nat.le_of_succ_le_succ short) (Nat.le_of_succ_le_succ brief)
        exact ⟨congrArg (call :: ·) calls, runs⟩

/-- The early part of a conversation that has come to its end has settled: it is the whole of it, or the run waits. -/
theorem Asks.settled (asks : run.Asks talk) (ended : (run.follow (talk.map Prod.snd)).next = none) :
    (run.follow ((Run.early talk).map Prod.snd)).Settled ∧
      (Run.early talk = talk ∨ (run.follow ((Run.early talk).map Prod.snd)).control = .reaping) := by
  have whole := early_append_late talk
  cases waiting : late talk with
  | nil =>
    rw [waiting, List.append_nil] at whole
    rw [whole]
    exact ⟨fun call next => absurd (ended.symm.trans next) (by simp), .inl rfl⟩
  | cons entry later =>
    have waits := waits_of_late waiting
    rw [← whole, waiting] at asks
    have next := ((run.asks_append _ _).mp asks).2.1
    refine ⟨fun call again => ?_, .inr ?_⟩
    · rw [Option.some.inj (again.symm.trans next)]
      exact waits
    · refine Classical.byContradiction fun working => ?_
      cases waits.symm.trans (Run.waits_of_next next working)

theorem follow_append (replies answers : List Reply) :
    run.follow (replies ++ answers) = (run.follow replies).follow answers := by
  simp [follow]

/-- A run that has come to a fault, but not in waiting, has not waited. -/
theorem Asks.early_of_fault (asks : run.Asks talk) {fault : Fault}
    (failed : (run.follow (talk.map Prod.snd)).control = .finished (.error fault))
    (others : ∀ errno, fault ≠ .wait errno) : Run.early talk = talk := by
  obtain ⟨-, whole | waits⟩ := asks.settled (by simp [Run.next, failed])
  · exact whole
  · have only : (run.follow ((Run.early talk).map Prod.snd)).OnlyWaits := .inl waits
    have only := only.follow ((late talk).map Prod.snd)
    rw [← follow_append, ← List.map_append, early_append_late] at only
    obtain reaping | well | ⟨errno, finished⟩ := only
    · cases failed.symm.trans reaping
    · cases failed.symm.trans well
    · cases failed.symm.trans finished
      exact absurd rfl (others errno)

/-- No fault names a process. -/
theorem fault_nameless (fault : Fault) : Recasting.nameless.fault fault = fault := by cases fault <;> rfl

/-- Of two conversations that go the same way and have come to their ends, if the one has come to a fault, but not in
waiting, then so has the other. -/
theorem Concur.fault (concur : Concur first second (early one) (early other)) (asks : first.Asks one)
    (asked : second.Asks other) {fault : Fault}
    (failed : (first.follow (one.map Prod.snd)).control = .finished (.error fault))
    (others : ∀ errno, fault ≠ .wait errno) (ended : (second.follow (other.map Prod.snd)).next = none) :
    (second.follow (other.map Prod.snd)).control = .finished (.error fault) := by
  have whole := asks.early_of_fault failed others
  have settled := (asks.settled (by simp [next, failed])).1
  have same := Nat.le_antisymm (concur.least (asked.settled ended).1) (concur.last settled)
  have alike := (concur.along (early one).length (Nat.le_refl _) (Nat.le_of_eq same)).2
  rw [List.take_length, same, List.take_length, whole] at alike
  have outcomes := congrArg outcome? alike
  rw [outcome?_recast, outcome?_recast, outcome?, failed, Option.map_some] at outcomes
  obtain ⟨outcome, came, recast⟩ := Option.map_eq_some_iff.mp outcomes.symm
  have finished := control_of_outcome? came
  obtain rfl : outcome = .error fault := by
    cases outcome with
    | ok report => cases recast
    | error another =>
      simp only [Recasting.outcome_error, fault_nameless] at recast
      exact recast
  obtain ⟨-, all | waits⟩ := asked.settled ended
  · rwa [all] at finished
  · cases finished.symm.trans waits

end Run

section course

/-- What can be come to without a call that fails without a reason is come to in a course, in which the host makes the
processes that stand in the minutes. -/
theorem Proceedings.course (proceedings : Proceedings images (fun _ => false) host start minutes machine) :
    ∃ chronicle, Course images host start chronicle machine ∧
      chronicle.children = (Tally.ofTalk (minutes.talk host)).made :=
  proceedings.passage.course

/-- A process on its way to a program loads it in its next move, and has these descriptors then. -/
def Machine.LoadsWith (images : Behaviour τ) (machine : Machine τ) (number : Nat) (table : DescriptorTable) : Prop :=
  ∃ process startup after loaded state, machine.processes[number]? = some process ∧
    process.program = .startup startup ∧ machine.step (Program.behaviour images) number = some after ∧
    after.processes[number]? = some loaded ∧ loaded.program = .image state ∧ loaded.descriptors = table

/-- Where the process of a stage loads its program, it has what is kept of the table of the stage. -/
theorem Underway.loads {stages : List Stage} {children channels : List Nat} {index child : Nat}
    {table : DescriptorTable}
    (underway : Underway host stages base children channels machine) (isChild : children[index]? = some child)
    (loads : machine.LoadsWith images child table) : table = (stageTable base channels index).afterLoad := by
  obtain ⟨process, startup, after, loaded, state, present, becoming, moved, found, image, rfl⟩ := loads
  have kept := (underway.child index child isChild).2.2 process present
  simp only [Becomes, becoming] at kept
  have alive := (System.alive_of_step present moved).1
  obtain ⟨-, -, result⟩ := loaded_of_image present becoming (kept.2 alive) moved found image
  rw [result]

end course

namespace Kernel.System

variable {σ : Type} (system : System σ) (number : Nat)

theorem nodup_childrenOf : ((system.childrenOf number).map Prod.fst).Nodup := by
  have keys : (system.processes.toList.map Prod.fst).Nodup := by
    rw [Std.ExtTreeMap.map_fst_toList_eq_keys]
    exact Std.ExtTreeMap.nodup_keys
  exact keys.sublist (List.filter_sublist.map _)

theorem isChild_iff {system : System σ} {number child : Nat} :
    system.IsChild number child ↔ child ∈ (system.childrenOf number).map Prod.fst := by
  simp [IsChild, mem_childrenOf]

end Kernel.System

/-- Who waits for all children collects those that there were and those that he has made. -/
theorem Deed.Kept.perm_returned {deed : Deed τ} (kept : deed.Kept host) (collected : deed.Collected host)
    (numbered : deed.before.Numbered) :
    (deed.returned host).Perm ((deed.before.childrenOf host).map Prod.fst ++ deed.tally.made) := by
  have once : (deed.returned host).Nodup := kept.returned ▸ kept.accounts.once
  have apart : ((deed.before.childrenOf host).map Prod.fst ++ deed.tally.made).Nodup := by
    refine List.nodup_append.mpr ⟨System.nodup_childrenOf _ _, kept.accounts.made, ?_⟩
    rintro old isChild new made rfl
    have older := System.lt_of_isChild numbered (System.isChild_iff.mpr isChild)
    have newer := (kept.accounts.fresh old made).1
    omega
  refine (List.perm_ext_iff_of_nodup once apart).mpr fun number => ?_
  rw [kept.mem_returned collected, List.mem_append, System.isChild_iff]

/-- A process that is about to execute pipelines. -/
structure Machine.Poised (host : Nat) (executor : Process (Program τ)) (machine : Machine τ) : Prop where
  hosts : machine.Hosts host
  present : machine.processes[host]? = some executor
  opening : executor.opening = none

/-- The machines that can be come to when an executor of a process, in some phase, executes stages, and no call fails
without a reason, with minutes of the way there. -/
def Undertaking (images : Behaviour τ) (host : Nat) (start : Machine τ) (phase : Phase) (stages : List Stage) :
    Minutes → Machine τ → Prop :=
  Proceedings images (fun _ => false) host (start.putProgram host (.executor (.ofStages phase stages)))

/-- An executor has come to its end, and its process lives. -/
structure Machine.Returns (host : Nat) (outcome : Except Fault Report) (machine : Machine τ) : Prop where
  lives : machine.Lives host
  outcome : (machine.run? host).bind Run.outcome? = some outcome

/-- There is a status for each child of whose end a process was told. -/
def Minutes.Decodable (minutes : Minutes) (host : Nat) : Prop :=
  ∀ child ∈ (Tally.ofTalk (minutes.talk host)).collected, (child.2.status? child.1).isSome = true

namespace Undertaking

variable {phase : Phase} {stages : List Stage} {outcome : Except Fault Report} {report : Report}
  {executor : Process (Program τ)}

/-- An executor of stages has nothing to complain about. -/
theorem working (phase : Phase) (stages : List Stage) (replies : List Reply) (text : Bytes) :
    ((Run.ofStages phase stages).follow replies).control ≠ .complaining text := by
  cases stages with
  | nil =>
    rw [Run.follow_of_finished rfl]
    exact fun complaining => by cases complaining
  | cons stage later =>
    have scripted := (Run.Scripted.start (.fresh phase) (stage :: later) (by simp) rfl rfl).follow replies
    exact scripted.toWorking.uncomplaining text

/-- What can be foreseen comes true. -/
theorem foresees (undertaking : Undertaking images host start phase stages minutes machine)
    (poised : start.Poised host executor) :
    (Run.ofStages phase stages).Foresees executor.descriptors executor.limit (minutes.talk host) ∧
      ∀ process, machine.processes[host]? = some process →
        Proceedings.Foretold executor.descriptors executor.limit executor.ignored
          ((Run.ofStages phase stages).follow ((minutes.talk host).map Prod.snd)) process := by
  refine Proceedings.foresees undertaking (poised.hosts.putProgram _) (working phase stages) fun process found => ?_
  obtain ⟨earlier, present, rfl⟩ := Machine.of_putProgram found
  obtain rfl : executor = earlier := Option.some.inj (poised.present.symm.trans present)
  refine ⟨⟨rfl, .start _ _, poised.opening, fun _ => ⟨[], ?_, .refl _⟩⟩, rfl, rfl⟩
  exact (Run.owned_start _ _).symm

/-- In the course of what is executed the host makes what the stages need. -/
theorem course (undertaking : Undertaking images host start phase stages minutes machine)
    (poised : start.Poised host executor) :
    ∃ chronicle, Course images host (start.putProgram host (.executor (.ofStages phase stages))) chronicle machine ∧
      chronicle.children = (Tally.ofTalk (minutes.talk host)).made ∧
      Underway host stages executor.descriptors chronicle.children chronicle.channels machine := by
  obtain ⟨chronicle, course, children⟩ := Proceedings.course undertaking
  have found : (start.putProgram host (.executor (.ofStages phase stages))).processes[host]? =
      some { executor with program := .executor (.ofStages phase stages) } := by
    simp [Machine.putProgram, poised.present]
  have first := Underway.start (poised.hosts.putProgram _).numbered found rfl
  exact ⟨chronicle, course, children, first.course course⟩

/-- The host asks what its run asks, and the run is what the answers have made of it. -/
theorem hears (undertaking : Undertaking images host start phase stages minutes machine) (hosts : start.Hosts host) :
    Proceedings.Hears (.ofStages phase stages) (minutes.talk host) host machine :=
  Proceedings.hears undertaking (hosts.putProgram _) fun _ => Machine.program_of_putProgram

/-- The run of the host keeps to what is remembered. -/
theorem keeping (undertaking : Undertaking images host start phase stages minutes machine) (hosts : start.Hosts host)
    (present : machine.processes[host]? = some process) :
    process.program = .executor ((Run.ofStages phase stages).follow ((minutes.talk host).map Prod.snd)) ∧
      Keeping host (.ofStages phase stages) (.ofTalk (minutes.talk host)) machine
        ((Run.ofStages phase stages).follow ((minutes.talk host).map Prod.snd)) := by
  have program := (undertaking.hears hosts).program process present
  obtain ⟨run, same, keeping⟩ := (Proceedings.passage undertaking).keeping (hosts.putProgram _)
    (fun _ => Machine.program_of_putProgram) (Run.report_start _ _) rfl process present
  obtain rfl := Program.executor.inj (same.symm.trans program)
  exact ⟨program, keeping⟩

/-- The run of an executor that has come to its end. -/
theorem finished (undertaking : Undertaking images host start phase stages minutes machine) (hosts : start.Hosts host)
    (returns : machine.Returns host outcome) :
    ((Run.ofStages phase stages).follow ((minutes.talk host).map Prod.snd)).control = .finished outcome ∧
      Keeping host (.ofStages phase stages) (.ofTalk (minutes.talk host)) machine
        ((Run.ofStages phase stages).follow ((minutes.talk host).map Prod.snd)) := by
  obtain ⟨process, present, -⟩ := returns.lives
  obtain ⟨program, keeping⟩ := undertaking.keeping hosts present
  have ended := returns.outcome
  simp only [Machine.run?, present, Option.map_some, program] at ended
  exact ⟨Run.control_of_outcome? ended, keeping⟩

/-- An executor that succeeds has got a status for each child that it was told of. -/
theorem decodable (undertaking : Undertaking images host start phase stages minutes machine) (hosts : start.Hosts host)
    (returns : machine.Returns host (.ok report)) : minutes.Decodable host := by
  obtain ⟨finished, keeping⟩ := undertaking.finished hosts returns
  intro child member
  rw [Option.isSome_iff_ne_none]
  intro undecoded
  cases finished.symm.trans (keeping.decoded ⟨child, member, undecoded⟩)

/-- If there are statuses, no wait fails. -/
theorem ne_wait (undertaking : Undertaking images host start phase stages minutes machine) (hosts : start.Hosts host)
    (returns : machine.Returns host outcome) (decodable : minutes.Decodable host) (errno : Errno) :
    outcome ≠ .error (.wait errno) := by
  rintro rfl
  obtain ⟨finished, keeping⟩ := undertaking.finished hosts returns
  cases stages with
  | nil =>
    rw [Run.follow_of_finished rfl] at finished
    cases finished
  | cons stage later =>
    have collects : (Run.ofStages phase (stage :: later)).Collects := Run.collects_start (by simp) rfl rfl
    obtain ⟨child, member, undecoded⟩ := keeping.undecoded collects errno finished
    simpa [undecoded] using decodable child member

/-- An executor that succeeds has waited for all its children. -/
theorem kept (undertaking : Undertaking images host start phase stages minutes machine) (hosts : start.Hosts host)
    (returns : machine.Returns host (.ok report)) (some : stages ≠ []) :
    let deed : Deed τ := ⟨.errand 0 (.pipeline stages), start, machine, .ofTalk (minutes.talk host)⟩
    deed.Kept host ∧ deed.Collected host ∧ deed.returned host = report.reaped.map Status.process := by
  intro deed
  have finished := (undertaking.finished hosts returns).1
  obtain ⟨process, present, -⟩ := returns.lives
  have program := (undertaking.keeping hosts present).1
  have ended : deed.outcome? host = .some (.ok report) := returns.outcome
  have done : process.program.isDone = true := by simp [program, Program.isDone, Run.outcome?, finished]
  have passage : Passage images (fun _ => false) host (start.putProgram host (deed.request.program fun _ => phase))
      deed.tally machine := Proceedings.passage undertaking
  have kept : deed.Kept host :=
    passage.kept present done hosts rfl returns.lives ⟨by simp, undertaking.decodable hosts returns⟩
  exact ⟨kept, ⟨.inl some, report, ended⟩, Deed.returned_of_ok ended⟩

/-- What an executor reports that succeeds: a channel behind each stage but the last, the processes that it has made,
one for each stage, and the statuses that it was told of. -/
theorem reported (undertaking : Undertaking images host start phase stages minutes machine) (hosts : start.Hosts host)
    (returns : machine.Returns host (.ok report)) (some : stages ≠ []) :
    report.channels + 1 = stages.length ∧ report.spawned.length = stages.length ∧
      report.spawned = (Tally.ofTalk (minutes.talk host)).made ∧
      report.reaped = Run.statuses (Tally.ofTalk (minutes.talk host)).collected := by
  obtain ⟨finished, keeping⟩ := undertaking.finished hosts returns
  have scripted := (Run.Scripted.start (.fresh phase) stages some rfl rfl).follow ((minutes.talk host).map Prod.snd)
  obtain ⟨same, -, channels, spawned, -⟩ := scripted.of_success (by simp [Run.fresh]) finished
  exact ⟨channels, spawned, same ▸ keeping.spawned, same ▸ keeping.reaped⟩

/-- An executor that succeeds collects a status for each stage and for each child that its process had before. -/
theorem length_reaped (undertaking : Undertaking images host start phase stages minutes machine)
    (hosts : start.Hosts host) (returns : machine.Returns host (.ok report)) (some : stages ≠ []) :
    report.reaped.length = (start.childrenOf host).length + stages.length := by
  obtain ⟨kept, collected, returned⟩ := undertaking.kept hosts returns some
  obtain ⟨-, spawned, made, -⟩ := undertaking.reported hosts returns some
  have counted := (kept.perm_returned collected hosts.numbered).length_eq
  rwa [returned, List.length_map, List.length_append, List.length_map, ← made, spawned] at counted

end Undertaking

end Pipework
