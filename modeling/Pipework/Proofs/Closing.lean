import Mathlib.Data.List.Induction
import Pipework.Proofs.Phases
import Pipework.Proofs.Release

set_option autoImplicit false

/-!
The closing of endpoints, as an executor records it. What a record says of the ends of channels and of processes is
due when it is recorded (`Due`): the write end that is open is closed before the next channel is opened and before the
next process is made, and a read end once the process behind it is made. So the ends add up in every record, whether the
run was cut short or not; and what a run still held when it gave up it has closed too, without a record
(`Errand.endpoints_settled`).
-/

namespace Pipework

open Kernel (Reply)

/-- The end on this side of the channel that an event says was opened. -/
def Event.opened? (side : Side) : Event → Option Nat
  | .opened read write => some (match side with | .read => read | .write => write)
  | _ => none

/-- The end on this side that an event says is closed. -/
def Event.closed? (side : Side) : Event → Option Nat
  | .closing closes endpoint => if closes = side then some endpoint else none
  | _ => none

/-- The ends on this side of all channels that were opened, one after the other. -/
def opened (side : Side) (trace : List Event) : List Nat := trace.filterMap (Event.opened? side)

/-- The ends on this side that were recorded as closed, one after the other. -/
def closed (side : Side) (trace : List Event) : List Nat := trace.filterMap (Event.closed? side)

/-- The processes that were made for stages, one after the other. -/
def spawned (trace : List Event) : List (Nat × Nat × String) := trace.filterMap Event.spawned?

section

variable (side : Side) (before after : List Event) (event : Event)

@[simp] theorem opened_nil : opened side [] = [] := rfl

@[simp] theorem closed_nil : closed side [] = [] := rfl

@[simp] theorem spawned_nil : spawned [] = [] := rfl

@[simp] theorem opened_append : opened side (before ++ after) = opened side before ++ opened side after :=
  List.filterMap_append

@[simp] theorem closed_append : closed side (before ++ after) = closed side before ++ closed side after :=
  List.filterMap_append

@[simp] theorem spawned_append : spawned (before ++ after) = spawned before ++ spawned after :=
  List.filterMap_append

@[simp] theorem opened_cons : opened side (event :: after) = (event.opened? side).toList ++ opened side after := by
  cases said : event.opened? side <;> simp [opened, said]

@[simp] theorem closed_cons : closed side (event :: after) = (event.closed? side).toList ++ closed side after := by
  cases said : event.closed? side <;> simp [closed, said]

@[simp] theorem spawned_cons : spawned (event :: after) = event.spawned?.toList ++ spawned after := by
  cases said : event.spawned? <;> simp [spawned, said]

end

/-- When an event of a pipeline may be recorded: what was recorded before it. -/
structure Due (stages : List Stage) (before : List Event) (event : Event) : Prop where
  /-- A channel is opened behind each process that was made, when the write ends before are closed. -/
  opening : ∀ read write, event = .opened read write →
    (closed .write before).length = (opened .write before).length ∧
      (spawned before).length = (opened .write before).length
  /-- The processes are made in the order of the stages, each when the write ends before it are closed. -/
  spawning : ∀ process position program, event = .spawned process position program →
    (closed .write before).length = (spawned before).length ∧
      ∃ stage, stages[(spawned before).length]? = some stage ∧ position = stage.position ∧ program = stage.program
  /-- The write end of a channel is closed when the process before it was made; if that one reads from a channel too,
  directly after the end from which it does. -/
  closingWrite : ∀ endpoint, event = .closing .write endpoint →
    (opened .write before)[(closed .write before).length]? = some endpoint ∧
      (spawned before).length = (closed .write before).length + 1 ∧
      (0 < (closed .write before).length → ∃ read, before.getLast? = some (.closing .read read))
  /-- The read end of a channel is closed when the process behind it was made. -/
  closingRead : ∀ endpoint, event = .closing .read endpoint →
    (opened .read before)[(closed .read before).length]? = some endpoint ∧
      (spawned before).length = (closed .read before).length + 2
  /-- After the end from which a stage reads, the one to which it writes is closed next, unless it is the last stage. -/
  onward : ∀ endpoint, before.getLast? = some (.closing .read endpoint) →
    (closed .read before).length + 1 < stages.length → ∃ write, event = .closing .write write

/-- All that is recorded is due. -/
def Lawful (stages : List Stage) (trace : List Event) : Prop :=
  ∀ before event after, trace = before ++ event :: after → Due stages before event

/-- No write end has to be closed directly: the last event is not the close of a read end, or no channel comes after
that. -/
def Quiet (stages : List Stage) (trace : List Event) : Prop :=
  ∀ endpoint, trace.getLast? = some (.closing .read endpoint) → stages.length ≤ (closed .read trace).length + 1

/-- The event says nothing of ends and of processes of stages. -/
structure Event.Neutral (event : Event) : Prop where
  opened? : ∀ side, event.opened? side = none
  closed? : ∀ side, event.closed? side = none
  spawned? : event.spawned? = none

section

variable {stages : List Stage} {trace : List Event} {event : Event}

theorem opened_of_neutral (neutral : ∀ event ∈ trace, event.Neutral) (side : Side) : opened side trace = [] :=
  List.filterMap_eq_nil_iff.mpr fun event inside => (neutral event inside).opened? side

theorem closed_of_neutral (neutral : ∀ event ∈ trace, event.Neutral) (side : Side) : closed side trace = [] :=
  List.filterMap_eq_nil_iff.mpr fun event inside => (neutral event inside).closed? side

theorem spawned_of_neutral (neutral : ∀ event ∈ trace, event.Neutral) : spawned trace = [] :=
  List.filterMap_eq_nil_iff.mpr fun event inside => (neutral event inside).spawned?

theorem neutral_phase (old new : Phase) : (Event.phase old new).Neutral := ⟨fun _ => rfl, fun _ => rfl, rfl⟩

theorem neutral_reaped (status : Status) : (Event.reaped status).Neutral := ⟨fun _ => rfl, fun _ => rfl, rfl⟩

theorem neutral_finished (count channels collected : Nat) : (Event.finished count channels collected).Neutral :=
  ⟨fun _ => rfl, fun _ => rfl, rfl⟩

theorem neutral_parsed (count : Nat) : (Event.parsed count).Neutral := ⟨fun _ => rfl, fun _ => rfl, rfl⟩

theorem Lawful.nil : Lawful stages [] := by
  intro before event after split
  simp at split

theorem Quiet.nil : Quiet stages [] := by
  intro endpoint last
  cases last

theorem Lawful.of_prefix {before : List Event} (lawful : Lawful stages trace) (starts : before <+: trace) :
    Lawful stages before := by
  obtain ⟨rest, rfl⟩ := starts
  rintro earlier event later rfl
  exact lawful earlier event (later ++ rest) (by simp)

theorem Lawful.concat (lawful : Lawful stages trace) (due : Due stages trace event) :
    Lawful stages (trace ++ [event]) := by
  intro before other after split
  obtain rfl | ⟨later, last, rfl⟩ := List.eq_nil_or_concat after
  · obtain ⟨rfl, same⟩ := List.append_inj' split rfl
    cases same
    exact due
  · rw [List.concat_eq_append, ← List.cons_append, ← List.append_assoc] at split
    exact lawful before other later (List.append_inj' split rfl).1

theorem Quiet.due_of_neutral (quiet : Quiet stages trace) (neutral : event.Neutral) : Due stages trace event where
  opening := by
    rintro read write rfl
    exact absurd (neutral.opened? .read) (by simp [Event.opened?])
  spawning := by
    rintro process position program rfl
    exact absurd neutral.spawned? (by simp [Event.spawned?])
  closingWrite := by
    rintro endpoint rfl
    exact absurd (neutral.closed? .write) (by simp [Event.closed?])
  closingRead := by
    rintro endpoint rfl
    exact absurd (neutral.closed? .read) (by simp [Event.closed?])
  onward := fun endpoint last more => absurd (quiet endpoint last) (by omega)

theorem Quiet.due_opened {read write : Nat} (quiet : Quiet stages trace)
    (even : (closed .write trace).length = (opened .write trace).length)
    (made : (spawned trace).length = (opened .write trace).length) : Due stages trace (.opened read write) where
  opening := fun _ _ _ => ⟨even, made⟩
  spawning := nofun
  closingWrite := nofun
  closingRead := nofun
  onward := fun endpoint last more => absurd (quiet endpoint last) (by omega)

theorem Quiet.due_spawned {process : Nat} {stage : Stage} (quiet : Quiet stages trace)
    (even : (closed .write trace).length = (spawned trace).length)
    (listed : stages[(spawned trace).length]? = some stage) :
    Due stages trace (.spawned process stage.position stage.program) where
  opening := nofun
  spawning := by
    rintro _ _ _ ⟨⟩
    exact ⟨even, stage, listed, rfl, rfl⟩
  closingWrite := nofun
  closingRead := nofun
  onward := fun endpoint last more => absurd (quiet endpoint last) (by omega)

theorem Quiet.due_closingRead {endpoint : Nat} (quiet : Quiet stages trace)
    (next : (opened .read trace)[(closed .read trace).length]? = some endpoint)
    (made : (spawned trace).length = (closed .read trace).length + 2) : Due stages trace (.closing .read endpoint) where
  opening := nofun
  spawning := nofun
  closingWrite := nofun
  closingRead := by
    rintro _ ⟨⟩
    exact ⟨next, made⟩
  onward := fun endpoint last more => absurd (quiet endpoint last) (by omega)

theorem due_closingWrite {endpoint : Nat} (next : (opened .write trace)[(closed .write trace).length]? = some endpoint)
    (made : (spawned trace).length = (closed .write trace).length + 1)
    (first : 0 < (closed .write trace).length → ∃ read, trace.getLast? = some (.closing .read read)) :
    Due stages trace (.closing .write endpoint) where
  opening := nofun
  spawning := nofun
  closingWrite := by
    rintro _ ⟨⟩
    exact ⟨next, made, first⟩
  closingRead := nofun
  onward := fun _ _ _ => ⟨endpoint, rfl⟩

theorem Quiet.concat (other : ∀ endpoint, event ≠ .closing .read endpoint) : Quiet stages (trace ++ [event]) := by
  intro endpoint last
  exact absurd (by simpa using last) (other endpoint)

theorem Lawful.append_neutral {events : List Event} (lawful : Lawful stages trace) (quiet : Quiet stages trace)
    (neutral : ∀ event ∈ events, event.Neutral) :
    Lawful stages (trace ++ events) ∧ Quiet stages (trace ++ events) := by
  induction events generalizing trace with
  | nil => simpa using ⟨lawful, quiet⟩
  | cons event later ih =>
    have here := neutral event (by simp)
    rw [List.append_cons]
    refine ih (lawful.concat (quiet.due_of_neutral here)) (.concat ?_) fun other inside =>
      neutral other (by simp [inside])
    rintro endpoint rfl
    exact absurd (here.closed? .read) (by simp [Event.closed?])

theorem lawful_of_neutral (neutral : ∀ event ∈ trace, event.Neutral) : Lawful stages trace ∧ Quiet stages trace := by
  have begins : Quiet stages [] := .nil
  simpa using Lawful.nil.append_neutral begins neutral

/-- In what is lawful at most one write end is open at a time. -/
theorem Lawful.single (lawful : Lawful stages trace) :
    ∃ unclosed : Option Nat, opened .write trace = closed .write trace ++ unclosed.toList := by
  induction trace using List.reverseRecOn with
  | nil => exact ⟨none, rfl⟩
  | append_singleton trace event ih =>
    obtain ⟨unclosed, same⟩ := ih (lawful.of_prefix (List.prefix_append _ _))
    have due := lawful trace event [] rfl
    cases event with
    | opened read write =>
      obtain ⟨even, -⟩ := due.opening read write rfl
      cases unclosed with
      | none => exact ⟨some write, by simpa [Event.opened?, Event.closed?] using same⟩
      | some endpoint => simp [same] at even
    | closing side endpoint =>
      cases side with
      | read => exact ⟨unclosed, by simpa [Event.opened?, Event.closed?] using same⟩
      | write =>
        obtain ⟨this, -⟩ := due.closingWrite endpoint rfl
        cases unclosed with
        | none => simp [same] at this
        | some last =>
          obtain rfl : last = endpoint := by simpa [same] using this
          exact ⟨none, by simpa [Event.opened?, Event.closed?] using same⟩
    | _ => exact ⟨unclosed, by simpa [Event.opened?, Event.closed?] using same⟩

end

namespace Run

section

variable (turn : Turn)

@[simp] theorem opened_openings (side : Side) (ends : Option (Nat × Nat)) :
    opened side (openings ends) =
      (ends.map fun ends => match side with | .read => ends.1 | .write => ends.2).toList := by
  cases ends <;> rfl

@[simp] theorem closed_openings (side : Side) (ends : Option (Nat × Nat)) : closed side (openings ends) = [] := by
  cases ends <;> rfl

@[simp] theorem spawned_openings (ends : Option (Nat × Nat)) : spawned (openings ends) = [] := by
  cases ends <;> rfl

@[simp] theorem opened_spawning (side : Side) : opened side turn.spawning = opened side (openings turn.ends) := by
  simp [Turn.spawning, Event.opened?]

@[simp] theorem closed_spawning (side : Side) : closed side turn.spawning = [] := by
  simp [Turn.spawning, Event.closed?]

@[simp] theorem spawned_spawning :
    spawned turn.spawning = [(turn.process, turn.stage.position, turn.stage.program)] := by
  simp [Turn.spawning, Event.spawned?]

end

section

variable (old : Phase) (index : Nat) (incoming : Option Nat) (turns : List Turn)

/-- The write ends of a script are closed as they were opened. -/
theorem closed_write_script :
    closed .write (script old index incoming turns) = opened .write (script old index incoming turns) := by
  induction turns generalizing old index incoming with
  | nil => rfl
  | cons turn later ih =>
    have own : closed .write (turn.events incoming) = opened .write (turn.events incoming) := by
      cases ends : turn.ends <;> cases incoming <;> simp [Turn.events, ends, Event.opened?, Event.closed?]
    simp [script, own, ih, Event.opened?, Event.closed?]

/-- The read ends of a script are closed as they were opened, but for the one that is carried on. -/
theorem opened_read_script :
    incoming.toList ++ opened .read (script old index incoming turns) =
      closed .read (script old index incoming turns) ++ (carriedOn incoming turns).toList := by
  induction turns generalizing old index incoming with
  | nil => simp [script, carriedOn]
  | cons turn later ih =>
    have onward := ih (.spawning index) (index + 1) turn.read?
    cases ends : turn.ends <;> cases incoming <;>
      simp_all [script, carriedOn, Turn.read?, Turn.events, Event.opened?, Event.closed?]

theorem length_opened_script (side : Side) (joined : ∀ turn ∈ turns, turn.ends.isSome = true) :
    (opened side (script old index incoming turns)).length = turns.length := by
  induction turns generalizing old index incoming with
  | nil => rfl
  | cons turn later ih =>
    have onward := ih (.spawning index) (index + 1) turn.read? fun turn inside => joined turn (by simp [inside])
    obtain ⟨ends, some⟩ := Option.isSome_iff_exists.mp (joined turn (by simp))
    cases side <;> cases incoming <;> simp [script, onward, Turn.events, some, Event.opened?]

theorem length_spawned_script : (spawned (script old index incoming turns)).length = turns.length := by
  rw [spawned, spawned?_script, List.length_map]

end

/-- Where a run stands that has left so many stages, each with a channel behind it, and carries an endpoint on. -/
structure Between (stages : List Stage) (trace : List Event) (count : Nat) (incoming : Option Nat) : Prop where
  lawful : Lawful stages trace
  quiet : Quiet stages trace
  writes : closed .write trace = opened .write trace
  reads : opened .read trace = closed .read trace ++ incoming.toList
  channels : ∀ side, (opened side trace).length = count
  processes : (spawned trace).length = count
  carries : incoming.isSome ↔ 0 < count

section

variable {stages : List Stage} {trace : List Event} {count : Nat} {incoming : Option Nat} {turn : Turn}

/-- Up to the process a turn records nothing before it is due. -/
theorem Between.spawning (between : Between stages trace count incoming) (old : Phase)
    (listed : stages[count]? = some turn.stage) :
    Lawful stages (trace ++ .phase old (.spawning count) :: turn.spawning) ∧
      Quiet stages (trace ++ .phase old (.spawning count) :: turn.spawning) := by
  have writes := between.writes
  have opens := between.channels .write
  have processes := between.processes
  have entered : Lawful stages (trace ++ [.phase old (.spawning count)]) :=
    between.lawful.concat (between.quiet.due_of_neutral (neutral_phase _ _))
  have enters : Quiet stages (trace ++ [.phase old (.spawning count)]) := .concat (by simp)
  have opening : Lawful stages (trace ++ [.phase old (.spawning count)] ++ openings turn.ends) ∧
      Quiet stages (trace ++ [.phase old (.spawning count)] ++ openings turn.ends) := by
    cases turn.ends with
    | none => simpa [openings] using ⟨entered, enters⟩
    | some ends =>
      refine ⟨entered.concat (enters.due_opened ?_ ?_), .concat (by simp)⟩
      · simp [Event.opened?, Event.closed?, writes]
      · simp [Event.opened?, Event.spawned?, opens, processes]
  rw [Turn.spawning, List.append_cons, ← List.append_assoc]
  refine ⟨opening.1.concat (opening.2.due_spawned ?_ ?_), .concat (by simp)⟩
  · cases turn.ends <;> simp [openings, Event.closed?, Event.spawned?, writes, opens, processes]
  · cases turn.ends <;> simpa [openings, Event.spawned?, processes] using listed

/-- A turn records nothing before it is due. -/
theorem Between.events (between : Between stages trace count incoming) (old : Phase) (turn : Turn)
    (listed : stages[count]? = some turn.stage) (last : turn.ends = none ↔ count + 1 = stages.length) :
    Lawful stages (trace ++ .phase old (.spawning count) :: turn.events incoming) ∧
      Quiet stages (trace ++ .phase old (.spawning count) :: turn.events incoming) := by
  obtain ⟨made, makes⟩ := between.spawning old listed
  obtain ⟨-, -, writes, reads, channels, processes, carries⟩ := between
  have opens := channels .write
  have held := channels .read
  rw [reads, List.length_append] at held
  rw [Turn.events, List.append_assoc, ← List.cons_append, ← List.append_assoc]
  cases incoming with
  | none =>
    cases ends : turn.ends with
    | none => simpa using ⟨made, makes⟩
    | some ends' =>
      refine ⟨made.concat (due_closingWrite ?_ ?_ ?_), .concat (by simp)⟩
      · simp [ends, Event.opened?, Event.closed?, writes]
      · simp [Event.spawned?, Event.closed?, writes, opens, processes]
      · simp_all [Event.closed?]
  | some endpoint =>
    have read : Lawful stages
        (trace ++ .phase old (.spawning count) :: turn.spawning ++ [.closing .read endpoint]) := by
      refine made.concat (makes.due_closingRead ?_ ?_)
      · simp [Event.opened?, Event.closed?, reads]
      · simp_all [Event.spawned?, Event.closed?]
    cases ends : turn.ends with
    | none =>
      refine ⟨by simpa using read, ?_⟩
      intro endpoint _
      simp_all [Event.closed?]
    | some ends' =>
      simp only [Option.map_some, Option.toList_some, ← List.append_assoc]
      refine ⟨read.concat (due_closingWrite ?_ ?_ ?_), .concat (by simp)⟩
      · simp [ends, Event.opened?, Event.closed?, writes]
      · simp [Event.spawned?, Event.closed?, writes, opens, processes]
      · exact fun _ => ⟨endpoint, List.getLast?_concat⟩

end

section

variable {first : Phase} {prior : List Event} {stages later : List Stage} {turns : List Turn} {run : Run}

theorem isSome_carriedOn (joined : ∀ turn ∈ turns, turn.ends.isSome = true) :
    (carriedOn none turns).isSome ↔ 0 < turns.length := by
  obtain rfl | ⟨turns, turn, rfl⟩ := List.eq_nil_or_concat turns
  · simp [carriedOn]
  · simpa [carriedOn_concat, Turn.read?] using joined turn (by simp)

/-- What stages record that have channels behind them counts the stages. -/
theorem between_of_lawful (neutral : ∀ event ∈ prior, event.Neutral)
    (joined : ∀ turn ∈ turns, turn.ends.isSome = true) (lawful : Lawful stages (prior ++ script first 0 none turns))
    (quiet : Quiet stages (prior ++ script first 0 none turns)) :
    Between stages (prior ++ script first 0 none turns) turns.length (carriedOn none turns) where
  lawful := lawful
  quiet := quiet
  writes := by simp [closed_of_neutral neutral, opened_of_neutral neutral, closed_write_script]
  reads := by
    have reads := opened_read_script first 0 none turns
    simpa [closed_of_neutral neutral, opened_of_neutral neutral] using reads
  channels := fun side => by simp [opened_of_neutral neutral, length_opened_script first 0 none turns side joined]
  processes := by simp [spawned_of_neutral neutral, length_spawned_script]
  carries := isSome_carriedOn joined

/-- What such stages record is lawful. -/
theorem between_script (first : Phase) (neutral : ∀ event ∈ prior, event.Neutral)
    (listed : stages = turns.map Turn.stage ++ later) (more : later ≠ [])
    (joined : ∀ turn ∈ turns, turn.ends.isSome = true) :
    Between stages (prior ++ script first 0 none turns) turns.length (carriedOn none turns) := by
  induction turns using List.reverseRecOn generalizing later with
  | nil =>
    obtain ⟨lawful, quiet⟩ : Lawful stages prior ∧ Quiet stages prior := lawful_of_neutral neutral
    exact between_of_lawful neutral joined (by simpa [script] using lawful) (by simpa [script] using quiet)
  | append_singleton turns turn ih =>
    have further : stages = turns.map Turn.stage ++ turn.stage :: later := by simpa using listed
    have before := ih further (by simp) fun turn inside => joined turn (by simp [inside])
    have opens : turn.ends.isSome = true := joined turn (by simp)
    have notLast : turn.ends = none ↔ turns.length + 1 = stages.length := by
      have counted : 0 < later.length := List.length_pos_iff.mpr more
      refine iff_of_false (fun none => by simp [none] at opens) ?_
      simp [listed]
      omega
    obtain ⟨lawful, quiet⟩ := before.events (reached first 0 turns) turn (by simp [listed]) notLast
    refine between_of_lawful neutral joined ?_ ?_
    · simpa [script_concat] using lawful
    · simpa [script_concat] using quiet

/-- What a run has recorded that spawns a stage is lawful. -/
theorem lawful_turn (first : Phase) (turn : Turn) (neutral : ∀ event ∈ prior, event.Neutral)
    (listed : stages = turns.map Turn.stage ++ turn.stage :: later) (more : later = [] ↔ turn.ends = none)
    (joined : ∀ turn ∈ turns, turn.ends.isSome = true) :
    Lawful stages (prior ++ script first 0 none (turns ++ [turn])) ∧
      Quiet stages (prior ++ script first 0 none (turns ++ [turn])) := by
  have before := between_script first neutral listed (by simp) joined
  have last : turn.ends = none ↔ turns.length + 1 = stages.length := by
    rw [← more, ← List.length_eq_zero_iff]
    simp [listed]
  have events := before.events (reached first 0 turns) turn (by simp [listed]) last
  simpa [script_concat] using events

/-- What a run has recorded that has spawned its last stage is lawful. -/
theorem lawful_last (first : Phase) {last : Turn} (neutral : ∀ event ∈ prior, event.Neutral)
    (listed : stages = (turns ++ [last]).map Turn.stage) (joined : ∀ turn ∈ turns, turn.ends.isSome = true)
    (alone : last.ends = none) :
    Lawful stages (prior ++ script first 0 none (turns ++ [last])) ∧
      Quiet stages (prior ++ script first 0 none (turns ++ [last])) := by
  have ending : stages = turns.map Turn.stage ++ [last.stage] := by simpa using listed
  exact lawful_turn first last neutral ending (by simp [alone]) joined

/-- However far a run has come, what it has recorded is lawful. -/
theorem Scripted.lawful (neutral : ∀ event ∈ prior, event.Neutral) (scripted : Scripted first prior stages run) :
    Lawful stages run.trace := by
  induction scripted with
  | opening turns stage later listed more joined =>
    -- The record begins as that of a turn in which a channel is opened.
    obtain ⟨lawful, -⟩ := lawful_turn first ⟨stage, some (0, 0), 0⟩ neutral listed (by simpa using more) joined
    exact lawful.of_prefix ⟨_, by simp [script_concat]; rfl⟩
  | forking turns stage later ends listed more joined =>
    obtain ⟨lawful, -⟩ := lawful_turn first ⟨stage, ends, 0⟩ neutral listed more joined
    exact lawful.of_prefix ⟨_, by simp [script_concat, Turn.events, Turn.spawning]; rfl⟩
  | closingRead turns turn later endpoint listed more joined reads =>
    obtain ⟨lawful, -⟩ := lawful_turn first turn neutral listed more joined
    exact lawful.of_prefix ⟨_, by simp [script_concat, Turn.events, reads]; rfl⟩
  | closingWrite turns turn later read write listed more joined writes =>
    obtain ⟨lawful, -⟩ := lawful_turn first turn neutral listed (by simpa [writes] using more) joined
    exact lawful.of_prefix ⟨_, by simp [script_concat]; rfl⟩
  | failing run fault control stood fails gives ih => exact ih
  | reaping turns last statuses control listed joined alone waits =>
    obtain ⟨lawful, quiet⟩ := lawful_last first neutral listed joined alone
    have waiting : ∀ event ∈ .phase (.spawning turns.length) .reaping :: statuses.map Event.reaped, event.Neutral := by
      simp [neutral_phase, neutral_reaped]
    simpa using (lawful.append_neutral quiet waiting).1
  | complete turns last statuses listed joined alone =>
    obtain ⟨lawful, quiet⟩ := lawful_last first neutral listed joined alone
    have ending : ∀ event ∈ .phase (.spawning turns.length) .reaping :: (statuses.map Event.reaped ++
        [.finished stages.length turns.length statuses.length, .phase .reaping .idle]), event.Neutral := by
      simp [or_imp, forall_and, neutral_phase, neutral_reaped, neutral_finished]
    simpa using (lawful.append_neutral quiet ending).1

/-- The last stage leaves no end open. -/
theorem ends_script (first : Phase) {last : Turn} (joined : ∀ turn ∈ turns, turn.ends.isSome = true)
    (alone : last.ends = none) (side : Side) :
    (opened side (script first 0 none (turns ++ [last]))).length = turns.length ∧
      closed side (script first 0 none (turns ++ [last])) = opened side (script first 0 none (turns ++ [last])) := by
  constructor
  · have counted := length_opened_script first 0 none turns side joined
    cases carried : carriedOn none turns <;> simp [script_concat, Turn.events, alone, carried, counted, Event.opened?]
  · cases side with
    | write => exact closed_write_script first 0 none _
    | read =>
      have reads := opened_read_script first 0 none (turns ++ [last])
      simpa [carriedOn_concat, Turn.read?, alone] using reads.symm

theorem Scripted.ends_of_turned (neutral : ∀ event ∈ prior, event.Neutral)
    (scripted : Scripted first prior stages run) (turned : run.phase = .reaping ∨ run.phase = .idle) (side : Side) :
    (opened side run.trace).length + 1 = stages.length ∧ closed side run.trace = opened side run.trace := by
  have collected : ∀ statuses : List Status, ∀ event ∈ statuses.map Event.reaped, event.Neutral := by
    simp [neutral_reaped]
  induction scripted with
  | opening | forking | closingRead | closingWrite => simp at turned
  | failing run fault control stood fails gives ih => exact ih turned
  | reaping turns last statuses control listed joined alone waits =>
    obtain ⟨counted, same⟩ := ends_script first joined alone side
    simp [opened_of_neutral neutral, closed_of_neutral neutral, opened_of_neutral (collected statuses),
      closed_of_neutral (collected statuses), Event.opened?, Event.closed?, counted, same, listed]
  | complete turns last statuses listed joined alone =>
    obtain ⟨counted, same⟩ := ends_script first joined alone side
    simp [opened_of_neutral neutral, closed_of_neutral neutral, opened_of_neutral (collected statuses),
      closed_of_neutral (collected statuses), Event.opened?, Event.closed?, counted, same, listed]

/-- A run that is refused a channel has recorded as many channels and processes as there are stages before. -/
theorem Scripted.ends_of_refused {index : Nat} {stage : Stage} {errno : Errno}
    (neutral : ∀ event ∈ prior, event.Neutral) (scripted : Scripted first prior stages run)
    (refused : run.control = .finished (.error (.pipe index stage errno))) :
    ∃ incoming : Option Nat, (incoming.isSome ↔ 0 < index) ∧ (∀ side, (opened side run.trace).length = index) ∧
      (spawned run.trace).length = index ∧ closed .write run.trace = opened .write run.trace ∧
      opened .read run.trace = closed .read run.trace ++ incoming.toList := by
  cases scripted with
  | failing run fault control stood fails gives =>
    obtain rfl : fault = .pipe index stage errno := by
      obtain rfl | ⟨endpoint, others, rfl⟩ := gives <;> cases refused
      rfl
    cases stood with
    | opening turns stage later listed more joined =>
      obtain ⟨errno, same⟩ := fails
      cases same
      have between := between_script first neutral listed (by simp) joined
      refine ⟨carriedOn none turns, between.carries, fun side => ?_, ?_, ?_, ?_⟩
      · simpa [goOn, Event.opened?] using between.channels side
      · simpa [goOn, Event.spawned?] using between.processes
      · simpa [goOn, Event.opened?, Event.closed?] using between.writes
      · simpa [goOn, Event.opened?, Event.closed?] using between.reads
    | failing run fault control stood others gives =>
      obtain rfl | ⟨endpoint, others, rfl⟩ := gives <;> exact fails.elim
    | reaping turns last statuses control listed joined alone waits =>
      obtain rfl | ⟨errno, rfl⟩ := waits <;> exact fails.elim
    | complete => exact fails.elim
    | _ =>
      obtain ⟨errno, same⟩ := fails
      cases same
  | reaping turns last statuses control listed joined alone waits =>
    obtain rfl | ⟨errno, rfl⟩ := waits <;> cases refused
  | _ => cases refused

end

/-- A run that has nothing to execute: it only says why, if it does not end at once. -/
structure Idling (run : Run) : Prop where
  blank : run.report = {}
  control : (∃ text, run.control = .complaining text) ∨ run.control = .finished (.ok {})
  neutral : ∀ event ∈ run.trace, event.Neutral

theorem Idling.resume {run : Run} (idling : Idling run) (reply : Reply) : Idling (run.resume reply) := by
  obtain ⟨blank, ⟨text, control⟩ | control, neutral⟩ := idling
  · have left : run.resume reply = (run.enter .idle).goOn (.finished (.ok run.report)) := by
      simp [Run.resume, control]
    rw [left]
    refine ⟨blank, .inr (by simp [goOn, blank]), ?_⟩
    simpa [goOn, enter, record, or_imp, forall_and, neutral_phase] using neutral
  · have same : run.resume reply = run := by simp [Run.resume, control]
    rw [same]
    exact ⟨blank, .inr control, neutral⟩

theorem Idling.follow {run : Run} (idling : Idling run) (replies : List Reply) : Idling (run.follow replies) := by
  induction replies generalizing run with
  | nil => exact idling
  | cons reply replies ih => exact ih (idling.resume reply)

theorem Idling.start {run : Run} (blank : run.report = {}) (neutral : ∀ event ∈ run.trace, event.Neutral) :
    Idling (run.start []) := by
  refine ⟨blank, .inr (by simp [Run.start, goOn, enter, record, blank]), ?_⟩
  simpa [Run.start, goOn, enter, record, or_imp, forall_and, neutral_phase] using neutral

/-- The endpoint that a run is about to close. -/
def closes (run : Run) : List Nat :=
  match run.next with
  | some (.close endpoint) => [endpoint]
  | _ => []

/-- The endpoints that a run closes by its calls when it is answered like this. -/
def released (run : Run) : List Reply → List Nat
  | [] => []
  | reply :: later => run.closes ++ (run.resume reply).released later

/-- The ends of all channels that a run has opened. -/
def acquired (run : Run) : List Nat := opened .read run.trace ++ opened .write run.trace

section

variable (side : Side) (run : Run)

theorem opened_enter (phase : Phase) : opened side (run.enter phase).trace = opened side run.trace := by
  simp [enter, record, Event.opened?]

theorem opened_spawnNext (incoming : Option Nat) (later : List Stage) :
    opened side (run.spawnNext incoming later).trace = opened side run.trace := by
  unfold spawnNext
  split <;> exact opened_enter side run _

theorem opened_closeWrite (stage : Stage) (later : List Stage) (stdout carried : Option Nat) :
    opened side (run.closeWrite stage later stdout carried).trace = opened side run.trace := by
  unfold closeWrite
  split
  · simp [goOn, record, Event.opened?]
  · exact opened_spawnNext side _ carried later

theorem opened_closeStreams (stage : Stage) (later : List Stage) (streams : Streams) (carried : Option Nat) :
    opened side (run.closeStreams stage later streams carried).trace = opened side run.trace := by
  unfold closeStreams
  split
  · simp [goOn, record, Event.opened?]
  · exact opened_closeWrite side run stage later _ carried

theorem opened_giveUp (held : List Nat) (fault : Fault) :
    opened side (run.giveUp held fault).trace = opened side run.trace := by
  cases held <;> rfl

theorem opened_complete : opened side run.complete.trace = opened side run.trace := by
  unfold complete
  split
  · rfl
  · simp [goOn, enter, record, Event.opened?]

theorem opened_start (stages : List Stage) : opened side (run.start stages).trace = opened side run.trace := by
  unfold start
  split
  · exact opened_enter side run .idle
  · exact opened_spawnNext side _ _ _

/-- Only the answer to the opening of a channel is recorded as one. -/
theorem opened_resume {reply : Reply}
    (unopened : ∀ stage later incoming read write, run.control = .opening stage later incoming →
      reply ≠ .ends read write) : opened side (run.resume reply).trace = opened side run.trace := by
  unfold resume
  split
  · rename_i control
    exact absurd rfl (unopened _ _ _ _ _ control)
  · exact opened_giveUp side run _ _
  · rw [opened_closeStreams]
    simp [record, Event.opened?]
  · split
    · rfl
    · exact opened_giveUp side run _ _
  · exact opened_giveUp side run _ _
  · exact opened_closeWrite side run _ _ _ _
  · exact opened_giveUp side run _ _
  · exact opened_spawnNext side _ _ _
  · exact opened_giveUp side run _ _
  · split
    · rfl
    · simp [record, Event.opened?]
  · split
    · rfl
    split
    · exact opened_complete side run
    · rfl
  · exact opened_enter side run _
  · rfl

end

/-- A channel changes only what is owned by a run that asked for it. -/
theorem owned_resume_ends {run : Run} {read write : Nat}
    (other : ∀ stage later incoming, run.control ≠ .opening stage later incoming)
    (keeps : ∀ endpoint, run.next ≠ some (.close endpoint)) : (run.resume (.ends read write)).owned = run.owned := by
  cases control : run.control with
  | opening stage later incoming => exact absurd control (other stage later incoming)
  | closingRead stage later endpoint stdout carried => exact absurd (by simp [next, control]) (keeps endpoint)
  | closingWrite stage later endpoint carried => exact absurd (by simp [next, control]) (keeps endpoint)
  | dropping endpoint others fault => exact absurd (by simp [next, control]) (keeps endpoint)
  | complaining text => simp [resume, control, owned, goOn]
  | _ => simp [resume, control]

/-- An end that is opened is owned until it is closed. -/
theorem Orderly.acquired_resume {run : Run} (orderly : run.Orderly) (reply : Reply) :
    ((run.resume reply).acquired ++ run.owned).Perm (run.acquired ++ run.closes ++ (run.resume reply).owned) := by
  by_cases opens : ∃ stage later incoming read write, run.control = .opening stage later incoming ∧
      reply = .ends read write
  · obtain ⟨stage, later, incoming, read, write, control, rfl⟩ := opens
    obtain ⟨before, now⟩ := owned_of_opened control read write
    have records : (run.resume (.ends read write)).trace = run.trace ++ [.opened read write] := by
      simp [Run.resume, control, goOn, record]
    have silent : run.closes = [] := by simp [closes, next, control]
    rw [List.perm_iff_count]
    intro endpoint
    simp [acquired, records, before, now, silent, Event.opened?, List.count_cons]
    omega
  · have unopened : ∀ stage later incoming read write, run.control = .opening stage later incoming →
        reply ≠ .ends read write :=
      fun stage later incoming read write control same => opens ⟨stage, later, incoming, read, write, control, same⟩
    have same : (run.resume reply).acquired = run.acquired := by simp [acquired, opened_resume _ run unopened]
    rw [same, List.append_assoc]
    refine List.Perm.append_left _ (.of_eq ?_)
    cases next : run.closes with
    | cons endpoint others =>
      have closing : run.next = some (.close endpoint) ∧ others = [] := by
        unfold closes at next
        split at next <;> simp_all
      obtain ⟨rest, owned, onward⟩ := owned_of_closing orderly closing.1
      simp [closing.2, owned, onward]
    | nil =>
      have keeps : ∀ endpoint, run.next ≠ some (.close endpoint) := by
        intro endpoint closing
        simp [closes, closing] at next
      rw [List.nil_append]
      cases reply with
      | ends read write =>
        refine (owned_resume_ends (fun stage later incoming control => ?_) keeps).symm
        exact unopened stage later incoming read write control rfl
      | _ => exact (owned_resume orderly keeps (by simp)).symm

theorem Orderly.acquired_follow {run : Run} (orderly : run.Orderly) (replies : List Reply) :
    ((run.follow replies).acquired ++ run.owned).Perm
      (run.acquired ++ run.released replies ++ (run.follow replies).owned) := by
  induction replies generalizing run with
  | nil => simp [follow, released]
  | cons reply replies ih =>
    have first := List.perm_iff_count.mp (orderly.acquired_resume reply)
    have rest := List.perm_iff_count.mp (ih (orderly.resume reply))
    rw [List.perm_iff_count, follow, List.foldl_cons, ← follow]
    intro endpoint
    have first := first endpoint
    have rest := rest endpoint
    simp only [List.count_append, released] at first rest ⊢
    omega

end Run

namespace Errand

/-- What is recorded of the ends of the channels of an errand, and which endpoints were closed by then. -/
structure Closes (errand : Errand) (run : Run) (released : List Nat) : Prop where
  lawful : Lawful errand.stages run.trace
  /-- Of the write ends that were opened at most one was not closed yet. -/
  single : ∀ before, before <+: run.trace →
    ∃ unclosed : Option Nat, opened .write before = closed .write before ++ unclosed.toList
  /-- Who waits for the processes has closed both ends of a channel behind each stage but the last. -/
  reaping : .reaping ∈ entered run.trace → ∀ side,
    (opened side run.trace).length + 1 = errand.stages.length ∧ closed side run.trace = opened side run.trace
  /-- Who was refused a channel still held the end from which the stage was to read, and has released just that without
  a record. -/
  refused : ∀ index stage errno, run.outcome? = some (.error (.pipe index stage errno)) →
    (opened .write run.trace).length = index ∧ (spawned run.trace).length = index ∧
      closed .write run.trace = opened .write run.trace ∧ (closed .read run.trace).length = index - 1 ∧
      ∃ unclosed : Option Nat, (unclosed.isSome ↔ 0 < index) ∧
        opened .read run.trace = closed .read run.trace ++ unclosed.toList ∧
        released.Perm (closed .read run.trace ++ closed .write run.trace ++ unclosed.toList)
  counted : ∀ report, run.outcome? = some (.ok report) → report.channels = (opened .write run.trace).length
  /-- However a run has ended, each end that was opened was closed once. -/
  released : ∀ outcome, run.outcome? = some outcome →
    released.Perm (opened .read run.trace ++ opened .write run.trace)

/-- An errand without stages has nothing to execute. -/
theorem idling {errand : Errand} (none : errand.stages = []) (phase : Phase) : (errand.run phase).Idling := by
  have anew : ∀ event ∈ (Run.fresh phase).trace, event.Neutral := by simp [Run.fresh]
  cases errand with
  | pipeline stages =>
    obtain rfl : stages = [] := none
    exact .start rfl anew
  | line text limit =>
    have entered : ∀ event ∈ ((Run.fresh phase).enter .parsing).trace, event.Neutral := by
      simp [Run.fresh, Run.enter, Run.record, neutral_phase]
    cases parsed : Line.stages text limit with
    | error reason =>
      rw [run, Run.ofLine, parsed]
      exact ⟨rfl, .inl ⟨_, rfl⟩, entered⟩
    | ok stages =>
      obtain rfl : stages = [] := by simpa [Errand.stages, parsed, Except.toOption] using none
      rw [run, Run.ofLine, parsed]
      refine Run.Idling.start rfl ?_
      simpa [Run.record, or_imp, forall_and, neutral_parsed] using entered

/-- An errand begins with no channel. -/
theorem acquired_run (errand : Errand) (phase : Phase) : (errand.run phase).acquired = [] := by
  have begins : ∀ side, opened side (errand.run phase).trace = [] := by
    intro side
    cases errand with
    | pipeline stages => exact Run.opened_start side (.fresh phase) stages
    | line text limit =>
      have entered : opened side ((Run.fresh phase).enter .parsing).trace = [] :=
        Run.opened_enter side (.fresh phase) .parsing
      cases parsed : Line.stages text limit with
      | error reason =>
        rw [run, Run.ofLine, parsed]
        exact entered
      | ok stages =>
        rw [run, Run.ofLine, parsed]
        simpa [Run.opened_start, Run.record, Event.opened?] using entered
  rw [Run.acquired, begins, begins, List.append_nil]

/-- However a run has ended, the ends of the channels that it has opened are those that it has closed by its calls. -/
theorem perm_released (errand : Errand) (phase : Phase) (replies : List Reply) {outcome : Except Fault Report}
    (ended : ((errand.run phase).follow replies).outcome? = some outcome) :
    ((errand.run phase).released replies).Perm ((errand.run phase).follow replies).acquired := by
  obtain ⟨orderly, owned⟩ := errand.begins phase
  have balance := orderly.acquired_follow replies
  have none : ((errand.run phase).follow replies).owned = [] := by
    simp [Run.owned, Run.control_of_outcome? ended]
  simpa [owned, none, errand.acquired_run phase] using balance.symm

/-- Who has nothing to execute opens no channel. -/
theorem Closes.of_idling {errand : Errand} {run : Run} {released : List Nat} (idling : run.Idling)
    (waits : .reaping ∉ entered run.trace)
    (balance : ∀ outcome, run.outcome? = some outcome → released.Perm run.acquired) : errand.Closes run released := by
  obtain ⟨lawful, -⟩ : Lawful errand.stages run.trace ∧ Quiet errand.stages run.trace :=
    lawful_of_neutral idling.neutral
  refine ⟨lawful, fun before starts => (lawful.of_prefix starts).single, fun reaping => absurd reaping waits, ?_, ?_,
    balance⟩
  · intro index stage errno refused
    obtain ⟨text, control⟩ | control := idling.control <;> simp [Run.outcome?, control] at refused
  · intro report ended
    have finished := Run.control_of_outcome? ended
    obtain ⟨text, control⟩ | control := idling.control <;> rw [control] at finished <;> cases finished
    simp [opened_of_neutral idling.neutral]

/-- Only a run that has left its stages waits for their processes. -/
theorem turned_of_reaping {errand : Errand} {first : Phase} {prior : List Event} {run : Run}
    (scripted : run.Scripted first prior errand.stages) (parses : entered prior = errand.opening)
    (waits : .reaping ∈ entered run.trace) : run.phase = .reaping ∨ run.phase = .idle := by
  obtain ⟨index, spawning⟩ | ⟨phase, -⟩ | ⟨phase, -⟩ := scripted.standing
  · rw [spawning.entered, parses] at waits
    exact absurd waits (by simp [reaping_notMem_opening, Run.spawnings])
  · exact .inl phase
  · exact .inr phase

theorem Closes.of_scripted {errand : Errand} {first : Phase} {prior : List Event} {run : Run} {released : List Nat}
    (neutral : ∀ event ∈ prior, event.Neutral) (parses : entered prior = errand.opening)
    (scripted : run.Scripted first prior errand.stages)
    (balance : ∀ outcome, run.outcome? = some outcome → released.Perm run.acquired) : errand.Closes run released := by
  have lawful := scripted.lawful neutral
  refine ⟨lawful, fun before starts => (lawful.of_prefix starts).single, fun reaping side => ?_, ?_, ?_, balance⟩
  · exact scripted.ends_of_turned neutral (turned_of_reaping scripted parses reaping) side
  · intro index stage errno refused
    obtain ⟨incoming, carries, channels, processes, writes, reads⟩ :=
      scripted.ends_of_refused neutral (Run.control_of_outcome? refused)
    have held := channels .read
    rw [reads, List.length_append] at held
    refine ⟨channels .write, processes, writes, ?_, incoming, carries, reads, ?_⟩
    · cases incoming <;> simp_all
      omega
    · have same := balance _ refused
      rw [Run.acquired, reads, ← writes] at same
      refine same.trans ?_
      rw [List.append_assoc, List.append_assoc]
      exact List.perm_append_comm.append_left _
  · intro report ended
    have unspawned : ∀ event ∈ prior, event.spawned? = none := fun event inside => (neutral event inside).spawned?
    obtain ⟨-, idle, channels, -⟩ := scripted.of_success unspawned (Run.control_of_outcome? ended)
    have opens := (scripted.ends_of_turned neutral (.inr idle) .write).1
    omega

/-- Whatever an errand is and however it is answered, the endpoints of its channels add up. -/
theorem endpoints_settled (errand : Errand) (phase : Phase) (replies : List Reply) :
    errand.Closes ((errand.run phase).follow replies) ((errand.run phase).released replies) := by
  have balance : ∀ outcome, ((errand.run phase).follow replies).outcome? = some outcome →
      ((errand.run phase).released replies).Perm ((errand.run phase).follow replies).acquired :=
    fun _ => errand.perm_released phase replies
  by_cases none : errand.stages = []
  · refine .of_idling ((idling none phase).follow replies) (fun reaping => ?_) balance
    obtain ⟨before, later, -, ⟨earlier, old, process, stage, incoming, last, -⟩, -⟩ :=
      (errand.keeps phase replies).leaves reaping
    simp [none] at last
  · obtain ⟨run, begins, anew, blank, parses, few⟩ := starts none phase
    have scripted := (Run.Scripted.start run errand.stages none anew blank).follow replies
    rw [← begins] at scripted
    refine .of_scripted (fun event inside => ?_) parses scripted balance
    obtain changes | ⟨count, rfl⟩ := few event inside
    · cases event <;> simp [Event.change?] at changes
      exact neutral_phase _ _
    · exact neutral_parsed count

end Errand

end Pipework
