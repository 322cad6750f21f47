import Pipework.Interpreter
import Pipework.Proofs.Script

set_option autoImplicit false

/-!
The phases of an executor. It may be asked for anything, and may fail at anything: the changes that it records lead
from each phase to the next one without a gap (`Run.Advances`), and within one errand they are those of its path, as
far as it has come (`Errand.Keeps`).
-/

namespace Pipework

open Kernel (Reply)

/-- The change of phase that an event is, if it is one. -/
def Event.change? : Event → Option (Phase × Phase)
  | .phase old new => some (old, new)
  | _ => none

/-- The changes of phase in a record. -/
def changes (trace : List Event) : List (Phase × Phase) := trace.filterMap Event.change?

/-- The phases that were entered, one after the other. -/
def entered (trace : List Event) : List Phase := (changes trace).map Prod.snd

/-- Changes of which each begins in the phase to which the one before has led. -/
def Chained : Phase → List (Phase × Phase) → Phase → Prop
  | first, [], last => first = last
  | first, change :: later, last => change.1 = first ∧ Chained change.2 later last

theorem Chained.append {first middle last : Phase} {before after : List (Phase × Phase)}
    (leads : Chained first before middle) (goesOn : Chained middle after last) :
    Chained first (before ++ after) last := by
  induction before generalizing first with
  | nil =>
    obtain rfl : first = middle := leads
    exact goesOn
  | cons change later ih => exact ⟨leads.1, ih leads.2⟩

theorem changes_append (before after : List Event) : changes (before ++ after) = changes before ++ changes after := by
  simp [changes]

@[simp] theorem entered_append (before after : List Event) :
    entered (before ++ after) = entered before ++ entered after := by
  simp [entered, changes]

@[simp] theorem entered_nil : entered [] = [] := rfl

@[simp] theorem entered_phase (old new : Phase) (later : List Event) :
    entered (.phase old new :: later) = new :: entered later := rfl

theorem entered_of_unchanging {trace : List Event} (unchanging : ∀ event ∈ trace, event.change? = none) :
    entered trace = [] := by
  rw [entered, changes, List.filterMap_eq_nil_iff.mpr unchanging, List.map_nil]

namespace Run

/-- What a run has recorded since leads from the phase in which it was to the one in which it is. -/
def Advances (run later : Run) : Prop :=
  ∃ events, later.trace = run.trace ++ events ∧ Chained run.phase (changes events) later.phase

namespace Advances

variable {run later : Run}

theorem refl (run : Run) : Advances run run := ⟨[], by simp, rfl⟩

theorem trans {last : Run} (first : Advances run later) (second : Advances later last) : Advances run last := by
  obtain ⟨before, recorded, leads⟩ := first
  obtain ⟨after, goesOn, onward⟩ := second
  refine ⟨before ++ after, by rw [goesOn, recorded, List.append_assoc], ?_⟩
  rw [changes_append]
  exact leads.append onward

/-- Neither what a run does next nor what it has reported counts. -/
theorem of_same {between : Run} (advances : Advances run between) (phase : later.phase = between.phase)
    (trace : later.trace = between.trace) : Advances run later := by
  obtain ⟨events, recorded, leads⟩ := advances
  exact ⟨events, trace.trans recorded, phase ▸ leads⟩

theorem goOn (advances : Advances run later) (control : Control) : Advances run (later.goOn control) :=
  advances.of_same rfl rfl

theorem record (advances : Advances run later) {event : Event} (unchanging : event.change? = none) :
    Advances run (later.record event) :=
  advances.trans ⟨[event], rfl, by simp [changes, unchanging, Chained, Run.record]⟩

theorem enter (advances : Advances run later) (phase : Phase) : Advances run (later.enter phase) :=
  advances.trans ⟨[.phase later.phase phase], rfl, rfl, rfl⟩

theorem spawnNext (advances : Advances run later) (incoming : Option Nat) (stages : List Stage) :
    Advances run (later.spawnNext incoming stages) := by
  unfold Run.spawnNext
  split <;> exact (advances.enter _).goOn _

theorem passOn (advances : Advances run later) (stages : List Stage) (carried : Option Nat) :
    Advances run (later.passOn stages carried) := by
  have onward : Advances run { later with index := later.index + 1 } := advances.of_same rfl rfl
  exact onward.spawnNext carried stages

theorem closeWrite (advances : Advances run later) (stage : Stage) (stages : List Stage) (stdout carried : Option Nat) :
    Advances run (later.closeWrite stage stages stdout carried) := by
  cases stdout with
  | none => exact advances.passOn stages carried
  | some endpoint => exact (advances.record rfl).goOn _

theorem closeStreams (advances : Advances run later) (stage : Stage) (stages : List Stage) (streams : Streams)
    (carried : Option Nat) : Advances run (later.closeStreams stage stages streams carried) := by
  unfold Run.closeStreams
  split
  · exact (advances.record rfl).goOn _
  · exact advances.closeWrite _ _ _ _

theorem giveUp (advances : Advances run later) (held : List Nat) (fault : Fault) :
    Advances run (later.giveUp held fault) := by
  cases held <;> exact advances.goOn _

theorem complete (advances : Advances run later) : Advances run later.complete := by
  unfold Run.complete
  split
  · exact advances.goOn _
  · exact ((advances.record rfl).enter _).goOn _

/-- An answer leads on from the phase in which it finds a run. -/
theorem resume (run : Run) (reply : Reply) : Advances run (run.resume reply) := by
  have here := refl run
  have reports : ∀ report : Report, Advances run { run with report } := fun _ => here.of_same rfl rfl
  unfold Run.resume
  split
  · refine ((reports _).record ?_).goOn _
    rfl
  · exact here.giveUp _ _
  · refine ((reports _).record ?_).closeStreams _ _ _ _
    rfl
  · split
    · exact here
    · exact here.giveUp _ _
  · exact here.giveUp _ _
  · exact here.closeWrite _ _ _ _
  · exact here.giveUp _ _
  · exact here.passOn _ _
  · exact here.giveUp _ _
  · split
    · exact here.goOn _
    · refine (reports _).record ?_
      rfl
  · split
    · exact here
    split
    · exact here.complete
    · exact here.goOn _
  · exact (here.enter _).goOn _
  · exact here

theorem follow (run : Run) (replies : List Reply) : Advances run (run.follow replies) := by
  induction replies generalizing run with
  | nil => exact refl run
  | cons reply replies ih => exact (resume run reply).trans (ih (run.resume reply))

theorem start (advances : Advances run later) (stages : List Stage) : Advances run (later.start stages) := by
  cases stages with
  | nil => exact (advances.enter _).goOn _
  | cons stage stages =>
    have counted : Advances run { later with stages := some (stages.length + 1) } := advances.of_same rfl rfl
    exact counted.spawnNext none (stage :: stages)

end Advances

/-- The phases in which the first stages are spawned. -/
def spawnings (count : Nat) : List Phase := (List.range count).map Phase.spawning

theorem spawnings_succ (count : Nat) : spawnings (count + 1) = spawnings count ++ [.spawning count] := by
  simp [spawnings, List.range_succ]

theorem spawnings_prefix {count more : Nat} (fewer : count ≤ more) : spawnings count <+: spawnings more := by
  induction fewer with
  | refl => exact List.prefix_rfl
  | step _ ih =>
    rw [spawnings_succ]
    exact ih.trans (List.prefix_append _ _)

/-- The stage at which a fault has come up, if it has come up at one. -/
def At (stages : List Stage) (index : Nat) : Fault → Prop
  | .pipe place stage _ | .close place stage _ => place = index ∧ stages[index]? = some stage
  | .fork stage _ => stages[index]? = some stage
  | .wait _ => False

@[simp] theorem entered_openings (ends : Option (Nat × Nat)) : entered (openings ends) = [] :=
  entered_of_unchanging (by cases ends <;> simp [openings, Event.change?])

@[simp] theorem entered_spawning (turn : Turn) : entered turn.spawning = [] := by
  rw [Turn.spawning, entered_append, entered_openings]
  rfl

@[simp] theorem entered_events (turn : Turn) (incoming : Option Nat) : entered (turn.events incoming) = [] := by
  rw [Turn.events, entered_append, entered_append, entered_spawning]
  cases incoming <;> cases turn.ends <;> rfl

theorem entered_script_from (first : Phase) (index : Nat) (incoming : Option Nat) (turns : List Turn) :
    entered (script first index incoming turns) = (List.range' index turns.length).map Phase.spawning := by
  induction turns generalizing first index incoming with
  | nil => rfl
  | cons turn later ih => simp [script, ih, List.range'_succ]

/-- A script goes through the phases of its stages. -/
theorem entered_script (first : Phase) (incoming : Option Nat) (turns : List Turn) :
    entered (script first 0 incoming turns) = spawnings turns.length := by
  rw [entered_script_from, spawnings, List.range_eq_range']

/-- A run that is about to spawn a stage or to turn to the next one, or has failed there. -/
structure Spawning (prior : List Event) (stages : List Stage) (run : Run) (index : Nat) : Prop where
  within : index < stages.length
  phase : run.phase = .spawning index
  entered : entered run.trace = entered prior ++ spawnings (index + 1)
  fails : ∀ fault, run.control.Fails run.index fault ∨ run.control = .finished (.error fault) → At stages index fault
  unfinished : ∀ report, run.control ≠ .finished (.ok report)

/-- How far a run has come says in which phase it is. -/
theorem Scripted.standing {first : Phase} {prior : List Event} {stages : List Stage} {run : Run}
    (scripted : Scripted first prior stages run) :
    (∃ index, Spawning prior stages run index) ∨
      (run.phase = .reaping ∧ entered run.trace = entered prior ++ spawnings stages.length ++ [.reaping] ∧
        (run.control = .reaping ∨ ∃ errno, run.control = .finished (.error (.wait errno)))) ∨
      (run.phase = .idle ∧ entered run.trace = entered prior ++ spawnings stages.length ++ [.reaping, .idle] ∧
        ∃ report, run.control = .finished (.ok report)) := by
  have placed : ∀ {turns : List Turn} {stage : Stage} {later : List Stage},
      stages = turns.map Turn.stage ++ stage :: later →
        turns.length < stages.length ∧ stages[turns.length]? = some stage := by
    rintro turns stage later rfl
    simp
  induction scripted with
  | opening turns stage later listed more joined =>
    obtain ⟨within, found⟩ := placed listed
    refine .inl ⟨turns.length, within, rfl, ?_, ?_, by simp⟩
    · simp [entered_script, spawnings_succ]
    · rintro fault (⟨errno, rfl⟩ | finished)
      · exact ⟨rfl, found⟩
      · cases finished
  | forking turns stage later ends listed more joined =>
    obtain ⟨within, found⟩ := placed listed
    refine .inl ⟨turns.length, within, rfl, ?_, ?_, by simp⟩
    · simp [entered_script, spawnings_succ]
    · rintro fault (⟨errno, rfl⟩ | finished)
      · exact found
      · cases finished
  | closingRead turns turn later endpoint listed more joined reads =>
    obtain ⟨within, found⟩ := placed listed
    refine .inl ⟨turns.length, within, rfl, ?_, ?_, by simp⟩
    · have silent : entered [.closing .read endpoint] = [] := rfl
      simp [entered_script, spawnings_succ, silent]
    · rintro fault (⟨errno, rfl⟩ | finished)
      · exact ⟨rfl, found⟩
      · cases finished
  | closingWrite turns turn later read write listed more joined writes =>
    obtain ⟨within, found⟩ := placed listed
    refine .inl ⟨turns.length, within, rfl, ?_, ?_, by simp⟩
    · simp [entered_script, spawnings_succ]
    · rintro fault (⟨errno, rfl⟩ | finished)
      · exact ⟨rfl, found⟩
      · cases finished
  | failing run fault control stood fails gives ih =>
    obtain ⟨index, spawning⟩ | ⟨-, -, waits⟩ | ⟨-, -, report, finished⟩ := ih
    · refine .inl ⟨index, spawning.within, spawning.phase, spawning.entered, ?_, ?_⟩
      · intro other ends
        obtain rfl | ⟨endpoint, others, rfl⟩ := gives
        · obtain impossible | same := ends
          · exact impossible.elim
          · cases same
            exact spawning.fails fault (.inl fails)
        · obtain impossible | same := ends
          · exact impossible.elim
          · cases same
      · rintro report finished
        obtain rfl | ⟨endpoint, others, rfl⟩ := gives <;> cases finished
    · obtain waits | ⟨errno, waits⟩ := waits <;> simp [waits, Control.Fails] at fails
    · simp [finished, Control.Fails] at fails
  | reaping turns last statuses control listed joined alone waits =>
    have counted : stages.length = turns.length + 1 := by simp [listed]
    have unchanged : entered (statuses.map Event.reaped) = [] := entered_of_unchanging (by simp [Event.change?])
    refine .inr (.inl ⟨rfl, ?_, waits⟩)
    simp [entered_script, counted, unchanged]
  | complete turns last statuses listed joined alone =>
    have counted : stages.length = turns.length + 1 := by simp [listed]
    have unchanged : entered (statuses.map Event.reaped) = [] := entered_of_unchanging (by simp [Event.change?])
    have finishing : entered [.finished stages.length turns.length statuses.length, .phase .reaping .idle] = [.idle] :=
      rfl
    refine .inr (.inr ⟨rfl, ?_, _, rfl⟩)
    simp [entered_script, counted, unchanged, ← finishing]

/-- Of a channel that was opened the write end was closed, and its read end too unless it is carried on. -/
theorem closing_of_opened {read write : Nat} {first : Phase} {index : Nat} {incoming : Option Nat} {turns : List Turn}
    (opened : .opened read write ∈ script first index incoming turns) :
    .closing .write write ∈ script first index incoming turns ∧
      (.closing .read read ∈ script first index incoming turns ∨ carriedOn incoming turns = some read) := by
  induction turns generalizing first index incoming with
  | nil => cases opened
  | cons turn later ih =>
    simp only [script, List.cons_append, List.mem_cons, reduceCtorEq, List.mem_append, false_or, carriedOn] at opened ⊢
    rcases opened with own | opened
    · have ends : turn.ends = some (read, write) := by
        cases given : turn.ends <;> cases incoming <;> simp [Turn.events, Turn.spawning, openings, given] at own ⊢
        all_goals simp [own]
      refine ⟨.inl (by simp [Turn.events, ends]), ?_⟩
      -- The next stage closes what it reads from.
      cases later with
      | nil => exact .inr (by simp [carriedOn, Turn.read?, ends])
      | cons next later => exact .inl (.inr (by simp [script, Turn.events, Turn.read?, ends]))
    · obtain ⟨closes, carries⟩ := ih opened
      exact ⟨.inr closes, carries.imp .inr id⟩

/-- What has been recorded when the last of these stages is left: its process was made and the endpoint from which it
reads was closed, as was every end of a channel before. -/
structure Leaves (stages : List Stage) (before : List Event) : Prop where
  last : ∃ (earlier : List Event) (old : Phase) (process : Nat) (stage : Stage) (incoming : Option Nat),
    stages.getLast? = some stage ∧ (incoming.isSome ↔ 1 < stages.length) ∧
      before = earlier ++ [.phase old (.spawning (stages.length - 1)),
        .spawned process stage.position stage.program] ++ (incoming.map (Event.closing .read)).toList
  closed : ∀ read write, .opened read write ∈ before → .closing .read read ∈ before ∧ .closing .write write ∈ before

theorem leaves_script {stages : List Stage} {first : Phase} {prior : List Event} {turns : List Turn} {last : Turn}
    (unopened : ∀ read write, .opened read write ∉ prior) (listed : stages = (turns ++ [last]).map Turn.stage)
    (joined : ∀ turn ∈ turns, turn.ends.isSome = true) (alone : last.ends = none) :
    Leaves stages (prior ++ script first 0 none (turns ++ [last])) where
  last := by
    refine ⟨prior ++ script first 0 none turns, reached first 0 turns, last.process, last.stage,
      carriedOn none turns, by simp [listed], ?_, ?_⟩
    · obtain rfl | ⟨turns, turn, rfl⟩ := List.eq_nil_or_concat turns
      · simp [listed, carriedOn]
      · simpa [listed, carriedOn_concat, Turn.read?] using joined turn (by simp)
    · simp [script_concat, listed, Turn.events, Turn.spawning, openings, alone]
  closed := by
    intro read write opened
    obtain prior | opened := List.mem_append.mp opened
    · exact absurd prior (unopened read write)
    · obtain ⟨closesWrite, closesRead | carries⟩ := closing_of_opened opened
      · exact ⟨List.mem_append_right _ closesRead, List.mem_append_right _ closesWrite⟩
      · simp [carriedOn_concat, Turn.read?, alone] at carries

/-- A run turns to its children only from its last stage, when it holds no endpoint any more. -/
theorem Scripted.left {first : Phase} {prior : List Event} {stages : List Stage} {run : Run}
    (scripted : Scripted first prior stages run) (unopened : ∀ read write, .opened read write ∉ prior)
    (turned : run.phase = .reaping ∨ run.phase = .idle) :
    ∃ before later, run.trace = before ++ .phase (.spawning (stages.length - 1)) .reaping :: later ∧
      Leaves stages before := by
  induction scripted with
  | opening | forking | closingRead | closingWrite => simp at turned
  | failing run fault control stood fails gives ih => exact ih turned
  | reaping turns last statuses control listed joined alone waits =>
    refine ⟨prior ++ script first 0 none (turns ++ [last]), statuses.map .reaped, ?_,
      leaves_script unopened listed joined alone⟩
    simp [listed]
  | complete turns last statuses listed joined alone =>
    refine ⟨prior ++ script first 0 none (turns ++ [last]), statuses.map .reaped ++
      [.finished stages.length turns.length statuses.length, .phase .reaping .idle], ?_,
      leaves_script unopened listed joined alone⟩
    simp [listed]

end Run

/-- What one executor can be asked for: to execute a line, of which it takes so many stages at most, or a pipeline. -/
inductive Errand where
  | line (text : String) (limit : Nat)
  | pipeline (stages : List Stage)

namespace Errand

/-- The run with which an executor begins an errand that finds it in some phase. -/
def run (phase : Phase) : Errand → Run
  | line text limit => .ofLine phase text limit
  | pipeline stages => .ofStages phase stages

/-- The stages that there are to execute. -/
def stages : Errand → List Stage
  | line text limit => (Line.stages text limit).toOption.getD []
  | pipeline stages => stages

/-- The phases that come before those of the stages. -/
def opening : Errand → List Phase
  | line _ _ => [.parsing]
  | pipeline _ => []

/-- All phases that an errand is to go through. -/
def path (errand : Errand) : List Phase :=
  errand.opening ++
    if errand.stages = [] then [.idle] else Run.spawnings errand.stages.length ++ [.reaping, .idle]

/-- What the record of an errand says of its phases, and in which of them it ends. -/
structure Keeps (errand : Errand) (run : Run) : Prop where
  /-- None is left out and none comes twice. -/
  onPath : entered run.trace <+: errand.path
  /-- The children are waited for only when the last stage was spawned and its endpoint closed. -/
  leaves : .reaping ∈ entered run.trace → ∃ before later,
    run.trace = before ++ .phase (.spawning (errand.stages.length - 1)) .reaping :: later ∧
      Run.Leaves errand.stages before
  success : ∀ report, run.outcome? = some (.ok report) → entered run.trace = errand.path ∧ run.phase = .idle
  /-- A fault at a stage leaves the phase in which that stage is spawned. -/
  spawning : ∀ fault, run.outcome? = some (.error fault) → (∀ errno, fault ≠ .wait errno) →
    ∃ index < errand.stages.length, Run.At errand.stages index fault ∧
      entered run.trace = errand.opening ++ Run.spawnings (index + 1) ∧ run.phase = .spawning index
  waiting : ∀ errno, run.outcome? = some (.error (.wait errno)) →
    entered run.trace = errand.opening ++ Run.spawnings errand.stages.length ++ [.reaping] ∧ run.phase = .reaping

theorem reaping_notMem_opening (errand : Errand) : .reaping ∉ errand.opening := by
  cases errand <;> simp [opening]

/-- What a run for stages records is what an errand does. -/
theorem Keeps.of_scripted {errand : Errand} {first : Phase} {prior : List Event} {stages : List Stage} {run : Run}
    (same : errand.stages = stages) (some : stages ≠ []) (parses : entered prior = errand.opening)
    (unopened : ∀ read write, .opened read write ∉ prior) (scripted : run.Scripted first prior stages) :
    errand.Keeps run := by
  subst same
  have path : errand.path = errand.opening ++ (Run.spawnings errand.stages.length ++ [.reaping, .idle]) := by
    rw [Errand.path, if_neg some]
  obtain ⟨index, standing⟩ | ⟨phase, recorded, control⟩ | ⟨phase, recorded, report, control⟩ := scripted.standing
  · have recorded := parses ▸ standing.entered
    refine ⟨?_, fun reaping => ?_, fun report ended => ?_, fun fault ended _ => ?_, fun errno ended => ?_⟩
    · rw [recorded, path]
      exact (List.prefix_append_right_inj _).mpr ((Run.spawnings_prefix standing.within).trans (List.prefix_append _ _))
    · rw [recorded] at reaping
      exact absurd reaping (by simp [reaping_notMem_opening, Run.spawnings])
    · exact absurd (Run.control_of_outcome? ended) (standing.unfinished report)
    · have place := standing.fails fault (.inr (Run.control_of_outcome? ended))
      exact ⟨index, standing.within, place, recorded, standing.phase⟩
    · exact (standing.fails (.wait errno) (.inr (Run.control_of_outcome? ended))).elim
  · rw [parses] at recorded
    have unfinished : ∀ outcome, run.outcome? = .some outcome → ∃ errno, outcome = .error (.wait errno) := by
      intro outcome ended
      have finished := Run.control_of_outcome? ended
      obtain control | ⟨errno, control⟩ := control <;> rw [control] at finished <;> cases finished
      exact ⟨errno, rfl⟩
    refine ⟨?_, fun _ => scripted.left unopened (.inl phase), fun report ended => ?_, fun fault ended others => ?_,
      fun errno ended => ⟨recorded, phase⟩⟩
    · exact ⟨[.idle], by simp [recorded, path]⟩
    · obtain ⟨errno, wrong⟩ := unfinished _ ended
      cases wrong
    · obtain ⟨errno, same⟩ := unfinished _ ended
      cases same
      exact absurd rfl (others errno)
  · rw [parses] at recorded
    have whole : entered run.trace = errand.path := by rw [recorded, path, List.append_assoc]
    have succeeds : ∀ fault, run.outcome? ≠ .some (.error fault) := by
      intro fault ended
      have finished := Run.control_of_outcome? ended
      rw [control] at finished
      cases finished
    exact ⟨whole ▸ List.prefix_rfl, fun _ => scripted.left unopened (.inr phase), fun _ _ => ⟨whole, phase⟩,
      fun fault ended => absurd ended (succeeds fault), fun errno ended => absurd ended (succeeds _)⟩

/-- An errand without stages ends in the idle phase. -/
theorem Keeps.of_success {errand : Errand} {run : Run} {report : Report} (none : errand.stages = [])
    (finished : run.control = .finished (.ok report)) (whole : entered run.trace = errand.opening ++ [.idle])
    (idle : run.phase = .idle) : errand.Keeps run := by
  have path : errand.path = errand.opening ++ [.idle] := by rw [Errand.path, if_pos none]
  have succeeds : ∀ fault, run.outcome? ≠ some (.error fault) := by
    intro fault ended
    have failed := Run.control_of_outcome? ended
    rw [finished] at failed
    cases failed
  refine ⟨(path ▸ whole) ▸ List.prefix_rfl, fun reaping => ?_, fun _ _ => ⟨path ▸ whole, idle⟩,
    fun fault ended => absurd ended (succeeds fault), fun errno ended => absurd ended (succeeds _)⟩
  rw [whole] at reaping
  exact absurd reaping (by simp [reaping_notMem_opening])

/-- An errand with stages turns to them when it has recorded at most that a line was parsed. -/
theorem starts {errand : Errand} (some : errand.stages ≠ []) (phase : Phase) :
    ∃ first : Pipework.Run, errand.run phase = first.start errand.stages ∧ first.index = 0 ∧ first.report = {} ∧
      entered first.trace = errand.opening ∧
      ∀ event ∈ first.trace, event.change?.isSome = true ∨ ∃ count, event = .parsed count := by
  cases errand with
  | pipeline stages => exact ⟨.fresh phase, rfl, rfl, rfl, rfl, by simp [Run.fresh]⟩
  | line text limit =>
    cases parsed : Line.stages text limit with
    | error reason => exact absurd (by simp [Errand.stages, parsed, Except.toOption]) some
    | ok stages =>
      have same : (line text limit).stages = stages := by simp [Errand.stages, parsed, Except.toOption]
      refine ⟨((Run.fresh phase).enter .parsing).record (.parsed stages.length), ?_, rfl, rfl, rfl, ?_⟩
      · simp [same, Errand.run, Run.ofLine, parsed]
      · simp [Run.fresh, Run.enter, Run.record, Event.change?]

/-- Whatever an errand is and however it is answered, its record keeps to its path. -/
theorem keeps (errand : Errand) (phase : Phase) (replies : List Reply) :
    errand.Keeps ((errand.run phase).follow replies) := by
  by_cases none : errand.stages = []
  · cases errand with
    | pipeline stages =>
      have empty : stages = [] := none
      subst empty
      have finished : (Run.ofStages phase []).control = .finished (.ok {}) := rfl
      rw [Errand.run, Run.follow_of_finished finished]
      exact .of_success none finished rfl rfl
    | line text limit =>
      cases parsed : Line.stages text limit with
      | error reason =>
        have begun : (line text limit).run phase = ((Run.fresh phase).enter .parsing).goOn
            (.complaining (Bytes.ofString (reason.message ++ "\n"))) := by
          simp [Errand.run, Run.ofLine, parsed]
        rw [begun]
        cases replies with
        | nil =>
          have path : (line text limit).path = [.parsing, .idle] := by rw [Errand.path, if_pos none]; rfl
          refine ⟨⟨[.idle], path.symm⟩, fun reaping => ?_, fun report ended => ?_, fun fault ended => ?_,
            fun errno ended => ?_⟩
          · exact absurd reaping (by simp [Run.follow, Run.goOn, Run.enter, Run.record, Run.fresh])
          all_goals cases ended
        | cons reply replies =>
          have finished : ((((Run.fresh phase).enter .parsing).goOn (.complaining
              (Bytes.ofString (reason.message ++ "\n")))).resume reply).control = .finished (.ok {}) := rfl
          rw [Run.follow, List.foldl_cons, ← Run.follow, Run.follow_of_finished finished]
          exact .of_success none finished rfl rfl
      | ok stages =>
        have empty : stages = [] := by simpa [Errand.stages, parsed, Except.toOption] using none
        subst empty
        have begun : (line text limit).run phase =
            (((Run.fresh phase).enter .parsing).record (.parsed 0)).start [] := by
          simp [Errand.run, Run.ofLine, parsed]
        have finished : ((((Run.fresh phase).enter .parsing).record (.parsed 0)).start []).control =
            .finished (.ok {}) := rfl
        rw [begun, Run.follow_of_finished finished]
        exact .of_success none rfl rfl rfl
  · obtain ⟨run, begins, anew, blank, parses, few⟩ := starts none phase
    have scripted := (Run.Scripted.start run errand.stages none anew blank).follow replies
    rw [begins]
    refine .of_scripted rfl none parses (fun read write opened => ?_) scripted
    rcases few _ opened with change | ⟨count, same⟩
    · cases change
    · cases same

end Errand

end Pipework
