import Pipework.Proofs.Conduct

set_option autoImplicit false

/-!
Recastings: runs that differ in numbers which an executor only passes on. It decides nothing by the number of a process,
by the position that a stage has of itself, or by an exit code; so if such numbers are replaced in a run and in what it
is answered, the same calls follow, and what comes of it is what came of the original run, with the numbers replaced
(`resume_recast`). Nor does it decide anything by what it has recorded (`resume_preceded`); both are cases of
`resume_recastAfter`.

Surroundings are everything around an executor, seen from its calls. What is answered may depend on all that was asked
before, but for diagnostics, which nobody has to read; `Run.converse` lets a run talk to its surroundings. Runs that have
recorded different things have the same talk (`converse_preceded`), and so have runs that differ in numbers which they
only pass on, as long as their surroundings differ in nothing else (`converse_alike`).
-/

namespace Pipework

open Kernel (Call Reply)

/-- What is put in the place of numbers that an executor only passes on. -/
structure Recasting where
  process : Nat → Nat := id
  position : Nat → Nat := id
  code : Nat → Nat := id

namespace Recasting

/-- Forgets which processes there were. -/
def nameless : Recasting where
  process _ := 0

/-- Forgets which positions stages have of themselves. -/
def unplaced : Recasting where
  position _ := 0

variable (recasting : Recasting)

def stage (stage : Stage) : Stage := { stage with position := recasting.position stage.position }

def termination : Termination → Termination
  | .exited code => .exited (recasting.code code)
  | .signaled signal => .signaled signal

def status : Status → Status
  | .exited process code => .exited (recasting.process process) (recasting.code code)
  | .signaled process name coreDumped => .signaled (recasting.process process) name coreDumped

def event : Event → Event
  | .spawned process position program => .spawned (recasting.process process) (recasting.position position) program
  | .forked process => .forked (recasting.process process)
  | .reaped status => .reaped (recasting.status status)
  | event => event

def report (report : Report) : Report where
  channels := report.channels
  spawned := report.spawned.map recasting.process
  reaped := report.reaped.map recasting.status

def fault : Fault → Fault
  | .pipe index stage errno => .pipe index (recasting.stage stage) errno
  | .close index stage errno => .close index (recasting.stage stage) errno
  | .fork stage errno => .fork (recasting.stage stage) errno
  | .wait errno => .wait errno

def outcome (outcome : Except Fault Report) : Except Fault Report :=
  (outcome.map recasting.report).mapError recasting.fault

/-- An answer; a number in it is that of a process. -/
def reply : Reply → Reply
  | .number process => .number (recasting.process process)
  | .ended process how => .ended (recasting.process process) (recasting.termination how)
  | reply => reply

open Run.Control in
def control : Run.Control → Run.Control
  | opening stage later incoming => opening (recasting.stage stage) (later.map recasting.stage) incoming
  | forking stage later streams carried => forking (recasting.stage stage) (later.map recasting.stage) streams carried
  | closingRead stage later endpoint stdout carried =>
    closingRead (recasting.stage stage) (later.map recasting.stage) endpoint stdout carried
  | closingWrite stage later endpoint carried =>
    closingWrite (recasting.stage stage) (later.map recasting.stage) endpoint carried
  | dropping endpoint others fault => dropping endpoint others (recasting.fault fault)
  | reaping => reaping
  | complaining text => complaining text
  | finished outcome => finished (recasting.outcome outcome)

def run (run : Run) : Run where
  phase := run.phase
  control := recasting.control run.control
  index := run.index
  stages := run.stages
  report := recasting.report run.report
  trace := run.trace.map recasting.event

@[simp] theorem outcome_error (fault : Fault) :
    recasting.outcome (.error fault) = .error (recasting.fault fault) := rfl

@[simp] theorem outcome_ok (report : Report) :
    recasting.outcome (.ok report) = .ok (recasting.report report) := rfl

/-- The diagnostic of a fault names its stage by the program. -/
@[simp] theorem message_fault (fault : Fault) : (recasting.fault fault).message = fault.message := by
  cases fault <;> rfl

/-- An ending has a status, whatever the numbers in it. -/
theorem status?_termination (process : Nat) (how : Termination) :
    (recasting.termination how).status? (recasting.process process) =
      (how.status? process).map recasting.status := by
  cases how with
  | exited code => rfl
  | signaled signal =>
    simp only [termination, Termination.status?, Option.map_map]
    rfl

section same

/-- Puts each number in its own place. -/
def same : Recasting := {}

theorem event_same (event : Event) : same.event event = event := by
  cases event with
  | reaped status => cases status <;> rfl
  | _ => rfl

theorem reply_same (reply : Reply) : same.reply reply = reply := by
  cases reply with
  | ended process how => cases how <;> rfl
  | _ => rfl

theorem fault_same (fault : Fault) : same.fault fault = fault := by cases fault <;> rfl

theorem report_same (report : Report) : same.report report = report := by
  have statuses : report.reaped.map same.status = report.reaped :=
    List.map_id'' (fun status => by cases status <;> rfl) _
  simp only [Recasting.report, statuses]
  simp [same]

theorem outcome_same (outcome : Except Fault Report) : same.outcome outcome = outcome := by
  cases outcome with
  | error fault => exact congrArg _ (fault_same fault)
  | ok report => exact congrArg _ (report_same report)

theorem control_same (control : Run.Control) : same.control control = control := by
  have stages : ∀ stages : List Stage, stages.map same.stage = stages := List.map_id'' fun _ => rfl
  cases control with
  | dropping endpoint others fault => exact congrArg _ (fault_same fault)
  | finished outcome => exact congrArg _ (outcome_same outcome)
  | _ => simp only [Recasting.control, stages] <;> rfl

theorem run_same (run : Run) : same.run run = run := by
  simp only [Recasting.run, control_same, report_same, List.map_id'' event_same]

end same

/-- Stages of the same programs are the same but for their positions. -/
theorem map_stage_unplaced {stages others : List Stage}
    (same : stages.map Stage.program = others.map Stage.program) :
    stages.map unplaced.stage = others.map unplaced.stage := by
  have ofProgram : ∀ first second : Stage, first.program = second.program →
      unplaced.stage first = unplaced.stage second := by
    rintro ⟨_, _, _⟩ ⟨_, _, _⟩ rfl
    rfl
  induction stages generalizing others with
  | nil => simpa using same
  | cons first later ih =>
    cases others with
    | nil => cases same
    | cons second others =>
      obtain ⟨head, tail⟩ := List.cons_eq_cons.mp same
      rw [List.map_cons, List.map_cons, ofProgram first second head, ih tail]

end Recasting

namespace Run

variable (recasting : Recasting) (run : Run)

@[simp] theorem next_recast : (recasting.run run).next = run.next := by
  obtain ⟨phase, control⟩ := run
  cases control <;> rfl

/-- The same program is to be started, with the same arguments and the same endpoints. -/
@[simp] theorem startup?_recast : (recasting.run run).startup? = run.startup? := by
  obtain ⟨phase, control⟩ := run
  cases control <;> rfl

@[simp] theorem outcome?_recast : (recasting.run run).outcome? = run.outcome?.map recasting.outcome := by
  obtain ⟨phase, control⟩ := run
  cases control <;> rfl

/-- A run that has recorded more before. -/
def preceded (prior : List Event) (run : Run) : Run := { run with trace := prior ++ run.trace }

/-- A run with other numbers that has recorded more before. -/
def recastAfter (recasting : Recasting) (prior : List Event) (run : Run) : Run := (recasting.run run).preceded prior

section recastAfter

variable (prior : List Event)

@[simp] theorem recastAfter_record (event : Event) :
    (run.record event).recastAfter recasting prior =
      (run.recastAfter recasting prior).record (recasting.event event) := by
  simp [recastAfter, preceded, record, Recasting.run]

@[simp] theorem recastAfter_enter (phase : Phase) :
    (run.enter phase).recastAfter recasting prior = (run.recastAfter recasting prior).enter phase := by
  simp [recastAfter, preceded, enter, record, Recasting.run, Recasting.event]

@[simp] theorem recastAfter_goOn (control : Control) :
    (run.goOn control).recastAfter recasting prior =
      (run.recastAfter recasting prior).goOn (recasting.control control) := rfl

theorem recastAfter_giveUp (held : List Nat) (fault : Fault) :
    (run.giveUp held fault).recastAfter recasting prior =
      (run.recastAfter recasting prior).giveUp held (recasting.fault fault) := by
  cases held <;> rfl

theorem recastAfter_spawnNext (incoming : Option Nat) (stages : List Stage) :
    (run.spawnNext incoming stages).recastAfter recasting prior =
      (run.recastAfter recasting prior).spawnNext incoming (stages.map recasting.stage) := by
  match stages with
  | [] => simp [spawnNext, Recasting.control]
  | [stage] =>
    simp [spawnNext, Recasting.control]
    rfl
  | stage :: next :: later =>
    simp [spawnNext, Recasting.control]
    rfl

theorem recastAfter_passOn (later : List Stage) (carried : Option Nat) :
    (run.passOn later carried).recastAfter recasting prior =
      (run.recastAfter recasting prior).passOn (later.map recasting.stage) carried :=
  recastAfter_spawnNext recasting { run with index := run.index + 1 } prior carried later

theorem recastAfter_closeWrite (stage : Stage) (later : List Stage) (stdout carried : Option Nat) :
    (run.closeWrite stage later stdout carried).recastAfter recasting prior =
      (run.recastAfter recasting prior).closeWrite (recasting.stage stage) (later.map recasting.stage) stdout
        carried := by
  cases stdout with
  | none => exact recastAfter_passOn recasting run prior later carried
  | some endpoint => simp [closeWrite, Recasting.control, Recasting.event]

theorem recastAfter_closeStreams (stage : Stage) (later : List Stage) (streams : Streams) (carried : Option Nat) :
    (run.closeStreams stage later streams carried).recastAfter recasting prior =
      (run.recastAfter recasting prior).closeStreams (recasting.stage stage) (later.map recasting.stage) streams
        carried := by
  unfold closeStreams
  cases streams.stdin with
  | none => exact recastAfter_closeWrite recasting run prior stage later streams.stdout carried
  | some endpoint => simp [Recasting.control, Recasting.event]

theorem recastAfter_complete :
    run.complete.recastAfter recasting prior = (run.recastAfter recasting prior).complete := by
  obtain ⟨phase, control, index, stages⟩ := run
  cases stages with
  | none => rfl
  | some stages =>
    simp [complete, recastAfter, preceded, Recasting.run, Recasting.control, Recasting.report, goOn, enter, record,
      Recasting.event]

/-- A run goes on in the same way when numbers that are only passed on are others, and whatever it has recorded. -/
theorem resume_recastAfter (reply : Reply) :
    (run.recastAfter recasting prior).resume (recasting.reply reply) =
      (run.resume reply).recastAfter recasting prior := by
  obtain ⟨phase, control, index, stages, report, trace⟩ := run
  cases control with
  | opening stage later incoming =>
    cases reply with
    | ends read write =>
      simp [resume, recastAfter, preceded, Recasting.run, Recasting.reply, Recasting.control, Recasting.report, goOn,
        record, Recasting.event]
    | failed errno =>
      simp only [resume, Recasting.reply, recastAfter_giveUp]
      rfl
    | _ => rfl
  | forking stage later streams carried =>
    cases reply with
    | number process =>
      simp only [resume, Recasting.reply, recastAfter_closeStreams, recastAfter_record]
      simp [recastAfter, preceded, Recasting.run, Recasting.control, Recasting.report, Recasting.event,
        Recasting.stage]
    | failed errno =>
      change (if errno = .interrupted then _ else _) =
        recastAfter recasting prior (if errno = .interrupted then _ else _)
      split
      · rfl
      · rw [recastAfter_giveUp]
        rfl
    | _ => rfl
  | closingRead stage later endpoint stdout carried =>
    cases reply with
    | failed errno =>
      simp only [resume, Recasting.reply, recastAfter_giveUp]
      rfl
    | _ => exact (recastAfter_closeWrite recasting _ prior _ _ _ _).symm
  | closingWrite stage later endpoint carried =>
    cases reply with
    | failed errno =>
      simp only [resume, Recasting.reply, recastAfter_giveUp]
      rfl
    | _ => exact (recastAfter_passOn recasting _ prior _ _).symm
  | dropping endpoint others fault => exact (recastAfter_giveUp recasting _ prior _ _).symm
  | reaping =>
    cases reply with
    | ended process how =>
      have status := recasting.status?_termination process how
      simp only [resume, recastAfter, preceded, Recasting.reply, Recasting.run, Recasting.control, status]
      cases how.status? process with
      | none => rfl
      | some status => simp [Recasting.report, record, Recasting.event]
    | failed errno =>
      change (if errno = .interrupted then _ else if errno = .noChild then _ else _) =
        recastAfter recasting prior (if errno = .interrupted then _ else if errno = .noChild then _ else _)
      split
      · rfl
      split
      · exact (recastAfter_complete recasting _ prior).symm
      · rfl
    | _ => rfl
  | complaining text =>
    simp only [resume, recastAfter_goOn, recastAfter_enter]
    rfl
  | finished outcome => rfl

end recastAfter

/-- A run goes on in the same way when numbers that are only passed on are others. -/
theorem resume_recast (reply : Reply) :
    (recasting.run run).resume (recasting.reply reply) = recasting.run (run.resume reply) :=
  resume_recastAfter recasting run [] reply

/-- Runs that are the same but for numbers which are only passed on remain so when they are answered alike. -/
theorem recast_resume_congr {recasting : Recasting} {first second : Run} {reply answer : Reply}
    (alike : recasting.run first = recasting.run second) (answered : recasting.reply reply = recasting.reply answer) :
    recasting.run (first.resume reply) = recasting.run (second.resume answer) := by
  rw [← resume_recast, ← resume_recast, alike, answered]

theorem recast_ofStages (phase : Phase) (stages : List Stage) :
    recasting.run (ofStages phase stages) = ofStages phase (stages.map recasting.stage) := by
  cases stages with
  | nil => rfl
  | cons stage later =>
    simp only [ofStages, start, List.map_cons, List.length_cons, List.length_map]
    exact recastAfter_spawnNext recasting { fresh phase with stages := some (later.length + 1) } [] none
      (stage :: later)

section preceded

variable (prior : List Event)

/-- A run goes on in the same way, whatever it has recorded. -/
theorem resume_preceded (reply : Reply) :
    (run.preceded prior).resume reply = (run.resume reply).preceded prior := by
  have same := resume_recastAfter .same run prior reply
  rwa [recastAfter, recastAfter, Recasting.run_same, Recasting.run_same, Recasting.reply_same] at same

theorem follow_preceded (replies : List Reply) :
    (run.preceded prior).follow replies = (run.follow replies).preceded prior := by
  induction replies generalizing run with
  | nil => rfl
  | cons reply replies ih =>
    rw [follow, List.foldl_cons, resume_preceded]
    exact ih (run.resume reply)

/-- A run that has just turned to these stages, with nothing recorded. -/
def started (stages : List Stage) : Run := { ofStages .idle stages with trace := [] }

/-- In which phase stages are turned to, and what was recorded before, can be read in the record alone. -/
theorem start_fresh (phase : Phase) (stages : List Stage) :
    ({ fresh phase with trace := prior } : Run).start stages =
      (started stages).preceded (prior ++ [.phase phase (started stages).phase]) := by
  match stages with
  | [] => simp [start, started, ofStages, preceded, fresh, enter, record, goOn]
  | [stage] => simp [start, spawnNext, started, ofStages, preceded, fresh, enter, record, goOn]
  | stage :: next :: later => simp [start, spawnNext, started, ofStages, preceded, fresh, enter, record, goOn]

theorem ofStages_eq (phase : Phase) (stages : List Stage) :
    ofStages phase stages = (started stages).preceded [.phase phase (started stages).phase] :=
  start_fresh [] phase stages

/-- A run for a line that forms a pipeline. -/
theorem ofLine_eq {line : String} {limit : Nat} {stages : List Stage} (parsed : Line.stages line limit = .ok stages)
    (phase : Phase) :
    ofLine phase line limit = (started stages).preceded
      [.phase phase .parsing, .parsed stages.length, .phase .parsing (started stages).phase] := by
  simp only [ofLine, parsed]
  exact start_fresh [.phase phase .parsing, .parsed stages.length] .parsing stages

/-- A run for a line, without the record of the phase in which it was found. -/
def parsing (line : String) (limit : Nat) : Run :=
  { ofLine .idle line limit with trace := (ofLine .idle line limit).trace.tail }

end preceded

end Run

/-- What an executor has asked, what a process that it made was to become, and what it was answered. -/
structure Exchange where
  call : Call
  child : Option Startup
  reply : Reply
  deriving DecidableEq

/-- What is seen of an executor from outside, oldest first. -/
structure Dealings where
  exchanges : List Exchange := []
  /-- What it has said on its standard error. -/
  diagnostics : List Bytes := []
  deriving DecidableEq

/-- What there is to answer to a call, given all that was asked and answered before, without diagnostics. -/
abbrev Surroundings := List Exchange → Call → Reply

/-- A call to the surroundings, and what is seen of it. -/
def Surroundings.ask (surroundings : Surroundings) (dealings : Dealings) (call : Call) (child : Option Startup) :
    Reply × Dealings :=
  let reply := surroundings dealings.exchanges call
  match call with
  | .write _ data => (reply, { dealings with diagnostics := dealings.diagnostics ++ [data] })
  | _ => (reply, { dealings with exchanges := dealings.exchanges ++ [⟨call, child, reply⟩] })

/-- Surroundings in which there are no channels, and the only child exits with this code. -/
def Surroundings.exiting (code : Nat) : Surroundings
  | _, .fork => .number 2
  | asked, .wait => if asked.any (·.call = .wait) then .failed .noChild else .ended 2 (.exited code)
  | _, _ => .failed .tooManyOpen

namespace Run

/-- Lets a run ask its surroundings, up to its end or for at most so many calls. -/
def converse (surroundings : Surroundings) : Nat → Dealings → Run → Dealings × Run
  | 0, dealings, run => (dealings, run)
  | calls + 1, dealings, run =>
    match run.next with
    | none => (dealings, run)
    | some call =>
      let answered := surroundings.ask dealings call run.startup?
      converse surroundings calls answered.2 (run.resume answered.1)

variable {surroundings : Surroundings} {recasting : Recasting}

/-- A run that talks to its surroundings is answered. -/
theorem exists_follow_of_converse (surroundings : Surroundings) (calls : Nat) (dealings : Dealings) (run : Run) :
    ∃ replies, (run.converse surroundings calls dealings).2 = run.follow replies := by
  induction calls generalizing dealings run with
  | zero => exact ⟨[], rfl⟩
  | succ calls ih =>
    unfold converse
    split
    · exact ⟨[], rfl⟩
    · rename_i call asks
      obtain ⟨replies, same⟩ := ih (surroundings.ask dealings call run.startup?).2
        (run.resume (surroundings.ask dealings call run.startup?).1)
      exact ⟨_ :: replies, same⟩

/-- What a run has recorded does not show from outside. -/
theorem converse_preceded (surroundings : Surroundings) (prior : List Event) (calls : Nat) (dealings : Dealings)
    (run : Run) :
    (run.preceded prior).converse surroundings calls dealings =
      ((run.converse surroundings calls dealings).1, (run.converse surroundings calls dealings).2.preceded prior) := by
  induction calls generalizing dealings run with
  | zero => rfl
  | succ calls ih =>
    have next : (run.preceded prior).next = run.next := rfl
    have child : (run.preceded prior).startup? = run.startup? := rfl
    unfold converse
    rw [next, child]
    split
    · rfl
    · dsimp only
      rw [resume_preceded, ih]

end Run

/-- An exchange with other numbers in the answer. -/
def Recasting.exchange (recasting : Recasting) (exchange : Exchange) : Exchange :=
  { exchange with reply := recasting.reply exchange.reply }

/-- Surroundings that answer alike, but for numbers that executors only pass on. -/
def Surroundings.Alike (first : Surroundings) (recasting : Recasting) (second : Surroundings) : Prop :=
  ∀ (asked other : List Exchange) (call : Call), asked.map recasting.exchange = other.map recasting.exchange →
    recasting.reply (first asked call) = recasting.reply (second other call)

/-- What is seen of executors is the same, but for numbers that they only pass on. -/
structure Dealings.Alike (first : Dealings) (recasting : Recasting) (second : Dealings) : Prop where
  exchanges : first.exchanges.map recasting.exchange = second.exchanges.map recasting.exchange
  diagnostics : first.diagnostics = second.diagnostics

variable {recasting : Recasting} {first second : Surroundings} {dealings others : Dealings}

theorem Surroundings.Alike.ask (alike : first.Alike recasting second)
    (dealt : dealings.Alike recasting others) (call : Call) (child : Option Startup) :
    recasting.reply (first.ask dealings call child).1 = recasting.reply (second.ask others call child).1 ∧
      (first.ask dealings call child).2.Alike recasting (second.ask others call child).2 := by
  have answered := alike _ _ call dealt.exchanges
  unfold Surroundings.ask
  cases call with
  | write descriptor data => exact ⟨answered, dealt.exchanges, congrArg (· ++ [data]) dealt.diagnostics⟩
  | _ => exact ⟨answered, by simp [Recasting.exchange, answered, dealt.exchanges], dealt.diagnostics⟩

/-- Runs that differ in numbers which they only pass on have the same talk with surroundings that differ in nothing
else. -/
theorem Run.converse_alike (alike : first.Alike recasting second) (calls : Nat) {run other : Run}
    (dealt : dealings.Alike recasting others) (same : recasting.run run = recasting.run other) :
    (run.converse first calls dealings).1.Alike recasting (other.converse second calls others).1 ∧
      recasting.run (run.converse first calls dealings).2 = recasting.run (other.converse second calls others).2 := by
  induction calls generalizing dealings others run other with
  | zero => exact ⟨dealt, same⟩
  | succ calls ih =>
    have next : run.next = other.next := by rw [← next_recast recasting run, same, next_recast]
    have child : run.startup? = other.startup? := by rw [← startup?_recast recasting run, same, startup?_recast]
    unfold converse
    rw [next, child]
    split
    · exact ⟨dealt, same⟩
    · rename_i call asks
      obtain ⟨answered, dealt⟩ := alike.ask dealt call other.startup?
      exact ih dealt (recast_resume_congr same answered)

/-- Positions do not occur in answers. -/
theorem Recasting.map_exchange_unplaced (exchanges : List Exchange) :
    exchanges.map unplaced.exchange = exchanges := by
  have same : ∀ exchange : Exchange, unplaced.exchange exchange = exchange := by
    rintro ⟨call, child, reply⟩
    cases reply with
    | ended process how => cases how <;> rfl
    | _ => rfl
  simp [funext same]

/-- Carries out runs by letting them talk to their surroundings. -/
def Executing.among (surroundings : Surroundings) (calls : Nat) : Executing Dealings :=
  fun dealings run =>
    let ended := run.converse surroundings calls dealings
    ⟨ended.2.outcome?, ended.2.phase, ended.2.trace, ended.1⟩

end Pipework
