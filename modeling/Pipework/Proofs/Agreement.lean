import Pipework.Proofs.Collection
import Pipework.Proofs.Opacity
import Pipework.Proofs.Recasting
import Pipework.Proofs.Words

set_option autoImplicit false

/-!
All ways of executing a pipeline agree. Whether an executor is asked for a line or for the stages of that line, and in
whatever phase it was left, it turns to the same run with something else recorded before; and positions that stages have
of themselves only occur in records. `Run.Agree` says of two runs that nobody can tell them apart, neither surroundings
that answer nor a machine on which they are carried out.
-/

namespace Pipework

open Kernel

/-- Two runs that nobody can tell apart: surroundings that answer both alike are asked the same, processes that carry
them out have the same proceedings, and what becomes of them is the same, but for what `keep` forgets. -/
structure Run.Agree (keep : Run → Run) (same : Run → Run → Prop) (first second : Run) : Prop where
  among : ∀ (surroundings : Surroundings) (calls : Nat) (dealings : Dealings),
    (first.converse surroundings calls dealings).1 = (second.converse surroundings calls dealings).1 ∧
      same (first.converse surroundings calls dealings).2 (second.converse surroundings calls dealings).2
  onMachine : ∀ {τ : Type} {images : Behaviour τ} {mishaps : Call → Bool} {host : Nat} {machine after : Machine τ}
    {minutes : Minutes}, machine.Hosts host →
    Proceedings images mishaps host (machine.putProgram host (.executor first)) minutes after →
      ∃ last, Proceedings images mishaps host (machine.putProgram host (.executor second)) minutes last ∧
        after.map (Program.mapRun keep) = System.map (Program.mapRun keep) last ∧
        ∀ run, after.run? host = some run → ∃ other, Machine.run? last host = some other ∧ same run other

/-- Runs on which a machine has the same proceedings are there together. -/
theorem Proceedings.runs {τ : Type} {images : Behaviour τ} {mishaps : Call → Bool} {host : Nat}
    {machine after last : Machine τ} {minutes : Minutes} {first second : Run} {f : Program τ → Program τ}
    (hosts : machine.Hosts host)
    (one : Proceedings images mishaps host (machine.putProgram host (.executor first)) minutes after)
    (other : Proceedings images mishaps host (machine.putProgram host (.executor second)) minutes last)
    (same : after.map f = System.map f last) {run : Run} (runs : after.run? host = some run) :
    run = first.follow ((minutes.talk host).map Prod.snd) ∧
      last.run? host = some (second.follow ((minutes.talk host).map Prod.snd)) := by
  obtain ⟨process, present, program⟩ := Machine.run?_eq_some runs
  have heard := (one.hears (hosts.putProgram _) fun _ => Machine.program_of_putProgram).program process present
  have there := System.getElem?_map (f := f) last host
  rw [← same, System.getElem?_map, present] at there
  obtain ⟨process', present', -⟩ := Option.map_eq_some_iff.mp there.symm
  have heard' := (other.hears (hosts.putProgram _) fun _ => Machine.program_of_putProgram).program process' present'
  exact ⟨Program.executor.inj (program.symm.trans heard), by simp [Machine.run?, present', heard']⟩

/-- Runs that have recorded different things before. -/
def Run.Differs (early late : List Event) (first second : Run) : Prop :=
  ∃ run : Run, first = run.preceded early ∧ second = run.preceded late

/-- Nobody can tell two runs apart that have only recorded different things before. -/
theorem Run.agree_preceded (run : Run) (early late : List Event) :
    Agree unrecorded (Differs early late) (run.preceded early) (run.preceded late) where
  among surroundings calls dealings := by
    rw [converse_preceded, converse_preceded]
    exact ⟨rfl, _, rfl, rfl⟩
  onMachine := by
    intro τ images mishaps host machine after minutes hosts proceedings
    have alike : (machine.putProgram host (.executor (run.preceded early))).map (Program.mapRun unrecorded) =
        System.map (Program.mapRun unrecorded) (machine.putProgram host (.executor (run.preceded late))) := by
      rw [Machine.map_putProgram, Machine.map_putProgram]
      rfl
    obtain ⟨last, others, same⟩ := proceedings.of_map_eq (Program.replaces_unrecorded images) alike
    refine ⟨last, others, same, fun ended runs => ?_⟩
    obtain ⟨rfl, runs'⟩ := proceedings.runs hosts others same runs
    exact ⟨_, runs', _, follow_preceded _ _ _, follow_preceded _ _ _⟩

/-- Runs that differ in nothing but positions which stages have of themselves. -/
def Run.Places (first second : Run) : Prop := Recasting.unplaced.run first = Recasting.unplaced.run second

theorem Run.Places.follow {first second : Run} (places : first.Places second) (replies : List Reply) :
    (first.follow replies).Places (second.follow replies) := by
  induction replies generalizing first second with
  | nil => exact places
  | cons reply replies ih => exact ih (recast_resume_congr places rfl)

theorem Dealings.Alike.eq_of_unplaced {first second : Dealings} (alike : first.Alike .unplaced second) :
    first = second := by
  obtain ⟨exchanges, diagnostics⟩ := alike
  rw [Recasting.map_exchange_unplaced, Recasting.map_exchange_unplaced] at exchanges
  cases first
  cases second
  simp_all

/-- Nobody can tell two runs apart that differ in nothing but positions which stages have of themselves. -/
theorem Run.Places.agree {first second : Run} (places : first.Places second) :
    Agree Recasting.unplaced.run Places first second where
  among surroundings calls dealings := by
    have alike : surroundings.Alike .unplaced surroundings := by
      intro asked other call same
      rw [Recasting.map_exchange_unplaced, Recasting.map_exchange_unplaced] at same
      rw [same]
    obtain ⟨dealt, ended⟩ := converse_alike alike calls (⟨rfl, rfl⟩ : dealings.Alike .unplaced dealings) places
    exact ⟨dealt.eq_of_unplaced, ended⟩
  onMachine := by
    intro τ images mishaps host machine after minutes hosts proceedings
    have alike : (machine.putProgram host (.executor first)).map (Program.mapRun Recasting.unplaced.run) =
        System.map (Program.mapRun Recasting.unplaced.run) (machine.putProgram host (.executor second)) := by
      rw [Machine.map_putProgram, Machine.map_putProgram, Program.mapRun, places]
      rfl
    obtain ⟨last, others, same⟩ := proceedings.of_map_eq (Program.replaces_unplaced images) alike
    refine ⟨last, others, same, fun ended runs => ?_⟩
    obtain ⟨rfl, runs'⟩ := proceedings.runs hosts others same runs
    exact ⟨_, runs', places.follow _⟩

section script

open Run

variable {first : Phase} {prior : List Event} {stages : List Stage} {run : Run}

/-- Turns name the stages in their order, each with its own position. -/
theorem Run.Turn.zipWith_turns (turns : List Run.Turn) (later : List Stage) :
    List.zipWith (fun process stage => (process, stage.position, stage.program)) (turns.map Run.Turn.process)
      (turns.map Run.Turn.stage ++ later) =
        turns.map fun turn => (turn.process, turn.stage.position, turn.stage.program) := by
  induction turns with
  | nil => simp
  | cons turn turns ih => simp [ih]

/-- A run has recorded each process that it has made, with the own position of its stage. -/
theorem Run.Scripted.spawned (scripted : Scripted first prior stages run) :
    run.trace.filterMap Event.spawned? = prior.filterMap Event.spawned? ++
      List.zipWith (fun process stage => (process, stage.position, stage.program)) run.report.spawned stages := by
  have whole : ∀ (turns : List Turn) (turn : Turn) (later : List Stage),
      stages = turns.map Turn.stage ++ turn.stage :: later →
      List.zipWith (fun process stage => (process, stage.position, stage.program))
        ((turns ++ [turn]).map Turn.process) stages =
          turns.map (fun turn => (turn.process, turn.stage.position, turn.stage.program)) ++
            [(turn.process, turn.stage.position, turn.stage.program)] := by
    intro turns turn later listed
    simpa [listed] using Turn.zipWith_turns (turns ++ [turn]) later
  have unopened : ∀ ends, (openings ends).filterMap Event.spawned? = [] := by
    intro ends
    cases ends <;> rfl
  have ofEvents : ∀ (turn : Turn) (incoming : Option Nat), (turn.events incoming).filterMap Event.spawned? =
      [(turn.process, turn.stage.position, turn.stage.program)] := by
    intro turn incoming
    simpa [script, List.filterMap_cons, Event.spawned?] using spawned?_script .idle 0 incoming [turn]
  induction scripted with
  | opening turns stage later listed more joined =>
    subst listed
    simp [spawned?_script, Turn.zipWith_turns, List.filterMap_cons, Event.spawned?]
  | forking turns stage later ends listed more joined =>
    subst listed
    simp [spawned?_script, Turn.zipWith_turns, List.filterMap_cons, Event.spawned?, unopened]
  | closingRead turns turn later endpoint listed more joined reads =>
    have spawning : turn.spawning.filterMap Event.spawned? =
        [(turn.process, turn.stage.position, turn.stage.program)] := by
      simp [Turn.spawning, unopened, Event.spawned?]
    rw [whole turns turn later listed]
    simp [spawned?_script, List.filterMap_cons, Event.spawned?, spawning]
  | closingWrite turns turn later read write listed more joined writes =>
    rw [whole turns turn later listed]
    simp [spawned?_script, List.filterMap_cons, Event.spawned?, ofEvents]
  | failing run fault control stood fails gives ih => exact ih
  | reaping turns last statuses control listed joined alone waits =>
    rw [whole turns last [] (by simpa using listed)]
    simp [spawned?_script, List.filterMap_cons, Event.spawned?]
  | complete turns last statuses listed joined alone =>
    rw [whole turns last [] (by simpa using listed)]
    simp [spawned?_script, List.filterMap_cons, Event.spawned?]

/-- A run that is about to make a process makes that of the first stage that has none. -/
theorem Run.Scripted.forked (scripted : Scripted first prior stages run) {child : Startup}
    (makes : run.startup? = some child) :
    ∃ stage streams carried, stages[run.report.spawned.length]? = some stage ∧
      child = .begin stage streams carried := by
  cases scripted with
  | forking turns stage later ends listed more joined =>
    cases makes
    exact ⟨stage, _, _, by simp [listed], rfl⟩
  | failing run fault control stood fails gives =>
    obtain rfl | ⟨endpoint, others, rfl⟩ := gives <;> cases makes
  | reaping turns last statuses control listed joined alone waits =>
    obtain rfl | ⟨errno, rfl⟩ := waits <;> cases makes
  | _ => cases makes

/-- What the process that was made in an exchange was to load, and with which arguments. -/
def Exchange.loads? (exchange : Exchange) : Option (Bytes × List Bytes) :=
  match exchange.call, exchange.reply with
  | .fork, .number _ => exchange.child.map fun child => (child.program, child.arguments)
  | _, _ => none

theorem Surroundings.ask_loads (surroundings : Surroundings) (dealings : Dealings) (call : Call)
    (child : Option Startup) :
    ∃ one, (surroundings.ask dealings call child).2.exchanges = dealings.exchanges ++ one ∧
      one.filterMap Exchange.loads? =
        (Exchange.loads? ⟨call, child, (surroundings.ask dealings call child).1⟩).toList := by
  have single : ∀ exchange : Exchange, [exchange].filterMap Exchange.loads? = exchange.loads?.toList := by
    intro exchange
    cases loads : exchange.loads? <;> simp [loads]
  cases call with
  | write descriptor data => exact ⟨[], by simp [ask], rfl⟩
  | _ => exact ⟨[_], rfl, single _⟩

/-- The stages for which a run has made processes, as they are loaded. -/
def Run.loaded (stages : List Stage) (run : Run) : List (Bytes × List Bytes) :=
  (stages.take run.report.spawned.length).map fun stage => (stage.name, stage.arguments)

/-- An answer to a run makes the process of the next stage, or none. -/
theorem Run.Scripted.loaded_resume (scripted : Scripted first prior stages run) {call : Call}
    (next : run.next = some call)
    (reply : Reply) :
    (run.resume reply).loaded stages =
      run.loaded stages ++ (Exchange.loads? ⟨call, run.startup?, reply⟩).toList := by
  have reports := (run.report_resume reply).1
  by_cases forks : call = .fork
  · subst forks
    obtain ⟨child, makes⟩ : ∃ child, run.startup? = some child := by
      cases control : run.control <;> simp_all [Run.next, Run.startup?]
    obtain ⟨stage, streams, carried, there, rfl⟩ := scripted.forked makes
    cases reply with
    | number process =>
      have made : run.made (.number process) = [process] := by
        cases control : run.control <;> simp_all [Run.next, Run.made]
      rw [made] at reports
      simp only [Run.loaded, reports, List.length_append, List.length_singleton, List.take_add_one, there, makes,
        List.map_append, Option.toList_some]
      rfl
    | _ => simp_all [Run.loaded, Run.made, Exchange.loads?]
  · obtain ⟨single, unmade⟩ := Run.unmade_of_next next forks
    have silent : Exchange.loads? ⟨call, run.startup?, reply⟩ = none := by
      cases call <;> first | rfl | exact absurd rfl forks
    rw [silent, Run.loaded, Run.loaded, reports, unmade]
    simp

/-- Whatever a run is answered, the processes that it makes are to become its stages, in their order. -/
theorem Run.Scripted.converse_loads (scripted : Scripted first prior stages run) (surroundings : Surroundings)
    (calls : Nat) (dealings : Dealings) :
    ∃ more, (run.converse surroundings calls dealings).1.exchanges = dealings.exchanges ++ more ∧
      (run.converse surroundings calls dealings).2.loaded stages =
          run.loaded stages ++ more.filterMap Exchange.loads? := by
  induction calls generalizing dealings run with
  | zero => exact ⟨[], by simp [Run.converse], by simp [Run.converse]⟩
  | succ calls ih =>
    unfold Run.converse
    split
    · exact ⟨[], by simp, by simp⟩
    · rename_i call asks
      obtain ⟨more, exchanged, loaded⟩ := ih (scripted.resume (surroundings.ask dealings call run.startup?).1)
        (surroundings.ask dealings call run.startup?).2
      have goesOn := scripted.loaded_resume asks (surroundings.ask dealings call run.startup?).1
      obtain ⟨one, asked, single⟩ := surroundings.ask_loads dealings call run.startup?
      refine ⟨one ++ more, ?_, ?_⟩
      · rw [exchanged, asked, List.append_assoc]
      · rw [loaded, goesOn, List.filterMap_append, single, List.append_assoc]

end script

namespace Recasting

theorem report_unplaced (report : Report) : unplaced.report report = report := by
  have status : unplaced.status = id := by
    funext status
    cases status <;> rfl
  have process : unplaced.process = id := rfl
  simp [Recasting.report, status, process]

/-- The diagnostic of an outcome tells nothing of positions. -/
theorem mapError_unplaced (outcome : Except Fault Report) :
    (unplaced.outcome outcome).mapError Fault.message = outcome.mapError Fault.message := by
  cases outcome with
  | error fault => exact congrArg Except.error (message_fault unplaced fault)
  | ok report => exact congrArg Except.ok (report_unplaced report)

end Recasting

namespace Run

/-- What comes of a run, with a diagnostic if it is a fault. -/
def told? (run : Run) : Option (Except String Report) := run.outcome?.map (Except.mapError Fault.message)

/-- Positions occur in the record alone. -/
theorem Places.told {first second : Run} (places : first.Places second) :
    first.phase = second.phase ∧ first.told? = second.told? ∧
      first.trace.map Recasting.unplaced.event = second.trace.map Recasting.unplaced.event := by
  have same : Recasting.unplaced.run first = Recasting.unplaced.run second := places
  have phases := congrArg Run.phase same
  have outcomes := congrArg Run.told? same
  have told : ∀ run : Run, (Recasting.unplaced.run run).told? = run.told? := by
    intro run
    simp only [told?, outcome?_recast, Option.map_map]
    exact congrArg (run.outcome?.map ·) (funext Recasting.mapError_unplaced)
  rw [told, told] at outcomes
  exact ⟨phases, outcomes, congrArg Run.trace same⟩

theorem Differs.told {early late : List Event} {first second : Run} (differs : Differs early late first second) :
    first.phase = second.phase ∧ first.told? = second.told? ∧
      ∃ record, first.trace = early ++ record ∧ second.trace = late ++ record := by
  obtain ⟨run, rfl, rfl⟩ := differs
  exact ⟨rfl, rfl, run.trace, rfl, rfl⟩

/-- The phase in which a run is that has turned to stages. -/
def turned (stages : List Stage) : Phase := if stages.isEmpty then .idle else .spawning 0

theorem phase_started (stages : List Stage) : (started stages).phase = turned stages := by
  match stages with
  | [] => rfl
  | [stage] => rfl
  | stage :: next :: later => rfl

/-- A run of stages records each process that it has made with the own position of its stage. -/
theorem spawned_ofStages (phase : Phase) (stages : List Stage) (replies : List Reply) :
    ((ofStages phase stages).follow replies).trace.filterMap Event.spawned? =
      List.zipWith (fun process stage => (process, stage.position, stage.program))
        ((ofStages phase stages).follow replies).report.spawned stages := by
  by_cases none : stages = []
  · subst none
    have ended : (ofStages phase []).control = .finished (.ok {}) := rfl
    rw [follow_of_finished ended]
    rfl
  · exact ((Scripted.start (fresh phase) stages none rfl rfl).follow replies).spawned

/-- The processes that a run of stages makes are to become its stages, in their order. -/
theorem loads_ofStages (phase : Phase) (stages : List Stage) (surroundings : Surroundings) (calls : Nat)
    (dealings : Dealings) :
    ∃ more, ((ofStages phase stages).converse surroundings calls dealings).1.exchanges = dealings.exchanges ++ more ∧
      more.filterMap Exchange.loads? =
        ((ofStages phase stages).converse surroundings calls dealings).2.loaded stages := by
  by_cases none : stages = []
  · subst none
    have ended : (ofStages phase []).converse surroundings calls dealings = (dealings, ofStages phase []) := by
      cases calls <;> rfl
    exact ⟨[], by simp [ended], by simp [ended, loaded]⟩
  · obtain ⟨more, exchanged, loads⟩ :=
      (Scripted.start (fresh phase) stages none rfl rfl).converse_loads surroundings calls dealings
    have unmade : ((fresh phase).start stages).loaded stages = [] := by
      simp [loaded, report_start, fresh]
    rw [unmade, List.nil_append] at loads
    exact ⟨more, exchanged, loads.symm⟩

end Run

open Run in
/-- All ways of executing a pipeline agree. When a line forms a pipeline nobody can tell its run from a run of its
stages, in whatever phases their executors were left: they ask the same, their processes have the same proceedings, and
they come to the same phase and outcome, with the same records behind the first ones. A run of stages by a new executor
is one of these. Nor can anybody tell runs apart whose stages have the same names at other positions; each process is
recorded with the position that its stage has of itself. The processes are to load the names, which are the words of the
line, with the name as the only argument. -/
theorem ways_agree :
    (∀ {line : String} {limit : Nat} {stages : List Stage}, Line.stages line limit = .ok stages →
      stages.map Stage.program = (Line.words line.toList).map String.ofList ∧
      ∀ phase other : Phase,
        let early := [.phase phase .parsing, .parsed stages.length, .phase .parsing (turned stages)]
        let late := [.phase other (turned stages)]
        Agree unrecorded (Differs early late) (ofLine phase line limit) (ofStages other stages) ∧
          Agree unrecorded (Differs late early) (ofStages other stages) (ofLine phase line limit)) ∧
    (∀ (stages : List Stage) (phase other : Phase),
      Agree unrecorded (Differs [.phase phase (turned stages)] [.phase other (turned stages)])
        (ofStages phase stages) (ofStages other stages)) ∧
    (∀ {stages others : List Stage}, stages.map Stage.program = others.map Stage.program → ∀ phase : Phase,
      Agree Recasting.unplaced.run Places (ofStages phase stages) (ofStages phase others)) ∧
    (∀ {first second : Run} {early late : List Event}, Differs early late first second →
      first.phase = second.phase ∧ first.told? = second.told? ∧
        ∃ record, first.trace = early ++ record ∧ second.trace = late ++ record) ∧
    (∀ {first second : Run}, first.Places second →
      first.phase = second.phase ∧ first.told? = second.told? ∧
        first.trace.map Recasting.unplaced.event = second.trace.map Recasting.unplaced.event) ∧
    (∀ (phase : Phase) (stages : List Stage) (replies : List Reply),
      ((ofStages phase stages).follow replies).trace.filterMap Event.spawned? =
        List.zipWith (fun process stage => (process, stage.position, stage.program))
          ((ofStages phase stages).follow replies).report.spawned stages) ∧
    ∀ (phase : Phase) (stages : List Stage) (surroundings : Surroundings) (calls : Nat) (dealings : Dealings),
      let ended := (ofStages phase stages).converse surroundings calls dealings
      ∃ more, ended.1.exchanges = dealings.exchanges ++ more ∧ more.filterMap Exchange.loads? =
        (stages.take ended.2.report.spawned.length).map fun stage => (stage.name, [stage.name]) := by
  refine ⟨?_, ?_, ?_, Differs.told, Places.told, spawned_ofStages, loads_ofStages⟩
  · intro line limit stages parsed
    refine ⟨Line.map_program_of_stages parsed, fun phase other => ?_⟩
    rw [ofLine_eq parsed phase, ofStages_eq other stages, ← phase_started]
    exact ⟨agree_preceded _ _ _, agree_preceded _ _ _⟩
  · intro stages phase other
    rw [ofStages_eq phase stages, ofStages_eq other stages, ← phase_started]
    exact agree_preceded _ _ _
  · intro stages others same phase
    refine Places.agree ?_
    rw [Places, recast_ofStages, recast_ofStages, Recasting.map_stage_unplaced same]

/-- A line with one word, the stage that it names, and a stage of that name at another position, executed where the only
child exits with 3. -/
theorem ways_agree_of_one_word :
    let executed (run : Run) := run.converse (.exiting 3) 9 {}
    (executed (.ofLine .reaping "cat" 1)).1 = (executed (.ofStages .idle [copierStage 0])).1 ∧
      (executed (.ofLine .reaping "cat" 1)).2.told? = (executed (.ofStages .idle [copierStage 0])).2.told? ∧
      (executed (.ofStages .idle [copierStage 0])).1 = (executed (.ofStages .idle [copierStage 7])).1 ∧
      (executed (.ofStages .idle [copierStage 7])).2.trace.filterMap Event.spawned? = [(2, 7, "cat")] := by
  intro executed
  obtain ⟨line, -, places, differs, -, spawned, -⟩ := ways_agree
  have parsed : Line.stages "cat" 1 = .ok [copierStage 0] := by
    have found : (Line.stages "cat" 1).toOption = some [copierStage 0] := by decide +kernel
    cases same : Line.stages "cat" 1 with
    | error reason => simp [same, Except.toOption] at found
    | ok stages => simpa [same, Except.toOption] using found
  obtain ⟨asked, ended⟩ := ((line parsed).2 .reaping .idle).1.among (.exiting 3) 9 {}
  have named : [copierStage 0].map Stage.program = [copierStage 7].map Stage.program := rfl
  obtain ⟨asked', -⟩ := (places named .idle).among (.exiting 3) 9 {}
  obtain ⟨replies, same⟩ := Run.exists_follow_of_converse (.exiting 3) 9 {} (.ofStages .idle [copierStage 7])
  refine ⟨asked, (differs ended).2.1, asked', ?_⟩
  have processes : (executed (.ofStages .idle [copierStage 7])).2.report.spawned = [2] := by decide +kernel
  simp only [executed] at processes ⊢
  rw [same] at processes ⊢
  rw [spawned, processes]
  rfl

end Pipework
