import Pipework.Proofs.Course
import Pipework.Proofs.Phases

set_option autoImplicit false

/-!
The conduct of an executor that is asked for one errand after the other, and of an interpreter that asks it for one
line after the other. Whatever has happened before, the record of an executor is without a gap and each errand keeps
to its path (`phase_law`); so an interpreter that has come to a further line finds its executor idle.
-/

namespace Pipework

open Kernel

/-- In which phase an executor is, and what it has recorded, when it was asked for errands and was answered. -/
def conduct : Phase → List (Errand × List Reply) → Phase × List Event
  | phase, [] => (phase, [])
  | phase, (errand, replies) :: later =>
    let run := (errand.run phase).follow replies
    let rest := conduct run.phase later
    (rest.1, run.trace ++ rest.2)

theorem Errand.advances (errand : Errand) (phase : Phase) : (Run.fresh phase).Advances (errand.run phase) := by
  have anew := Run.Advances.refl (.fresh phase)
  cases errand with
  | pipeline stages => exact anew.start stages
  | line text limit =>
    unfold Errand.run Run.ofLine
    dsimp only
    split
    · exact (anew.enter _).goOn _
    · refine ((anew.enter _).record ?_).start _
      rfl

/-- The record of an executor leads from its first phase to its last one. -/
theorem chained_conduct (phase : Phase) (errands : List (Errand × List Reply)) :
    Chained phase (changes (conduct phase errands).2) (conduct phase errands).1 := by
  induction errands generalizing phase with
  | nil => rfl
  | cons first later ih =>
    obtain ⟨errand, replies⟩ := first
    obtain ⟨events, recorded, leads⟩ := (errand.advances phase).trans (.follow (errand.run phase) replies)
    have trace : ((errand.run phase).follow replies).trace = events := by simpa [Run.fresh] using recorded
    rw [conduct, changes_append, trace]
    exact leads.append (ih _)

/-- Runs are carried out by answering them, as long as that on which they are carried out is sound. -/
structure Executing.Faithful {μ : Type} (executing : Executing μ) (Sound : μ → Prop) : Prop where
  answers : ∀ world run, Sound world → ∃ replies, (executing world run).outcome = (run.follow replies).outcome? ∧
    (executing world run).phase = (run.follow replies).phase ∧ (executing world run).trace = (run.follow replies).trace
  sound : ∀ world run, Sound world → Sound (executing world run).after

namespace Interpreter

variable {μ : Type} {executing : Executing μ} {interpreter : Interpreter} {world : μ}

/-- What was recorded before is kept in front. -/
theorem readAndRun_trace (executing : Executing μ) (count : Nat) (interpreter : Interpreter) (lines : ScriptedLines)
    (before trace : List Event) (world : μ) :
    readAndRun executing (ScriptedLines.source μ) count interpreter lines (before ++ trace) world =
      let stopped := readAndRun executing (ScriptedLines.source μ) count interpreter lines trace world
      { stopped with trace := before ++ stopped.trace } := by
  induction count generalizing interpreter lines trace world with
  | zero => rfl
  | succ count ih =>
    cases lines with
    | nil => simp [readAndRun, ScriptedLines.source, ScriptedLines.next]
    | cons line later =>
      simp only [readAndRun, ScriptedLines.source, ScriptedLines.next, List.append_assoc]
      split
      · rfl
      · rfl
      · exact ih _ _ _ _

/-- An interpreter goes on with further lines after one that was executed. -/
theorem repl_cons {line : String} {report : Report}
    (succeeded : (interpreter.runLine executing line world).outcome = some (.ok report)) (later : ScriptedLines) :
    let execution := interpreter.runLine executing line world
    let rest := { interpreter with phase := execution.phase }.repl executing later execution.after
    interpreter.repl executing (line :: later) world = { rest with trace := execution.trace ++ rest.trace } := by
  have further := readAndRun_trace executing (later.length + 1)
    { interpreter with phase := (interpreter.runLine executing line world).phase } later
    (interpreter.runLine executing line world).trace [] (interpreter.runLine executing line world).after
  rw [List.append_nil] at further
  simp only [repl, List.length_cons]
  rw [readAndRun]
  simpa [ScriptedLines.source, ScriptedLines.next, succeeded] using further

/-- An interpreter that comes to the end of its lines has executed the first one. -/
theorem success_of_repl_cons {line : String} {later : ScriptedLines}
    (ended : (interpreter.repl executing (line :: later) world).result = .ok ()) :
    ∃ report, (interpreter.runLine executing line world).outcome = some (.ok report) := by
  rw [repl, List.length_cons, readAndRun] at ended
  simp only [ScriptedLines.source, ScriptedLines.next] at ended
  split at ended
  · cases ended
  · cases ended
  · rename_i report succeeded
    exact ⟨report, succeeded⟩

/-- An interpreter that has come to the end of some lines goes on from there when there are further ones. -/
theorem repl_append {lines : ScriptedLines} (ended : (interpreter.repl executing lines world).result = .ok ())
    (later : ScriptedLines) :
    let stopped := interpreter.repl executing lines world
    let rest := stopped.interpreter.repl executing later stopped.after
    ∃ trace, stopped.trace = trace ++ [.endOfInput] ∧
      interpreter.repl executing (lines ++ later) world = { rest with trace := trace ++ rest.trace } := by
  induction lines generalizing interpreter world with
  | nil => exact ⟨[], rfl, rfl⟩
  | cons line lines ih =>
    obtain ⟨report, succeeded⟩ := success_of_repl_cons ended
    have whole := repl_cons succeeded (lines ++ later)
    have first := repl_cons succeeded lines
    rw [first] at ended
    obtain ⟨trace, recorded, goesOn⟩ := ih ended
    refine ⟨(interpreter.runLine executing line world).trace ++ trace, ?_, ?_⟩
    · rw [first, List.append_assoc, ← recorded]
    · rw [List.cons_append, whole, first, goesOn, List.append_assoc]

/-- An interpreter that begins with an idle executor finds it idle after all its lines. -/
theorem idle_of_repl {Sound : μ → Prop} (faithful : executing.Faithful Sound) (sound : Sound world)
    {lines : ScriptedLines} (idle : interpreter.phase = .idle)
    (ended : (interpreter.repl executing lines world).result = .ok ()) :
    (interpreter.repl executing lines world).interpreter.phase = .idle := by
  induction lines generalizing interpreter world with
  | nil => exact idle
  | cons line lines ih =>
    obtain ⟨report, succeeded⟩ := success_of_repl_cons ended
    rw [repl_cons succeeded lines] at ended ⊢
    refine ih (faithful.sound _ _ sound) ?_ ended
    obtain ⟨replies, outcome, phase, -⟩ := faithful.answers world (interpreter.run line) sound
    have kept := Errand.keeps (.line line interpreter.options.maxStages.toNat) interpreter.phase replies
    exact phase.trans (kept.success report (outcome.symm.trans succeeded)).2

end Interpreter

namespace Kernel.System

variable {σ : Type} {behaviour : Behaviour σ} {system after : System σ}

/-- An advance is a move. -/
theorem moves_of_advance {turn next : Nat} (advanced : system.advance behaviour turn = some (next, after)) :
    system.Moves behaviour after := by
  unfold advance at advanced
  split at advanced
  · rename_i moved
    cases advanced
    exact .step turn moved
  split at advanced
  · rename_i moved
    cases advanced
    obtain ⟨number, -, stepped⟩ := List.exists_of_findSome?_eq_some moved
    obtain ⟨after, moved, same⟩ := Option.map_eq_some_iff.mp stepped
    cases same
    exact .step _ moved
  · obtain ⟨after, passed, same⟩ := Option.map_eq_some_iff.mp advanced
    cases same
    exact .time passed

/-- What every move keeps is kept until a process has come to rest. -/
theorem settle_preserves {Kept : System σ → Prop} (number : Nat) (kept : Kept system)
    (moves : ∀ before after, Kept before → before.Moves behaviour after → Kept after) :
    Kept (system.settle behaviour number) := by
  have advances : ∀ (count turn : Nat) (system : System σ), Kept system →
      Kept (system.advanceUntilRest behaviour number count turn) := by
    intro count
    induction count with
    | zero => exact fun _ _ kept => kept
    | succ count ih =>
      intro turn system kept
      unfold advanceUntilRest
      split
      · exact kept
      split
      · exact kept
      · rename_i advanced
        exact ih _ _ (moves _ _ kept (moves_of_advance advanced))
  exact advances _ _ _ kept

end Kernel.System

namespace Machine

variable {τ : Type} {images : Behaviour τ} {host : Nat} {machine after : Machine τ}

/-- A machine that gives out numbers in order, and has given out that of its host. -/
structure Hosts (host : Nat) (machine : Machine τ) : Prop where
  numbered : machine.Numbered
  given : host < machine.nextProcess

theorem Hosts.moves (hosts : machine.Hosts host) (moves : machine.Moves (Program.behaviour images) after) :
    after.Hosts host := by
  cases moves with
  | step number moved =>
    have spares := System.step_spares hosts.numbered moved
    exact ⟨spares.numbered, Nat.lt_of_lt_of_le hosts.given spares.nextProcess⟩
  | time passed =>
    obtain ⟨clock, rfl⟩ := System.passTime_eq_some passed
    exact ⟨⟨hosts.numbered.process⟩, hosts.given⟩

theorem Hosts.putProgram (hosts : machine.Hosts host) (program : Program τ) :
    (machine.putProgram host program).Hosts host := by
  refine ⟨⟨fun number process found => ?_⟩, hosts.given⟩
  simp only [Machine.putProgram, Std.ExtTreeMap.getElem?_modify] at found
  split at found
  · obtain ⟨earlier, present, -⟩ := Option.map_eq_some_iff.mp found
    exact hosts.numbered.process _ earlier (by simp_all)
  · exact hosts.numbered.process number process found

/-- A process that is an executor was one before, and has been answered at most once. -/
theorem run?_moves {run : Run} (hosts : machine.Hosts host) (moves : machine.Moves (Program.behaviour images) after)
    (runs : after.run? host = some run) :
    ∃ earlier, machine.run? host = some earlier ∧ (run = earlier ∨ ∃ reply, run = earlier.resume reply) := by
  have executes : ∀ {process : Process (Program τ)} {earlier : Run}, machine.processes[host]? = some process →
      process.program = .executor earlier → machine.run? host = some earlier := by
    intro process earlier present program
    simp [run?, present, program]
  cases moves with
  | time passed =>
    obtain ⟨clock, rfl⟩ := System.passTime_eq_some passed
    exact ⟨run, runs, .inl rfl⟩
  | step mover moved =>
    obtain ⟨later, found, program⟩ := run?_eq_some runs
    by_cases own : mover = host
    · subst own
      obtain ⟨process, present, same | ⟨reply, same⟩ | ⟨_, _, _, _, _, loads⟩⟩ :=
        System.program_step hosts.numbered moved found
      · exact ⟨run, executes present (same.symm.trans program), .inl rfl⟩
      · rw [program] at same
        cases executor : process.program with
        | executor earlier =>
          refine ⟨earlier, executes present executor, .inr ⟨reply, ?_⟩⟩
          simp only [Program.behaviour, executor] at same
          split at same <;> cases same
          rfl
        | startup child => simp [Program.behaviour, executor] at same
        | image state => simp [Program.behaviour, executor] at same
        | trial task =>
          simp only [Program.behaviour, executor, Program.ofTrial] at same
          split at same <;> cases same
      · rw [program] at loads
        simp [Program.behaviour, Except.map] at loads
        split at loads <;> cases loads
    · obtain ⟨earlier, present, disturbed⟩ :=
        (System.step_spares hosts.numbered moved).others host (Ne.symm own) hosts.given later found
      exact ⟨run, executes present (disturbed.program.symm.trans program), .inl rfl⟩

/-- The run of a process is the one with which it began, as it goes on with some answers. -/
structure Answers (host : Nat) (begun : Run) (machine : Machine τ) : Prop extends machine.Hosts host where
  follows : ∀ run, machine.run? host = some run → ∃ replies, run = begun.follow replies

theorem Answers.moves {begun : Run} (answers : machine.Answers host begun)
    (moves : machine.Moves (Program.behaviour images) after) : after.Answers host begun where
  toHosts := answers.toHosts.moves moves
  follows run runs := by
    obtain ⟨earlier, before, rfl | ⟨reply, rfl⟩⟩ := run?_moves answers.toHosts moves runs
    · exact answers.follows run before
    · obtain ⟨replies, rfl⟩ := answers.follows earlier before
      exact ⟨replies ++ [reply], (Run.follow_concat begun replies reply).symm⟩

/-- A machine on which nobody else is given the number of the host carries out runs by answering them. -/
theorem execute_faithful (images : Behaviour τ) (host : Nat) :
    Executing.Faithful (execute images host) (Hosts host) := by
  have whole : ∀ machine begun, machine.Hosts host → (execute images host machine begun).after.Answers host begun := by
    intro machine begun hosts
    refine System.settle_preserves host ⟨hosts.putProgram _, fun run runs => ⟨[], ?_⟩⟩
      fun _ _ kept moves => kept.moves moves
    obtain ⟨process, found, program⟩ := run?_eq_some runs
    cases program.symm.trans (program_of_putProgram found)
    rfl
  refine ⟨fun machine begun hosts => ?_, fun machine begun hosts => (whole machine begun hosts).toHosts⟩
  have follows := (whole machine begun hosts).follows
  cases runs : (execute images host machine begun).after.run? host with
  | none =>
    refine ⟨[], ?_⟩
    simp only [execute, execution] at runs ⊢
    simp [runs, Run.follow]
  | some run =>
    obtain ⟨replies, rfl⟩ := follows run runs
    refine ⟨replies, ?_⟩
    simp only [execute, execution] at runs ⊢
    simp [runs]

end Machine

theorem conduct_append (phase : Phase) (earlier later : List (Errand × List Reply)) :
    conduct phase (earlier ++ later) = ((conduct (conduct phase earlier).1 later).1,
      (conduct phase earlier).2 ++ (conduct (conduct phase earlier).1 later).2) := by
  induction earlier generalizing phase with
  | nil => rfl
  | cons first earlier ih => simp [conduct, ih]

/-- Whatever an executor is asked for and however it is answered, the changes of phase that it records lead from the
idle phase to the present one without a gap, and those of each errand are its path, as far as the errand has come. So
an interpreter that has begun with an idle executor finds it idle between any two lines: when it has come to the end
of some lines it goes on with further ones from an idle executor. -/
theorem phase_law {μ : Type} {executing : Executing μ} {Sound : μ → Prop} (faithful : executing.Faithful Sound)
    (errands : List (Errand × List Reply)) :
    Chained .idle (changes (conduct .idle errands).2) (conduct .idle errands).1 ∧
    (∀ earlier errand replies later, errands = earlier ++ (errand, replies) :: later →
      let run := (errand.run (conduct .idle earlier).1).follow replies
      (conduct .idle errands).2 = (conduct .idle earlier).2 ++ run.trace ++ (conduct run.phase later).2 ∧
        errand.Keeps run) ∧
    ∀ (interpreter : Interpreter) (world : μ) (lines later : ScriptedLines), Sound world → interpreter.phase = .idle →
      let stopped := interpreter.repl executing lines world
      stopped.result = .ok () → stopped.interpreter.phase = .idle ∧ ∃ trace, stopped.trace = trace ++ [.endOfInput] ∧
        let rest := stopped.interpreter.repl executing later stopped.after
        interpreter.repl executing (lines ++ later) world = { rest with trace := trace ++ rest.trace } := by
  refine ⟨chained_conduct .idle errands, ?_, ?_⟩
  · rintro earlier errand replies later rfl
    refine ⟨?_, errand.keeps _ replies⟩
    rw [conduct_append]
    simp [conduct]
  · intro interpreter world lines later sound idle stopped ended
    exact ⟨Interpreter.idle_of_repl faithful sound idle ended, Interpreter.repl_append ended later⟩

/-- An interpreter that executes a copier, and a pipeline of two copiers that gets no channel. -/
theorem phase_law_of_copiers :
    let stopped := ({} : Interpreter).repl (Machine.execute copier 1) ["cat", ""] (.copying copiedStreams 0)
    (stopped.result = .ok () ∧ stopped.interpreter.phase = .idle) ∧
      (Errand.pipeline [copierStage 0, copierStage 1]).Keeps
        ((Run.ofStages .idle [copierStage 0, copierStage 1]).follow [.failed .tooManyOpen]) := by
  obtain ⟨-, keeps, idles⟩ := phase_law (Machine.execute_faithful copier 1)
    [(.pipeline [copierStage 0, copierStage 1], [.failed .tooManyOpen])]
  have sound : (Machine.copying copiedStreams 0).Hosts 1 := ⟨numbered_copying _ _, Nat.lt_succ_self 1⟩
  have succeeded : (({} : Interpreter).repl (Machine.execute copier 1) ["cat", ""]
      (.copying copiedStreams 0)).result.toBool = true := by decide +kernel
  have ok_of_toBool : ∀ result : Except Halt Unit, result.toBool = true → result = .ok () := by
    rintro (halt | _) succeeded
    · cases succeeded
    · rfl
  have ended := ok_of_toBool _ succeeded
  exact ⟨⟨ended, (idles {} _ ["cat", ""] [] sound rfl ended).1⟩, (keeps [] _ _ [] rfl).2⟩

end Pipework
