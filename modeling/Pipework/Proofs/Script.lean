import Pipework.Executor.Run

set_option autoImplicit false

/-!
What an executor records. Whatever it is answered, a run goes through its stages from left to right, and all that it
has done can be read off its turns: the channel that it has opened behind each stage and the process that it has made
for it. `Scripted` says what a run that stands somewhere has recorded and reported by then, and every answer leads on
to such a run (`Scripted.resume`).
-/

namespace Pipework

open Kernel (Reply)

/-- The process that an event says was made for a stage, with the position of the stage and its program. -/
def Event.spawned? : Event → Option (Nat × Nat × String)
  | .spawned process position program => some (process, position, program)
  | _ => none

namespace Run

/-- How a run goes on with answers, one after the other. -/
def follow (run : Run) (replies : List Reply) : Run := replies.foldl resume run

theorem follow_concat (run : Run) (replies : List Reply) (reply : Reply) :
    run.follow (replies ++ [reply]) = (run.follow replies).resume reply := by
  simp [follow]

/-- A run that is finished stays as it is. -/
theorem follow_of_finished {run : Run} {outcome : Except Fault Report} (finished : run.control = .finished outcome)
    (replies : List Reply) : run.follow replies = run := by
  induction replies with
  | nil => rfl
  | cons reply replies ih =>
    have same : run.resume reply = run := by simp [resume, finished]
    rw [follow, List.foldl_cons, same]
    exact ih

/-- A run that has an outcome is finished. -/
theorem control_of_outcome? {run : Run} {outcome : Except Fault Report} (ended : run.outcome? = some outcome) :
    run.control = .finished outcome := by
  unfold outcome? at ended
  split at ended
  · rename_i same
    cases ended
    exact same
  · cases ended

/-- What a run has done for one stage. -/
structure Turn where
  stage : Stage
  /-- The ends of the channel behind the stage, unless it is the last one. -/
  ends : Option (Nat × Nat)
  process : Nat

/-- What is recorded of a channel. -/
def openings (ends : Option (Nat × Nat)) : List Event := (ends.map fun ends => Event.opened ends.1 ends.2).toList

namespace Turn

/-- The end from which the next stage reads. -/
def read? (turn : Turn) : Option Nat := turn.ends.map Prod.fst

/-- What is recorded up to the making of the process. -/
def spawning (turn : Turn) : List Event :=
  openings turn.ends ++ [.spawned turn.process turn.stage.position turn.stage.program]

/-- What is recorded of a stage that reads from an endpoint, if it does. -/
def events (turn : Turn) (incoming : Option Nat) : List Event :=
  turn.spawning ++ (incoming.map (Event.closing .read)).toList ++
    (turn.ends.map fun ends => Event.closing .write ends.2).toList

end Turn

/-- What is recorded of stages, one after the other, when the first one has this index and reads from this endpoint, and
the run turns to it from this phase. -/
def script (old : Phase) (index : Nat) (incoming : Option Nat) : List Turn → List Event
  | [] => []
  | turn :: later =>
    .phase old (.spawning index) :: turn.events incoming ++ script (.spawning index) (index + 1) turn.read? later

/-- The phase in which a run is after these stages. -/
def reached (old : Phase) (index : Nat) : List Turn → Phase
  | [] => old
  | _ :: later => reached (.spawning index) (index + 1) later

/-- The endpoint that a run carries on after these stages. -/
def carriedOn (incoming : Option Nat) : List Turn → Option Nat
  | [] => incoming
  | turn :: later => carriedOn turn.read? later

theorem script_concat (old : Phase) (index : Nat) (incoming : Option Nat) (turns : List Turn) (turn : Turn) :
    script old index incoming (turns ++ [turn]) =
      script old index incoming turns ++ .phase (reached old index turns) (.spawning (index + turns.length)) ::
        turn.events (carriedOn incoming turns) := by
  induction turns generalizing old index incoming with
  | nil => simp [script, reached, carriedOn]
  | cons first later ih =>
    have counted : index + 1 + later.length = index + (later.length + 1) := by omega
    simp [script, reached, carriedOn, ih, counted]

theorem reached_concat (old : Phase) (index : Nat) (turns : List Turn) (turn : Turn) :
    reached old index (turns ++ [turn]) = .spawning (index + turns.length) := by
  induction turns generalizing old index with
  | nil => rfl
  | cons first later ih =>
    have counted : index + 1 + later.length = index + (later.length + 1) := by omega
    simp [reached, ih, counted]

theorem carriedOn_concat (incoming : Option Nat) (turns : List Turn) (turn : Turn) :
    carriedOn incoming (turns ++ [turn]) = turn.read? := by
  induction turns generalizing incoming with
  | nil => rfl
  | cons first later ih => exact ih first.read?

/-- What a script says of the processes that were made. -/
theorem spawned?_script (old : Phase) (index : Nat) (incoming : Option Nat) (turns : List Turn) :
    (script old index incoming turns).filterMap Event.spawned? =
      turns.map fun turn => (turn.process, turn.stage.position, turn.stage.program) := by
  induction turns generalizing old index incoming with
  | nil => rfl
  | cons turn later ih =>
    have ofTurn : (turn.events incoming).filterMap Event.spawned? =
        [(turn.process, turn.stage.position, turn.stage.program)] := by
      cases incoming <;> cases ends : turn.ends <;>
        simp [Turn.events, Turn.spawning, openings, ends, List.filterMap_cons, Event.spawned?]
    simp [script, ih, ofTurn, List.filterMap_cons, Event.spawned?]

/-- The fault in which a run ends that is refused what it asks for at a stage. -/
def Control.Fails (index : Nat) : Control → Fault → Prop
  | .opening stage _ _, fault => ∃ errno, fault = .pipe index stage errno
  | .forking stage _ _ _, fault => ∃ errno, fault = .fork stage errno
  | .closingRead stage _ _ _ _, fault | .closingWrite stage _ _ _, fault => ∃ errno, fault = .close index stage errno
  | _, _ => False

/-- A run that has turned from the phase `first` to these stages, after it had recorded `prior`. -/
inductive Scripted (first : Phase) (prior : List Event) (stages : List Stage) : Run → Prop where
  | opening (turns : List Turn) (stage : Stage) (later : List Stage)
      (listed : stages = turns.map Turn.stage ++ stage :: later) (more : later ≠ [])
      (joined : ∀ turn ∈ turns, turn.ends.isSome = true) :
      Scripted first prior stages
        { phase := .spawning turns.length
          control := .opening stage later (carriedOn none turns)
          index := turns.length
          stages := some stages.length
          report := ⟨turns.length, turns.map Turn.process, []⟩
          trace := prior ++ script first 0 none turns ++ [.phase (reached first 0 turns) (.spawning turns.length)] }
  | forking (turns : List Turn) (stage : Stage) (later : List Stage) (ends : Option (Nat × Nat))
      (listed : stages = turns.map Turn.stage ++ stage :: later) (more : later = [] ↔ ends = none)
      (joined : ∀ turn ∈ turns, turn.ends.isSome = true) :
      Scripted first prior stages
        { phase := .spawning turns.length
          control := .forking stage later ⟨carriedOn none turns, ends.map Prod.snd⟩ (ends.map Prod.fst)
          index := turns.length
          stages := some stages.length
          report := ⟨turns.length + ends.toList.length, turns.map Turn.process, []⟩
          trace := prior ++ script first 0 none turns ++
            [.phase (reached first 0 turns) (.spawning turns.length)] ++ openings ends }
  | closingRead (turns : List Turn) (turn : Turn) (later : List Stage) (endpoint : Nat)
      (listed : stages = turns.map Turn.stage ++ turn.stage :: later) (more : later = [] ↔ turn.ends = none)
      (joined : ∀ turn ∈ turns, turn.ends.isSome = true) (reads : carriedOn none turns = some endpoint) :
      Scripted first prior stages
        { phase := .spawning turns.length
          control := .closingRead turn.stage later endpoint (turn.ends.map Prod.snd) turn.read?
          index := turns.length
          stages := some stages.length
          report := ⟨turns.length + turn.ends.toList.length, (turns ++ [turn]).map Turn.process, []⟩
          trace := prior ++ script first 0 none turns ++
            [.phase (reached first 0 turns) (.spawning turns.length)] ++ turn.spawning ++ [.closing .read endpoint] }
  | closingWrite (turns : List Turn) (turn : Turn) (later : List Stage) (read write : Nat)
      (listed : stages = turns.map Turn.stage ++ turn.stage :: later) (more : later ≠ [])
      (joined : ∀ turn ∈ turns, turn.ends.isSome = true) (writes : turn.ends = some (read, write)) :
      Scripted first prior stages
        { phase := .spawning turns.length
          control := .closingWrite turn.stage later write (some read)
          index := turns.length
          stages := some stages.length
          report := ⟨turns.length + 1, (turns ++ [turn]).map Turn.process, []⟩
          trace := prior ++ script first 0 none turns ++
            [.phase (reached first 0 turns) (.spawning turns.length)] ++ turn.events (carriedOn none turns) }
  /-- The run gives up: it has been refused something where it stood. -/
  | failing (run : Run) (fault : Fault) (control : Control) (stood : Scripted first prior stages run)
      (fails : run.control.Fails run.index fault)
      (gives : control = .finished (.error fault) ∨ ∃ endpoint others, control = .dropping endpoint others fault) :
      Scripted first prior stages (run.goOn control)
  | reaping (turns : List Turn) (last : Turn) (statuses : List Status) (control : Control)
      (listed : stages = (turns ++ [last]).map Turn.stage) (joined : ∀ turn ∈ turns, turn.ends.isSome = true)
      (alone : last.ends = none)
      (waits : control = .reaping ∨ ∃ errno, control = .finished (.error (.wait errno))) :
      Scripted first prior stages
        { phase := .reaping
          control
          index := turns.length + 1
          stages := some stages.length
          report := ⟨turns.length, (turns ++ [last]).map Turn.process, statuses⟩
          trace := prior ++ script first 0 none (turns ++ [last]) ++ [.phase (.spawning turns.length) .reaping] ++
            statuses.map .reaped }
  | complete (turns : List Turn) (last : Turn) (statuses : List Status)
      (listed : stages = (turns ++ [last]).map Turn.stage) (joined : ∀ turn ∈ turns, turn.ends.isSome = true)
      (alone : last.ends = none) :
      Scripted first prior stages
        { phase := .idle
          control := .finished (.ok ⟨turns.length, (turns ++ [last]).map Turn.process, statuses⟩)
          index := turns.length + 1
          stages := some stages.length
          report := ⟨turns.length, (turns ++ [last]).map Turn.process, statuses⟩
          trace := prior ++ script first 0 none (turns ++ [last]) ++ [.phase (.spawning turns.length) .reaping] ++
            statuses.map .reaped ++ [.finished stages.length turns.length statuses.length, .phase .reaping .idle] }

namespace Scripted

variable {first : Phase} {prior : List Event} {stages later : List Stage} {run : Run} {turns : List Turn}
  {turn : Turn} {stage : Stage}

/-- A run that turns to the stages that are left. -/
theorem spawnNext (turns : List Turn) (control : Control) (listed : stages = turns.map Turn.stage ++ later)
    (more : later ≠ []) (joined : ∀ turn ∈ turns, turn.ends.isSome = true) :
    Scripted first prior stages
      (({ phase := reached first 0 turns
          control
          index := turns.length
          stages := some stages.length
          report := ⟨turns.length, turns.map Turn.process, []⟩
          trace := prior ++ script first 0 none turns } : Run).spawnNext (carriedOn none turns) later) := by
  cases later with
  | nil => exact absurd rfl more
  | cons stage rest =>
    cases rest with
    | nil =>
      have forking : Scripted first prior stages _ := .forking turns stage [] none listed (by simp) joined
      simpa [openings, Run.spawnNext, enter, record, goOn] using forking
    | cons next later => exact .opening turns stage (next :: later) listed (by simp) joined

/-- A run that has closed what it does not carry on of a stage. -/
theorem passOn (control : Control) (listed : stages = turns.map Turn.stage ++ turn.stage :: later)
    (more : later = [] ↔ turn.ends = none) (joined : ∀ turn ∈ turns, turn.ends.isSome = true) :
    Scripted first prior stages
      (({ phase := .spawning turns.length
          control
          index := turns.length
          stages := some stages.length
          report := ⟨turns.length + turn.ends.toList.length, (turns ++ [turn]).map Turn.process, []⟩
          trace := prior ++ script first 0 none turns ++
            [.phase (reached first 0 turns) (.spawning turns.length)] ++ turn.events (carriedOn none turns) } :
        Run).passOn later turn.read?) := by
  cases open? : turn.ends with
  | none =>
    obtain rfl := more.mpr open?
    have reaping : Scripted first prior stages _ := .reaping turns turn [] .reaping (by simpa using listed)
      joined open? (.inl rfl)
    simpa [Run.passOn, Run.spawnNext, enter, record, goOn, script_concat] using reaping
  | some ends =>
    have others : later ≠ [] := fun none => by simp [more.mp none] at open?
    have onward : Scripted first prior stages _ := spawnNext (turns ++ [turn]) control
      (by simpa using listed) others (List.forall_mem_append.mpr ⟨joined, by simp [open?]⟩)
    simpa [Run.passOn, script_concat, reached_concat, carriedOn_concat, Turn.read?, open?] using onward

/-- A run that has closed what it holds to read from for a stage. -/
theorem closeWrite (control : Control) (listed : stages = turns.map Turn.stage ++ turn.stage :: later)
    (more : later = [] ↔ turn.ends = none) (joined : ∀ turn ∈ turns, turn.ends.isSome = true) :
    Scripted first prior stages
      (({ phase := .spawning turns.length
          control
          index := turns.length
          stages := some stages.length
          report := ⟨turns.length + turn.ends.toList.length, (turns ++ [turn]).map Turn.process, []⟩
          trace := prior ++ script first 0 none turns ++
            [.phase (reached first 0 turns) (.spawning turns.length)] ++ turn.spawning ++
              ((carriedOn none turns).map (Event.closing .read)).toList } :
        Run).closeWrite turn.stage later (turn.ends.map Prod.snd) turn.read?) := by
  cases open? : turn.ends with
  | none => simpa [Run.closeWrite, Turn.events, open?] using passOn control listed more joined
  | some ends =>
    have others : later ≠ [] := fun none => by simp [more.mp none] at open?
    have closing : Scripted first prior stages _ := .closingWrite turns turn later ends.1 ends.2 listed others
      joined open?
    simpa [Run.closeWrite, Turn.events, Turn.read?, open?, record, goOn] using closing

/-- A run that has made the process of a stage. -/
theorem closeStreams (turn : Turn) (control : Control) (listed : stages = turns.map Turn.stage ++ turn.stage :: later)
    (more : later = [] ↔ turn.ends = none) (joined : ∀ turn ∈ turns, turn.ends.isSome = true) :
    Scripted first prior stages
      (({ phase := .spawning turns.length
          control
          index := turns.length
          stages := some stages.length
          report := ⟨turns.length + turn.ends.toList.length, (turns ++ [turn]).map Turn.process, []⟩
          trace := prior ++ script first 0 none turns ++
            [.phase (reached first 0 turns) (.spawning turns.length)] ++ turn.spawning } :
        Run).closeStreams turn.stage later ⟨carriedOn none turns, turn.ends.map Prod.snd⟩ turn.read?) := by
  cases reads : carriedOn none turns with
  | some endpoint => exact .closingRead turns turn later endpoint listed more joined reads
  | none => simpa [Run.closeStreams, reads] using closeWrite control listed more joined

/-- A run that gives up where it stands. -/
theorem giveUp {fault : Fault} (stood : Scripted first prior stages run) (held : List Nat)
    (fails : run.control.Fails run.index fault) : Scripted first prior stages (run.giveUp held fault) := by
  cases held with
  | nil => exact .failing run fault _ stood fails (.inl rfl)
  | cons endpoint others => exact .failing run fault _ stood fails (.inr ⟨endpoint, others, rfl⟩)

/-- A run that begins with its stages. -/
theorem start (run : Run) (stages : List Stage) (some : stages ≠ []) (anew : run.index = 0) (blank : run.report = {}) :
    Scripted run.phase run.trace stages (run.start stages) := by
  have begun : Scripted run.phase run.trace stages _ := spawnNext [] run.control rfl some (by simp)
  cases stages with
  | nil => exact absurd rfl some
  | cons stage later =>
    obtain ⟨phase, control, index, stages, report, trace⟩ := run
    subst anew blank
    simpa [Run.start, reached, script, carriedOn] using begun

/-- Every answer leads on. -/
theorem resume (scripted : Scripted first prior stages run) (reply : Reply) :
    Scripted first prior stages (run.resume reply) := by
  cases scripted with
  | opening turns stage later listed more joined =>
    have stood : Scripted first prior stages _ := .opening turns stage later listed more joined
    cases reply with
    | ends read write =>
      have forking : Scripted first prior stages _ := .forking turns stage later (some (read, write)) listed
        (by simp [more]) joined
      simpa [Run.resume, record, goOn, openings] using forking
    | failed errno => exact stood.giveUp _ ⟨errno, rfl⟩
    | _ => exact stood
  | forking turns stage later ends listed more joined =>
    have stood : Scripted first prior stages _ := .forking turns stage later ends listed more joined
    cases reply with
    | number process =>
      have made : Scripted first prior stages _ := closeStreams ⟨stage, ends, process⟩
        (.forking stage later ⟨carriedOn none turns, ends.map Prod.snd⟩ (ends.map Prod.fst)) listed more joined
      simpa [Run.resume, record, Turn.spawning, Turn.read?] using made
    | failed errno =>
      simp only [Run.resume]
      split
      · exact stood
      · exact stood.giveUp _ ⟨errno, rfl⟩
    | _ => exact stood
  | closingRead turns turn later endpoint listed more joined reads =>
    have stood : Scripted first prior stages _ := .closingRead turns turn later endpoint listed more joined
      reads
    cases reply with
    | failed errno => exact stood.giveUp _ ⟨errno, rfl⟩
    | _ =>
      have closed : Scripted first prior stages _ := closeWrite
        (.closingRead turn.stage later endpoint (turn.ends.map Prod.snd) turn.read?) listed more joined
      simpa [Run.resume, reads] using closed
  | closingWrite turns turn later read write listed more joined writes =>
    have stood : Scripted first prior stages _ := .closingWrite turns turn later read write listed more joined
      writes
    cases reply with
    | failed errno => exact stood.giveUp [read] ⟨errno, rfl⟩
    | _ =>
      have closed : Scripted first prior stages _ := passOn (.closingWrite turn.stage later write (some read)) listed
        (by simp [writes, more]) joined
      simpa [Run.resume, writes, Turn.read?] using closed
  | failing run fault control stood fails gives =>
    obtain rfl | ⟨endpoint, others, rfl⟩ := gives
    · cases reply <;> exact .failing run fault _ stood fails (.inl rfl)
    · have dropped := stood.giveUp others fails
      cases others <;> cases reply <;> exact dropped
  | reaping turns last statuses control listed joined alone waits =>
    have stood := fun statuses control => @Scripted.reaping first prior stages turns last statuses control
      listed joined alone
    obtain rfl | ⟨errno, rfl⟩ := waits
    · cases reply with
      | ended process how =>
        simp only [Run.resume]
        split
        · exact stood _ _ (.inr ⟨_, rfl⟩)
        · rename_i status _
          simpa [record] using stood (statuses ++ [status]) .reaping (.inl rfl)
      | failed errno =>
        simp only [Run.resume]
        split
        · exact stood _ _ (.inl rfl)
        split
        · have complete : Scripted first prior stages _ := .complete turns last statuses listed joined alone
          simpa [Run.complete, enter, record, goOn] using complete
        · exact stood _ _ (.inr ⟨_, rfl⟩)
      | _ => exact stood _ _ (.inl rfl)
    · cases reply <;> exact stood _ _ (.inr ⟨_, rfl⟩)
  | complete turns last statuses listed joined alone =>
    cases reply <;> exact .complete turns last statuses listed joined alone

/-- However a run is answered, it keeps to its script. -/
theorem follow (scripted : Scripted first prior stages run) (replies : List Reply) :
    Scripted first prior stages (run.follow replies) := by
  induction replies generalizing run with
  | nil => exact scripted
  | cons reply replies ih => exact ih (scripted.resume reply)

/-- A run that has succeeded has opened a channel behind each stage but the last and made a process for each stage, and
it reports the processes in the order of their stages. -/
theorem of_success {report : Report} (scripted : Scripted first prior stages run)
    (unspawned : ∀ event ∈ prior, event.spawned? = none) (finished : run.control = .finished (.ok report)) :
    report = run.report ∧ run.phase = .idle ∧ report.channels + 1 = stages.length ∧
      report.spawned.length = stages.length ∧ run.trace.filterMap Event.spawned? =
        List.zipWith (fun process stage => (process, stage.position, stage.program)) report.spawned stages := by
  cases scripted with
  | failing run fault control stood fails gives => obtain rfl | ⟨endpoint, others, rfl⟩ := gives <;> cases finished
  | reaping turns last statuses control listed joined alone waits =>
    obtain rfl | ⟨errno, rfl⟩ := waits <;> cases finished
  | complete turns last statuses listed joined alone =>
    cases finished
    have silent : prior.filterMap Event.spawned? = [] := List.filterMap_eq_nil_iff.mpr unspawned
    have collected : (statuses.map Event.reaped).filterMap Event.spawned? = [] := by
      simp [Event.spawned?]
    refine ⟨rfl, rfl, by simp [listed], by simp [listed], ?_⟩
    rw [listed, List.zipWith_map, List.zipWith_self]
    simp only [List.filterMap_append, silent, spawned?_script, collected]
    simp [List.filterMap_cons, Event.spawned?]
  | _ => cases finished

/-- A run that gives up has collected nothing, unless it gives up in waiting. -/
theorem of_fault {fault : Fault} (scripted : Scripted first prior stages run)
    (finished : run.control = .finished (.error fault)) :
    (∃ errno, fault = .wait errno) ∨ run.report.reaped = [] := by
  cases scripted with
  | failing run other control stood fails gives =>
    cases stood with
    | failing run fault' control stood' fails' gives' =>
      obtain rfl | ⟨endpoint, others, rfl⟩ := gives' <;> exact fails.elim
    | reaping turns last statuses control listed joined alone waits =>
      obtain rfl | ⟨errno, rfl⟩ := waits <;> exact fails.elim
    | complete turns last statuses listed joined alone => exact fails.elim
    | _ => exact .inr rfl
  | reaping turns last statuses control listed joined alone waits =>
    obtain rfl | ⟨errno, rfl⟩ := waits
    · cases finished
    · cases finished
      exact .inl ⟨errno, rfl⟩
  | _ => cases finished

/-- A run that gets no channel behind a stage has made the processes of those before it. -/
theorem of_pipe_fault {index : Nat} {errno : Errno} (scripted : Scripted first prior stages run)
    (finished : run.control = .finished (.error (.pipe index stage errno))) :
    run.report.spawned.length = index ∧ stages[index]? = some stage := by
  cases scripted with
  | failing run other control stood fails gives =>
    obtain rfl | ⟨endpoint, others, rfl⟩ := gives
    · cases finished
      cases stood with
      | opening turns opened later listed more joined =>
        obtain ⟨errno, same⟩ := fails
        cases same
        simp [listed, goOn]
      | failing run fault' control stood' fails' gives' =>
        obtain rfl | ⟨endpoint, others, rfl⟩ := gives' <;> exact fails.elim
      | reaping turns last statuses control listed joined alone waits =>
        obtain rfl | ⟨errno, rfl⟩ := waits <;> exact fails.elim
      | complete turns last statuses listed joined alone => exact fails.elim
      | _ =>
        obtain ⟨errno, same⟩ := fails
        cases same
    · cases finished
  | reaping turns last statuses control listed joined alone waits =>
    obtain rfl | ⟨errno, rfl⟩ := waits <;> cases finished
  | _ => cases finished

end Scripted
end Run
end Pipework
