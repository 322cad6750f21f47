import Pipework.Proofs.Service

set_option autoImplicit false

/-!
Proceedings: all ways in which a machine can go on, with minutes of who asked what and was answered what. So what is
said of the calls of one process and of those of all others can be said of one list; the calls of an executor are those
of its run, and the run is what the answers make of it (`Proceedings.hears`).
-/

namespace Pipework

open Kernel

/-- What a process asks in its next move and is answered at once. -/
def Kernel.System.said? {σ : Type} (behaviour : Behaviour σ) (system : System σ) (number : Nat) :
    Option (Call × Reply) :=
  match system.processes[number]? with
  | none => none
  | some process =>
    match behaviour.next process.program with
    | none => none
    | some .fork => some (.fork, .number system.nextProcess)
    | some (.load program arguments) =>
      match behaviour.load system.files process.working process.environment program arguments with
      | .error errno => some (.load program arguments, .failed errno)
      | .ok _ => none
    | some call => (system.perform number process call).exchange process call

/-- Who asked what, and what the answer was, oldest first. -/
abbrev Minutes := List (Nat × Call × Reply)

/-- What one process has asked and was answered. -/
def Minutes.talk (minutes : Minutes) (host : Nat) : List (Call × Reply) :=
  (minutes.filter fun entry => entry.1 = host).map Prod.snd

namespace Minutes

variable (minutes later : Minutes) {host mover : Nat}

@[simp] theorem talk_nil : talk [] host = [] := rfl

@[simp] theorem talk_append : (minutes ++ later).talk host = minutes.talk host ++ later.talk host := by
  simp [talk]

@[simp] theorem talk_own (said : List (Call × Reply)) : talk (said.map (host, ·)) host = said := by
  simp [talk, List.filter_map, Function.comp_def]

theorem talk_other (ne : mover ≠ host) (said : List (Call × Reply)) : talk (said.map (mover, ·)) host = [] := by
  simp [talk, List.filter_map, Function.comp_def, ne]

end Minutes

/-- The process that was made by a call with this answer. -/
def Kernel.Call.made? : Call → Reply → Option Nat
  | .fork, .number process => some process
  | _, _ => none

/-- The child whose end an answer tells of. -/
def Kernel.Reply.ended? : Reply → Option (Nat × Termination)
  | .ended process how => some (process, how)
  | _ => none

theorem Kernel.Call.made?_eq_none {call : Call} (notFork : call ≠ .fork) (reply : Reply) : call.made? reply = none := by
  cases call <;> first | rfl | exact absurd rfl notFork

/-- What is remembered of what a process has asked and was answered. -/
def Tally.ofTalk (talk : List (Call × Reply)) : Tally where
  made := talk.filterMap fun entry => entry.1.made? entry.2
  collected := talk.filterMap fun entry => entry.2.ended?

theorem Tally.ofTalk_failed (talk : List (Call × Reply)) (call : Call) (errno : Errno) :
    ofTalk (talk ++ [(call, .failed errno)]) = ofTalk talk := by
  cases call <;> simp [ofTalk, Call.made?, Reply.ended?]

namespace Run

/-- Whether a run asks these questions when it is answered so. -/
def Asks : Run → List (Call × Reply) → Prop
  | _, [] => True
  | run, (call, reply) :: later => run.next = some call ∧ (run.resume reply).Asks later

theorem asks_append (run : Run) (talk later : List (Call × Reply)) :
    run.Asks (talk ++ later) ↔ run.Asks talk ∧ (run.follow (talk.map Prod.snd)).Asks later := by
  induction talk generalizing run with
  | nil => simp [Asks, follow]
  | cons first rest ih => simp [Asks, ih, and_assoc, follow]

/-- An executor replaces its program by none. -/
theorem next_ne_load (run : Run) (program : Bytes) (arguments : List Bytes) :
    run.next ≠ some (.load program arguments) := by
  obtain ⟨phase, control⟩ := run
  cases control <;> simp [next]

end Run

variable {τ : Type} {images : Behaviour τ} {mishaps : Call → Bool} {host : Nat} {start machine after : Machine τ}

/-- A move with a call that starts nothing is told by what comes of the call. -/
theorem said?_plain {process : Process (Program τ)} {call : Call} (present : machine.processes[host]? = some process)
    (asks : (Program.behaviour images).next process.program = some call)
    (plain : call ≠ .fork ∧ ∀ program arguments, call ≠ .load program arguments) :
    machine.said? (Program.behaviour images) host = (machine.perform host process call).exchange process call := by
  simp only [System.said?, present, asks]
  split
  · rename_i none
    cases none
  · rename_i same
    exact absurd (Option.some.inj same) plain.1
  · rename_i same
    exact absurd (Option.some.inj same) (plain.2 _ _)
  · rename_i same
    cases same
    rfl

/-- Only who waits is told of the end of a child. -/
theorem said?_untold {call : Call} {reply : Reply}
    (said : machine.said? (Program.behaviour images) host = some (call, reply)) (others : call.waits = false) :
    reply.ended? = none := by
  unfold System.said? at said
  split at said
  · cases said
  rename_i process present
  split at said
  · cases said
  · cases said
    rfl
  · split at said <;> cases said
    rfl
  · rename_i asked _ _ _
    cases performed : machine.perform host process asked with
    | answer given after =>
      rw [performed] at said
      cases said
      have untold := (performed ▸ System.perform_disposes machine host process call).untold others
      cases reply <;> first | rfl | cases untold
    | moved after =>
      rw [performed] at said
      cases said
    | blocked =>
      rw [performed] at said
      cases said
      unfold System.interruption
      split <;> rfl

/-- An executor that moves is answered a call of its run, or its call goes on. -/
theorem executor_step {process : Process (Program τ)} {run : Run} (numbered : machine.Numbered)
    (present : machine.processes[host]? = some process) (program : process.program = .executor run)
    (moved : machine.step (Program.behaviour images) host = some after) :
    (machine.said? (Program.behaviour images) host = none ∧
      ∀ later, after.processes[host]? = some later → later.program = .executor run) ∨
    ∃ call reply, machine.said? (Program.behaviour images) host = some (call, reply) ∧ run.next = some call ∧
      ∀ later, after.processes[host]? = some later → later.program = .executor (run.resume reply) := by
  obtain ⟨mover, call, there, -, -, asks, how⟩ := System.step_eq_some moved
  obtain rfl : process = mover := Option.some.inj (present.symm.trans there)
  have next : run.next = some call := by simpa [Program.behaviour, program] using asks
  have answered : ∀ {between : Machine τ} {middle later : Process (Program τ)} {reply : Reply},
      between.processes[host]? = some middle → middle.program = .executor run → reply ≠ .child →
      (between.answer (Program.behaviour images) host reply).processes[host]? = some later →
      later.program = .executor (run.resume reply) := by
    intro between middle later reply living same notChild found
    rw [System.answer_eq _ living, System.getElem?_put_self] at found
    cases found
    exact program_answered same notChild
  rcases how with ⟨rfl, rfl⟩ | ⟨program, arguments, rfl, -⟩ | ⟨plain, how⟩
  · refine .inr ⟨.fork, .number machine.nextProcess, by simp [System.said?, present, asks], next, ?_⟩
    intro later found
    rw [System.fork_eq _ present (numbered.process host process present), Std.ExtTreeMap.getElem?_insert_self] at found
    cases found
    exact program_answered program (by simp)
  · exact absurd next (run.next_ne_load program arguments)
  · rw [said?_plain present asks plain]
    rcases how with ⟨reply, between, performed, rfl⟩ | performed | ⟨performed, -, rfl⟩
    · rw [performed]
      refine .inr ⟨call, reply, rfl, next, fun later found => ?_⟩
      have notChild : reply ≠ .child := (performed ▸ System.perform_disposes machine host process call).ne_child
      obtain ⟨middle, living, -⟩ := System.ending_of_answer found
      exact answered living ((System.program_perform present (Effect.leads_of_answer performed) living).trans program)
        notChild found
    · rw [performed]
      exact .inl ⟨rfl, fun later found =>
        (System.program_perform present (Effect.leads_of_moved performed) found).trans program⟩
    · rw [performed]
      refine .inr ⟨call, _, rfl, next, fun later found => answered (System.getElem?_put_self _ _ _) ?_ ?_ found⟩
      · unfold System.withoutOpening
        split <;> exact program
      · unfold System.interruption
        split <;> simp

/-- The machines that can be come to from `start`, with minutes of the way there. -/
inductive Proceedings (images : Behaviour τ) (mishaps : Call → Bool) (host : Nat) (start : Machine τ) :
    Minutes → Machine τ → Prop where
  | start : Proceedings images mishaps host start [] start
  | step {minutes : Minutes} {before after : Machine τ} (earlier : Proceedings images mishaps host start minutes before)
      (mover : Nat) (moved : before.step (Program.behaviour images) mover = some after) :
      Proceedings images mishaps host start
        (minutes ++ (before.said? (Program.behaviour images) mover).toList.map (mover, ·)) after
  /-- A call of the host fails, whatever the machine could have answered. -/
  | mishap {minutes : Minutes} {before : Machine τ} (earlier : Proceedings images mishaps host start minutes before)
      (process : Process (Program τ)) (call : Call) (errno : Errno) (present : before.processes[host]? = some process)
      (alive : process.ending = none) (going : process.stopped = false)
      (asks : (Program.behaviour images).next process.program = some call) (possible : mishaps call = true) :
      Proceedings images mishaps host start (minutes ++ [(host, call, .failed errno)])
        (before.put host ((process.released call).answered (Program.behaviour images) (.failed errno)))
  | time {minutes : Minutes} {before after : Machine τ} (earlier : Proceedings images mishaps host start minutes before)
      (passed : before.passTime = some after) : Proceedings images mishaps host start minutes after

/-- The minutes of a move tell of who was made in it and of who was waited for. -/
theorem extend_own (talk : List (Call × Reply)) (moved : machine.step (Program.behaviour images) host = some after) :
    (Tally.ofTalk talk).extend images host host machine after =
      .ofTalk (talk ++ (machine.said? (Program.behaviour images) host).toList) := by
  obtain ⟨process, call, present, -, -, asks, how⟩ := System.step_eq_some moved
  have told : machine.told? (Program.behaviour images) host = (machine.perform host process call).ended? := by
    simp [System.told?, present, asks]
  rcases how with ⟨rfl, rfl⟩ | ⟨program, arguments, rfl, rfl⟩ | ⟨plain, how⟩
  · have said : machine.said? (Program.behaviour images) host = some (.fork, .number machine.nextProcess) := by
      simp [System.said?, present, asks]
    simp [Tally.extend, Tally.ofTalk, told, said, System.fork, System.perform, Effect.ended?, Call.made?, Reply.ended?]
  · have said : machine.said? (Program.behaviour images) host = none ∨
        ∃ errno, machine.said? (Program.behaviour images) host = some (.load program arguments, .failed errno) := by
      simp only [System.said?, present, asks]
      split
      · rename_i errno _
        exact .inr ⟨errno, rfl⟩
      · exact .inl rfl
    have given : (machine.load (Program.behaviour images) host process program arguments).nextProcess =
        machine.nextProcess := by
      unfold System.load
      split
      · rw [System.nextProcess_answer]
      · rfl
    obtain said | ⟨errno, said⟩ := said <;>
      simp [Tally.extend, Tally.ofTalk, told, said, given, System.perform, Effect.ended?, Call.made?, Reply.ended?]
  · rw [said?_plain present asks plain]
    rcases how with ⟨reply, between, performed, rfl⟩ | performed | ⟨performed, -, rfl⟩
    · have given := System.nextProcess_perform present (Effect.leads_of_answer performed)
      cases reply <;> simp [Tally.extend, Tally.ofTalk, told, performed, given, Effect.exchange, Effect.ended?,
        Call.made?_eq_none plain.1, Reply.ended?]
    · have given := System.nextProcess_perform present (Effect.leads_of_moved performed)
      simp [Tally.extend, Tally.ofTalk, told, performed, given, Effect.exchange, Effect.ended?]
    · have plainly : (System.interruption process).ended? = none := by
        unfold System.interruption
        split <;> rfl
      simp [Tally.extend, Tally.ofTalk, told, performed, plainly, Effect.exchange, Effect.ended?,
        Call.made?_eq_none plain.1]

/-- What is remembered of the host once somebody has moved stands in the minutes. -/
theorem extend_talk {mover : Nat} (minutes : Minutes)
    (moved : machine.step (Program.behaviour images) mover = some after) :
    (Tally.ofTalk (minutes.talk host)).extend images host mover machine after = .ofTalk
      ((minutes ++ (machine.said? (Program.behaviour images) mover).toList.map (mover, ·)).talk host) := by
  rw [Minutes.talk_append]
  by_cases own : mover = host
  · subst own
    rw [Minutes.talk_own]
    exact extend_own _ moved
  · simp [Minutes.talk_other own, Tally.extend, own]

namespace Proceedings

variable {minutes : Minutes} {begun : Run}

/-- Moves one after the other, by the numbers of those who make them. -/
def follow (images : Behaviour τ) : List Nat → Minutes × Machine τ → Option (Minutes × Machine τ)
  | [], point => some point
  | mover :: later, (minutes, machine) =>
    match machine.step (Program.behaviour images) mover with
    | none => none
    | some after =>
      follow images later (minutes ++ (machine.said? (Program.behaviour images) mover).toList.map (mover, ·), after)

/-- What is found after moves one after the other is come to. -/
theorem exists_of_follow (images : Behaviour τ) (mishaps : Call → Bool) (host : Nat) (start : Machine τ)
    (movers : List Nat) (check : Minutes → Machine τ → Bool)
    (checked : (follow images movers ([], start)).any (fun point => check point.1 point.2) = true) :
    ∃ minutes machine, Proceedings images mishaps host start minutes machine ∧ check minutes machine = true := by
  have further : ∀ (movers : List Nat) (from_ point : Minutes × Machine τ),
      Proceedings images mishaps host start from_.1 from_.2 → follow images movers from_ = some point →
      Proceedings images mishaps host start point.1 point.2 := by
    intro movers
    induction movers with
    | nil =>
      intro from_ point proceedings followed
      cases followed
      exact proceedings
    | cons mover later ih =>
      intro from_ point proceedings followed
      unfold follow at followed
      split at followed
      · cases followed
      · rename_i after moved
        exact ih _ _ (proceedings.step mover moved) followed
  obtain ⟨point, followed, found⟩ := (Option.any_eq_true _ _).mp checked
  exact ⟨point.1, point.2, further movers _ _ .start followed, found⟩

/-- What is remembered of the host stands in the minutes. -/
theorem passage (proceedings : Proceedings images mishaps host start minutes machine) :
    Passage images mishaps host start (.ofTalk (minutes.talk host)) machine := by
  induction proceedings with
  | start => exact .start
  | step earlier mover moved ih => exact extend_talk _ moved ▸ ih.step mover moved
  | mishap earlier process call errno present alive going asks possible ih =>
    have alone : Minutes.talk [(host, call, .failed errno)] host = [(call, .failed errno)] :=
      Minutes.talk_own [(call, .failed errno)]
    rw [Minutes.talk_append, alone, Tally.ofTalk_failed]
    exact ih.mishap (.mk process call errno present alive going asks possible)
  | time earlier passed ih => exact ih.time passed

/-- Only who waits is told of the end of a child. -/
theorem untold (proceedings : Proceedings images mishaps host start minutes machine) :
    ∀ entry ∈ minutes, entry.2.1.waits = false → entry.2.2.ended? = none := by
  induction proceedings with
  | start => simp
  | step earlier mover moved ih =>
    intro entry member others
    rcases List.mem_append.mp member with old | new
    · exact ih entry old others
    · obtain ⟨said, asked, rfl⟩ := List.mem_map.mp new
      exact said?_untold (Option.mem_toList.mp asked) others
  | mishap earlier process call errno present alive going asks possible ih =>
    intro entry member others
    rcases List.mem_append.mp member with old | new
    · exact ih entry old others
    · obtain rfl := List.mem_singleton.mp new
      rfl
  | time earlier passed ih => exact ih

theorem hosts (proceedings : Proceedings images mishaps host start minutes machine) (hosts : start.Hosts host) :
    machine.Hosts host := proceedings.passage.hosts hosts

/-- An executor asks what its run asks, and its run is what the answers make of it. -/
structure Hears (begun : Run) (talk : List (Call × Reply)) (host : Nat) (machine : Machine τ) : Prop where
  asks : begun.Asks talk
  program : ∀ process, machine.processes[host]? = some process →
    process.program = .executor (begun.follow (talk.map Prod.snd))

theorem Hears.answered {talk : List (Call × Reply)} (hears : Hears begun talk host machine)
    {call : Call} {reply : Reply} (next : (begun.follow (talk.map Prod.snd)).next = some call)
    (goesOn : ∀ later, after.processes[host]? = some later →
      later.program = .executor ((begun.follow (talk.map Prod.snd)).resume reply)) :
    Hears begun (talk ++ [(call, reply)]) host after where
  asks := (begun.asks_append talk _).mpr ⟨hears.asks, next, trivial⟩
  program later found := by
    rw [goesOn later found, List.map_append, List.map_singleton, Run.follow_concat]

theorem hears (proceedings : Proceedings images mishaps host start minutes machine) (hosts : start.Hosts host)
    (begins : ∀ process, start.processes[host]? = some process → process.program = .executor begun) :
    Hears begun (minutes.talk host) host machine := by
  induction proceedings with
  | start => exact ⟨trivial, begins⟩
  | @step minutes before after earlier mover moved ih =>
    have hosts := earlier.hosts hosts
    by_cases own : mover = host
    · subst own
      obtain ⟨process, -, present, -⟩ := System.step_eq_some moved
      rw [Minutes.talk_append, Minutes.talk_own]
      obtain ⟨silent, same⟩ | ⟨call, reply, said, next, goesOn⟩ :=
        executor_step hosts.numbered present (ih.program process present) moved
      · rw [silent, Option.toList_none, List.append_nil]
        exact ⟨ih.asks, same⟩
      · rw [said]
        exact ih.answered next goesOn
    · rw [Minutes.talk_append, Minutes.talk_other own, List.append_nil]
      refine ⟨ih.asks, fun later found => ?_⟩
      obtain ⟨process, present, disturbed⟩ :=
        (System.step_spares hosts.numbered moved).others host (Ne.symm own) hosts.given later found
      exact disturbed.program.trans (ih.program process present)
  | time earlier passed ih =>
    obtain ⟨clock, rfl⟩ := System.passTime_eq_some passed
    exact ⟨ih.asks, ih.program⟩
  | mishap earlier process call errno present alive going asks possible ih =>
    have program := ih.program process present
    have alone : Minutes.talk [(host, call, .failed errno)] host = [(call, .failed errno)] :=
      Minutes.talk_own [(call, .failed errno)]
    rw [Minutes.talk_append, alone]
    refine ih.answered (by simpa [Program.behaviour, program] using asks) fun later found => ?_
    rw [System.getElem?_put_self] at found
    cases found
    refine program_answered ?_ (by simp)
    unfold Process.released
    split <;> exact program

end Proceedings

end Pipework
