import Pipework.Proofs.Descriptor
import Pipework.Proofs.Service

set_option autoImplicit false

/-!
The release of descriptors. A run owns the endpoints that it has opened and not yet closed (`Run.owned`): a channel
adds both of its ends, a close takes one away even if it fails, and nothing else changes what is owned. When a run is
over, however it has come to that, it owns none; so the table of its process is the one with which it began
(`descriptors_restored`).
-/

namespace Pipework

open Kernel

namespace Run

/-- The endpoints that a run has opened and has still to close. -/
def owned (run : Run) : List Nat :=
  match run.control with
  | .opening _ _ incoming => incoming.toList
  | .forking _ _ streams carried => streams.stdin.toList ++ streams.stdout.toList ++ carried.toList
  | .closingRead _ _ endpoint stdout carried => endpoint :: (stdout.toList ++ carried.toList)
  | .closingWrite _ _ endpoint carried => endpoint :: carried.toList
  | .dropping endpoint others _ => endpoint :: others
  | .reaping | .complaining _ | .finished _ => []

/-- Nothing is carried on behind the last stage, and a channel is opened only before it. -/
def Orderly (run : Run) : Prop :=
  match run.control with
  | .opening _ later _ => later ≠ []
  | .forking _ later _ carried | .closingRead _ later _ _ carried | .closingWrite _ later _ carried =>
    later = [] → carried = none
  | _ => True

variable {run : Run} {endpoint : Nat} {stage : Stage} {later : List Stage} {streams : Streams}
  {stdout carried : Option Nat}

theorem owned_spawnNext (more : later = [] → carried = none) :
    (run.spawnNext carried later).owned = carried.toList := by
  cases later with
  | nil => simp [spawnNext, owned, goOn, more]
  | cons stage rest => cases rest <;> simp [spawnNext, owned, goOn]

theorem orderly_spawnNext : (run.spawnNext carried later).Orderly := by
  cases later with
  | nil => simp [spawnNext, Orderly, goOn]
  | cons stage rest => cases rest <;> simp [spawnNext, Orderly, goOn]

theorem owned_closeWrite (more : later = [] → carried = none) :
    (run.closeWrite stage later stdout carried).owned = stdout.toList ++ carried.toList := by
  cases stdout with
  | none => exact owned_spawnNext more
  | some endpoint => simp [closeWrite, owned, goOn]

theorem orderly_closeWrite (more : later = [] → carried = none) :
    (run.closeWrite stage later stdout carried).Orderly := by
  cases stdout with
  | none => exact orderly_spawnNext
  | some endpoint => exact more

theorem owned_closeStreams (more : later = [] → carried = none) :
    (run.closeStreams stage later streams carried).owned =
      streams.stdin.toList ++ streams.stdout.toList ++ carried.toList := by
  unfold closeStreams
  split
  · rename_i endpoint reads
    simp [reads, owned, goOn]
  · rename_i reads
    simp [reads, owned_closeWrite more]

theorem orderly_closeStreams (more : later = [] → carried = none) :
    (run.closeStreams stage later streams carried).Orderly := by
  unfold closeStreams
  split
  · exact more
  · exact orderly_closeWrite more

theorem owned_giveUp (held : List Nat) (fault : Fault) : (run.giveUp held fault).owned = held := by
  cases held <;> rfl

theorem orderly_giveUp (held : List Nat) (fault : Fault) : (run.giveUp held fault).Orderly := by
  cases held <;> trivial

theorem owned_complete : run.complete.owned = [] := by
  unfold complete
  split <;> rfl

theorem orderly_complete : run.complete.Orderly := by
  unfold complete
  split <;> trivial

/-- A close takes one endpoint away, whatever is answered. -/
theorem owned_of_closing (orderly : run.Orderly) (closes : run.next = some (.close endpoint)) :
    ∃ rest, run.owned = endpoint :: rest ∧ ∀ reply, (run.resume reply).owned = rest := by
  cases control : run.control with
  | closingRead stage later place stdout carried =>
    obtain rfl : place = endpoint := by simpa [next, control] using closes
    have more : later = [] → carried = none := by simpa [Orderly, control] using orderly
    refine ⟨stdout.toList ++ carried.toList, by simp [owned, control], fun reply => ?_⟩
    cases reply <;> simp only [resume, control] <;> first | exact owned_giveUp _ _ | exact owned_closeWrite more
  | closingWrite stage later place carried =>
    obtain rfl : place = endpoint := by simpa [next, control] using closes
    have more : later = [] → carried = none := by simpa [Orderly, control] using orderly
    refine ⟨carried.toList, by simp [owned, control], fun reply => ?_⟩
    cases reply <;> simp only [resume, control] <;> first | exact owned_giveUp _ _ | exact owned_spawnNext more
  | dropping place others fault =>
    obtain rfl : place = endpoint := by simpa [next, control] using closes
    refine ⟨others, by simp [owned, control], fun reply => ?_⟩
    simp only [resume, control]
    exact owned_giveUp _ _
  | _ => simp [next, control] at closes

/-- A channel adds its ends. -/
theorem owned_of_opened {incoming : Option Nat} (opens : run.control = .opening stage later incoming)
    (read write : Nat) :
    run.owned = incoming.toList ∧ (run.resume (.ends read write)).owned = incoming.toList ++ [write, read] := by
  simp [resume, owned, opens, goOn]

/-- Nothing else changes what is owned. -/
theorem owned_resume {reply : Reply} (orderly : run.Orderly) (keeps : ∀ endpoint, run.next ≠ some (.close endpoint))
    (unopened : ∀ read write, reply ≠ .ends read write) : (run.resume reply).owned = run.owned := by
  cases control : run.control with
  | opening stage later incoming =>
    have here : run.owned = incoming.toList := by simp [owned, control]
    cases reply with
    | ends read write => exact absurd rfl (unopened read write)
    | failed errno =>
      simp only [resume, control, here]
      exact owned_giveUp _ _
    | _ => simp only [resume, control]
  | forking stage later streams carried =>
    have more : later = [] → carried = none := by simpa [Orderly, control] using orderly
    have here : run.owned = streams.stdin.toList ++ streams.stdout.toList ++ carried.toList := by simp [owned, control]
    cases reply with
    | number process =>
      simp only [resume, control, here]
      exact owned_closeStreams more
    | failed errno =>
      simp only [resume, control, here]
      split
      · exact here
      · exact owned_giveUp _ _
    | _ => simp only [resume, control]
  | reaping =>
    have here : run.owned = [] := by simp [owned, control]
    cases reply with
    | ended process how =>
      simp only [resume, control, here]
      split
      · rfl
      · simp [owned, record]
    | failed errno =>
      simp only [resume, control, here]
      split
      · exact here
      split
      · exact owned_complete
      · rfl
    | _ => simp only [resume, control]
  | complaining text => simp [resume, control, owned, goOn]
  | finished outcome => simp [resume, control]
  | closingRead stage later place stdout carried => exact absurd (by simp [next, control]) (keeps place)
  | closingWrite stage later place carried => exact absurd (by simp [next, control]) (keeps place)
  | dropping place others fault => exact absurd (by simp [next, control]) (keeps place)

theorem Orderly.resume (orderly : run.Orderly) (reply : Reply) : (run.resume reply).Orderly := by
  have more : ∀ {later : List Stage} {carried : Option Nat}, later ≠ [] → later = [] → carried = none :=
    fun some none => absurd none some
  unfold Run.resume
  split
  · rename_i opens
    exact more (by simpa [Orderly, opens] using orderly)
  · exact orderly_giveUp _ _
  · rename_i forks
    exact orderly_closeStreams (by simpa [Orderly, forks] using orderly)
  · split
    · exact orderly
    · exact orderly_giveUp _ _
  · exact orderly_giveUp _ _
  · rename_i closes _
    exact orderly_closeWrite (by simpa [Orderly, closes] using orderly)
  · exact orderly_giveUp _ _
  · exact orderly_spawnNext
  · exact orderly_giveUp _ _
  · rename_i reaps
    split
    · trivial
    · simp [Orderly, record, reaps]
  · split
    · exact orderly
    split
    · exact orderly_complete
    · trivial
  · trivial
  · exact orderly

theorem Orderly.start (run : Run) (stages : List Stage) : (run.start stages).Orderly := by
  cases stages with
  | nil => trivial
  | cons stage stages => exact orderly_spawnNext

end Run

/-- A run that begins owns nothing. -/
theorem Run.owned_start (run : Run) (stages : List Stage) : (run.start stages).owned = [] := by
  cases stages with
  | nil => rfl
  | cons stage stages => exact owned_spawnNext (by simp)

theorem Errand.begins (errand : Errand) (phase : Phase) :
    (errand.run phase).Orderly ∧ (errand.run phase).owned = [] := by
  cases errand with
  | pipeline stages => exact ⟨.start _ _, Run.owned_start _ _⟩
  | line text limit =>
    unfold Errand.run Run.ofLine
    dsimp only
    split
    · exact ⟨trivial, rfl⟩
    · exact ⟨.start _ _, Run.owned_start _ _⟩

/-- What executes pipelines begins with a run that owns nothing. -/
theorem Request.begins (τ : Type) (request : Request) (phases : Nat → Phase)
    (executes : ∀ trial, request ≠ .spawn trial) :
    ∃ run, (request.program phases : Program τ) = .executor run ∧ run.Orderly ∧ run.owned = [] := by
  cases request with
  | errand executor wanted => exact ⟨_, rfl, wanted.begins _⟩
  | once stages => exact ⟨_, rfl, .start _ _, Run.owned_start _ _⟩
  | children => exact ⟨_, rfl, trivial, rfl⟩
  | spawn trial => exact absurd rfl (executes trial)

variable {τ : Type} {images : Behaviour τ} {mishaps : Call → Bool} {host mover : Nat} {base : DescriptorTable}
  {start machine after : Machine τ} {process later : Process (Program τ)} {run : Run}

/-- A call that is given up for a signal has opened nothing. -/
theorem Kernel.System.interruption_plain {σ : Type} (process : Process σ) :
    System.interruption process ≠ .child ∧ ∀ read write, System.interruption process ≠ .ends read write := by
  unfold System.interruption
  split <;> simp

/-- The descriptors of a process that executes a run: those with which it began, and the endpoints that it owns. -/
structure Owning (base : DescriptorTable) (run : Run) (process : Process (Program τ)) : Prop where
  program : process.program = .executor run
  orderly : run.Orderly
  opening : process.opening = none
  table : process.ending = none → ∃ held, held.map Prod.fst = run.owned ∧ base.Adds held process.descriptors

namespace Owning

/-- Whatever is answered, the process goes on owning what its run says. -/
theorem answered {table : DescriptorTable} {reply : Reply} (owning : Owning base run process)
    (notChild : reply ≠ .child)
    (adds : process.ending = none → ∃ held, held.map Prod.fst = (run.resume reply).owned ∧ base.Adds held table) :
    Owning base (run.resume reply)
      ({ process with descriptors := table }.answered (Program.behaviour images) reply) where
  program := by
    have same : { process with descriptors := table }.program = .executor run := owning.program
    exact program_answered same notChild
  orderly := owning.orderly.resume reply
  opening := rfl
  table := adds

/-- What others do to a process takes nothing from it as long as it lives. -/
theorem disturbed (owning : Owning base run process) (disturbed : Disturbed process later) : Owning base run later where
  program := disturbed.program.trans owning.program
  orderly := owning.orderly
  opening := disturbed.opening.trans owning.opening
  table alive := by
    obtain ⟨lived, same⟩ := disturbed.alive alive
    rw [same]
    exact owning.table lived

/-- A call that neither closes nor opens anything. -/
theorem answered_same {reply : Reply} (owning : Owning base run process) (notChild : reply ≠ .child)
    (keeps : ∀ endpoint, run.next ≠ some (.close endpoint))
    (unopened : ∀ read write, reply ≠ .ends read write) :
    Owning base (run.resume reply) (process.answered (Program.behaviour images) reply) := by
  refine owning.answered notChild fun alive => ?_
  obtain ⟨held, same, adds⟩ := owning.table alive
  exact ⟨held, by rw [Run.owned_resume owning.orderly keeps unopened, same], adds⟩

/-- What a run is about to close is open. -/
theorem close_eq {endpoint : Nat} (owning : Owning base run process) (alive : process.ending = none)
    (closes : run.next = some (.close endpoint)) :
    process.descriptors.close endpoint = .ok (process.descriptors.erase endpoint) := by
  obtain ⟨held, same, adds⟩ := owning.table alive
  obtain ⟨rest, owned, -⟩ := Run.owned_of_closing owning.orderly closes
  rw [owned] at same
  obtain ⟨⟨number, object⟩, others, rfl, rfl, -⟩ := List.map_eq_cons_iff.mp same
  exact adds.close.1

/-- A close, whether it succeeds or not, as long as the number is given up. -/
theorem closed {endpoint : Nat} {reply : Reply} (owning : Owning base run process) (alive : process.ending = none)
    (notChild : reply ≠ .child) (closes : run.next = some (.close endpoint)) :
    Owning base (run.resume reply)
      ({ process with descriptors := process.descriptors.erase endpoint }.answered (Program.behaviour images)
        reply) := by
  obtain ⟨held, same, adds⟩ := owning.table alive
  obtain ⟨rest, owned, resumes⟩ := Run.owned_of_closing owning.orderly closes
  rw [owned] at same
  obtain ⟨⟨number, object⟩, others, rfl, rfl, rfl⟩ := List.map_eq_cons_iff.mp same
  exact owning.answered notChild fun _ => ⟨others, (resumes reply).symm, adds.close.2⟩

/-- A move of the process itself. -/
theorem move (owning : Owning base run process) (alive : process.ending = none)
    (move : RunMove images machine host process run after) (found : after.processes[host]? = some later) :
    ∃ next, Owning base next later := by
  cases move with
  | opened stage following incoming read write between table opening first second =>
    rw [System.getElem?_put_self] at found
    cases found
    obtain ⟨held, same, adds⟩ := owning.table alive
    obtain ⟨before, now⟩ := Run.owned_of_opened opening read write
    let ends := [(write, Object.writeEnd machine.nextPipe), (read, .readEnd machine.nextPipe)]
    refine ⟨_, owning.answered (by simp) fun _ => ⟨held ++ ends, by simp [ends, now, same, before], ?_⟩⟩
    exact ((adds.allocate first).allocate second).perm (List.perm_append_comm : (ends ++ held).Perm (held ++ ends))
  | refused stage following incoming errno opening =>
    rw [System.getElem?_put_self] at found
    cases found
    exact ⟨_, owning.answered_same (by simp) (by simp [Run.next, opening]) (by simp)⟩
  | forked stage following streams carried forking =>
    rw [System.getElem?_put_self] at found
    cases found
    exact ⟨_, owning.answered_same (by simp) (by simp [Run.next, forking]) (by simp)⟩
  | closed endpoint table closes closed =>
    rw [System.getElem?_put_self] at found
    cases found
    obtain rfl := DescriptorTable.eq_of_close closed
    exact ⟨_, owning.closed alive (by simp) closes⟩
  | unclosed endpoint errno closes unclosed =>
    rw [owning.close_eq alive closes] at unclosed
    cases unclosed
  | reaped child ended how reaping there apart parent ending =>
    rw [System.getElem?_put_self] at found
    cases found
    exact ⟨_, owning.answered_same (by simp) (by simp [Run.next, reaping]) (by simp)⟩
  | alone reaping none =>
    rw [System.getElem?_put_self] at found
    cases found
    exact ⟨_, owning.answered_same (by simp) (by simp [Run.next, reaping]) (by simp)⟩
  | interrupted reaping interrupted =>
    rw [System.getElem?_put_self] at found
    cases found
    have same : System.withoutOpening process = process := by simp [System.withoutOpening, owning.opening]
    rw [same]
    have plain := System.interruption_plain process
    exact ⟨_, owning.answered_same plain.1 (by simp [Run.next, reaping]) plain.2⟩

/-- A step of the process itself. -/
theorem step (owning : Owning base run process) (numbered : machine.Numbered)
    (present : machine.processes[host]? = some process)
    (moved : machine.step (Program.behaviour images) host = some after)
    (found : after.processes[host]? = some later) : ∃ next, Owning base next later := by
  have alive := (System.alive_of_step present moved).1
  by_cases complains : ∃ text, run.control = .complaining text
  · obtain ⟨text, complains⟩ := complains
    have asks : (Program.behaviour images).next process.program = some (.write Startup.diagnostics text) := by
      simp [Program.behaviour, owning.program, Run.next, complains]
    have keeps : ∀ endpoint, run.next ≠ some (.close endpoint) := by simp [Run.next, complains]
    have replies : ∀ (reply : Reply) (between : Machine τ),
        machine.perform host process (.write Startup.diagnostics text) = .answer reply between →
        reply ≠ .child ∧ ∀ read write, reply ≠ .ends read write := by
      intro reply between performed
      have wrote := machine.perform_write host process Startup.diagnostics text
      rw [performed] at wrote
      cases wrote <;> simp
    obtain ⟨reply, between, performed, rfl⟩ | performed | ⟨-, -, rfl⟩ := System.step_plain moved present asks (by simp)
    · obtain ⟨notChild, unopened⟩ := replies reply between performed
      obtain ⟨middle, there, rfl⟩ := System.getElem?_answer_self found
      have same := owning.disturbed (System.write_disturbed present (Effect.leads_of_answer performed) there)
      exact ⟨_, same.answered_same notChild keeps unopened⟩
    · exact ⟨run, owning.disturbed (System.write_disturbed present (Effect.leads_of_moved performed) found)⟩
    · obtain ⟨middle, there, rfl⟩ := System.getElem?_answer_self found
      rw [System.getElem?_put_self] at there
      cases there
      have same : System.withoutOpening process = process := by simp [System.withoutOpening, owning.opening]
      rw [same]
      have plain := System.interruption_plain process
      exact ⟨_, owning.answered_same plain.1 keeps plain.2⟩
  · have working : ∀ text, run.control ≠ .complaining text := fun text same => complains ⟨text, same⟩
    exact owning.move alive (step_executor numbered present owning.program working moved) found

/-- A call that fails without a reason. -/
theorem mishap (owning : Owning base run process) (alive : process.ending = none) (call : Call)
    (asks : (Program.behaviour images).next process.program = some call) (errno : Errno) :
    Owning base (run.resume (.failed errno))
      ((process.released call).answered (Program.behaviour images) (.failed errno)) := by
  have next : run.next = some call := by simpa [Program.behaviour, owning.program] using asks
  by_cases closes : ∃ endpoint, call = .close endpoint
  · obtain ⟨endpoint, rfl⟩ := closes
    exact owning.closed alive (by simp) next
  · have keeps : ∀ endpoint, run.next ≠ some (.close endpoint) := by
      intro endpoint same
      rw [next] at same
      cases same
      exact closes ⟨endpoint, rfl⟩
    have same : process.released call = process := by
      unfold Kernel.Process.released
      split
      · exact absurd ⟨_, rfl⟩ closes
      · rfl
    rw [same]
    exact owning.answered_same (by simp) keeps (by simp)

end Owning

/-- All along a passage the host owns what its run says, as long as it lives. -/
theorem Passage.owning {tally : Tally} (passage : Passage images mishaps host start tally machine)
    (hosts : start.Hosts host)
    (owning : ∀ process, start.processes[host]? = some process → ∃ run, Owning base run process) :
    machine.Hosts host ∧ ∀ process, machine.processes[host]? = some process → ∃ run, Owning base run process := by
  induction passage with
  | start => exact ⟨hosts, owning⟩
  | time earlier passed ih =>
    obtain ⟨clock, rfl⟩ := System.passTime_eq_some passed
    exact ⟨⟨⟨ih.1.numbered.process⟩, ih.1.given⟩, ih.2⟩
  | step earlier mover moved ih =>
    obtain ⟨hosts, owning⟩ := ih
    refine ⟨hosts.moves (.step mover moved), fun later found => ?_⟩
    by_cases own : mover = host
    · subst own
      obtain ⟨process, -, present, -⟩ := System.step_eq_some moved
      obtain ⟨run, owns⟩ := owning process present
      exact owns.step hosts.numbered present moved found
    · obtain ⟨process, present, disturbed⟩ :=
        (System.step_spares hosts.numbered moved).others host (Ne.symm own) hosts.given later found
      obtain ⟨run, owns⟩ := owning process present
      exact ⟨run, owns.disturbed disturbed⟩
  | mishap earlier failed ih =>
    obtain ⟨hosts, owning⟩ := ih
    obtain ⟨process, call, errno, present, alive, going, asks, possible⟩ := failed
    refine ⟨hosts.put _, fun later found => ?_⟩
    rw [System.getElem?_put_self] at found
    cases found
    obtain ⟨run, owns⟩ := owning process present
    exact ⟨_, owns.mishap alive call asks errno⟩

/-- The descriptors of a process. -/
def Machine.table? (machine : Machine τ) (host : Nat) : Option DescriptorTable :=
  (machine.processes[host]?).map Process.descriptors

/-- A process that has these descriptors as long as it lives, and is not about to get another one. -/
def Machine.Intact (host : Nat) (base : DescriptorTable) (machine : Machine τ) : Prop :=
  ∀ process, machine.processes[host]? = some process →
    process.opening = none ∧ (process.ending = none → process.descriptors = base)

/-- A request to execute pipelines leaves the descriptors of its process as they were. -/
theorem Passage.restores {tally : Tally} {request : Request} {phases : Nat → Phase}
    (passage : Passage images mishaps host (start.putProgram host (request.program phases)) tally machine)
    (executes : ∀ trial, request ≠ .spawn trial) (hosts : start.Hosts host) (intact : start.Intact host base)
    (found : machine.processes[host]? = some process) (done : process.program.isDone = true) :
    machine.Hosts host ∧ machine.Intact host base := by
  obtain ⟨run, begins, orderly, owned⟩ := request.begins τ phases executes
  have first : ∀ process, (start.putProgram host (request.program phases)).processes[host]? = some process →
      ∃ run, Owning base run process := by
    intro process found
    obtain ⟨earlier, present, rfl⟩ := Machine.of_putProgram found
    obtain ⟨opening, same⟩ := intact earlier present
    refine ⟨run, begins, orderly, opening, fun alive => ⟨[], owned.symm, ?_⟩⟩
    exact same alive ▸ .refl _
  obtain ⟨hosts, owning⟩ := passage.owning (hosts.putProgram _) first
  refine ⟨hosts, fun later there => ?_⟩
  obtain rfl : process = later := Option.some.inj (found.symm.trans there)
  obtain ⟨last, owns⟩ := owning process found
  refine ⟨owns.opening, fun alive => ?_⟩
  obtain ⟨held, same, adds⟩ := owns.table alive
  rw [owns.program, Program.isDone, Option.isSome_iff_exists] at done
  obtain ⟨outcome, ended⟩ := done
  obtain rfl : held = [] := by simpa [Run.owned, Run.control_of_outcome? ended] using same
  exact adds.eq_base

/-- Whatever is asked of the executors of a process, whatever becomes of it and whatever goes wrong, the descriptors of
the process are afterwards those that it had before, as long as it lives. -/
theorem descriptors_restored {phases now : Nat → Phase} {deeds : List (Deed τ)}
    (service : Service images mishaps host start phases deeds machine now) (hosts : start.Hosts host)
    (executor : start.processes[host]? = some process) (opening : process.opening = none)
    (executes : ∀ deed ∈ deeds, ∀ trial, deed.request ≠ .spawn trial) (lives : machine.Lives host) :
    machine.table? host = some process.descriptors ∧
      ∀ deed ∈ deeds, deed.before.table? host = some process.descriptors ∧
        deed.after.table? host = some process.descriptors := by
  have table : ∀ {machine : Machine τ}, machine.Intact host process.descriptors → machine.Lives host →
      machine.table? host = some process.descriptors := by
    rintro machine intact ⟨later, found, alive⟩
    simp [Machine.table?, found, (intact later found).2 alive]
  suffices whole : machine.Hosts host ∧ machine.Intact host process.descriptors ∧
      (machine.Lives host → ∀ deed ∈ deeds, deed.before.table? host = some process.descriptors ∧
        deed.after.table? host = some process.descriptors) from
    ⟨table whole.2.1 lives, whole.2.2 lives⟩
  clear lives
  induction service with
  | start =>
    refine ⟨hosts, fun later found => ?_, by simp⟩
    obtain rfl : process = later := Option.some.inj (executor.symm.trans found)
    exact ⟨opening, fun _ => rfl⟩
  | deed earlier request passage found done ih =>
    obtain ⟨hosts, intact, restored⟩ := ih fun deed member => executes deed (List.mem_append_left _ member)
    obtain ⟨hostsAfter, intactAfter⟩ :=
      passage.restores (executes _ (List.mem_append_right _ (List.mem_singleton_self _))) hosts intact found done
    refine ⟨hostsAfter, intactAfter, fun lives deed member => ?_⟩
    have lived := Machine.lives_of_putProgram (passage.lives (hosts.putProgram _) lives)
    rcases List.mem_append.mp member with old | new
    · exact restored lived deed old
    · obtain rfl := List.mem_singleton.mp new
      exact ⟨table intact lived, table intactAfter lives⟩

/-- The fault that an outcome is, if it is one. -/
def Fault.of? : Except Fault Report → Option Fault
  | .error fault => some fault
  | .ok _ => none

/-- A close fails when two copiers are spawned; the other end of the channel is released all the same. -/
theorem descriptors_restored_of_copiers :
    ∃ deeds machine now,
      Service copier (fun _ => true) 1 (.copying copiedStreams 0) (fun _ => .idle) deeds machine now ∧
      (deeds.map fun deed => (deed.outcome? 1).map Fault.of?) =
        [some (some (.close 0 (copierStage 0) .inputOutput)), some none] ∧
      machine.table? 1 = some copiedStreams := by
  obtain ⟨deeds, machine, now, service, checked⟩ := Service.exists_of_follow copier (fun _ => true) 1
    (.copying copiedStreams 0) (fun _ => .idle)
    [(.errand 0 (.pipeline [copierStage 0, copierStage 1]), [.step 1, .step 1, .mishap .inputOutput, .step 1]),
      (.errand 0 (.pipeline []), [])]
    (fun deeds machine =>
      ((deeds.map fun deed => (deed.outcome? 1).map Fault.of?) ==
          [some (some (.close 0 (copierStage 0) .inputOutput)), some none]) &&
        (machine.processes[1]?).any (fun process => process.ending.isNone) &&
        deeds.all fun deed => deed.request.trial?.isNone) (by decide +kernel)
  simp only [Bool.and_eq_true, beq_iff_eq, Option.any_eq_true, Option.isNone_iff_eq_none, List.all_eq_true] at checked
  obtain ⟨⟨outcomes, process, found, alive⟩, executes⟩ := checked
  have restored := (descriptors_restored service ⟨numbered_copying _ _, Nat.lt_succ_self 1⟩ (by rfl) rfl
    (fun deed member trial same => by simpa [same, Request.trial?] using executes deed member)
    ⟨process, found, alive⟩).1
  exact ⟨deeds, machine, now, service, outcomes, restored⟩

end Pipework
