import Pipework.Executor.Run
import Pipework.Proofs.Rewiring

set_option autoImplicit false

/-!
The spawning of stages, as the executor sees it. `Run.Fits` says where in its list of stages a run stands, from
what it does next and from how many processes and channels it has made, and `Run.held` which endpoints it holds
there: the read end that it carries to the present stage, and both ends of the channel behind it as far as they
are not closed yet. Each answer of the kernel leads on to a run that fits and holds what it should.
-/

namespace Pipework

open Kernel

namespace Run

/-- The endpoints that a run holds, when these are the pipes that it has made. -/
def held (channels : List Nat) (run : Run) : List (Nat × Object) :=
  let input := Object.readEnd (channels.getD (run.index - 1) 0)
  let output := Object.writeEnd (channels.getD run.index 0)
  let next := Object.readEnd (channels.getD run.index 0)
  match run.control with
  | .opening _ _ incoming => endpoints incoming input
  | .forking _ _ streams carried =>
    endpoints streams.stdin input ++ endpoints streams.stdout output ++ endpoints carried next
  | .closingRead _ _ endpoint stdout carried =>
    (endpoint, input) :: (endpoints stdout output ++ endpoints carried next)
  | .closingWrite _ _ endpoint carried => (endpoint, output) :: endpoints carried next
  | .dropping endpoint _ _ => [(endpoint, input)]
  | .reaping | .complaining _ | .finished _ => []

/-- How many channels there are once the channel behind a stage is open, if there is one. -/
def channelsWith (index : Nat) (later : List Stage) : Nat := if later.isEmpty then index else index + 1

/-- The place of a run among its stages, when it has made so many processes and channels. -/
def Fits (stages : List Stage) (children channels : Nat) (run : Run) : Prop :=
  match run.control with
  | .opening stage later incoming =>
    stages.drop run.index = stage :: later ∧ later.isEmpty = false ∧
      incoming.isSome = decide (0 < run.index) ∧
      children = run.index ∧ channels = run.index ∧ run.phase = .spawning run.index
  | .forking stage later streams carried =>
    stages.drop run.index = stage :: later ∧ streams.stdin.isSome = decide (0 < run.index) ∧
      streams.stdout.isSome = !later.isEmpty ∧ streams.stdout ≠ some 0 ∧ carried.isSome = !later.isEmpty ∧
      children = run.index ∧ channels = channelsWith run.index later ∧ run.phase = .spawning run.index
  | .closingRead stage later _ stdout carried =>
    stages.drop run.index = stage :: later ∧ 0 < run.index ∧
      stdout.isSome = !later.isEmpty ∧ carried.isSome = !later.isEmpty ∧
      children = run.index + 1 ∧ channels = channelsWith run.index later ∧ run.phase = .spawning run.index
  | .closingWrite stage later _ carried =>
    stages.drop run.index = stage :: later ∧ later.isEmpty = false ∧ carried.isSome = true ∧
      children = run.index + 1 ∧ channels = run.index + 1 ∧ run.phase = .spawning run.index
  | .dropping _ others fault =>
    run.index < stages.length ∧ 0 < run.index ∧ others = [] ∧ children = run.index ∧ channels = run.index ∧
      run.phase = .spawning run.index ∧ ∃ stage errno, fault = .pipe run.index stage errno
  | .reaping => children = stages.length ∧ channels + 1 = stages.length ∧ run.phase = .reaping
  | .complaining _ => False
  | .finished (.ok _) => stages = [] ∧ children = 0 ∧ channels = 0 ∨
      children = stages.length ∧ channels + 1 = stages.length
  | .finished (.error (.pipe index _ _)) =>
    index = run.index ∧ run.index < stages.length ∧ children = run.index ∧ channels = run.index ∧
      run.phase = .spawning run.index
  | .finished (.error (.wait _)) =>
    children = stages.length ∧ channels + 1 = stages.length ∧ run.phase = .reaping
  | .finished (.error _) => False

variable {stages later : List Stage} {stage : Stage} {run : Run} {carried stdout : Option Nat}
  {channels : List Nat}

/-- An object is the read end before the stage at an index or an end of the channel behind it. -/
def Beside (channels : List Nat) (index : Nat) (object : Object) : Prop :=
  ∃ place channel, channels[place]? = some channel ∧
    (object = .readEnd channel ∧ (place + 1 = index ∨ place = index) ∨ object = .writeEnd channel ∧ place = index)

/-- What a run holds, while it spawns a stage, are the read end before the stage and the ends behind it. -/
theorem place_of_held {children number : Nat} {object : Object} (fits : run.Fits stages children channels.length)
    (isHeld : (number, object) ∈ run.held channels) :
    run.phase = .spawning run.index ∧ Beside channels run.index object := by
  have found : ∀ place, place < channels.length → channels[place]? = some (channels.getD place 0) := by
    intro place within
    rw [List.getD_eq_getElem?_getD, List.getElem?_eq_getElem within, Option.getD_some]
  have counted : ∀ {later : List Stage}, channels.length = channelsWith run.index later →
      run.index ≤ channels.length ∧ (later.isEmpty = false → run.index < channels.length) := by
    intro later counted
    rw [counted, channelsWith]
    split
    · rename_i last
      exact ⟨Nat.le_refl _, fun more => absurd last (by simp [more])⟩
    · exact ⟨Nat.le_succ _, fun _ => Nat.lt_succ_self _⟩
  have before : 0 < run.index → run.index ≤ channels.length → object = .readEnd (channels.getD (run.index - 1) 0) →
      Beside channels run.index object := fun positive enough same =>
    ⟨_, _, found _ (by omega), .inl ⟨same, .inl (by omega)⟩⟩
  have readBehind : run.index < channels.length → object = .readEnd (channels.getD run.index 0) →
      Beside channels run.index object := fun enough same =>
    ⟨_, _, found _ enough, .inl ⟨same, .inr rfl⟩⟩
  have writeBehind : run.index < channels.length → object = .writeEnd (channels.getD run.index 0) →
      Beside channels run.index object := fun enough same =>
    ⟨_, _, found _ enough, .inr ⟨same, rfl⟩⟩
  have some_of_mem : ∀ {endpoint : Option Nat} {claim : Bool}, endpoint.isSome = claim → endpoint = some number →
      claim = true := by
    rintro endpoint claim isSome rfl
    exact isSome.symm
  cases control : run.control with
  | opening stage later incoming =>
    simp only [held, control, mem_endpoints] at isHeld
    simp only [Fits, control] at fits
    obtain ⟨-, -, reads, -, enough, spawning⟩ := fits
    exact ⟨spawning, before (by simpa using some_of_mem reads isHeld.1) (by omega) isHeld.2⟩
  | forking stage later streams carried =>
    simp only [held, control, List.mem_append, mem_endpoints] at isHeld
    simp only [Fits, control] at fits
    obtain ⟨-, reads, writes, -, carries, -, opened, spawning⟩ := fits
    refine ⟨spawning, ?_⟩
    rcases isHeld with (⟨stdin, same⟩ | ⟨stdout, same⟩) | ⟨read, same⟩
    · exact before (by simpa using some_of_mem reads stdin) (counted opened).1 same
    · exact writeBehind ((counted opened).2 (by simpa using some_of_mem writes stdout)) same
    · exact readBehind ((counted opened).2 (by simpa using some_of_mem carries read)) same
  | closingRead stage later endpoint stdout carried =>
    simp only [held, control, List.mem_cons, List.mem_append, mem_endpoints] at isHeld
    simp only [Fits, control] at fits
    obtain ⟨-, positive, writes, carries, -, opened, spawning⟩ := fits
    refine ⟨spawning, ?_⟩
    rcases isHeld with same | ⟨some, same⟩ | ⟨read, same⟩
    · cases same
      exact before positive (counted opened).1 rfl
    · exact writeBehind ((counted opened).2 (by simpa using some_of_mem writes some)) same
    · exact readBehind ((counted opened).2 (by simpa using some_of_mem carries read)) same
  | closingWrite stage later endpoint carried =>
    simp only [held, control, List.mem_cons, mem_endpoints] at isHeld
    simp only [Fits, control] at fits
    obtain ⟨-, -, -, -, opened, spawning⟩ := fits
    refine ⟨spawning, ?_⟩
    rcases isHeld with same | ⟨read, same⟩
    · cases same
      exact writeBehind (by omega) rfl
    · exact readBehind (by omega) same
  | dropping endpoint others fault =>
    simp only [held, control, List.mem_singleton] at isHeld
    simp only [Fits, control] at fits
    obtain ⟨-, positive, -, -, opened, spawning, -⟩ := fits
    cases isHeld
    exact ⟨spawning, before positive (by omega) rfl⟩
  | _ => simp [held, control] at isHeld

/-- A run that turns to the stages that are left carries the read end of the last channel, if any is left. -/
theorem spawnNext_fits (run : Run) (channels : List Nat) (incoming : Option Nat) (rest : stages.drop run.index = later)
    (started : stages ≠ []) (reached : run.index ≤ stages.length)
    (carries : incoming.isSome = (decide (0 < run.index) && !later.isEmpty)) :
    (run.spawnNext incoming later).Fits stages run.index (if later.isEmpty then run.index - 1 else run.index) ∧
      (run.spawnNext incoming later).held channels =
        endpoints incoming (.readEnd (channels.getD (run.index - 1) 0)) := by
  have counted : run.index + later.length = stages.length := by
    rw [← rest, List.length_drop]
    omega
  cases later with
  | nil =>
    have nonempty : 0 < stages.length := List.length_pos_iff.mpr started
    obtain rfl : incoming = none := by simpa using carries
    simp only [List.length_nil, Nat.add_zero] at counted
    refine ⟨?_, rfl⟩
    simp only [spawnNext, goOn, enter, record, Fits, List.isEmpty_nil, if_true, and_true]
    omega
  | cons stage later =>
    have some : incoming.isSome = decide (0 < run.index) := by simpa using carries
    cases later with
    | nil =>
      refine ⟨⟨rest, some, rfl, by simp, rfl, rfl, ?_, rfl⟩, ?_⟩
      · simp [channelsWith, spawnNext, goOn, enter, record]
      · simp [spawnNext, goOn, enter, record, held]
    | cons next later =>
      exact ⟨⟨rest, rfl, some, rfl, rfl, rfl⟩, rfl⟩

theorem index_lt (rest : stages.drop run.index = stage :: later) : run.index < stages.length := by
  have counted := congrArg List.length rest
  simp only [List.length_drop, List.length_cons] at counted
  omega

theorem drop_succ (rest : stages.drop run.index = stage :: later) : stages.drop (run.index + 1) = later := by
  rw [← List.tail_drop, rest, List.tail_cons]

/-- A run that passes on from a stage carries the read end of the channel behind it. -/
theorem passOn_fits (channels : List Nat) (rest : stages.drop run.index = stage :: later)
    (carries : carried.isSome = !later.isEmpty) :
    (run.passOn later carried).Fits stages (run.index + 1) (channelsWith run.index later) ∧
      (run.passOn later carried).held channels =
        endpoints carried (.readEnd (channels.getD run.index 0)) := by
  have within := index_lt rest
  have started : stages ≠ [] := by
    rintro rfl
    exact absurd within (by simp)
  obtain ⟨fits, holds⟩ := spawnNext_fits { run with index := run.index + 1 } channels carried (drop_succ rest) started
    within (by simpa using carries)
  refine ⟨?_, holds⟩
  simpa [passOn, channelsWith] using fits

theorem closeWrite_fits (channels : List Nat) (rest : stages.drop run.index = stage :: later)
    (spawning : run.phase = .spawning run.index) (writes : stdout.isSome = !later.isEmpty)
    (carries : carried.isSome = !later.isEmpty) :
    (run.closeWrite stage later stdout carried).Fits stages (run.index + 1) (channelsWith run.index later) ∧
      (run.closeWrite stage later stdout carried).held channels =
        endpoints stdout (.writeEnd (channels.getD run.index 0)) ++
          endpoints carried (.readEnd (channels.getD run.index 0)) := by
  cases stdout with
  | none => exact passOn_fits channels rest carries
  | some endpoint =>
    have more : later.isEmpty = false := by simpa using writes
    have counted : channelsWith run.index later = run.index + 1 := by simp [channelsWith, more]
    exact ⟨⟨rest, more, by simpa [more] using carries, rfl, counted, spawning⟩, rfl⟩

theorem closeStreams_fits (run : Run) (channels : List Nat) {streams : Streams}
    (rest : stages.drop run.index = stage :: later)
    (spawning : run.phase = .spawning run.index) (reads : streams.stdin.isSome = decide (0 < run.index))
    (writes : streams.stdout.isSome = !later.isEmpty) (carries : carried.isSome = !later.isEmpty) :
    (run.closeStreams stage later streams carried).Fits stages (run.index + 1) (channelsWith run.index later) ∧
      (run.closeStreams stage later streams carried).held channels =
        endpoints streams.stdin (.readEnd (channels.getD (run.index - 1) 0)) ++
          (endpoints streams.stdout (.writeEnd (channels.getD run.index 0)) ++
            endpoints carried (.readEnd (channels.getD run.index 0))) := by
  unfold closeStreams
  split
  · rename_i endpoint isSome
    have behind : 0 < run.index := by simpa [isSome] using reads
    rw [isSome]
    exact ⟨⟨rest, behind, writes, carries, rfl, rfl, spawning⟩, rfl⟩
  · rename_i isNone
    rw [isNone]
    exact closeWrite_fits channels rest spawning writes carries

/-- A run that begins has made nothing and holds nothing. -/
theorem ofStages_fits (phase : Phase) (stages : List Stage) (channels : List Nat) :
    (ofStages phase stages).Fits stages 0 0 ∧ (ofStages phase stages).held channels = [] := by
  unfold ofStages start
  split
  · exact ⟨.inl ⟨rfl, rfl, rfl⟩, rfl⟩
  · rename_i stage later
    have whole : (stage :: later).drop (fresh phase).index = stage :: later := rfl
    exact spawnNext_fits { fresh phase with stages := some (stage :: later).length } channels none whole (by simp)
      (Nat.zero_le _) rfl

/-- A new channel is held at both ends besides what was held before. -/
theorem resume_opened (made read : Nat) {incoming : Option Nat} {write : Nat}
    (opening : run.control = .opening stage later incoming) (fits : run.Fits stages run.index channels.length) (notZero : write ≠ 0) :
    (run.resume (.ends read write)).Fits stages run.index (channels ++ [made]).length ∧
      (run.resume (.ends read write)).held (channels ++ [made]) =
        run.held channels ++ [(write, .writeEnd made), (read, .readEnd made)] := by
  simp only [Fits, opening] at fits
  obtain ⟨rest, more, reads, -, counted, spawning⟩ := fits
  have last : (channels ++ [made]).getD run.index 0 = made := by
    simp [← counted]
  have first : endpoints incoming (.readEnd ((channels ++ [made]).getD (run.index - 1) 0)) =
      endpoints incoming (.readEnd (channels.getD (run.index - 1) 0)) := by
    cases incoming with
    | none => rfl
    | some endpoint =>
      have behind : 0 < run.index := by simpa using reads
      have within : run.index - 1 < channels.length := by omega
      simp [List.getElem?_append_left within]
  constructor
  · simp only [resume, opening, goOn, record, Fits]
    exact ⟨rest, reads, by simp [more], by simpa using notZero, by simp [more], trivial,
      by simp [channelsWith, more, counted], spawning⟩
  · simp only [resume, opening, goOn, record, held, last, first, endpoints_some, List.append_assoc,
      List.singleton_append]

/-- A run that is refused a channel holds what it held before, until it has dropped it. -/
theorem resume_refused (channels : List Nat) (errno : Errno) {incoming : Option Nat} {count : Nat}
    (opening : run.control = .opening stage later incoming) (fits : run.Fits stages run.index count) :
    (run.resume (.failed errno)).Fits stages run.index count ∧
      (run.resume (.failed errno)).held channels = run.held channels := by
  simp only [Fits, opening] at fits
  obtain ⟨rest, more, reads, -, counted, spawning⟩ := fits
  have within := index_lt rest
  cases incoming with
  | none =>
    simp only [resume, opening, giveUp, goOn, Option.toList, held, endpoints_none, and_true, Fits]
    exact ⟨trivial, within, trivial, counted, spawning⟩
  | some endpoint =>
    have behind : 0 < run.index := by simpa using reads
    simp only [resume, opening, giveUp, goOn, Option.toList, held, endpoints_some, and_true, Fits]
    exact ⟨within, behind, trivial, trivial, counted, spawning, stage, errno, rfl⟩

/-- A run that has made a process holds what it held before. -/
theorem resume_spawned (channels : List Nat) (number : Nat) {streams : Streams} {count : Nat}
    (forking : run.control = .forking stage later streams carried) (fits : run.Fits stages run.index count) :
    (run.resume (.number number)).Fits stages (run.index + 1) count ∧
      (run.resume (.number number)).held channels = run.held channels := by
  simp only [Fits, forking] at fits
  obtain ⟨rest, reads, writes, -, carries, -, counted, spawning⟩ := fits
  subst counted
  have closes := closeStreams_fits ({ run with report := { run.report with spawned := run.report.spawned ++ [number] } }.record
    (.spawned number stage.position stage.program)) channels rest spawning reads writes carries
  simp only [resume, forking, held, List.append_assoc] at closes ⊢
  exact closes

/-- A run that has closed an endpoint does not hold it any more. -/
theorem resume_closed (channels : List Nat) {endpoint children count : Nat} (closing : run.next = some (.close endpoint))
    (fits : run.Fits stages children count) :
    ∃ object rest, run.held channels = (endpoint, object) :: rest ∧
      (run.resume .done).Fits stages children count ∧ (run.resume .done).held channels = rest := by
  cases control : run.control with
  | closingRead stage later closed stdout carried =>
    obtain rfl : closed = endpoint := by simpa [next, control] using closing
    simp only [Fits, control] at fits
    obtain ⟨rest, -, writes, carries, rfl, rfl, spawning⟩ := fits
    obtain ⟨fits, holds⟩ := closeWrite_fits channels rest spawning writes carries
    exact ⟨_, _, by simp only [held, control]; rfl, by simpa only [resume, control] using fits,
      by simpa only [resume, control] using holds⟩
  | closingWrite stage later closed carried =>
    obtain rfl : closed = endpoint := by simpa [next, control] using closing
    simp only [Fits, control] at fits
    obtain ⟨rest, more, carries, rfl, rfl, spawning⟩ := fits
    obtain ⟨fits, holds⟩ := passOn_fits channels rest (by rw [more, carries]; rfl)
    refine ⟨_, _, by simp only [held, control]; rfl, ?_, by simpa only [resume, control] using holds⟩
    simpa only [resume, control, channelsWith, more, Bool.false_eq_true, if_false] using fits
  | dropping closed others fault =>
    obtain rfl : closed = endpoint := by simpa [next, control] using closing
    simp only [Fits, control] at fits
    obtain ⟨within, -, rfl, madeProcesses, madeChannels, spawning, stage, errno, rfl⟩ := fits
    refine ⟨_, [], by simp only [held, control]; rfl, ?_, by simp [resume, control, giveUp, goOn, held]⟩
    simp only [resume, control, giveUp, goOn, Fits]
    exact ⟨trivial, within, madeProcesses, madeChannels, spawning⟩
  | _ => simp [next, control] at closing

/-- A run that waits has made all that it makes, whatever it is answered. -/
theorem resume_waited (channels : List Nat) (reply : Reply) {children count : Nat} (reaping : run.control = .reaping)
    (fits : run.Fits stages children count) :
    (run.resume reply).Fits stages children count ∧ (run.resume reply).held channels = [] := by
  simp only [Fits, reaping] at fits
  obtain ⟨madeProcesses, madeChannels, waiting⟩ := fits
  have same : run.Fits stages children count ∧ run.held channels = [] := by
    simp only [Fits, held, reaping]
    exact ⟨⟨madeProcesses, madeChannels, waiting⟩, trivial⟩
  have failed : ∀ errno, (run.goOn (.finished (.error (.wait errno)))).Fits stages children count ∧
      (run.goOn (.finished (.error (.wait errno)))).held channels = [] :=
    fun _ => ⟨⟨madeProcesses, madeChannels, waiting⟩, rfl⟩
  cases reply with
  | ended process how =>
    simp only [resume, reaping]
    split
    · exact failed _
    · simp only [Fits, held, record]
      exact ⟨⟨madeProcesses, madeChannels, waiting⟩, trivial⟩
  | failed errno =>
    simp only [resume, reaping]
    split
    · exact same
    split
    · unfold complete
      split <;> exact ⟨.inr ⟨madeProcesses, madeChannels⟩, rfl⟩
    · exact failed errno
  | _ => simpa only [resume, reaping] using same

end Run

end Pipework
