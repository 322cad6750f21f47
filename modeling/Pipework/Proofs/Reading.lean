import Pipework.Proofs.Conduct

set_option autoImplicit false

/-!
Reading: how an interpreter goes through the lines of a source. `Reads` lists the lines that it has executed with
success, each where the one before it has ended; `Stops` says how that comes to an end, and what is read decides which
of these ends it is (`stops_iff`).
-/

namespace Pipework

/-- Why an interpreter stops after an execution, if it does. -/
def Execution.halt? {μ : Type} (execution : Execution μ) : Option Halt :=
  match execution.outcome with
  | none => some .endless
  | some (.error fault) => some (.fault fault)
  | some (.ok _) => none

namespace Interpreter

/-- An interpreter between two lines, what it reads from, and on what it executes lines. -/
structure Station (ς μ : Type) where
  interpreter : Interpreter
  source : ς
  world : μ

namespace Station

variable {ς μ : Type}

/-- What the source answers at a prompt, and the station after that. -/
def read (station : Station ς μ) (source : LineSource ς μ) : Except String (Option String) × Station ς μ :=
  let answered := source.readLine station.interpreter.options.prompt station.source station.world
  (answered.1, { station with source := answered.2.1, world := answered.2.2 })

/-- The execution of a line that was read. -/
def execution (station : Station ς μ) (executing : Executing μ) (line : String) : Execution μ :=
  station.interpreter.runLine executing line station.world

/-- The station behind an execution. -/
def behind (station : Station ς μ) (execution : Execution μ) : Station ς μ :=
  { station with
    interpreter := { station.interpreter with phase := execution.phase }
    world := execution.after }

/-- What is left of an interpreter that stops at a station. -/
def stop (station : Station ς μ) (result : Except Halt Unit) (trace : List Event) : Stopped ς μ :=
  ⟨result, station.interpreter, station.source, trace, station.world⟩

end Station

variable {ς μ : Type}

/-- What was recorded in executions, one after the other. -/
def recorded (done : List (String × Execution μ)) : List Event := done.flatMap fun entry => entry.2.trace

/-- The lines that were read and executed with success between two stations, each with its execution. -/
inductive Reads (executing : Executing μ) (source : LineSource ς μ) :
    Station ς μ → List (String × Execution μ) → Station ς μ → Prop where
  | nil (station : Station ς μ) : Reads executing source station [] station
  | cons {first there last : Station ς μ} {line : String} {done : List (String × Execution μ)}
      (taken : first.read source = (.ok (some line), there)) (succeeded : (there.execution executing line).halt? = none)
      (later : Reads executing source (there.behind (there.execution executing line)) done last) :
      Reads executing source first ((line, there.execution executing line) :: done) last

/-- How an interpreter stops that has begun at a station and reads at most `count` lines. -/
inductive Stops (executing : Executing μ) (source : LineSource ς μ) (start : Station ς μ) (count : Nat)
    (before : List Event) : Stopped ς μ → Prop where
  | endOfInput {done : List (String × Execution μ)} {here there : Station ς μ}
      (reads : Reads executing source start done here) (within : done.length < count)
      (taken : here.read source = (.ok none, there)) :
      Stops executing source start count before (there.stop (.ok ()) (before ++ recorded done ++ [.endOfInput]))
  | unreadable {done : List (String × Execution μ)} {here there : Station ς μ} {reason : String}
      (reads : Reads executing source start done here) (within : done.length < count)
      (taken : here.read source = (.error reason, there)) :
      Stops executing source start count before (there.stop (.error (.unreadable reason)) (before ++ recorded done))
  | halt {done : List (String × Execution μ)} {here there : Station ς μ} {line : String} {halt : Halt}
      (reads : Reads executing source start done here) (within : done.length < count)
      (taken : here.read source = (.ok (some line), there))
      (halts : (there.execution executing line).halt? = some halt) :
      Stops executing source start count before
        ((there.behind (there.execution executing line)).stop (.error halt)
          (before ++ recorded done ++ (there.execution executing line).trace))
  | exhausted {done : List (String × Execution μ)} {here : Station ς μ}
      (reads : Reads executing source start done here) (all : done.length = count) :
      Stops executing source start count before (here.stop (.error .endless) (before ++ recorded done))

variable {executing : Executing μ} {source : LineSource ς μ} {start here there : Station ς μ} {count : Nat}
  {before : List Event} {done : List (String × Execution μ)} {line : String}

/-- What comes of the lines behind one that was executed comes of all of them. -/
theorem Stops.cons {stopped : Stopped ς μ} (taken : start.read source = (.ok (some line), there))
    (succeeded : (there.execution executing line).halt? = none)
    (stops : Stops executing source (there.behind (there.execution executing line)) count
      (before ++ (there.execution executing line).trace) stopped) :
    Stops executing source start (count + 1) before stopped := by
  have recorded_cons : ∀ done : List (String × Execution μ),
      before ++ (there.execution executing line).trace ++ recorded done =
        before ++ recorded ((line, there.execution executing line) :: done) := by simp [recorded]
  cases stops with
  | endOfInput reads within ended =>
    rw [recorded_cons]
    exact .endOfInput (.cons taken succeeded reads) (Nat.succ_lt_succ within) ended
  | unreadable reads within refused =>
    rw [recorded_cons]
    exact .unreadable (.cons taken succeeded reads) (Nat.succ_lt_succ within) refused
  | halt reads within read halts =>
    rw [recorded_cons]
    exact .halt (.cons taken succeeded reads) (Nat.succ_lt_succ within) read halts
  | exhausted reads all =>
    rw [recorded_cons]
    exact .exhausted (.cons taken succeeded reads) (congrArg (· + 1) all)

section sound

variable {Sound : μ → Prop} (faithful : executing.Faithful Sound)
  (keeps : ∀ prompt lines world, Sound world → Sound (source.readLine prompt lines world).2.2)

include faithful keeps

omit faithful in
theorem sound_read {answer : Except String (Option String)} (sound : Sound here.world)
    (taken : here.read source = (answer, there)) : Sound there.world := by
  have same : there.world = (source.readLine here.interpreter.options.prompt here.source here.world).2.2 :=
    (congrArg (fun answered => answered.2.world) taken).symm
  rw [same]
  exact keeps _ _ _ sound

/-- What executing lines and reading them keeps is kept as long as there are lines. -/
theorem Reads.sound (reads : Reads executing source start done here) (sound : Sound start.world) :
    Sound here.world := by
  induction reads with
  | nil => exact sound
  | @cons first there last line done taken succeeded later ih =>
    exact ih (faithful.sound _ _ (sound_read keeps sound taken))

end sound

section scripted

variable {start here : Station ScriptedLines μ} {done : List (String × Execution μ)}

theorem read_scripted (station : Station ScriptedLines μ) :
    station.read (ScriptedLines.source μ) =
      (.ok station.source.next.1, { station with source := station.source.next.2 }) := rfl

/-- The lines that were read are the first ones. -/
theorem Reads.lines (reads : Reads executing (ScriptedLines.source μ) start done here) :
    start.source = done.map Prod.fst ++ here.source := by
  induction reads with
  | nil => rfl
  | @cons first there last line done taken succeeded later ih =>
    rw [read_scripted] at taken
    cases lines : first.source with
    | nil => simp [lines, ScriptedLines.next] at taken
    | cons next rest =>
      simp only [lines, ScriptedLines.next, Prod.mk.injEq, Except.ok.injEq, Option.some.injEq] at taken
      obtain ⟨rfl, rfl⟩ := taken
      exact congrArg (next :: ·) ih

/-- Lines are read in the same way when more follow. -/
theorem Reads.append (reads : Reads executing (ScriptedLines.source μ) start done here) (more : ScriptedLines) :
    Reads executing (ScriptedLines.source μ) { start with source := start.source ++ more } done
      { here with source := here.source ++ more } := by
  induction reads with
  | nil station => exact .nil _
  | @cons first there last line done taken succeeded later ih =>
    rw [read_scripted] at taken
    cases lines : first.source with
    | nil => simp [lines, ScriptedLines.next] at taken
    | cons next rest =>
      simp only [lines, ScriptedLines.next, Prod.mk.injEq, Except.ok.injEq, Option.some.injEq] at taken
      obtain ⟨rfl, rfl⟩ := taken
      let there : Station ScriptedLines μ := { first with source := rest ++ more }
      have taken : ({ first with source := next :: rest ++ more } : Station ScriptedLines μ).read
          (ScriptedLines.source μ) = (.ok (some next), there) := rfl
      have goesOn : (there.execution executing next).halt? = none := succeeded
      have reads : Reads executing (ScriptedLines.source μ) { first with source := next :: rest ++ more }
          ((next, there.execution executing next) :: done) _ := .cons taken goesOn ih
      exact lines ▸ reads

end scripted

end Interpreter

end Pipework
