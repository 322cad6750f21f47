import Pipework.Bytes

set_option autoImplicit false

/-!
Stages of a pipeline. A stage is a program name at a position; the name has no NUL, so that it can be
passed to the operating system as it stands.
-/

namespace Pipework

/-- One program of a pipeline, started with its own name as the only argument. -/
structure Stage where
  /-- Counted from zero. -/
  position : Nat
  program : String
  nul_not_mem : '\x00' ∉ program.toList
  deriving DecidableEq

namespace Stage

/-- The stage of this name, unless the name holds a NUL. -/
def make? (position : Nat) (program : String) : Option Stage :=
  if absent : '\x00' ∉ program.toList then some ⟨position, program, absent⟩ else none

/-- The bytes under which the program is looked up. -/
def name (stage : Stage) : Bytes := Bytes.ofString stage.program

/-- The argument vector is the name alone. -/
def arguments (stage : Stage) : List Bytes := [stage.name]

/-- A stage is shown as its program name. -/
def display (stage : Stage) : String := stage.program

theorem make?_eq_some_iff {position : Nat} {program : String} {stage : Stage} :
    make? position program = some stage ↔
      stage.position = position ∧ stage.program = program := by
  obtain ⟨place, name, absent⟩ := stage
  unfold make?
  split
  · simp only [Option.some.injEq, Stage.mk.injEq]
    constructor <;> rintro ⟨rfl, rfl⟩ <;> exact ⟨rfl, rfl⟩
  · rename_i present
    simp only [reduceCtorEq, false_iff, not_and]
    rintro rfl rfl
    exact present absent

theorem make?_eq_none_iff {position : Nat} {program : String} :
    make? position program = none ↔ '\x00' ∈ program.toList := by
  unfold make?
  split <;> simp_all

end Stage

end Pipework
