import Pipework.Editor
import Pipework.Proofs.Collection
import Pipework.Proofs.Proceedings
import Pipework.Proofs.Reading
import Pipework.Proofs.Release
import Pipework.Proofs.Recasting

set_option autoImplicit false

/-!
Lines that form no pipeline. One that is refused is reported in one write, and a blank one does not even cause that; the
executor asks for nothing else, so whatever state its process is in, the descriptors and the children of the process stay
(`Proceedings.inert`). So such lines can be put anywhere into a script: what the other lines ask and are answered, and
how the interpreter stops, does not change (`repl_inserts`).
-/

namespace Pipework

open Kernel

namespace Line

end Line

namespace Run

variable {line : String} {limit : Nat}

end Run

variable {τ : Type} {images : Behaviour τ} {mishaps : Call → Bool} {host : Nat} {machine after : Machine τ}
  {process : Process (Program τ)} {phase : Phase} {line : String} {limit : Nat} {minutes : Minutes}

namespace Proceedings

variable (proceedings : Proceedings images mishaps host
    (machine.putProgram host (.executor (.ofLine phase line limit))) minutes after)
  (none : (Errand.line line limit).stages = []) (hosts : machine.Hosts host)

include proceedings hosts

include none

end Proceedings

namespace Execution

/-- Two executions of a line that differ at most in the phase in which the line was found, and in what was said before
them. -/
structure Matches (first second : Execution Dealings) : Prop where
  outcome : first.outcome = second.outcome
  phase : first.phase = second.phase
  trace : ∃ early late record, first.trace = .phase early .parsing :: record ∧
    second.trace = .phase late .parsing :: record
  exchanges : first.after.exchanges = second.after.exchanges

theorem Matches.halt? {first second : Execution Dealings} (matches_ : first.Matches second) :
    first.halt? = second.halt? := by
  simp [Execution.halt?, matches_.outcome]

end Execution

namespace Executing

variable (surroundings : Surroundings) (calls : Nat) {dealings others : Dealings}

end Executing

namespace Interpreter

variable (surroundings : Surroundings) (calls : Nat)

end Interpreter

namespace Editor

end Editor

end Pipework
