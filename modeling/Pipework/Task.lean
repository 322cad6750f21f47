import Pipework.Kernel.Call

set_option autoImplicit false

/-!
Tasks: programs written as trees of system calls. A task has ended with a value, or makes a call and
goes on as the answer says.
-/

namespace Pipework

open Kernel (Call Reply)

/-- A program that makes system calls and ends with a value. -/
inductive Task (α : Type) where
  | done (value : α)
  | call (request : Call) (following : Reply → Task α)

namespace Task

variable {α β : Type}

/-- Goes on with another task where the first has ended. -/
def bind : Task α → (α → Task β) → Task β
  | done value, next => next value
  | call request following, next => call request fun reply => bind (following reply) next

instance : Monad Task where
  pure := done
  bind := bind

/-- Makes one call. -/
def ask (request : Call) : Task Reply := call request done

/-- The call that a task makes next, unless it has ended. -/
def next : Task α → Option Call
  | done _ => none
  | call request _ => some request

/-- How a task goes on with an answer. -/
def resume : Task α → Reply → Task α
  | done value, _ => done value
  | call _ following, reply => following reply

theorem bind_done (task : Task α) : task.bind done = task := by
  induction task with
  | done value => rfl
  | call request following ih => simp only [bind, ih]

theorem bind_assoc {γ : Type} (task : Task α) (second : α → Task β) (third : β → Task γ) :
    (task.bind second).bind third = task.bind fun value => (second value).bind third := by
  induction task with
  | done value => rfl
  | call request following ih => simp only [bind, ih]

end Task

end Pipework
