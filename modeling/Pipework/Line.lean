import Pipework.Stage

set_option autoImplicit false

/-!
Lines of input. A line is a sequence of names with delimiters between them; there is no quoting, so a
delimiter never belongs to a name. The main definition is `Line.stages`, which refuses a line that is
too long before it looks for names that cannot be passed on.
-/

namespace Pipework.Line

/-- The most stages that a line may hold unless another limit is asked for. -/
def defaultLimit : Nat := 100

/-- Blanks and bars stand between names. -/
def isDelimiter (char : Char) : Bool := char = ' ' || char = '\t' || char = '|'

/-- The maximal non-empty runs of characters that are no delimiters, from left to right. -/
def words : List Char → List (List Char)
  | [] => []
  | char :: rest =>
    if isDelimiter char then words rest
    else (char :: rest.takeWhile (! isDelimiter ·)) :: words (rest.dropWhile (! isDelimiter ·))
termination_by line => line.length
decreasing_by
  · simp
  · exact Nat.lt_succ_of_le (List.dropWhile_sublist _).length_le

/-- Why a line forms no pipeline. -/
inductive Error where
  | tooManyStages (count limit : Nat)
  | interiorNul (position : Nat)
  deriving DecidableEq, Repr

/-- The diagnostic for a refused line. -/
def Error.message : Error → String
  | .tooManyStages count limit => s!"too many stages: {count} (limit is {limit})"
  | .interiorNul position => s!"stage {position}: program name contains a NUL byte"

/-- Numbers the names from a position on, and stops at the first that holds a NUL. -/
def stagesFrom (position : Nat) : List (List Char) → Except Error (List Stage)
  | [] => .ok []
  | word :: later =>
    match Stage.make? position (String.ofList word) with
    | none => .error (.interiorNul position)
    | some stage => (stagesFrom (position + 1) later).map (stage :: ·)

/-- The stages of a line that holds at most `limit` of them. The count is checked first, so a line
that is too long is refused whatever its names hold. -/
def stages (line : String) (limit : Nat) : Except Error (List Stage) :=
  let names := words line.toList
  if limit < names.length then .error (.tooManyStages names.length limit)
  else stagesFrom 0 names

end Pipework.Line
