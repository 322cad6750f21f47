import Pipework.Editor.Draft
import Pipework.Editor.Key

set_option autoImplicit false

/-!
Editing commands, and how they are named in diagnostics.
-/

namespace Pipework.Editor

/-- How a search for a character goes. -/
inductive CharSearch where
  | backward (char : Char)
  | forwardBefore (char : Char)
  deriving DecidableEq, Repr

/-- A way through a draft. -/
inductive Movement where
  | lineStart
  | lineEnd
  | charBackward (count : Nat)
  | charForward (count : Nat)
  | wordBackward (count : Nat) (kind : WordKind)
  | wordForward (count : Nat) (kind : WordKind)
  | charSearch (count : Nat) (search : CharSearch)
  deriving DecidableEq, Repr

/-- What becomes of the letters of a word. -/
inductive WordAction where
  | capitalize
  | lowercase
  | uppercase
  deriving DecidableEq, Repr

/-- An editing command. -/
inductive Command where
  | abort
  | accept
  | firstOfHistory
  | lastOfHistory
  | word (action : WordAction)
  | clearScreen
  | complete
  | completeBackward
  | ended
  | forwardSearch
  | reverseSearch
  | insert (text : List Char)
  | interrupt
  | kill (movement : Movement)
  | move (movement : Movement)
  | lineDown (count : Nat)
  | lineUp (count : Nat)
  | nextOfHistory
  | previousOfHistory
  | nothing
  /-- Puts in the character that is typed next, whatever it is. -/
  | quoted (char : Char)
  | self (count : Nat) (char : Char)
  | suspend
  | transposeChars
  | transposeWords (count : Nat)
  | undo (count : Nat)
  | unknown
  | yank (count : Nat)
  | yankEarlier
  deriving DecidableEq, Repr

def WordKind.display : WordKind → String
  | plain => "Emacs"
  | big => "Big"

def CharSearch.display : CharSearch → String
  | backward char => "Backward(" ++ Key.quoteChar char ++ ")"
  | forwardBefore char => "ForwardBefore(" ++ Key.quoteChar char ++ ")"

def Movement.display : Movement → String
  | lineStart => "BeginningOfLine"
  | lineEnd => "EndOfLine"
  | charBackward count => "BackwardChar(" ++ toString count ++ ")"
  | charForward count => "ForwardChar(" ++ toString count ++ ")"
  | wordBackward count kind => "BackwardWord(" ++ toString count ++ ", " ++ kind.display ++ ")"
  | wordForward count kind => "ForwardWord(" ++ toString count ++ ", AfterEnd, " ++ kind.display ++ ")"
  | charSearch count search => "ViCharSearch(" ++ toString count ++ ", " ++ search.display ++ ")"

namespace Command

def display : Command → String
  | abort => "Abort"
  | accept => "AcceptOrInsertLine \x7b accept_in_the_middle: true \x7d"
  | firstOfHistory => "BeginningOfHistory"
  | lastOfHistory => "EndOfHistory"
  | word .capitalize => "CapitalizeWord"
  | word .lowercase => "DowncaseWord"
  | word .uppercase => "UpcaseWord"
  | clearScreen => "ClearScreen"
  | complete => "Complete"
  | completeBackward => "CompleteBackward"
  | ended => "EndOfFile"
  | forwardSearch => "ForwardSearchHistory"
  | reverseSearch => "ReverseSearchHistory"
  | insert text => "Insert(1, " ++ Text.Quoted.quote (String.ofList text) ++ ")"
  | interrupt => "Interrupt"
  | kill movement => "Kill(" ++ movement.display ++ ")"
  | move movement => "Move(" ++ movement.display ++ ")"
  | lineDown count => "LineDownOrNextHistory(" ++ toString count ++ ")"
  | lineUp count => "LineUpOrPreviousHistory(" ++ toString count ++ ")"
  | nextOfHistory => "NextHistory"
  | previousOfHistory => "PreviousHistory"
  | nothing => "Noop"
  | quoted _ => "QuotedInsert"
  | self count char => "SelfInsert(" ++ toString count ++ ", " ++ Key.quoteChar char ++ ")"
  | suspend => "Suspend"
  | transposeChars => "TransposeChars"
  | transposeWords count => "TransposeWords(" ++ toString count ++ ")"
  | undo count => "Undo(" ++ toString count ++ ")"
  | unknown => "Unknown"
  | yank count => "Yank(" ++ toString count ++ ", Before)"
  | yankEarlier => "YankPop"

/-- Whether texts that are killed after the command are kept apart from those that were killed before. -/
def endsKilling : Command → Bool
  | kill (.charBackward _) | kill (.charForward _) => true
  | clearScreen | kill _ | nothing | suspend | yank _ | yankEarlier => false
  | _ => true

end Command

end Pipework.Editor
