import Pipework.Regex.Basic
import Pipework.Tool.Input

set_option autoImplicit false

/-!
The words of texts with the sentences in which they occur: what a permuted index is made of.
-/

namespace Pipework.Tool

namespace Permuted

/-- A part of a text, from one place up to another. -/
structure Span where
  first : Nat
  last : Nat
  deriving DecidableEq, Repr

/-- What words are made of. -/
inductive WordRule where
  | chars (holds : Char → Bool)
  | regex (regex : Regex)

/-- How words and sentences are told apart. -/
structure Grammar where
  word : WordRule
  /-- What ends a sentence; without it, a text is one sentence. -/
  sentenceEnd : Option Regex
  /-- The text of the regular expression for that. -/
  sentenceText : Text := []
  foldCase : Bool := false
  /-- Whether lines begin with references. -/
  startsWithReference : Bool := false

/-- How a text is searched. -/
def Grammar.matching (grammar : Grammar) : Regex.Matching := { foldCase := grammar.foldCase, byLine := true }

/-- The first match in a part of a text. -/
def findIn? (grammar : Grammar) (regex : Regex) (text : Array Char) (span : Span) : Option Span :=
  (regex.find? grammar.matching none (text.extract span.first span.last).toList).map fun found =>
    let first := span.first + found.before.length
    { first, last := first + found.matched.length }

/-- The place behind the characters at a place for which something holds. -/
def skipWhile (holds : Char → Bool) (text : Array Char) (limit place : Nat) : Nat :=
  if h : place < limit ∧ place < text.size then
    if holds text[place] then skipWhile holds text limit (place + 1) else place
  else place
termination_by limit - place

/-- The place in front of the blanks that end at a place. -/
def backOverBlanks (text : Array Char) (limit : Nat) : Nat → Nat
  | 0 => 0
  | place + 1 =>
    if limit < place + 1 && text[place]?.any isSpace then backOverBlanks text limit place else place + 1

/-- The place behind the word or the single character at a place. -/
def skipSomething (grammar : Grammar) (text : Array Char) (limit place : Nat) : Nat :=
  match grammar.word with
  | .chars holds =>
    if text[place]?.any holds then skipWhile holds text limit place else place + 1
  | .regex regex =>
    match regex.matchAt grammar.matching [] none (text.extract place limit).toList with
    | some found => place + max 1 found.matched.length
    | none => place + 1

/-- The first word in a part of a text; it may be empty. -/
def findWord? (grammar : Grammar) (text : Array Char) (span : Span) : Option Span :=
  match grammar.word with
  | .chars holds =>
    let first := skipWhile (fun char => !holds char) text span.last span.first
    if span.last ≤ first then none else some { first, last := skipWhile holds text span.last first }
  | .regex regex => findIn? grammar regex text span

/-- A word with the sentence in which it occurs. -/
structure Occurrence where
  /-- The index of the text. -/
  source : Nat
  key : Span
  context : Span
  /-- Where the line begins. -/
  lineStart : Nat := 0
  /-- The number of the line, counted through all texts. -/
  line : Nat := 0
  deriving Repr

/-- How far lines were followed. -/
structure LineState where
  /-- Where the line begins. -/
  start : Nat := 0
  place : Nat := 0
  /-- The number of the line, counted through all texts. -/
  line : Nat := 0
  deriving DecidableEq, Repr

/-- The place behind the word in front of the first blank. -/
def skipReference (text : Array Char) (limit place : Nat) : Nat := skipWhile (fun char => !isSpace char) text limit place

/-- Follows lines up to a place. The references in front of lines are passed over. -/
def LineState.follow (text : Array Char) (goal : Nat) (state : LineState) : LineState :=
  if h : state.place < goal ∧ state.place < text.size then
    if text[state.place] = '\n' then
      let start := state.place + 1
      follow text goal { start, place := max start (skipReference text text.size start), line := state.line + 1 }
    else follow text goal { state with place := state.place + 1 }
  else state
termination_by goal - state.place

/-- What is known while the words of a text are collected. -/
structure Finding where
  lines : LineState
  /-- The words found, the last one first. -/
  found : List Occurrence := []
  /-- The length of the longest word, whether it is kept or not. -/
  longest : Nat := 0
  /-- The length of the longest reference of a word that is kept. -/
  widest : Nat := 0

/-- Which words are kept, and what is noted of them. -/
structure Selection where
  keeps : Text → Bool
  grammar : Grammar
  countsLines : Bool

namespace Selection

/-- Takes in a word of a sentence. -/
def addWord (selection : Selection) (source : Nat) (text : Array Char) (context : Span) (finding : Finding)
    (key : Span) : Finding × Span :=
  let refers := selection.grammar.startsWithReference
  let lines := if refers then finding.lines.follow text key.first else finding.lines
  let finding := { finding with lines, longest := max finding.longest (key.last - key.first) }
  let isReference : Bool := refers && key.first < lines.place
  if isReference || !selection.keeps (text.extract key.first key.last).toList then (finding, context)
  else
    let lines := if selection.countsLines then lines.follow text key.first else lines
    let reference := skipReference text text.size lines.start - lines.start
    let context :=
      if refers && lines.start = context.first then
        { context with
          first := skipWhile isSpace text context.last (skipReference text context.last context.first) }
      else context
    ({ finding with
        lines
        found := { source, key, context, lineStart := lines.start, line := lines.line } :: finding.found
        widest := if refers && !selection.countsLines then max finding.widest reference else finding.widest },
      context)

/-- Collects the words of a sentence. -/
def addSentence (selection : Selection) (source : Nat) (text : Array Char) :
    Nat → Span → Nat → Finding → Finding
  | 0, _, _, finding => finding
  | fuel + 1, context, place, finding =>
    match findWord? selection.grammar text { first := place, last := context.last } with
    | none => finding
    | some key =>
      if key.first = key.last then
        if key.first < context.last then selection.addSentence source text fuel context (key.first + 1) finding
        else finding
      else
        let (finding, context) := selection.addWord source text context finding key
        selection.addSentence source text fuel context key.last finding

/-- Collects the words of a text from a place on. Gives none if the end of a sentence is found right where it
begins. -/
def addText (selection : Selection) (source : Nat) (text : Array Char) : Nat → Nat → Finding → Option Finding
  | 0, _, finding => some finding
  | fuel + 1, place, finding =>
    if text.size ≤ place then some finding
    else
      let rest : Span := { first := place, last := text.size }
      let ending := selection.grammar.sentenceEnd.bind fun regex => findIn? selection.grammar regex text rest
      if ending.any (·.first = place) then none
      else
        let next := (ending.map Span.last).getD text.size
        let context : Span := { first := place, last := backOverBlanks text place next }
        let finding := selection.addSentence source text (next - place + 1) context place finding
        selection.addText source text fuel next finding

end Selection

end Permuted

end Pipework.Tool
