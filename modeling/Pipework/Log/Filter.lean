import Pipework.Log.Pattern
import Pipework.Text.LetterCase

set_option autoImplicit false

/-!
Filters: which log records are shown. A filter is read from a list of directives such as
`store::index=debug,[{key}]=trace,warn`; of those that fit a record, the one with the longest target and the
most fields decides.
-/

namespace Pipework.Log

/-- How important a record is. -/
inductive Level where
  | error
  | warn
  | info
  | debug
  | trace
  deriving DecidableEq, Repr

/-- How far a limit reaches; a higher number admits more. -/
def Level.rank : Level → Nat
  | error => 1
  | warn => 2
  | info => 3
  | debug => 4
  | trace => 5

def Level.display : Level → String
  | error => "ERROR"
  | warn => "WARN"
  | info => "INFO"
  | debug => "DEBUG"
  | trace => "TRACE"

/-- The rank that admits every record. -/
def highestRank : Nat := 5

/-- The rank that a text gives as a limit, by number or by name in any case. -/
def rank? (text : List Char) : Option Nat :=
  let digits :=
    match text with
    | '+' :: rest => rest
    | _ => text
  if !digits.isEmpty && digits.all Char.isDigit then
    let value := digits.foldl (fun value char => value * 10 + (char.toNat - '0'.toNat)) 0
    if value ≤ highestRank then some value else none
  else
    match String.ofList (text.map Char.toLower) with
    | "" | "error" => some 1
    | "warn" => some 2
    | "info" => some 3
    | "debug" => some 4
    | "trace" => some 5
    | "off" => some 0
    | _ => none

/-- A limit for the records whose target begins with the given text and that have the given fields. -/
structure Directive where
  target : Option String := none
  fields : List String := []
  /-- Whether it is about spans only, of which there are none. -/
  spanned : Bool := false
  rank : Nat := highestRank
  deriving DecidableEq, Repr

namespace Directive

/-- Where the reading of a directive stands; the numbers are places in its text. -/
inductive Place where
  | start
  | levelOrTarget
  | span (start : Nat)
  | field (start : Nat)
  | afterFields
  | afterSpan
  | level (start : Nat)
  deriving DecidableEq, Repr

/-- A part of a text, from one place up to another. -/
def slice (text : List Char) (first last : Nat) : List Char := (text.take last).drop first

/-- Whether a directive can begin with a character. -/
def canBegin (char : Char) : Bool :=
  ['-', ':', '_'].contains char || Text.inRanges Text.alphanumeric char

/-- The value that a field is given behind its name, if it is given one. -/
def fieldValue? (text : List Char) : Option (List Char) :=
  match text.dropWhile (· != '=') with
  | [] => none
  | _ :: rest => some (rest.takeWhile (· != '='))

/-- A directive with one more field. A field with a value is one of spans. -/
def addField? (directive : Directive) (text : List Char) : Option Directive :=
  let value? := fieldValue? text
  if text.isEmpty || !value?.all isFieldValue then none
  else
    some { directive with
      fields := directive.fields ++ [String.ofList (text.takeWhile (· != '='))]
      spanned := directive.spanned || value?.isSome }

/-- Reads the character at a place of a directive. -/
def readChar (text : List Char) (index : Nat) (char : Char) :
    Place → Directive → Option (Place × Directive)
  | .start, directive =>
    if char = '[' then some (.span (index + 1), directive)
    else if canBegin char then some (.levelOrTarget, directive)
    else none
  | .levelOrTarget, directive =>
    let named := { directive with target := some (String.ofList (slice text 0 index)) }
    if char = '=' then some (.level (index + 1), named)
    else if char = '[' then some (.span (index + 1), named)
    else some (.levelOrTarget, directive)
  | .span start, directive =>
    if char = ']' then some (.afterSpan, { directive with spanned := true })
    else if char = '\x7b' then some (.field (index + 1), { directive with spanned := start < index })
    else some (.span start, directive)
  | .field start, directive =>
    if char = '\x7d' then (directive.addField? (slice text start index)).map (.afterFields, ·)
    else some (.field start, directive)
  | .afterFields, directive => if char = ']' then some (.afterSpan, directive) else none
  | .afterSpan, directive => if char = '=' then some (.level (index + 1), directive) else none
  | .level start, directive => some (.level start, directive)

/-- Reads all characters. -/
def readChars (text : List Char) : Nat → List Char → Place → Directive → Option (Place × Directive)
  | _, [], place, directive => some (place, directive)
  | index, char :: rest, place, directive =>
    (readChar text index char place directive).bind fun (place, directive) =>
      readChars text (index + 1) rest place directive

/-- A text without the blanks around it. -/
def trim (text : List Char) : List Char :=
  let isBlank := Text.inRanges Text.whiteSpace
  ((text.dropWhile isBlank).reverse.dropWhile isBlank).reverse

/-- The directive that a text gives. A target without a limit admits every record. -/
def ofText? (text : List Char) : Option Directive :=
  (readChars text 0 (trim text) .start {}).bind fun (place, directive) =>
    match place with
    | .levelOrTarget =>
      match rank? text with
      | some rank => some { directive with target := none, rank }
      | none => some { directive with target := some (String.ofList text) }
    | .level start =>
      let level := text.drop start
      if level.isEmpty then some directive else (rank? level).map ({ directive with rank := · })
    | .afterSpan => some directive
    | _ => none

/-- Whether a directive is about records with a target and fields. -/
def fits (directive : Directive) (target : String) (fields : List String) : Bool :=
  !directive.spanned && directive.fields.all fields.contains &&
    (directive.target.all fun wanted => wanted.toList.isPrefixOf target.toList)

/-- Whether one directive says at least as much about records as another: by its target, then by its
fields. -/
def atLeastAsNarrow (directive other : Directive) : Bool :=
  let size (directive : Directive) : Nat := (directive.target.map (·.utf8ByteSize + 1)).getD 0
  if size directive = size other then
    if directive.fields.length = other.fields.length then
      if directive.target = other.target then
        !(directive.fields < other.fields)
      else other.target.getD "" < directive.target.getD ""
    else other.fields.length < directive.fields.length
  else size other < size directive

end Directive

/-- Which records are shown. -/
abbrev Filter := List Directive

namespace Filter

/-- What commas separate, without the empty pieces. -/
def pieces (text : List Char) : List (List Char) :=
  (text.splitOnP (· = ',')).filter (! ·.isEmpty)

/-- Reads directives, all of them or none. -/
def readAll : List (List Char) → Option Filter
  | [] => some []
  | piece :: later =>
    match Directive.ofText? piece, readAll later with
    | some directive, some directives => some (directive :: directives)
    | _, _ => none

/-- The filter that a text gives. One without directives shows errors only. -/
def ofString? (text : String) : Option Filter :=
  (readAll (pieces text.toList)).map fun directives =>
    if directives.isEmpty then [{ rank := Level.error.rank }] else directives

/-- The directives in the order in which they count: those without fields before those with fields. -/
def ordered (filter : Filter) : Filter :=
  filter.filter (·.fields.isEmpty) ++ filter.filter (! ·.fields.isEmpty)

/-- The limit for records with a target and fields. Of directives that say the same the last counts. -/
def rankFor (filter : Filter) (target : String) (fields : List String) : Nat :=
  let best : Option Directive := (ordered filter).foldl (fun best directive =>
    if directive.fits target fields && best.all directive.atLeastAsNarrow then some directive
    else best) none
  (best.map Directive.rank).getD 0

/-- Whether a record is shown. -/
def admits (filter : Filter) (target : String) (fields : List String) (level : Level) : Bool :=
  level.rank ≤ filter.rankFor target fields

/-- What is shown when nothing is asked for: warnings, and the work of this program if it is verbose. -/
def standard (verbose : Bool) : Filter :=
  let warnings : Directive := { rank := Level.warn.rank }
  if verbose then [{ target := some "pipeline_shell", rank := Level.debug.rank }, warnings]
  else [warnings]

/-- The filter of a run: the one asked for, if it can be read, else the standard one. -/
def choose (wanted : Option String) (verbose : Bool) : Filter :=
  (wanted.bind ofString?).getD (standard verbose)

end Filter

end Pipework.Log
