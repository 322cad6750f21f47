import Pipework.Line

set_option autoImplicit false

/-!
Options of the program, and their reading from an argument list. `Options.ofArguments` answers with
the options, or with the reason to stop early: help was asked for, or an argument was not understood.
-/

namespace Pipework

/-- The settings of one run of the program. -/
structure Options where
  /-- Shown before each line. -/
  prompt : String := "> "
  /-- The most stages that one line may hold. -/
  maxStages : UInt64 := Line.defaultLimit.toUInt64
  /-- Whether to forget lines once they are read. -/
  noHistory : Bool := false
  /-- Whether to log what the executor does. -/
  verbose : Bool := false
  deriving DecidableEq, Repr

namespace Options

/-- Why a text is not a number. -/
inductive NumberError where
  | empty
  | invalidDigit
  | tooLarge
  deriving DecidableEq, Repr

def NumberError.message : NumberError → String
  | empty => "cannot parse integer from empty string"
  | invalidDigit => "invalid digit found in string"
  | tooLarge => "number too large to fit in target type"

/-- Continues a number with decimal digits, as long as it fits into 64 bits. -/
def numberFrom (value : UInt64) : List Char → Except NumberError UInt64
  | [] => .ok value
  | char :: rest =>
    if char.isDigit then
      let next := value.toNat * 10 + (char.toNat - '0'.toNat)
      if next < UInt64.size then numberFrom next.toUInt64 rest else .error .tooLarge
    else .error .invalidDigit

/-- Reads a number: decimal digits, with at most one plus sign before them. -/
def number (text : String) : Except NumberError UInt64 :=
  match text.toList with
  | [] => .error .empty
  | '+' :: digit :: rest => numberFrom 0 (digit :: rest)
  | chars => numberFrom 0 chars

/-- Why an argument list gives no options. -/
inductive ArgumentError where
  | unrecognized (argument : String)
  | afterHelp
  | noValue (option : String)
  | badValue (option value : String) (reason : NumberError)
  | repeated (option value : String)
  deriving DecidableEq, Repr

/-- The diagnostic for a refused argument list. -/
def ArgumentError.message : ArgumentError → String
  | unrecognized argument => "Unrecognized argument: " ++ argument ++ "\n"
  | afterHelp => "Trailing arguments are not allowed after \x60help\x60."
  | noValue option => "No value provided for option '" ++ option ++ "'.\n"
  | badValue option value reason =>
    "Error parsing option '" ++ option ++ "' with value '" ++ value ++ "': " ++ reason.message ++ "\n"
  | repeated option value =>
    "Error parsing option '" ++ option ++ "' with value '" ++ value ++
      "': duplicate values provided\n"

/-- What has been read of an argument list so far. -/
structure Reading where
  prompt : Option String := none
  maxStages : Option UInt64 := none
  noHistory : Bool := false
  verbose : Bool := false
  /-- Whether help was asked for. -/
  help : Bool := false
  /-- Whether two hyphens have ended the options. -/
  ended : Bool := false
  deriving DecidableEq, Repr

/-- Options that were not given keep their defaults. -/
def Reading.options (reading : Reading) : Options where
  prompt := reading.prompt.getD { : Options }.prompt
  maxStages := reading.maxStages.getD { : Options }.maxStages
  noHistory := reading.noHistory
  verbose := reading.verbose

/-- What an argument asks for by itself. -/
inductive Argument where
  | help
  | endOfOptions
  | prompt
  | maxStages
  | noHistory
  | verbose
  | unknownOption
  | positional
  deriving DecidableEq, Repr

/-- The meaning of an argument while options are read. -/
def Argument.ofString (text : String) : Argument :=
  match text with
  | "--help" | "help" => help
  | "--" => endOfOptions
  | "--prompt" => prompt
  | "--max-stages" => maxStages
  | "--no-history" => noHistory
  | "-v" | "--verbose" => verbose
  | _ => if text.toList.head? = some '-' then unknownOption else positional

/-- Whether nothing of this kind may follow a request for help. -/
def Argument.isOption : Argument → Bool
  | help | endOfOptions | positional => false
  | prompt | maxStages | noHistory | verbose | unknownOption => true

/-- Reads the rest of an argument list. An option with a value takes the argument after it, whatever
that argument looks like. -/
def read (reading : Reading) : List String → Except ArgumentError Reading
  | [] => .ok reading
  | text :: rest =>
    let argument := if reading.ended then .positional else Argument.ofString text
    if reading.help && argument.isOption then .error .afterHelp
    else
      match argument with
      | .help => read { reading with help := true } rest
      | .endOfOptions => read { reading with ended := true } rest
      | .noHistory => read { reading with noHistory := true } rest
      | .verbose => read { reading with verbose := true } rest
      | .unknownOption | .positional => .error (.unrecognized text)
      | .prompt =>
        match rest with
        | [] => .error (.noValue text)
        | value :: later =>
          if reading.prompt.isSome then .error (.repeated text value)
          else read { reading with prompt := some value } later
      | .maxStages =>
        match rest with
        | [] => .error (.noValue text)
        | value :: later =>
          if reading.maxStages.isSome then .error (.repeated text value)
          else
            match number value with
            | .error reason => .error (.badValue text value reason)
            | .ok limit => read { reading with maxStages := some limit } later

/-- The description of the options, for a program run under this name. -/
def usage (name : String) : String :=
  "Usage: " ++ name ++ " [--prompt <prompt>] [--max-stages <max-stages>] [--no-history] [-v]\n\n" ++
    "Read lines from the terminal and run them as pipelines of programs separated by \x60|\x60.\n\n" ++
    "Options:\n" ++
    "  --prompt          prompt printed before each line.\n" ++
    "  --max-stages      maximum number of stages accepted in one line.\n" ++
    "  --no-history      do not keep an in-memory line history.\n" ++
    "  -v, --verbose     log spawns, channels and reaped statuses to stderr.\n" ++
    "  --help, help      display usage information\n"

/-- Why no run follows the reading of the arguments. -/
inductive EarlyExit where
  | help
  | failure (reason : ArgumentError)
  deriving DecidableEq, Repr

/-- What is shown on an early exit. -/
def EarlyExit.output (name : String) : EarlyExit → String
  | help => usage name
  | failure reason => reason.message

/-- The options given by an argument list. -/
def ofArguments (arguments : List String) : Except EarlyExit Options :=
  match read {} arguments with
  | .error reason => .error (.failure reason)
  | .ok reading => if reading.help then .error .help else .ok reading.options

end Options

end Pipework
