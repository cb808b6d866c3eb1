import Formulary.CommandLine.Settings
import Formulary.Decimal.Reader

/-! The arguments of the command line. They are taken one after the other, and the first
which is wrong, or which asks for help or the version, decides. What a run does with its settings
does not depend on how they are parsed.
-/

namespace Formulary.CommandLine

/-- The options which take a value. -/
inductive ValueOption where
  | formula
  | argument
  | format
  | logLevel
deriving DecidableEq

/-- The options without a value. -/
inductive Flag where
  | strict
  | tokens
  | help
  | version
deriving DecidableEq

/-- What is wrong with the arguments. -/
inductive UsageError where
  | unexpectedArgument (text : String)
  | missingValue (option : ValueOption)
  | invalidValue (option : ValueOption) (text : String)
  | unneededValue (flag : Flag)
  | repeatedOption (name : String)

/-- What the arguments ask for. -/
inductive Request where
  | evaluate (settings : Settings)
  | showHelp
  | showVersion

/-- What a single argument is. -/
inductive Word where
  /-- No option follows. -/
  | separator
  | flag (flag : Flag)
  /-- An option and the value written together with it, if any. -/
  | setting (option : ValueOption) (attached : Option String)
  | misused (error : UsageError)

/-- The option as the user writes it. -/
def ValueOption.name : ValueOption → String
  | formula => "--formula"
  | argument => "-x"
  | format => "--format"
  | logLevel => "--log-level"

/-- The flag as the user writes it. -/
def Flag.name : Flag → String
  | strict => "--strict"
  | tokens => "--tokens"
  | help => "--help"
  | version => "--version"

/-- The error in words. -/
def UsageError.message : UsageError → String
  | unexpectedArgument text => "unexpected argument '" ++ text ++ "' found"
  | missingValue option =>
      "a value is required for '" ++ option.name ++ "' but none was supplied"
  | invalidValue option text =>
      "invalid value '" ++ text ++ "' for '" ++ option.name ++ "'"
  | unneededValue flag => "no value is expected for '" ++ flag.name ++ "'"
  | repeatedOption name => "the argument '" ++ name ++ "' cannot be used multiple times"

/-- The format with the name. -/
def TreeFormat.ofName? (name : String) : Option TreeFormat :=
  if name = "text" then some text
  else if name = "debug" then some outline
  else if name = "json" then some json
  else none

namespace LogLevel

/-- The level with the number. -/
def ofNumber? : Nat → Option LogLevel
  | 1 => some error
  | 2 => some warn
  | 3 => some info
  | 4 => some debug
  | 5 => some trace
  | _ => none

/-- The level with the name, in any case, or with the number. -/
def ofText? (text : String) : Option LogLevel :=
  let chars := text.toList.map Char.toLower
  let digits := match chars with
    | '+' :: digits => digits
    | digits => digits
  if !digits.isEmpty && digits.all Char.isDigit then
    ofNumber? (Nat.ofDigitChars 10 digits 0)
  else if chars = "error".toList then some error
  else if chars = "warn".toList then some warn
  else if chars = "info".toList then some info
  else if chars = "debug".toList then some debug
  else if chars = "trace".toList then some trace
  else none

end LogLevel

/-- The characters after a minus sign make a negative number: digits, a fraction if any,
and a power of ten without a sign, after the letter e in either case.
-/
def isNumberLike (text : List Char) : Bool :=
  let (numeral, rest) := Numeral.scan ['.'] (text.map Char.toLower)
  rest.isEmpty && numeral.isComplete && !numeral.whole.isEmpty
    && numeral.power.all fun part => part.sign.isNone

/-- The next argument can be the value of the option. One which looks like an option
cannot, unless the value is a number.
-/
def ValueOption.takes (option : ValueOption) (text : String) : Bool :=
  match text.toList with
  | '-' :: c :: rest => option = argument && isNumberLike (c :: rest)
  | _ => true

namespace Word

/-- An option with a long name. -/
def ofLong (argument : String) (name : String) (attached : Option String) : Word :=
  let ofFlag (found : Flag) : Word :=
    if attached.isSome then misused (.unneededValue found) else flag found
  if name = "formula" then setting .formula attached
  else if name = "format" then setting .format attached
  else if name = "log-level" then setting .logLevel attached
  else if name = "strict" then ofFlag .strict
  else if name = "tokens" then ofFlag .tokens
  else if name = "help" then ofFlag .help
  else if name = "version" then ofFlag .version
  else misused (.unexpectedArgument argument)

/-- The value written behind a short option. -/
def attachedValue : List Char → Option String
  | [] => none
  | '=' :: value => some (String.ofList value)
  | value => some (String.ofList value)

/-- What an argument is which is not the value of an option. -/
def ofArgument (argument : String) : Word :=
  match argument.toList with
  | ['-', '-'] => separator
  | '-' :: '-' :: long =>
      let attached := match long.dropWhile (· ≠ '=') with
        | [] => none
        | _ :: value => some (String.ofList value)
      ofLong argument (String.ofList (long.takeWhile (· ≠ '='))) attached
  | '-' :: 'f' :: rest => setting .formula (attachedValue rest)
  | '-' :: 'x' :: rest => setting .argument (attachedValue rest)
  | '-' :: 'h' :: _ => flag .help
  | '-' :: 'V' :: _ => flag .version
  | _ => misused (.unexpectedArgument argument)

end Word

namespace Settings

/-- The settings with the value of an option. -/
def set (settings : Settings) (option : ValueOption) (text : String)
    : Except UsageError Settings :=
  match option with
  | .formula =>
      if settings.formula.isSome then .error (.repeatedOption option.name)
      else .ok { settings with formula := some text }
  | .argument =>
      match Decimal.readFloat? text with
      | some value => .ok { settings with arguments := settings.arguments ++ [value] }
      | none => .error (.invalidValue option text)
  | .format =>
      if settings.format.isSome then .error (.repeatedOption option.name)
      else
        match TreeFormat.ofName? text with
        | some format => .ok { settings with format := some format }
        | none => .error (.invalidValue option text)
  | .logLevel =>
      if settings.logLevel.isSome then .error (.repeatedOption option.name)
      else
        match LogLevel.ofText? text with
        | some level => .ok { settings with logLevel := some level }
        | none => .error (.invalidValue option text)

end Settings

/-- What the arguments ask for, given what was set before. -/
def requestAfter (settings : Settings) : List String → Except UsageError Request
  | [] => .ok (.evaluate settings)
  | argument :: rest =>
      match Word.ofArgument argument with
      | .separator =>
          match rest with
          | [] => .ok (.evaluate settings)
          | extra :: _ => .error (.unexpectedArgument extra)
      | .flag .help => .ok .showHelp
      | .flag .version => .ok .showVersion
      | .flag .strict =>
          if settings.strict then .error (.repeatedOption Flag.strict.name)
          else requestAfter { settings with strict := true } rest
      | .flag .tokens =>
          if settings.tokens then .error (.repeatedOption Flag.tokens.name)
          else requestAfter { settings with tokens := true } rest
      | .setting option (some text) => do requestAfter (← settings.set option text) rest
      | .setting option none =>
          match rest with
          | [] => .error (.missingValue option)
          | text :: rest =>
              if option.takes text then do requestAfter (← settings.set option text) rest
              else .error (.missingValue option)
      | .misused error => .error error

/-- What the arguments ask for. -/
def request (arguments : List String) : Except UsageError Request :=
  requestAfter {} arguments

end Formulary.CommandLine
