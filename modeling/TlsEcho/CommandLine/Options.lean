import TlsEcho.Number.Decimal
import TlsEcho.Text.Terminal

/-! # Command line options

The program takes a configuration file, a port and a directory of credentials, each at most once.
An option is named by two dashes and its name, or by one dash and its letter; its value is the
next argument, or follows an equals sign, or the letter itself.  Only the value of an option that
stands before a mistake has not been looked at yet when the mistake is reported. -/

namespace TlsEcho.CommandLine

open Text.Terminal (plain)

/-- The options that take a value. -/
inductive OptionName
  | config | port | credentials
  deriving DecidableEq, Repr

namespace OptionName

/-- All options. -/
def all : List OptionName := [config, port, credentials]

/-- The name of an option. -/
def long : OptionName → String
  | config => "config"
  | port => "port"
  | credentials => "credentials"

/-- The letter of an option. -/
def short? : OptionName → Option Char
  | config => some 'c'
  | port => some 'p'
  | credentials => none

/-- An option as messages name it. -/
def shown (o : OptionName) : String := "--" ++ o.long ++ " <" ++ o.long.toUpper ++ ">"

end OptionName

/-- The options that are set. -/
structure Options where
  config : Option String := none
  port : Option UInt16 := none
  credentials : Option String := none
  deriving DecidableEq, Repr

/-- Whether an option is set. -/
def Options.has (o : Options) : OptionName → Bool
  | .config => o.config.isSome
  | .port => o.port.isSome
  | .credentials => o.credentials.isSome

/-! ## Mistakes -/

/-- What is wrong with the text of a port. -/
inductive PortFault
  | integer (e : IntegerFault)
  | range (n : Int)
  deriving DecidableEq, Repr

/-- The text of the fault. -/
def PortFault.message : PortFault → String
  | .integer e => e.message
  | .range n => toString n ++ " is not in 0..=65535"

/-- A mistake on the command line. -/
inductive UsageError
  | unexpected (argument : String)
  | valueMissing (o : OptionName)
  | repeated (o : OptionName)
  | invalidPort (text : String) (fault : PortFault)
  /-- A value for the option that asks for help. -/
  | unneededValue (text : String)
  deriving DecidableEq, Repr

/-- The text of a mistake.  Arguments are shown without what a terminal takes as commands. -/
def UsageError.message : UsageError → String
  | .unexpected argument => "unexpected argument '" ++ plain argument ++ "' found"
  | .valueMissing o => "a value is required for '" ++ o.shown ++ "' but none was supplied"
  | .repeated o => "the argument '" ++ o.shown ++ "' cannot be used multiple times"
  | .invalidPort text fault =>
    "invalid value '" ++ plain text ++ "' for '" ++ OptionName.port.shown ++ "': " ++ fault.message
  | .unneededValue text =>
    "unexpected value '" ++ plain text ++ "' for '--help' found; no more were expected"

/-! ## Reading arguments -/

/-- What the arguments ask for. -/
inductive Request
  | help
  | run (o : Options)
  deriving DecidableEq, Repr

/-- The options that have been read, and the last one if its value has not been looked at. -/
structure Reading where
  options : Options := {}
  pending : Option (OptionName × Option String) := none

/-- Reads a port. -/
def readPort (text : String) : Except UsageError UInt16 :=
  match readInteger text with
  | .error e => .error (.invalidPort text (.integer e))
  | .ok n =>
    if 0 ≤ n ∧ n ≤ 65535 then .ok (UInt16.ofNat n.toNat) else .error (.invalidPort text (.range n))

/-- Sets an option to a value. -/
def Options.take (o : Options) (name : OptionName) (value : String) : Except UsageError Options :=
  if o.has name then .error (.repeated name)
  else
    match name with
    | .port => (readPort value).map fun port => { o with port := some port }
    | .config =>
      if value.isEmpty then .error (.valueMissing name) else .ok { o with config := some value }
    | .credentials =>
      if value.isEmpty then .error (.valueMissing name)
      else .ok { o with credentials := some value }

/-- Looks at the value of the last option. -/
def Reading.settle (r : Reading) : Except UsageError Options :=
  match r.pending with
  | none => .ok r.options
  | some (name, none) => .error (.valueMissing name)
  | some (name, some value) => r.options.take name value

/-- An option that is met, with its value if it is attached. -/
def Reading.meet (r : Reading) (name : OptionName) (attached : Option String) :
    Except UsageError Reading := do
  let options ← r.settle
  match attached with
  | none => return { options, pending := some (name, none) }
  | some value => return { options := ← options.take name value }

/-- An argument by its form. -/
inductive Argument
  /-- Two dashes, which end the options. -/
  | escape
  /-- Two dashes and a name, with what follows an equals sign. -/
  | long (name : String) (attached : Option String)
  /-- A dash and a letter, with what follows it. -/
  | short (letter : Char) (attached : Option String)
  | plain (text : String)

/-- What is attached to a letter; an equals sign before it is left out. -/
def attachedTo : List Char → Option String
  | [] => none
  | '=' :: rest => some (String.ofList rest)
  | rest => some (String.ofList rest)

/-- Tells the form of an argument. -/
def Argument.ofText (text : String) : Argument :=
  match text.toList with
  | ['-', '-'] => .escape
  | '-' :: '-' :: rest =>
    .long (String.ofList (rest.takeWhile (· ≠ '=')))
      (match rest.dropWhile (· ≠ '=') with
        | [] => none
        | _ :: value => some (String.ofList value))
  | '-' :: c :: rest => .short c (attachedTo rest)
  | _ => .plain text

/-- Reads arguments. -/
def readFrom (r : Reading) : List String → Except UsageError Request
  | [] => r.settle.map .run
  | text :: rest =>
    match Argument.ofText text with
    | .escape =>
      match rest with
      | [] => r.settle.map .run
      | argument :: _ => .error (.unexpected argument)
    | .long name attached =>
      if name = "help" then
        match attached with
        | some value => .error (.unneededValue value)
        | none => r.settle.map fun _ => .help
      else
        match OptionName.all.find? fun o => o.long = name with
        | none => .error (.unexpected ("--" ++ name))
        | some o => (r.meet o attached).bind fun r => readFrom r rest
    | .short letter attached =>
      if letter = 'h' then r.settle.map fun _ => .help
      else
        match OptionName.all.find? fun o => o.short? = some letter with
        | none => .error (.unexpected (String.ofList ['-', letter]))
        | some o => (r.meet o attached).bind fun r => readFrom r rest
    | .plain text =>
      match r.pending with
      | some (name, none) => readFrom { r with pending := some (name, some text) } rest
      | _ => .error (.unexpected text)

/-- Reads all arguments. -/
def readArguments (arguments : List String) : Except UsageError Request := readFrom {} arguments

/-! ## Texts -/

/-- How the program is used, in a line. -/
def usage : String := "Usage: echo-server [OPTIONS]"

/-- The text that is shown when asked for help. -/
def helpText : List String :=
  ["Multi-threaded TLS echo server",
   "",
   usage,
   "",
   "Options:",
   "  -c, --config <CONFIG>            TOML configuration file",
   "  -p, --port <PORT>                Listen port, overriding the configuration file",
   "      --credentials <CREDENTIALS>  Directory with certificate.pem and private_key.pem, " ++
     "overriding the configuration file",
   "  -h, --help                       Print help"]

/-- The text that is shown for a mistake. -/
def UsageError.report (e : UsageError) : List String :=
  ["error: " ++ e.message, "", usage, "", "For more information, try '--help'."]

end TlsEcho.CommandLine
