/-! # Log records

What the server reports while it runs.  A record has a level, a target that says which part of
the server speaks, a message, and named fields whose values are already text.  `Record.render`
is the one place that fixes the written form

    LEVEL target: message key=value key=value

with the message first and the fields in the order in which they were given. -/

namespace TlsEcho.Log

/-- How severe a record is, most severe first. -/
inductive Level
  | error | warn | info | debug | trace
  deriving DecidableEq, Repr

/-- The written name of a level. -/
def Level.name : Level → String
  | .error => "ERROR"
  | .warn => "WARN"
  | .info => "INFO"
  | .debug => "DEBUG"
  | .trace => "TRACE"

/-- A named field of a record with its value as text. -/
structure Field where
  key : String
  value : String
  deriving DecidableEq, Repr

/-- One log record. -/
structure Record where
  level : Level
  target : String
  message : String
  fields : List Field := []
  deriving DecidableEq, Repr

/-- The written form of a field. -/
def Field.render (f : Field) : String := f.key ++ "=" ++ f.value

/-- The message followed by the fields, separated by single blanks. -/
def Record.body (r : Record) : String :=
  r.fields.foldl (fun text f => text ++ " " ++ f.render) r.message

/-- The written form of a record. -/
def Record.render (r : Record) : String :=
  r.level.name ++ " " ++ r.target ++ ": " ++ r.body

end TlsEcho.Log
