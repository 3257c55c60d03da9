import TlsEcho.Number.Shortest
import TlsEcho.Text.Quoted
import TlsEcho.Time.Seconds
import TlsEcho.Toml.Value

/-! # Values that do not fit a field

Why a value is not accepted for a field of the configuration, and how that is worded.  The value may
be one of a document, or stand on its own. -/

namespace TlsEcho

/-- Where a value comes from. -/
inductive Source
  | document
  /-- A value on its own, whose tables are in the order of their keys. -/
  | value
  deriving DecidableEq, Repr

/-! ## What was found -/

namespace Toml

/-- What a message says about a value. -/
inductive Shape
  | boolean (b : Bool)
  | integer (n : Int)
  | float (x : Binary64)
  | string (text : String)
  | sequence
  /-- A table, or a date or time of a document. -/
  | map
  deriving DecidableEq, Repr, Inhabited

/-- What messages say about a value.  A date or time is a table in a document, and in a value on its
    own it is its text. -/
def Value.shape (source : Source) : Value → Shape
  | .string text => .string text
  | .integer n => .integer n
  | .float x => .float x
  | .boolean b => .boolean b
  | .datetime text => if source = .document then .map else .string text
  | .table _ => .map
  | .array _ | .tables _ => .sequence

/-- A number without an exponent and, unless it is infinite or no number, with a point. -/
def pointed (x : Binary64) : String :=
  let digits := x.positional
  match x with
  | .finite .. => String.ofList (if '.' ∈ digits then digits else digits ++ ['.', '0'])
  | _ => String.ofList digits

/-- The wording for what was found. -/
def Shape.text : Shape → String
  | .boolean b => "boolean `" ++ (if b then "true" else "false") ++ "`"
  | .integer n => "integer `" ++ toString n ++ "`"
  | .float x => "floating point `" ++ pointed x ++ "`"
  | .string text => "string " ++ Text.quoted text
  | .sequence => "sequence"
  | .map => "map"

/-- The name of a value's kind. -/
def Value.kindName : Value → String
  | .string _ => "string"
  | .integer _ => "integer"
  | .float _ => "float"
  | .boolean _ => "boolean"
  | .datetime _ => "datetime"
  | .array _ => "array"
  | .tables _ => "array of tables"
  | .table _ => "table"

end Toml

/-! ## What was wanted -/

/-- What a field holds. -/
inductive Wanted
  /-- A count. -/
  | count
  /-- A natural number of 16 bits. -/
  | word16
  /-- A natural number of 32 bits. -/
  | word32
  /-- A number of seconds. -/
  | seconds
  | path
  /-- The name of one of several choices. -/
  | choice
  /-- What is asked of clients' certificates. -/
  | peerVerification
  /-- A whole configuration. -/
  | config
  deriving DecidableEq, Repr

/-- The wording for what was wanted. -/
def Wanted.text : Wanted → String
  | .count => "usize"
  | .word16 => "u16"
  | .word32 => "u32"
  | .seconds => "f64"
  | .path => "path string"
  | .choice => "variant identifier"
  | .peerVerification => "internally tagged enum PeerVerification"
  | .config => "struct ServerConfig"

/-- How many items a sequence was to have. -/
inductive WantedLength
  /-- No more than there are fields. -/
  | fewer
  /-- One, the file of the authorities. -/
  | caFile
  /-- So many and no more. -/
  | exactly (n : Nat)
  deriving DecidableEq, Repr

/-- The wording for how many items a sequence was to have. -/
def WantedLength.text : WantedLength → String
  | .fewer => "fewer elements in array"
  | .caFile => "struct variant PeerVerification::Required with 1 element"
  | .exactly n =>
    toString n ++ (if n = 1 then " element in sequence" else " elements in sequence")

/-! ## Mismatches -/

/-- Why a value is not accepted. -/
inductive Mismatch
  /-- It is of another kind. -/
  | kind (found : Toml.Shape) (wanted : Wanted)
  /-- An integer that is too small or too big. -/
  | range (n : Int) (wanted : Wanted)
  /-- A name that is none of the choices. -/
  | unknownChoice (name : String) (choices : List String)
  | missingField (name : String)
  | seconds (e : SecondsError)
  | length (found : Nat) (wanted : WantedLength)
  /-- The policy is given by a value in a document that is neither a text nor a table. -/
  | policyKind
  /-- The policy is given by a value on its own that is neither a text nor a table. -/
  | policyForm
  /-- The policy is given by a table that does not have exactly one entry. -/
  | policyEntries (several : Bool)
  /-- The policy's entry has a value that is neither a table nor an array. -/
  | policyContent (found : String)
  /-- The policy's entry is not empty. -/
  | policyNotEmpty (isArray : Bool)
  deriving DecidableEq, Repr

/-- A list of choices in words. -/
def choicesText (choices : List String) : String :=
  " or ".intercalate (choices.map fun name => "`" ++ name ++ "`")

/-- The text of a mismatch. -/
def Mismatch.message : Mismatch → String
  | .kind found wanted => "invalid type: " ++ found.text ++ ", expected " ++ wanted.text
  | .range n wanted =>
    "invalid value: " ++ (Toml.Shape.integer n).text ++ ", expected " ++ wanted.text
  | .unknownChoice name choices =>
    "unknown variant `" ++ name ++ "`, expected " ++ choicesText choices
  | .missingField name => "missing field `" ++ name ++ "`"
  | .seconds e => e.message
  | .length found wanted => "invalid length " ++ toString found ++ ", expected " ++ wanted.text
  | .policyKind => "wanted string or table"
  | .policyForm => "invalid type: unit variant, expected string only"
  | .policyEntries several =>
    "wanted exactly 1 element, " ++ (if several then "more than 1 element" else "found 0 elements")
  | .policyContent found => "expected table, found " ++ found
  | .policyNotEmpty isArray => "expected empty " ++ (if isArray then "array" else "table")

end TlsEcho
