import TlsEcho.Config.Decode
import TlsEcho.Files
import TlsEcho.Text.Utf8
import TlsEcho.Toml.Document

/-! # Configuration files

A configuration file is a document in UTF-8.  It can be unreadable, no document, or a document
with a value that its field does not accept. -/

namespace TlsEcho

/-- Why a configuration cannot be loaded. -/
inductive LoadError
  | unreadable (e : FileError)
  /-- The file does not hold a text. -/
  | notText
  /-- The text is no document. -/
  | malformed
  | mismatch (m : Mismatch)
  deriving DecidableEq, Repr

/-- The settings of a document. -/
def Setting.ofText (text : List Char) : Except LoadError (List Setting) :=
  match Toml.Entries.parse? text with
  | none => .error .malformed
  | some entries => (Setting.ofEntries .document entries).mapError .mismatch

/-- The settings of a file. -/
def Setting.ofFile (content : Except FileError Bytes) : Except LoadError (List Setting) :=
  match content with
  | .error e => .error (.unreadable e)
  | .ok bytes =>
    match Text.Utf8.decode? bytes with
    | none => .error .notText
    | some text => Setting.ofText text

/-- The text for a failure to read a configuration file. -/
def readFailure (reason : String) : String := "failed to read config file: " ++ reason

/-- What is wrong with a file that does not hold a text. -/
def notTextMessage : String := "stream did not contain valid UTF-8"

end TlsEcho
