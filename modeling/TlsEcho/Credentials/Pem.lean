import TlsEcho.Credentials.Base64
import TlsEcho.Text.Quoted
import TlsEcho.Text.Utf8

/-! # PEM files

A PEM file holds sections of base64 text between a line `-----BEGIN LABEL-----` and a line
`-----END LABEL-----`; what stands outside sections is skipped.  Only sections with labels of
known kinds are decoded.  Reading stops at the first section that is not well formed, and the
sections before it count. -/

namespace TlsEcho.Pem

/-- The kinds of sections that are decoded. -/
inductive Kind
  | certificate | publicKey | rsaPrivateKey | privateKey | ecPrivateKey | revocationList
  | certificateRequest | helloConfigs
  deriving DecidableEq, Repr

/-- The label of a kind of sections. -/
def Kind.label : Kind → String
  | .certificate => "CERTIFICATE"
  | .publicKey => "PUBLIC KEY"
  | .rsaPrivateKey => "RSA PRIVATE KEY"
  | .privateKey => "PRIVATE KEY"
  | .ecPrivateKey => "EC PRIVATE KEY"
  | .revocationList => "X509 CRL"
  | .certificateRequest => "CERTIFICATE REQUEST"
  | .helloConfigs => "ECHCONFIG"

/-- All kinds. -/
def Kind.all : List Kind :=
  [.certificate, .publicKey, .rsaPrivateKey, .privateKey, .ecPrivateKey, .revocationList,
   .certificateRequest, .helloConfigs]

/-- The kind with a label. -/
def Kind.ofLabel? (label : Bytes) : Option Kind :=
  Kind.all.find? fun k => Bytes.ofString k.label == label

/-- A section and what it holds. -/
structure Section where
  kind : Kind
  content : Bytes
  deriving DecidableEq, Repr

/-- Why a section is not well formed. -/
inductive Error
  | missingEnd (label : Bytes)
  | illegalStart (line : Bytes)
  | base64 (e : Base64.Error)
  deriving DecidableEq, Repr

/-- The text of an error. -/
def Error.message : Error → String
  | .missingEnd label => "section end " ++ shown label ++ " missing"
  | .illegalStart line => "illegal section start: " ++ shown line
  | .base64 e => e.message
where
  /-- Bytes as quoted text. -/
  shown (b : Bytes) : String := Text.quoted (String.ofList (Text.Utf8.decodeLossy b))

/-! ## Lines -/

/-- Whether a byte ends a line. -/
def isLineEnd (b : UInt8) : Bool := b = 10 || b = 13

/-- The lines of a file with the bytes that end them. -/
def lines : Bytes → List Bytes
  | [] => []
  | b :: rest =>
    if isLineEnd b then [b] :: lines rest
    else
      match lines rest with
      | [] => [[b]]
      | line :: more => (b :: line) :: more

/-- What the first line of a section starts with. -/
def beginMark : Bytes := Bytes.ofString "-----BEGIN "

/-- What the last line of a section starts with. -/
def endMark : Bytes := Bytes.ofString "-----END "

/-- The dashes after a label. -/
def dashes : Bytes := Bytes.ofString "-----"

/-- The code of a dash. -/
def dash : UInt8 := 45

/-- The label of a line that begins a section.  Exactly five dashes follow it; blanks and line
    ends between and after them are ignored. -/
def label? (line : Bytes) : Option Bytes :=
  let tail := line.reverse.takeWhile fun b => b = dash || b = 32 || isLineEnd b
  let fromFirstDash := tail.reverse.dropWhile (· ≠ dash)
  if tail.count dash = dashes.length then
    some ((line.drop beginMark.length).take
      (line.length - beginMark.length - fromFirstDash.length))
  else none

/-- Whether a line ends the section with a label. -/
def isEndOf (label line : Bytes) : Bool := (endMark ++ label ++ dashes).isPrefixOf line

/-! ## Sections -/

/-- Reads lines.  `label` is that of the section that has begun, if any, and `content` holds the
    lines of text so far, the last one first. -/
def read (label : Option Bytes) (content : List Bytes) : List Bytes → List Section × Option Error
  | [] => ([], label.map .missingEnd)
  | line :: rest =>
    if beginMark.isPrefixOf line then
      match label? line with
      | some label => read (some label) content rest
      | none => ([], some (.illegalStart line))
    else
      match label with
      | none => read none content rest
      | some name =>
        if isEndOf name line then
          match Kind.ofLabel? name with
          | none => read none [] rest
          | some kind =>
            match Base64.decode content.reverse.flatten with
            | .error e => ([], some (.base64 e))
            | .ok der =>
              let (sections, e) := read none [] rest
              (⟨kind, der⟩ :: sections, e)
        else read label (line :: content) rest

/-- The sections of a file, and what is wrong with the first one that is not well formed. -/
def sections (file : Bytes) : List Section × Option Error := read none [] (lines file)

end TlsEcho.Pem
