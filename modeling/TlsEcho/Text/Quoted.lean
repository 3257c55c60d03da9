import TlsEcho.Text.Glyph

/-! # Quoted text

Text between double quotes in one line: quotes and backslashes get a backslash, line ends, tabs
and the null character have names, and other characters without a glyph are written as numbers. -/

namespace TlsEcho.Text

/-- A character as it stands in quoted text. -/
def quotedChar (c : Char) : List Char :=
  if c = '\x00' then ['\\', '0']
  else if c = '\t' then ['\\', 't']
  else if c = '\r' then ['\\', 'r']
  else if c = '\n' then ['\\', 'n']
  else if c = '\\' ∨ c = '"' then ['\\', c]
  else if hasGlyph c then [c]
  else ['\\', 'u', '\x7b'] ++ Nat.toDigits 16 c.toNat ++ ['\x7d']

/-- A text between quotes. -/
def quoted (text : String) : String :=
  String.ofList ('"' :: (text.toList.flatMap quotedChar ++ ['"']))

end TlsEcho.Text
