/-! # Blanks, comments, strings and keys of TOML

Readers take something off the front of a text and return what they read with the rest, or
nothing if the text does not begin with it. -/

namespace TlsEcho.Toml

/-- Takes something off the front of a text. -/
abbrev Reader (α : Type) := List Char → Option (α × List Char)

/-! ## Blanks and comments -/

/-- A blank within a line. -/
def isBlank (c : Char) : Bool := c = ' ' || c = '\t'

/-- Skips blanks within a line. -/
def skipBlanks (cs : List Char) : List Char := cs.dropWhile isBlank

/-- Whether a character may stand in a comment: all but control characters. -/
def isCommentChar (c : Char) : Bool := c = '\t' || (' ' ≤ c && c ≠ '\x7f')

/-- Takes the end of a line. -/
def newline? : List Char → Option (List Char)
  | '\n' :: rest => some rest
  | '\r' :: '\n' :: rest => some rest
  | _ => none

/-- Skips a comment, if there is one. -/
def skipComment (cs : List Char) : List Char :=
  match cs with
  | '#' :: rest => rest.dropWhile isCommentChar
  | _ => cs

/-- Takes what may follow the last thing on a line: blanks, a comment, and the end of the line or
    of the text. -/
def lineEnd? (cs : List Char) : Option (List Char) :=
  match skipComment (skipBlanks cs) with
  | [] => some []
  | rest => newline? rest

/-- Skips blanks, line ends and comments, as they may stand between the items of an array.  There
    is no result if a comment is not ended by a line end or a line end is not well formed. -/
def skipLayout? (inComment : Bool) : List Char → Option (List Char)
  | [] => if inComment then none else some []
  | '\n' :: rest => skipLayout? false rest
  | '\r' :: rest => match rest with
    | '\n' :: rest => skipLayout? false rest
    | _ => none
  | c :: rest =>
    if inComment then if isCommentChar c then skipLayout? true rest else none
    else if isBlank c then skipLayout? false rest
    else if c = '#' then skipLayout? true rest
    else some (c :: rest)

/-! ## Strings -/

/-- Whether a character may stand for itself in a string: all but control characters. -/
def isPlain (c : Char) : Bool := isCommentChar c

/-- The character that a one-letter escape stands for. -/
def escape? : Char → Option Char
  | 'b' => some '\x08'
  | 't' => some '\t'
  | 'n' => some '\n'
  | 'f' => some '\x0c'
  | 'r' => some '\r'
  | '"' => some '"'
  | '\\' => some '\\'
  | _ => none

/-- The value of a hexadecimal digit. -/
def hexValue? (c : Char) : Option Nat :=
  if '0' ≤ c ∧ c ≤ '9' then some (c.toNat - '0'.toNat)
  else if 'a' ≤ c ∧ c ≤ 'f' then some (c.toNat - 'a'.toNat + 10)
  else if 'A' ≤ c ∧ c ≤ 'F' then some (c.toNat - 'A'.toNat + 10)
  else none

/-- The character with the code that hexadecimal digits give. -/
def charOfHex? (ds : List Char) : Option Char :=
  (ds.foldlM (fun n d => (hexValue? d).map (n * 16 + ·)) 0).bind fun n =>
    if n.isValidChar then some (Char.ofNat n) else none

/-- Puts a character in front of a string that was read. -/
def consRead (c : Char) (r : Option (List Char × List Char)) : Option (List Char × List Char) :=
  r.map fun (text, rest) => (c :: text, rest)

/-- The rest of a string in double quotes on one line. -/
def basicBody : List Char → Option (List Char × List Char)
  | '"' :: rest => some ([], rest)
  | '\\' :: 'u' :: a :: b :: c :: d :: rest =>
    (charOfHex? [a, b, c, d]).bind fun x => consRead x (basicBody rest)
  | '\\' :: 'U' :: a :: b :: c :: d :: e :: f :: g :: h :: rest =>
    (charOfHex? [a, b, c, d, e, f, g, h]).bind fun x => consRead x (basicBody rest)
  | '\\' :: c :: rest => (escape? c).bind fun x => consRead x (basicBody rest)
  | c :: rest => if isPlain c ∧ c ≠ '\\' then consRead c (basicBody rest) else none
  | [] => none

/-- The rest of a string in single quotes on one line. -/
def literalBody : List Char → Option (List Char × List Char)
  | '\'' :: rest => some ([], rest)
  | c :: rest => if isPlain c then consRead c (literalBody rest) else none
  | [] => none

/-- What a string over several lines does with line ends after a backslash. -/
inductive Folding
  | off
  /-- A backslash has been read; only blanks may stand before the line end. -/
  | pending
  /-- Blanks and line ends are being dropped. -/
  | on
  deriving DecidableEq

/-- The rest of a string in three double quotes.  Up to two quotes may stand right before the
    closing ones. -/
def multilineBasicBody (folding : Folding) : List Char → Option (List Char × List Char)
  | '\n' :: rest =>
    match folding with
    | .off => consRead '\n' (multilineBasicBody .off rest)
    | _ => multilineBasicBody .on rest
  | '\r' :: rest =>
    match rest with
    | '\n' :: rest =>
      match folding with
      | .off => consRead '\n' (multilineBasicBody .off rest)
      | _ => multilineBasicBody .on rest
    | _ => none
  | c :: rest =>
    if folding ≠ .off ∧ isBlank c then multilineBasicBody folding rest
    else if folding = .pending then none
    else
      match c, rest with
      | '"', '"' :: '"' :: '"' :: '"' :: rest => some (['"', '"'], rest)
      | '"', '"' :: '"' :: '"' :: rest => some (['"'], rest)
      | '"', '"' :: '"' :: rest => some ([], rest)
      | '\\', 'u' :: a :: b :: c :: d :: rest =>
        (charOfHex? [a, b, c, d]).bind fun x => consRead x (multilineBasicBody .off rest)
      | '\\', 'U' :: a :: b :: c :: d :: e :: f :: g :: h :: rest =>
        (charOfHex? [a, b, c, d, e, f, g, h]).bind fun x =>
          consRead x (multilineBasicBody .off rest)
      | '\\', e :: rest =>
        if isBlank e then multilineBasicBody .pending rest
        else if e = '\n' then multilineBasicBody .on rest
        else if e = '\r' then
          match rest with
          | '\n' :: rest => multilineBasicBody .on rest
          | _ => none
        else (escape? e).bind fun x => consRead x (multilineBasicBody .off rest)
      | '\\', [] => none
      | c, rest => if isPlain c then consRead c (multilineBasicBody .off rest) else none
  | [] => none

/-- The rest of a string in three single quotes.  Up to two quotes may stand right before the
    closing ones. -/
def multilineLiteralBody : List Char → Option (List Char × List Char)
  | '\'' :: '\'' :: '\'' :: '\'' :: '\'' :: rest => some (['\'', '\''], rest)
  | '\'' :: '\'' :: '\'' :: '\'' :: rest => some (['\''], rest)
  | '\'' :: '\'' :: '\'' :: rest => some ([], rest)
  | '\r' :: rest =>
    match rest with
    | '\n' :: rest => consRead '\n' (multilineLiteralBody rest)
    | _ => none
  | c :: rest =>
    if isPlain c ∨ c = '\n' then consRead c (multilineLiteralBody rest) else none
  | [] => none

/-- Drops a line end right after the opening quotes of a string over several lines. -/
def dropFirstNewline (cs : List Char) : List Char := (newline? cs).getD cs

/-- Reads a string on one line. -/
def lineString : Reader String
  | '"' :: rest => (basicBody rest).map fun (text, rest) => (String.ofList text, rest)
  | '\'' :: rest => (literalBody rest).map fun (text, rest) => (String.ofList text, rest)
  | _ => none

/-- Reads a string of any kind. -/
def string : Reader String
  | '"' :: '"' :: '"' :: rest =>
    (multilineBasicBody .off (dropFirstNewline rest)).map
      fun (text, rest) => (String.ofList text, rest)
  | '\'' :: '\'' :: '\'' :: rest =>
    (multilineLiteralBody (dropFirstNewline rest)).map
      fun (text, rest) => (String.ofList text, rest)
  | cs => lineString cs

/-! ## Keys -/

/-- Whether a character may stand in a key without quotes. -/
def isBareKeyChar (c : Char) : Bool := c.isAlphanum || c = '_' || c = '-'

/-- Reads a part of a key. -/
def simpleKey : Reader String := fun cs =>
  match cs with
  | '"' :: _ | '\'' :: _ => lineString cs
  | _ =>
    let name := cs.takeWhile isBareKeyChar
    if name = [] then none else some (String.ofList name, cs.dropWhile isBareKeyChar)

/-- The most parts that a key may have, or levels that arrays and inline tables may be nested. -/
def depthLimit : Nat := 79

/-- Reads at most `fuel` parts of a key, with blanks around each. -/
def keyParts : (fuel : Nat) → Reader (List String)
  | 0, _ => none
  | fuel + 1, cs =>
    (simpleKey (skipBlanks cs)).bind fun (part, rest) =>
      match skipBlanks rest with
      | '.' :: rest => (keyParts fuel rest).map fun (parts, rest) => (part :: parts, rest)
      | rest => some ([part], rest)

/-- Reads a key of one or more parts. -/
def key : Reader (List String) := keyParts depthLimit

end TlsEcho.Toml
