/-! # Text for a terminal

A terminal takes some characters as commands: control characters, and the sequences that begin with
an escape character.  `plain` is what is left of a text without them.  Tabs, line ends and form
feeds are kept, also inside a sequence of the kinds that may hold them, and what follows one of them
there is taken for text. -/

namespace TlsEcho.Text.Terminal

/-- The sequence that the next character belongs to. -/
inductive Mode
  /-- None. -/
  | ground
  /-- An escape character has been met. -/
  | escape
  /-- An escape character and characters between it and the last one of the sequence. -/
  | escapeIntermediate
  /-- A sequence for the control of the terminal, which ends with a letter or the like. -/
  | control
  /-- The first character of a sequence for the device. -/
  | device
  /-- The numbers of a sequence for the device. -/
  | deviceNumbers
  /-- The characters after these numbers. -/
  | deviceIntermediate
  /-- A string for the device or for a program. -/
  | string
  /-- A string for the system of the terminal, which ends with a bell. -/
  | system
  deriving DecidableEq, Repr

/-- Whether a character is for the layout of a text. -/
def isLayout (c : Char) : Bool := c = '\t' || c = '\n' || c = '\x0c' || c = '\r'

/-- Whether a character outside sequences is shown. -/
def isShown (c : Char) : Bool := isLayout c || (32 ≤ c.toNat && c.toNat ≠ 127)

/-- Whether a character is one of those that stand between the first and the last one of a
    sequence. -/
def isIntermediate (c : Char) : Bool := ' ' ≤ c && c ≤ '/'

/-- Whether a character is a digit or one of those that go with numbers. -/
def isParameter (c : Char) : Bool := '0' ≤ c && c ≤ '?'

/-- Whether a character is one of those that end a sequence for the control of the terminal. -/
def isFinal (c : Char) : Bool := '@' ≤ c && c ≤ '~'

/-- Whether a character ends a string: the byte `9C` is part of it. -/
def endsString (c : Char) : Bool := 0x9C ∈ (String.singleton c).toUTF8.toList

/-- The mode after the second character of a sequence. -/
def Mode.afterEscape (c : Char) : Mode :=
  if isIntermediate c then escapeIntermediate
  else if c = '[' then control
  else if c = ']' then system
  else if c = 'P' then device
  else if c = 'X' || c = '^' || c = '_' then string
  else if isParameter c || isFinal c then ground
  else escape

/-- The mode after a character of a sequence for the device. -/
def Mode.inDevice (here : Mode) (c : Char) : Mode :=
  if isIntermediate c then deviceIntermediate
  else if isFinal c then string
  else if isParameter c then
    if here = device ∨ (here = deviceNumbers ∧ c ≤ ';') then deviceNumbers else string
  else here

/-- The mode after a character, and whether the character is shown. -/
def Mode.next (here : Mode) (c : Char) : Mode × Bool :=
  if c = '\x1b' then (escape, false)
  else if c = '\x18' || c = '\x1a' then (ground, false)
  else
    match here with
    | ground => (ground, isShown c)
    | escape => (afterEscape c, isLayout c)
    | escapeIntermediate => (if isParameter c || isFinal c then ground else here, isLayout c)
    | control => (if isFinal c then ground else here, isLayout c)
    | device | deviceNumbers | deviceIntermediate => (here.inDevice c, false)
    | string => (if endsString c then ground else here, false)
    | system => (if c = '\x07' then ground else here, false)

/-- How far a text has been read. -/
structure State where
  mode : Mode := .ground
  /-- Whether the last character was shown.  What follows it is text whatever the mode, until a
      character comes that is not shown. -/
  isShowing : Bool := false
  deriving DecidableEq, Repr

/-- Takes a character.  One beyond ASCII ends the sequence in which it is shown. -/
def State.next (s : State) (c : Char) : State × Bool :=
  if s.isShowing && isShown c then
    ({ s with mode := if c.toNat < 128 then s.mode else .ground }, true)
  else
    let (mode, shown) := s.mode.next c
    ({ mode, isShowing := shown }, shown)

/-- The characters that are shown from a state on. -/
def shownFrom (s : State) : List Char → List Char
  | [] => []
  | c :: rest =>
    let (s, shown) := s.next c
    if shown then c :: shownFrom s rest else shownFrom s rest

/-- A text without what a terminal takes as commands. -/
def plain (text : String) : String := String.ofList (shownFrom {} text.toList)

end TlsEcho.Text.Terminal
