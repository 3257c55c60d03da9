import TlsEcho.Bytes

/-! # Files

What can be read under which path.  Paths have parts separated by slashes; a dot stands for the
directory itself and two dots for the one above it. -/

namespace TlsEcho

/-- Why nothing can be read under a path. -/
inductive FileError
  | notFound
  | isDirectory
  /-- A path leads through a file as if it were a directory. -/
  | notADirectory
  | nameTooLong
  /-- A path holds the character with the code 0. -/
  | nulInName
  /-- Any other failure, with its text. -/
  | other (text : String)
  deriving DecidableEq, Repr

/-- The text of a file error. -/
def FileError.message : FileError → String
  | .notFound => "No such file or directory (os error 2)"
  | .isDirectory => "Is a directory (os error 21)"
  | .notADirectory => "Not a directory (os error 20)"
  | .nameTooLong => "File name too long (os error 36)"
  | .nulInName => "file name contained an unexpected NUL byte"
  | .other text => text

/-- What reading each path gives. -/
abbrev Files := String → Except FileError Bytes

/-- The path of a file in a directory. -/
def pathIn (dir name : String) : String :=
  if name.startsWith "/" then name
  else if dir.isEmpty || dir.endsWith "/" then dir ++ name
  else dir ++ "/" ++ name

/-! ## Files in memory -/

/-- The files under one directory, each by the parts of its path, and directories that exist
    even without a file in them. -/
structure FileTree where
  files : List (List String × Bytes)
  directories : List (List String) := []

namespace FileTree

/-- The parts of a path.  A slash at the end stands for a dot after it. -/
def parts (path : String) : List String :=
  (path.splitOn "/").filter (· ≠ "") ++ if path.endsWith "/" then ["."] else []

/-- The parts of the path of a file in a tree. -/
def place (path : String) : List String := (parts path).filter (· ≠ ".")

/-- A tree of the given files. -/
def ofList (files : List (String × Bytes)) (directories : List String := []) : FileTree :=
  { files := files.map fun (path, content) => (place path, content)
    directories := directories.map place }

/-- The content of a file. -/
def content? (t : FileTree) (path : List String) : Option Bytes :=
  (t.files.find? fun f => f.1 == path).map Prod.snd

/-- Whether there is a directory at a path: the root, one on the way to a file, or one that exists
    by itself. -/
def isDirectory (t : FileTree) (path : List String) : Bool :=
  path.isEmpty || (t.files.any fun f => path.isPrefixOf f.1 && f.1.length != path.length)
    || t.directories.any fun d => path.isPrefixOf d

/-- Where the parts of a path lead. -/
inductive Position
  | inside (path : List String)
  /-- A directory above the root, where nothing but directories above it is known. -/
  | above
  deriving DecidableEq, Repr

/-- The most bytes of a part. -/
def partBound : Nat := 255

/-- The most bytes of a path. -/
def pathBound : Nat := 4095

/-- Takes one part from a directory inside the tree. -/
def enter (t : FileTree) (here : List String) (part : String) : Except FileError Position :=
  if part = "." then .ok (.inside here)
  else if part = ".." then .ok (if here.isEmpty then .above else .inside here.dropLast)
  else
    let next := here ++ [part]
    if (t.content? next).isSome || t.isDirectory next then .ok (.inside next) else .error .notFound

/-- Takes one part of a path. -/
def step (t : FileTree) (p : Position) (part : String) : Except FileError Position :=
  match p with
  | .inside here =>
    if (t.content? here).isSome then .error .notADirectory
    else if partBound < part.utf8ByteSize then .error .nameTooLong
    else t.enter here part
  | .above =>
    if part = "." ∨ part = ".." then .ok .above
    else if partBound < part.utf8ByteSize then .error .nameTooLong
    else .error .notFound

/-- Reads a file.  A path that starts with a slash starts above the root. -/
def read (t : FileTree) : Files := fun path =>
  if '\x00' ∈ path.toList then .error .nulInName
  else if path.isEmpty then .error .notFound
  else if pathBound < path.utf8ByteSize then .error .nameTooLong
  else
    let start : Position := if path.startsWith "/" then .above else .inside []
    match (parts path).foldlM t.step start with
    | .error e => .error e
    | .ok .above => .error .isDirectory
    | .ok (.inside here) =>
      match t.content? here with
      | some content => .ok content
      | none => .error .isDirectory

end FileTree

end TlsEcho
