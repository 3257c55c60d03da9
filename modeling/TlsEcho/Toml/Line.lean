import TlsEcho.Toml.Scalar

/-! # The lines of a TOML document

A document is a list of lines: headers of tables, headers of items of arrays of tables, and keys
with values.  Values are read to a limited depth. -/

namespace TlsEcho.Toml

/-! ## Tables under construction

While tables are put together from dotted keys and headers it matters how each came to be. -/

/-- How a table came to be. -/
inductive Origin
  /-- By its own header, or as a whole. -/
  | header
  /-- As a table on the way to one with a header. -/
  | path
  /-- By a dotted key. -/
  | dotted
  deriving DecidableEq, Repr

/-- A value, or a table or array of tables that may still grow. -/
inductive Node
  | value (v : Value)
  | table (origin : Origin) (entries : List (String × Node))
  | tables (items : List Node)
  deriving Inhabited

/-- The entries of a table under construction. -/
abbrev Nodes := List (String × Node)

mutual

/-- The value that a finished node stands for. -/
def Node.toValue : Node → Value
  | .value v => v
  | .table _ entries => .table (Nodes.toEntries entries)
  | .tables items => .tables (Node.toValues items)

/-- The values of finished nodes. -/
def Node.toValues : List Node → List Value
  | [] => []
  | n :: rest => n.toValue :: Node.toValues rest

/-- The entries of a finished table. -/
def Nodes.toEntries : List (String × Node) → Entries
  | [] => []
  | (key, n) :: rest => (key, n.toValue) :: Nodes.toEntries rest

end

namespace Nodes

/-- The node of a key. -/
def get? (nodes : Nodes) (key : String) : Option Node :=
  (nodes.find? fun e => e.1 == key).map Prod.snd

/-- Replaces the node of a key, or appends it. -/
def put (nodes : Nodes) (key : String) (node : Node) : Nodes :=
  if nodes.any fun e => e.1 == key then nodes.map fun e => if e.1 == key then (key, node) else e
  else nodes ++ [(key, node)]

/-- Removes a key; the other entries keep their order. -/
def remove (nodes : Nodes) (key : String) : Nodes := nodes.filter fun e => e.1 != key

/-- Changes the table at the end of a path, which starts from a table of the given origin.  Tables
    that are missing on the way are made, as by a dotted key or by a header.  A dotted key does not
    lead through a table that has a header, no path leads through a value, and a path through an
    array of tables leads through its last item. -/
def modifyAt (byKey : Bool) (change : Origin → Nodes → Option Nodes) :
    (path : List String) → (origin : Origin) → Nodes → Option Nodes
  | [], origin, nodes => change origin nodes
  | key :: path, _, nodes =>
    match nodes.get? key with
    | none =>
      let origin : Origin := if byKey then .dotted else .path
      (modifyAt byKey change path origin []).map fun inner =>
        nodes.put key (.table origin inner)
    | some (.value _) => none
    | some (.table origin inner) =>
      if byKey ∧ origin = .header then none
      else
        (modifyAt byKey change path origin inner).map fun inner =>
          nodes.put key (.table origin inner)
    | some (.tables items) =>
      match items.getLast? with
      | some (.table origin inner) =>
        (modifyAt byKey change path origin inner).map fun inner =>
          nodes.put key (.tables (items.dropLast ++ [.table origin inner]))
      | _ => none

/-- Adds a value under a key of one or more parts.  The key must be new; a dotted key ends in a
    table made by dotted keys. -/
def addValue (nodes : Nodes) (key : List String) (value : Value) : Option Nodes :=
  match key.getLast? with
  | none => none
  | some last =>
    let path := key.dropLast
    let add (origin : Origin) (entries : Nodes) : Option Nodes :=
      if decide (origin = .dotted) = path.isEmpty then none
      else if (entries.get? last).isSome then none
      else some (entries ++ [(last, .value value)])
    modifyAt true add path .header nodes

end Nodes

/-! ## Values -/

/-- Reads the items of an array after its opening bracket, at most `fuel` of them. -/
def arrayItems (value : Reader Value) : (fuel : Nat) → Reader (List Value)
  | 0, _ => none
  | fuel + 1, cs =>
    (skipLayout? false cs).bind fun
      | ']' :: rest => some ([], rest)
      | cs =>
        (value cs).bind fun (v, rest) =>
          (skipLayout? false rest).bind fun
            | ',' :: rest => (arrayItems value fuel rest).map fun (vs, rest) => (v :: vs, rest)
            | ']' :: rest => some ([v], rest)
            | _ => none

/-- Reads a key and its value. -/
def keyValue (value : Reader Value) : Reader (List String × Value) := fun cs =>
  (key cs).bind fun
    | (path, '=' :: rest) =>
      (value (skipBlanks rest)).map fun (v, rest) => ((path, v), rest)
    | _ => none

/-- Reads the entries of an inline table, at most `fuel` of them, and its closing brace. -/
def inlineEntries (value : Reader Value) (nodes : Nodes) : (fuel : Nat) → Reader Nodes
  | 0, _ => none
  | fuel + 1, cs =>
    (keyValue value cs).bind fun ((path, v), rest) =>
      (nodes.addValue path v).bind fun nodes =>
        match skipBlanks rest with
        | ',' :: rest => inlineEntries value nodes fuel rest
        | '\x7d' :: rest => some (nodes, rest)
        | _ => none

/-- Reads an inline table after its opening brace. -/
def inlineTable (value : Reader Value) : Reader Value := fun cs =>
  match skipBlanks cs with
  | '\x7d' :: rest => some (.table [], rest)
  | cs =>
    (inlineEntries value [] cs.length cs).map fun (nodes, rest) =>
      (.table (Nodes.toEntries nodes), rest)

/-- Reads a value in which arrays and inline tables are nested at most `depth` levels. -/
def valueTo : (depth : Nat) → Reader Value
  | depth, cs =>
    match cs with
    | '"' :: _ | '\'' :: _ => (string cs).map fun (text, rest) => (.string text, rest)
    | '[' :: rest =>
      match depth with
      | 0 => none
      | depth + 1 =>
        (arrayItems (valueTo depth) cs.length rest).map fun (vs, rest) => (.array vs, rest)
    | '\x7b' :: rest =>
      match depth with
      | 0 => none
      | depth + 1 => inlineTable (valueTo depth) rest
    | 't' :: 'r' :: 'u' :: 'e' :: rest => some (.boolean true, rest)
    | 'f' :: 'a' :: 'l' :: 's' :: 'e' :: rest => some (.boolean false, rest)
    | _ => numberOrDate cs

/-- Reads a value. -/
def value : Reader Value := valueTo depthLimit

/-! ## Lines -/

/-- A line that says something. -/
inductive Line
  /-- The header of a table. -/
  | header (path : List String)
  /-- The header of the next item of an array of tables. -/
  | item (path : List String)
  | entry (path : List String) (value : Value)

/-- Reads a line up to its end; a line may be blank or hold a comment only. -/
def line : Reader (Option Line) := fun cs =>
  let ended (result : Line × List Char) : Option (Option Line × List Char) :=
    (lineEnd? result.2).map fun rest => (some result.1, rest)
  match skipBlanks cs with
  | '[' :: '[' :: rest =>
    (key rest).bind fun
      | (path, ']' :: ']' :: rest) => ended (.item path, rest)
      | _ => none
  | '[' :: rest =>
    (key rest).bind fun
      | (path, ']' :: rest) => ended (.header path, rest)
      | _ => none
  | [] => some (none, [])
  | '#' :: rest => (lineEnd? ('#' :: rest)).map fun rest => (none, rest)
  | '\n' :: rest => some (none, rest)
  | '\r' :: '\n' :: rest => some (none, rest)
  | cs => (keyValue value cs).bind fun ((path, v), rest) => ended (.entry path v, rest)

/-- Reads at most `fuel` lines, up to the end of the text. -/
def linesTo : (fuel : Nat) → List Char → Option (List Line)
  | 0, cs => if cs = [] then some [] else none
  | fuel + 1, cs =>
    if cs = [] then some []
    else (line cs).bind fun (l, rest) => (linesTo fuel rest).map fun ls => l.toList ++ ls

/-- The lines of a text.  Each takes at least one character. -/
def lines (cs : List Char) : Option (List Line) := linesTo cs.length cs

end TlsEcho.Toml
