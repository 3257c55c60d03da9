import TlsEcho.Toml.Line

/-! # TOML documents

Puts the lines of a document together.  Entries belong to the table whose header came last.  A
table has one header at most, and a key one value; a header may follow headers of tables inside
it, and its table then takes the place of the last one. -/

namespace TlsEcho.Toml

/-- A document while its lines are put together. -/
structure Draft where
  /-- The finished part. -/
  root : Nodes := []
  /-- The header that came last; none for the start of the document. -/
  path : List String := []
  /-- Whether that header is one of an item of an array of tables. -/
  isItem : Bool := false
  /-- The entries since that header. -/
  current : Nodes := []

namespace Draft

/-- Puts the table of the last header in its place. -/
def finish (d : Draft) : Option Nodes :=
  match d.path.getLast? with
  | none => some d.current
  | some last =>
    let table : Node := .table .header d.current
    let place (_ : Origin) (entries : Nodes) : Option Nodes :=
      match entries.get? last with
      | none => some (entries ++ [(last, if d.isItem then .tables [table] else table)])
      | some (.tables items) =>
        if d.isItem then some (entries.put last (.tables (items ++ [table]))) else none
      | some _ => none
    Nodes.modifyAt false place d.path.dropLast .header d.root

/-- The entries that tables inside it have given to the table at a path, if that table may still
    have a header, and the document without it. -/
def reopen? (root : Nodes) (path : List String) : Option (Nodes × Nodes) :=
  match path.getLast? with
  | none => none
  | some last =>
    let found := lookup root path
    let remove (_ : Origin) (entries : Nodes) : Option Nodes :=
      match entries.get? last with
      | none => some entries
      | some (.table .path _) => some (entries.remove last)
      | some _ => none
    (Nodes.modifyAt false remove path.dropLast .header root).map fun root => (found, root)
where
  /-- The entries of the table at a path, if there is one. -/
  lookup : Nodes → List String → Nodes
    | nodes, [] => nodes
    | nodes, key :: path =>
      match nodes.get? key with
      | some (.table _ inner) => lookup inner path
      | some (.tables items) =>
        match items.getLast? with
        | some (.table _ inner) => lookup inner path
        | _ => []
      | _ => []

/-- Whether the next item of an array of tables may stand at a path, and the document with the
    tables on the way to it. -/
def openItem? (root : Nodes) (path : List String) : Option Nodes :=
  match path.getLast? with
  | none => none
  | some last =>
    let check (_ : Origin) (entries : Nodes) : Option Nodes :=
      match entries.get? last with
      | none | some (.tables _) => some entries
      | some _ => none
    Nodes.modifyAt false check path.dropLast .header root

/-- Adds a line. -/
def add (d : Draft) : Line → Option Draft
  | .entry path v => (d.current.addValue path v).map fun current => { d with current }
  | .header path =>
    d.finish.bind fun root =>
      (reopen? root path).map fun (current, root) => { root, path, isItem := false, current }
  | .item path =>
    d.finish.bind fun root =>
      (openItem? root path).map fun root => { root, path, isItem := true, current := [] }

end Draft

/-- Puts lines together. -/
def Entries.ofLines? (ls : List Line) : Option Entries :=
  (ls.foldlM Draft.add {}).bind fun d => d.finish.map Nodes.toEntries

/-- Reads a document, which may begin with a byte order mark. -/
def Entries.parse? (text : List Char) : Option Entries :=
  let body := match text with
    | '\uFEFF' :: rest => rest
    | cs => cs
  (lines body).bind Entries.ofLines?

end TlsEcho.Toml
