import PathRouter.Json

/-!
TOML tables. A document is a sequence of sections, each with a header and assignments; putting them
together keeps the rule that nothing is defined twice.
-/

namespace PathRouter.Toml

inductive TableKind where
  /-- By a header of its own. -/
  | headed
  /-- Because a header names a table inside it; a header of its own may follow. -/
  | implied
  /-- Because a dotted key names a member of it; more dotted keys may follow. -/
  | dotted
  /-- As a value; nothing may be added. -/
  | inline
  deriving Repr, DecidableEq

inductive Node where
  | str (text : String)
  | num (number : Json.Number)
  | notFinite
  | bool (value : Bool)
  | datetime (text : String)
  | array (items : List Node)
  | table (kind : TableKind) (members : List (String × Node))
  | tables (elements : List (TableKind × List (String × Node)))
  deriving Repr, Inhabited

abbrev Table := TableKind × List (String × Node)

def put (name : String) (node : Node) : List (String × Node) → List (String × Node)
  | [] => [(name, node)]
  | (n, old) :: rest => if n = name then (name, node) :: rest else (n, old) :: put name node rest

/-- Changes the table at a path, making the tables on the way that are not there. A path of a dotted key
leads only through tables that dotted keys or deeper headers have made; in a repeated header's place it
leads into the latest table. -/
def update (byKey : Bool) (f : Table → Option Table) : List String → Table → Option Table
  | [], table => f table
  | name :: path, (kind, members) =>
    let inside (table : Table) : Option Table :=
      update byKey f path table
    match members.lookup name with
    | none => do
      let table ← inside (if byKey then .dotted else .implied, [])
      some (kind, put name (.table table.1 table.2) members)
    | some (.table .inline _) => none
    | some (.table innerKind inner) =>
      if byKey && innerKind = .headed then none
      else do
        let table ← inside (innerKind, inner)
        some (kind, put name (.table table.1 table.2) members)
    | some (.tables elements) => do
      let table ← inside (← elements.getLast?)
      some (kind, put name (.tables (elements.dropLast ++ [table])) members)
    | some _ => none

structure Assignment where
  path : List String
  name : String
  value : Node

/-- Adds an assignment to a table. Members of a table that no dotted key has made are not reached by one,
and the other way round. -/
def assign (table : Table) (a : Assignment) : Option Table :=
  update true (fun (kind, members) =>
    if decide (kind = .dotted) = a.path.isEmpty || (members.lookup a.name).isSome then none
    else some (kind, members ++ [(a.name, a.value)])) a.path table

inductive Header where
  | root
  | table (path : List String) (name : String)
  | element (path : List String) (name : String)

structure Section where
  header : Header
  assignments : List Assignment

def addSection (document : Table) (s : Section) : Option Table :=
  let fill (table : Table) : Option Table := s.assignments.foldlM assign table
  match s.header with
  | .root => fill document
  | .table path name =>
    update false (fun (kind, members) =>
      match members.lookup name with
      | none => (fill (.headed, [])).map fun t => (kind, put name (.table t.1 t.2) members)
      | some (.table .implied inner) =>
        (fill (.headed, inner)).map fun t => (kind, put name (.table t.1 t.2) members)
      | some _ => none) path document
  | .element path name =>
    update false (fun (kind, members) =>
      match members.lookup name with
      | none => (fill (.headed, [])).map fun t => (kind, put name (.tables [t]) members)
      | some (.tables elements) =>
        (fill (.headed, [])).map fun t => (kind, put name (.tables (elements ++ [t])) members)
      | some _ => none) path document

def ofSections (sections : List Section) : Option Table :=
  sections.foldlM addSection (.headed, [])

def inlineTable? (assignments : List Assignment) : Option Node :=
  (assignments.foldlM assign (.headed, [])).map fun t => .table .inline t.2

mutual

/-- A value as JSON. A date or time becomes an object with one member, and what is no finite number becomes
`null`. -/
def Node.toJson : Node → Json
  | .str text => .str text
  | .num number => .num number
  | .notFinite => .null
  | .bool value => .bool value
  | .datetime text => .obj [("$datetime", .str text)]
  | .array items => .arr (itemsToJson items)
  | .table _ members => .obj (membersToJson members)
  | .tables elements => .arr (elementsToJson elements)

def itemsToJson : List Node → List Json
  | [] => []
  | item :: rest => item.toJson :: itemsToJson rest

def membersToJson : List (String × Node) → List (String × Json)
  | [] => []
  | (name, node) :: rest => (name, node.toJson) :: membersToJson rest

def elementsToJson : List (TableKind × List (String × Node)) → List Json
  | [] => []
  | (_, members) :: rest => .obj (membersToJson members) :: elementsToJson rest

end

end PathRouter.Toml
