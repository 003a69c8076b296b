import PathRouter.Toml.Scalar
import PathRouter.Toml.Text

/-!
Reading TOML documents.
-/

namespace PathRouter.Toml

def isKeyChar (c : Char) : Bool :=
  c.isAlphanum || c = '_' || c = '-'

def name? (text : List Char) : Option (String × List Char) :=
  match text with
  | '"' :: rest => basic? (rest.length + 1) [] rest
  | '\'' :: rest => literal? rest
  | _ =>
    let name := text.takeWhile isKeyChar
    if name.isEmpty then none else some (String.ofList name, text.drop name.length)

def key? : Nat → List Char → Option (List String × List Char)
  | 0, _ => none
  | fuel + 1, text => do
    let (name, rest) ← name? (skipBlanks text)
    match skipBlanks rest with
    | '.' :: rest => (key? fuel rest).map fun (names, rest) => (name :: names, rest)
    | rest => some ([name], rest)

def maxDepth : Nat := 79

mutual

def value? (depth : Nat) : Nat → List Char → Option (Node × List Char)
  | 0, _ => none
  | fuel + 1, text =>
    match text with
    | 't' :: 'r' :: 'u' :: 'e' :: rest => some (.bool true, rest)
    | 'f' :: 'a' :: 'l' :: 's' :: 'e' :: rest => some (.bool false, rest)
    | '[' :: rest => if depth = 0 then none else items? (depth - 1) fuel [] rest
    | '{' :: rest =>
      if depth = 0 then none
      else
        match skipBlanks rest with
        | '}' :: rest => some (.table .inline [], rest)
        | rest => members? (depth - 1) fuel [] rest
    | _ =>
      if text.head? = some '"' || text.head? = some '\'' then
        (string? text).map fun (s, rest) => (.str s, rest)
      else if startsDate text || startsTime text then datetime? text
      else number? text

/-- The items of an array up to its end, after those read so far in reverse. A comma may stand after the
last one. -/
def items? (depth : Nat) : Nat → List Node → List Char → Option (Node × List Char)
  | 0, _, _ => none
  | fuel + 1, read, text =>
    match skipLines (text.length + 1) text with
    | ']' :: rest => some (.array read.reverse, rest)
    | text =>
      match value? depth fuel text with
      | none => none
      | some (item, rest) =>
        match skipLines (rest.length + 1) rest with
        | ',' :: rest => items? depth fuel (item :: read) rest
        | ']' :: rest => some (.array (item :: read).reverse, rest)
        | _ => none

/-- The assignments of a table value up to its end, after those read so far in reverse. -/
def members? (depth : Nat) : Nat → List Assignment → List Char → Option (Node × List Char)
  | 0, _, _ => none
  | fuel + 1, read, text =>
    match key? maxDepth text with
    | some (names, '=' :: rest) =>
      match names.getLast?, value? depth fuel (skipBlanks rest) with
      | some name, some (value, rest) =>
        let read := ⟨names.dropLast, name, value⟩ :: read
        match skipBlanks rest with
        | ',' :: rest => members? depth fuel read rest
        | '}' :: rest => (inlineTable? read.reverse).map fun table => (table, rest)
        | _ => none
      | _, _ => none
    | _ => none

end

def assignment? (text : List Char) : Option (Assignment × List Char) := do
  match ← key? maxDepth text with
  | (names, '=' :: rest) =>
    let name ← names.getLast?
    let (value, rest) ← value? maxDepth (2 * rest.length + 2) (skipBlanks rest)
    some (⟨names.dropLast, name, value⟩, ← endOfLine? rest)
  | _ => none

def header? (text : List Char) : Option (Header × List Char) := do
  match text with
  | '[' :: '[' :: rest =>
    match ← key? maxDepth rest with
    | (names, ']' :: ']' :: rest) =>
      some (.element names.dropLast (← names.getLast?), ← endOfLine? rest)
    | _ => none
  | '[' :: rest =>
    match ← key? maxDepth rest with
    | (names, ']' :: rest) => some (.table names.dropLast (← names.getLast?), ← endOfLine? rest)
    | _ => none
  | _ => none

/-- The further sections of a document, after those read so far in reverse; the latest of them comes with
its assignments so far in reverse. -/
def sections? : Nat → List Section → Header → List Assignment → List Char → Option (List Section)
  | 0, _, _, _, _ => none
  | fuel + 1, read, header, assignments, text =>
    let here : Section := ⟨header, assignments.reverse⟩
    match skipLines (text.length + 1) text with
    | [] => some (here :: read).reverse
    | '[' :: rest =>
      match header? ('[' :: rest) with
      | some (next, rest) => sections? fuel (here :: read) next [] rest
      | none => none
    | text =>
      match skipComment text with
      | [] => some (here :: read).reverse
      | _ =>
        match assignment? text with
        | some (a, rest) => sections? fuel read header (a :: assignments) rest
        | none => none

def parse? (source : String) : Option Json := do
  let text :=
    match source.toList with
    | '\ufeff' :: rest => rest
    | text => text
  let document ← ofSections (← sections? (text.length + 1) [] .root [] text)
  some (.obj (membersToJson document.2))

end PathRouter.Toml
