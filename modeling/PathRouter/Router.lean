import PathRouter.Engine
import PathRouter.Json
import PathRouter.Percent
import PathRouter.Router.Variables
import PathRouter.Url

/-!
Routers: a compiled engine with the value of each route and the places of its variables. A path is looked
up by its canonical spelling, and variables are bound only once a route has been found.
-/

namespace PathRouter

structure VariableSlot where
  name : String
  quantified : Bool
  deriving Repr, DecidableEq

structure RouteEntry (α : Type) where
  value : α
  layout : Option (List (Option VariableSlot))
  deriving Repr, DecidableEq

structure Router (α : Type) where
  engine : Engine
  routes : Array (RouteEntry α)

inductive RouteInput where
  | text (text : String)
  | url (url : Url)
  deriving Repr, DecidableEq

namespace RouteInput

/-- Whether a segment is or begins like one that stands for another place. -/
def startsWithDot : List Char → Bool
  | '.' :: _ => true
  | '%' :: '2' :: 'e' :: _ => true
  | '%' :: '2' :: 'E' :: _ => true
  | _ => false

/-- Whether a text is an absolute path that stands for itself: visible ASCII without query, fragment or
backslash, not beginning with two slashes, and without segments that begin with a dot. -/
def isPlainPath (text : List Char) : Bool :=
  text.head? = some '/' && text[1]? ≠ some '/' &&
    text.all (fun c => '\x21' ≤ c && c ≤ '\x7e' && c ≠ '?' && c ≠ '#' && c ≠ '\\') &&
    !(Pieces.cut '/' text).any startsWithDot

def site : List Char :=
  "http".toList

def pathname? (input : RouteInput) : Option (List Char) :=
  let path? : Option (List Char) :=
    match input with
    | .text s =>
      if isPlainPath s.toList then some s.toList
      else (Url.parse? (some site) s.toList).bind (·.path?)
    | .url address => address.path?
  path?.filter fun path => path.head? = some '/'

def ofJson? : Json → Option RouteInput
  | .str s => some (.text s)
  | _ => none

end RouteInput

namespace Router

variable {α : Type}

def segmentText (path : List Char) (index : Nat) : String :=
  match (Pieces.cut '/' path)[index]? with
  | some segment => String.ofList (Percent.decodeLenient segment)
  | none => ""

/-- The texts that the segments from an index on spell; the root path has none. -/
def segmentTexts (path : List Char) (index : Nat) : List String :=
  if path = ['/'] then []
  else ((Pieces.cut '/' path).drop index).map fun segment => String.ofList (Percent.decodeLenient segment)

def bindingAt (path : List Char) (slot : VariableSlot) (index : Nat) : Binding :=
  if slot.quantified then .many (segmentTexts path index) else .one (segmentText path index)

/-- Binds the variables of a layout, of which the first segment stands at `index` in the path. -/
def bind (path : List Char) (bound : Variables) (index : Nat) :
    List (Option VariableSlot) → Variables
  | [] => bound
  | none :: rest => bind path bound (index + 1) rest
  | some slot :: rest =>
    bind path (bound.set slot.name (bindingAt path slot index)) (index + 1) rest

def find? (router : Router α) (input : RouteInput) : Option (List Char × RouteEntry α) := do
  let path ← Percent.normalizePath (← input.pathname?)
  let entry ← router.routes[← router.engine.run (Utf8.encode path)]?
  some (path, entry)

def route (router : Router α) (input : RouteInput) : Option α :=
  (router.find? input).map (·.2.value)

/-- The value of the route that matches an input, and the variables with those of the route bound; without
a match they are left as they were. -/
def routeWith (router : Router α) (input : RouteInput) (bound : Variables) :
    Option α × Variables :=
  match router.find? input with
  | none => (none, bound)
  | some (path, entry) =>
    (some entry.value,
      match entry.layout with
      | none => bound
      | some layout => bind path bound 1 layout)

def routeCount (router : Router α) : Nat :=
  router.routes.size

def values (router : Router α) : List α :=
  router.routes.toList.map (·.value)

inductive Flaw where
  | engine (flaw : Engine.Flaw)
  | routeCount (compiled supplied : Nat)
  | misplacedQuantifier (route : Nat)
  deriving Repr, DecidableEq

def Flaw.detail : Flaw → String
  | .engine flaw => flaw.detail
  | .routeCount compiled supplied =>
    "engine was compiled for " ++ toString compiled ++ " routes but " ++ toString supplied ++
      " were supplied"
  | .misplacedQuantifier route =>
    "route " ++ toString route ++ " has a quantified variable before its last segment"

def isMisplaced (entry : RouteEntry α) : Bool :=
  match entry.layout with
  | none => false
  | some layout => layout.dropLast.any fun slot => slot.any (·.quantified)

def ofParts (engine : Engine) (routes : Array (RouteEntry α)) : Except Flaw (Router α) :=
  match engine.flaw? with
  | some flaw => .error (.engine flaw)
  | none =>
    if engine.routes ≠ routes.size then .error (.routeCount engine.routes routes.size)
    else
      match routes.toList.findIdx? isMisplaced with
      | some route => .error (.misplacedQuantifier route)
      | none => .ok ⟨engine, routes⟩

end Router

end PathRouter
