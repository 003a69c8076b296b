import PathRouter.Engine.Transfer
import PathRouter.Router.Builder

/-!
Routers as JSON values, and back. A value that is read must have the right form, and its parts must fit
together.
-/

namespace PathRouter

namespace Binding

def toJson : Binding → Json
  | .one text => .str text
  | .many texts => .arr (texts.map .str)

def ofJson? : Json → Option Binding
  | .str text => some (.one text)
  | .arr items => (items.mapM Json.str?).map .many
  | _ => none

end Binding

def Variables.toJson (bound : Variables) : Json :=
  Json.sortedObject (bound.bindings.map fun b => (b.1, b.2.toJson))

def BuildOptions.ofJson? (j : Json) : Option BuildOptions := do
  match ← j.fields? ["compress"] 0 false with
  | [some compress] => some ⟨← compress.bool?⟩
  | _ => some { }

namespace VariableSlot

def toJson (slot : VariableSlot) : Json :=
  .obj [("name", .str slot.name), ("quantified", .bool slot.quantified)]

def ofJson? (j : Json) : Option VariableSlot := do
  match ← j.fields? ["name", "quantified"] 2 false with
  | [some name, some quantified] => some ⟨← name.str?, ← quantified.bool?⟩
  | _ => none

end VariableSlot

namespace RouteEntry

variable {α : Type}

def toJson (valueToJson : α → Json) (entry : RouteEntry α) : Json :=
  .obj [
    ("value", valueToJson entry.value),
    ("layout", Json.ofOption (fun layout => .arr (layout.map (Json.ofOption VariableSlot.toJson)))
      entry.layout)]

def slotOfJson? : Json → Option (Option VariableSlot)
  | .null => some none
  | j => (VariableSlot.ofJson? j).map some

def layoutOfJson? : Json → Option (Option (List (Option VariableSlot)))
  | .null => some none
  | .arr items => (items.mapM slotOfJson?).map some
  | _ => none

def ofJson? (valueOfJson? : Json → Option α) (j : Json) : Option (RouteEntry α) := do
  match ← j.fields? ["value", "layout"] 2 false with
  | [some value, layout] => some ⟨← valueOfJson? value, ← layoutOfJson? (layout.getD .null)⟩
  | _ => none

end RouteEntry

namespace Router

variable {α : Type}

def toJson (valueToJson : α → Json) (router : Router α) : Json :=
  .obj [
    ("engine", router.engine.toJson),
    ("routes", .arr (router.routes.toList.map (RouteEntry.toJson valueToJson)))]

inductive LoadError where
  | form
  | shape (flaw : Flaw)
  deriving Repr, DecidableEq

def engineOfJson (j : Json) : Except LoadError Engine :=
  match Engine.partsOfJson? j with
  | none => .error .form
  | some engine =>
    match engine.flaw? with
    | some flaw => .error (.shape (.engine flaw))
    | none => .ok engine

/-- Reads a router: the engine first, then the routes, and at last whether they belong together. Flaws of
the engine come before the lack of routes and before surplus values. -/
def ofJson (valueOfJson? : Json → Option α) (j : Json) : Except LoadError (Router α) :=
  match j.fields? ["engine", "routes"] 1 true with
  | some [some engine, routes] =>
    match engineOfJson engine with
    | .error e => .error e
    | .ok engine =>
      match (routes.bind Json.arr?).bind (·.mapM (RouteEntry.ofJson? valueOfJson?)) with
      | none => .error .form
      | some entries =>
        if j.arr?.any (2 < ·.length) then .error .form
        else (ofParts engine entries.toArray).mapError .shape
  | _ => .error .form

end Router

end PathRouter
