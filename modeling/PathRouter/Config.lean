import PathRouter.Json
import PathRouter.Pattern

/-!
Configurations: a table of routes, how to compile it, and what to observe.
-/

namespace PathRouter

namespace Config

structure Route where
  name : String
  pattern : String
  literal : Bool := false
  deriving Repr, DecidableEq

def Route.mode (route : Route) : Pattern.Mode :=
  if route.literal then .verbatim else .template

structure Observability where
  logLevel : String := "info"
  metricsEnabled : Bool := false
  metricsAddress : String := "127.0.0.1:9090"
  deriving Repr, DecidableEq

end Config

structure Config where
  compress : Bool := false
  observability : Config.Observability := { }
  routes : List Config.Route := []
  deriving Repr, DecidableEq

namespace Config

variable {α : Type}

def fieldOr (default : α) (read : Json → Option α) : Option Json → Option α
  | none => some default
  | some j => read j

def Route.ofJson? (surplus : Bool) (j : Json) : Option Route := do
  match ← j.fields? ["name", "pattern", "literal"] 2 surplus with
  | [some name, some pattern, literal] =>
    some ⟨← name.str?, ← pattern.str?, ← fieldOr false Json.bool? literal⟩
  | _ => none

def Observability.ofJson? (surplus : Bool) (j : Json) : Option Observability := do
  match ← j.fields? ["log_level", "metrics_enabled", "metrics_address"] 0 surplus with
  | [logLevel, metricsEnabled, metricsAddress] =>
    let default : Observability := { }
    some ⟨← fieldOr default.logLevel Json.str? logLevel,
      ← fieldOr default.metricsEnabled Json.bool? metricsEnabled,
      ← fieldOr default.metricsAddress Json.str? metricsAddress⟩
  | _ => none

def routesOfJson? (surplus : Bool) (j : Json) : Option (List Route) := do
  (← j.arr?).mapM (Route.ofJson? surplus)

/-- Reads a configuration. With `surplus`, values beyond the last field of a record that is written as an
array are passed over. -/
def ofJson? (surplus : Bool) (j : Json) : Option Config := do
  match ← j.fields? ["compress", "observability", "routes"] 0 surplus with
  | [compress, observability, routes] =>
    some ⟨← fieldOr false Json.bool? compress,
      ← fieldOr { } (Observability.ofJson? surplus) observability,
      ← fieldOr [] (routesOfJson? surplus) routes⟩
  | _ => none

def Route.toJson (route : Route) : Json :=
  .obj [("name", .str route.name), ("pattern", .str route.pattern), ("literal", .bool route.literal)]

def Observability.toJson (o : Observability) : Json :=
  .obj [("log_level", .str o.logLevel), ("metrics_enabled", .bool o.metricsEnabled),
    ("metrics_address", .str o.metricsAddress)]

def toJson (config : Config) : Json :=
  .obj [("compress", .bool config.compress), ("observability", config.observability.toJson),
    ("routes", .arr (config.routes.map Route.toJson))]

end Config

end PathRouter
