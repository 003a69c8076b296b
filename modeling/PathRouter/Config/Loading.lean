import PathRouter.Config.Validation
import PathRouter.Router.Error
import PathRouter.Router.Shared
import PathRouter.Toml.Reader

/-!
From a configuration in TOML to a router, in which the value of a route is its name. The router in effect is
replaced only by one that could be compiled.
-/

namespace PathRouter.Config

inductive LoadError where
  | unreadable (path reason : String)
  | malformed
  | invalid (problems : List Problem)
  | build (error : RouterError)

def LoadError.message : LoadError → String
  | .unreadable path reason => "IO error reading " ++ path ++ ": " ++ reason
  | .malformed => "Parse error"
  | .invalid problems => "Validation failed: " ++ ", ".intercalate (problems.map Problem.message)
  | .build error => "Build failed: " ++ error.message

def validate (config : Config) : Except LoadError Config :=
  match config.problems with
  | [] => .ok config
  | problems => .error (.invalid problems)

def parse (source : String) : Except LoadError Config :=
  match (Toml.parse? source).bind (ofJson? true) with
  | none => .error .malformed
  | some config => config.validate

def parseFile (path : String) (content : Except String String) : Except LoadError Config :=
  match content with
  | .error reason => .error (.unreadable path reason)
  | .ok source => parse source

def addRoutes (builder : Builder String) (routes : List Route) :
    Except Pattern.SyntaxError (Builder String) :=
  routes.foldlM (fun builder route => builder.add route.mode route.pattern route.name) builder

def compile (config : Config) : Except LoadError (Router String) :=
  match addRoutes .empty config.routes with
  | .error e => .error (.build (.pattern e))
  | .ok builder => (builder.build ⟨config.compress⟩).mapError fun e => .build (.build e)

def load (source : String) : Except LoadError (Router String) :=
  (parse source).bind compile

def loadFile (path : String) (content : Except String String) : Except LoadError (Router String) :=
  (parseFile path content).bind compile

def reload (shared : SharedRouter String) (source : String) : Bool × SharedRouter String :=
  match load source with
  | .ok router => (true, shared.store router)
  | .error _ => (false, shared)

end PathRouter.Config
