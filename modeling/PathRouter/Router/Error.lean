import PathRouter.Json.Printer
import PathRouter.Router.Builder

/-!
What goes wrong with routes and routers, and its wording.
-/

namespace PathRouter

inductive RouterError where
  | input (found : Json)
  | pattern (error : Pattern.SyntaxError)
  | build (error : BuildError)
  | shape (flaw : Router.Flaw)

def BuildError.message : BuildError → String
  | .conflict e => e.message
  | .capacity e => e.message

def RouterError.message : RouterError → String
  | .input found => "invalid input: expected url to be a string, got " ++ found.compact
  | .pattern e => e.message
  | .build e => e.message
  | .shape flaw => "malformed compiled router: " ++ flaw.detail

end PathRouter
