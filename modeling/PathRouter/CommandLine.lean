import PathRouter.CommandLine.Help
import PathRouter.Config.Loading
import PathRouter.Router.Transfer

/-!
What the commands answer. A table is checked, paths are routed, or lines of the input are routed while the
table may change.
-/

namespace PathRouter.CommandLine

inductive Outcome where
  | done (output : String)
  | failed (error : Config.LoadError)
  | misused

namespace Outcome

def exitCode : Outcome → Nat
  | .done _ => 0
  | .failed _ => 1
  | .misused => 2

def output : Outcome → String
  | .done output => output
  | _ => ""

def error? : Outcome → Option String
  | .failed error => some error.message
  | _ => none

end Outcome

def summary (router : Router String) : Json :=
  .obj [("engine", .str router.engine.kind), ("routes", .ofNat router.routeCount),
    ("states", .ofNat router.engine.states), ("table_bytes", .ofNat router.engine.octets)]

def matchReport (router : Router String) (path : String) : Json :=
  let (route, bound) := router.routeWith (.text path) .empty
  .obj [("path", .str path), ("route", Json.ofOption .str route), ("variables", bound.toJson)]

def answerPaths (router : Router String) (paths : List String) : String :=
  String.join (paths.map fun path => (matchReport router path).compact ++ "\n")

def linePath? (line : String) : Option String :=
  match Blank.trim line.toList with
  | [] => none
  | path => some (String.ofList path)

def inputPaths (input : String) : List String :=
  (Pieces.cut '\n' input.toList).filterMap fun line => linePath? (String.ofList line)

def Command.output (router : Router String) (input : String) : Command → String
  | .check => (summary router).pretty ++ "\n"
  | .route paths => answerPaths router paths
  | .watch => answerPaths router (inputPaths input)

def run (arguments : List String) (file : String → Except String String) (input : String) : Outcome :=
  match Request.ofArguments? arguments with
  | none => .misused
  | some (.help topic) => .done topic.text
  | some (.run config _ command) =>
    match Config.loadFile config (file config) with
    | .error error => .failed error
    | .ok router => .done (command.output router input)

end PathRouter.CommandLine
