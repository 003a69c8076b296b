import PathRouter.Address.Socket
import PathRouter.Config
import PathRouter.Config.LogFilter
import PathRouter.Pattern.Parser

/-!
What is wrong with a configuration that has the right form. All problems are reported: those of each route in
turn, which depend on the route and on the names before it, and then those of the rest.
-/

namespace PathRouter.Config

inductive Problem where
  | emptyName (index : Nat)
  | duplicateName (name : String)
  | invalidPattern (name : String) (error : Pattern.SyntaxError)
  | invalidLogLevel (level : String)
  | invalidMetricsAddress (address : String)
  deriving Repr, DecidableEq

def Problem.message : Problem → String
  | .emptyName index => "route #" ++ toString index ++ " has an empty name"
  | .duplicateName name => "route name `" ++ name ++ "` is used more than once"
  | .invalidPattern name error => "route `" ++ name ++ "`: " ++ error.message
  | .invalidLogLevel level => "invalid log level `" ++ level ++ "`"
  | .invalidMetricsAddress address => "invalid metrics address `" ++ address ++ "`"

/-- The problem of a name at an index, and the names seen after it. A blank name is not seen, so it is no duplicate. -/
def checkName (seen : List String) (index : Nat) (name : String) : Option Problem × List String :=
  if (Blank.trim name.toList).isEmpty then (some (.emptyName index), seen)
  else if name ∈ seen then (some (.duplicateName name), seen)
  else (none, name :: seen)

def Route.patternProblem? (route : Route) : Option Problem :=
  match Pattern.parse route.mode route.pattern with
  | .ok _ => none
  | .error error => some (.invalidPattern route.name error)

def routeProblems (seen : List String) (index : Nat) : List Route → List Problem
  | [] => []
  | route :: rest =>
    let (problem, seen) := checkName seen index route.name
    problem.toList ++ route.patternProblem?.toList ++ routeProblems seen (index + 1) rest

def Observability.problems (o : Observability) : List Problem :=
  (if LogFilter.isFilter o.logLevel.toList then [] else [.invalidLogLevel o.logLevel]) ++
    if o.metricsEnabled && !Address.Socket.isAddress o.metricsAddress.toList then
      [.invalidMetricsAddress o.metricsAddress]
    else []

def problems (config : Config) : List Problem :=
  routeProblems [] 0 config.routes ++ config.observability.problems

end PathRouter.Config
