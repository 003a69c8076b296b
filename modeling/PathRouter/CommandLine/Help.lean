import PathRouter.CommandLine.Arguments

/-!
The help texts of the command line.
-/

namespace PathRouter.CommandLine

def programName : String := "dfa-router"

def usage (command : String) : String :=
  "Usage: " ++ programName ++ " --config <CONFIG> " ++ command

def aboutCheck : String := "Validate and compile the route table, then print a summary"

def aboutRoute : String := "Route each path and print the result as JSON"

def aboutWatch : String := "Route paths read from stdin, reloading the table when the file changes"

def aboutHelp : String := "Print this message or the help of the given subcommand(s)"

def Topic.lines : Topic → List String
  | .program => [
    "Compile and query a DFA route table",
    "",
    "Usage: " ++ programName ++ " [OPTIONS] --config <CONFIG> <COMMAND>",
    "",
    "Commands:",
    "  check  " ++ aboutCheck,
    "  match  " ++ aboutRoute,
    "  watch  " ++ aboutWatch,
    "  help   " ++ aboutHelp,
    "",
    "Options:",
    "  -c, --config <CONFIG>        Route table (TOML)",
    "  -l, --log-level <LOG_LEVEL>  Overrides `observability.log_level`; RUST_LOG overrides both",
    "  -h, --help                   Print help"]
  | .check => [aboutCheck, "", usage "check", "", "Options:", "  -h, --help  Print help"]
  | .route => [aboutRoute, "", usage "match <PATHS>...", "", "Arguments:", "  <PATHS>...  ", "",
    "Options:", "  -h, --help  Print help"]
  | .watch => [aboutWatch, "", usage "watch", "", "Options:", "  -h, --help  Print help"]
  | .help => [aboutHelp, "", usage "help [COMMAND]...", "", "Arguments:",
    "  [COMMAND]...  Print help for the subcommand(s)"]

def Topic.text (topic : Topic) : String :=
  String.join (topic.lines.map (· ++ "\n"))

end PathRouter.CommandLine
