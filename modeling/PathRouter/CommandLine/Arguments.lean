/-!
The arguments of the command line: options, then a command with arguments of its own. Options may have
their values attached, and two hyphens alone end the options of a command.
-/

namespace PathRouter.CommandLine

inductive Command where
  | check
  | route (paths : List String)
  | watch
  deriving Repr, DecidableEq

inductive Topic where
  | program
  | check
  | route
  | watch
  | help
  deriving Repr, DecidableEq

structure Options where
  config : Option String := none
  logLevel : Option String := none
  deriving Repr, DecidableEq

inductive Request where
  | run (config : String) (logLevel : Option String) (command : Command)
  | help (topic : Topic)
  deriving Repr, DecidableEq

inductive OptionName where
  | config
  | logLevel
  deriving Repr, DecidableEq

inductive Argument where
  | option (name : OptionName) (value : Option String)
  | help
  | separator
  | word (text : String)
  | unknown
  deriving Repr, DecidableEq

def longOption (name : List Char) (value : Option String) : Argument :=
  match String.ofList name, value with
  | "config", value => .option .config value
  | "log-level", value => .option .logLevel value
  | "help", none => .help
  | _, _ => .unknown

/-- The value attached to a short option; a sign of equality may stand in front. -/
def attached? : List Char → Option String
  | [] => none
  | '=' :: value => some (String.ofList value)
  | value => some (String.ofList value)

def Argument.ofString (text : String) : Argument :=
  match text.toList with
  | ['-', '-'] => .separator
  | '-' :: '-' :: long =>
    longOption (long.takeWhile (· ≠ '=')) <|
      match long.dropWhile (· ≠ '=') with
      | [] => none
      | _ :: value => some (String.ofList value)
  | '-' :: 'c' :: value => .option .config (attached? value)
  | '-' :: 'l' :: value => .option .logLevel (attached? value)
  | '-' :: 'h' :: _ => .help
  | '-' :: _ :: _ => .unknown
  | _ => .word text

def Options.set? (options : Options) (name : OptionName) (value : String) : Option Options :=
  match name with
  | .config => if options.config.isSome then none else some { options with config := value }
  | .logLevel => if options.logLevel.isSome then none else some { options with logLevel := value }

def Options.request? (options : Options) (command : Command) : Option Request :=
  options.config.map fun config => .run config options.logLevel command

/-- The words among a command's arguments, or help if it is asked for; all that follows a separator is
words. -/
def words? : List String → Option (Option (List String))
  | [] => some (some [])
  | text :: rest =>
    match Argument.ofString text with
    | .separator => some (some rest)
    | .help => some none
    | .word text => (words? rest).map fun words => words.map (text :: ·)
    | _ => none

def plain? (options : Options) (command : Command) (topic : Topic) (rest : List String) : Option Request :=
  match Argument.ofString (rest.headD "--") with
  | .help => some (.help topic)
  | .separator => if rest.length ≤ 1 then options.request? command else none
  | _ => none

def topic? : List String → Option Topic
  | [] => some .program
  | ["check"] => some .check
  | ["match"] => some .route
  | ["watch"] => some .watch
  | ["help"] => some .help
  | _ => none

def command? (options : Options) (name : String) (rest : List String) : Option Request :=
  match name with
  | "check" => plain? options .check .check rest
  | "watch" => plain? options .watch .watch rest
  | "help" => (topic? rest).map .help
  | "match" =>
    match words? rest with
    | some none => some (.help .route)
    | some (some (path :: paths)) => options.request? (.route (path :: paths))
    | _ => none
  | _ => none

def requestWith? (options : Options) : List String → Option Request
  | [] => none
  | text :: rest =>
    match Argument.ofString text with
    | .option name (some value) => do requestWith? (← options.set? name value) rest
    | .option name none =>
      match rest with
      | [] => none
      | value :: rest =>
        match Argument.ofString value with
        | .word value => do requestWith? (← options.set? name value) rest
        | _ => none
    | .help => some (.help .program)
    | .word name => command? options name rest
    | _ => none

def Request.ofArguments? (arguments : List String) : Option Request :=
  requestWith? { } arguments

end PathRouter.CommandLine
