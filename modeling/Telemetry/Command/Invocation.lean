import Telemetry.Tree

/-!
# Invocations

* `Invocation`: what the program is asked to do.
* `Invocation.ofArguments?`: the invocation of a list of arguments, or `none` for arguments that
  make none.
-/

namespace Telemetry.Command

/-- What there is help for. -/
inductive Topic where
  | program
  | validate
  | compressors
  | providers
  /-- The help itself. -/
  | help
  deriving DecidableEq

/-- What the program is asked to do. -/
inductive Invocation where
  /-- Resolve the exporters of a document. -/
  | validate (path : String) (pretty : Bool)
  /-- List the methods of compression. -/
  | compressors (pretty : Bool)
  /-- List the exporters. -/
  | providers (pretty : Bool)
  | version
  | help (topic : Topic)
  deriving DecidableEq

namespace Topic

/-- The topic of a subcommand's name, other than the help. -/
def ofWord? (word : String) : Option Topic :=
  if word = "validate" then some .validate
  else if word = "compressors" then some .compressors
  else if word = "providers" then some .providers
  else none

/-- The invocation of a subcommand with its path, if it takes and has one. -/
def invocation? : Topic → Option String → Bool → Option Invocation
  | .validate, some path, pretty => some (.validate path pretty)
  | .compressors, none, pretty => some (.compressors pretty)
  | .providers, none, pretty => some (.providers pretty)
  | _, _, _ => none

end Topic

/-- The second character of an option with one hyphen. -/
def shortOption? (word : String) : Option Char :=
  match word.toList with
  | '-' :: c :: _ => if c = '-' then none else some c
  | _ => none

/-- Whether an argument is an option: it begins with a hyphen and is more than that. -/
def isOption (word : String) : Bool :=
  match word.toList with
  | '-' :: _ :: _ => true
  | _ => false

/-- Whether an argument asks for help. -/
def isHelp (word : String) : Bool := word == "--help" || shortOption? word == some 'h'

/-- Whether an argument asks for the version. -/
def isVersion (word : String) : Bool := word == "--version" || shortOption? word == some 'V'

namespace Invocation

/-- Takes a path, unless the subcommand takes none, has one already, or the path is empty. -/
def takePath? (topic : Topic) (path : Option String) (word : String) : Option (Option String) :=
  if topic = .validate ∧ path = none ∧ word ≠ "" then some (some word) else none

/-- Reads arguments behind `--`, none of which is an option. -/
def readPaths? (topic : Topic) (path : Option String) (pretty : Bool) :
    List String → Option Invocation
  | [] => topic.invocation? path pretty
  | word :: rest => do readPaths? topic (← takePath? topic path word) pretty rest

/-- Reads the arguments of a subcommand one after the other. -/
def readArguments? (topic : Topic) (path : Option String) (pretty : Bool) :
    List String → Option Invocation
  | [] => topic.invocation? path pretty
  | word :: rest =>
    if word = "--" then readPaths? topic path pretty rest
    else if word = "--pretty" then
      if pretty then none else readArguments? topic path true rest
    else if isHelp word then some (.help topic)
    else if isOption word then none
    else do readArguments? topic (← takePath? topic path word) pretty rest

/-- Reads the arguments of `help`. -/
def readHelp? : List String → Option Invocation
  | [] => some (.help .program)
  | [word] => if word = "help" then some (.help .help) else (Topic.ofWord? word).map .help
  | _ => none

/-- The invocation of a list of arguments. -/
def ofArguments? : List String → Option Invocation
  | [] => none
  | word :: rest =>
    match Topic.ofWord? word with
    | some topic => readArguments? topic none false rest
    | none =>
      if word = "help" then readHelp? rest
      else if isHelp word then some (.help .program)
      else if isVersion word then some .version
      else none

end Invocation

/-! ## Help -/

/-- The name of the program. -/
def programName : String := "otk-cli"

/-- The version of the program. -/
def programVersion : String := "0.2.0-dev"

/-- What a topic is about. -/
def Topic.about : Topic → String
  | .program => "otk declarative configuration utilities"
  | .validate => "Parse a configuration document and resolve its metric exporters"
  | .compressors => "List compression methods accepted by exporters (JSON)"
  | .providers => "List built-in and plugin metric exporters (JSON)"
  | .help => "Print this message or the help of the given subcommand(s)"

/-- The lines about the options that all subcommands share. -/
def sharedOptions : List String :=
  ["Options:", "      --pretty  Pretty-print JSON", "  -h, --help    Print help"]

/-- The lines of help that follow what a topic is about. -/
def Topic.usage : Topic → List String
  | .program =>
    ["Usage: " ++ programName ++ " <COMMAND>", "", "Commands:",
      "  validate     " ++ Topic.about .validate,
      "  compressors  " ++ Topic.about .compressors,
      "  providers    " ++ Topic.about .providers,
      "  help         " ++ Topic.about .help, "",
      "Options:", "  -h, --help     Print help", "  -V, --version  Print version"]
  | .validate =>
    ["Usage: " ++ programName ++ " validate [OPTIONS] <PATH>", "", "Arguments:",
      "  <PATH>  Configuration document (.yaml, .yml, .json or .toml)", ""] ++ sharedOptions
  | .compressors => ["Usage: " ++ programName ++ " compressors [OPTIONS]", ""] ++ sharedOptions
  | .providers => ["Usage: " ++ programName ++ " providers [OPTIONS]", ""] ++ sharedOptions
  | .help =>
    ["Usage: " ++ programName ++ " help [COMMAND]...", "", "Arguments:",
      "  [COMMAND]...  Print help for the subcommand(s)"]

/-- The help on a topic. -/
def Topic.page (t : Topic) : List String := t.about :: "" :: t.usage

end Telemetry.Command
