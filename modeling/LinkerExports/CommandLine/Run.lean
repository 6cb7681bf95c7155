import LinkerExports.CommandLine.Arguments
import LinkerExports.CommandLine.Log

/-! A run from its arguments, the text of its log filter and its input to an exit code and what it
writes on its two outputs. Standard output carries the script and nothing else. -/
namespace LinkerExports

structure Outcome where
  code : Nat
  stdout : List UInt8
  stderr : String
  deriving DecidableEq, Repr

def helpText : String :=
  "Generate a linker version script exposing only the public API\n" ++
  "\n" ++
  "Usage: lds-gen [OPTIONS]\n" ++
  "\n" ++
  "Options:\n" ++
  "      --prefix <PREFIX>         Name prefix of public API functions [default: serdes_]\n" ++
  "      --unused-marker <MARKER>  Line prefix that hides the declaration below it " ++
    "(replaces the defaults)\n" ++
  "      --extra-symbol <NAME>     Symbol to export even though no declaration names it\n" ++
  "      --generator <GENERATOR>   Tool name written in the generated header comment " ++
    "[default: lds-gen]\n" ++
  "      --dedup                   Drop repeated symbol names (prototype plus definition)\n" ++
  "  -v, --verbose                 Log each accepted and suppressed symbol to stderr\n" ++
  "  -h, --help                    Print help\n" ++
  "  -V, --version                 Print version\n"

def versionText : String := "lds-gen 0.1.0\n"

/-- What a run leaves to others: to build a pattern, to read a filter, and to report on arguments
that are rejected. The report that stands here names no argument. -/
structure Libraries where
  engine : PatternEngine := .unlimited
  filters : FilterReader := .plain
  rejection : List String → String := fun _ =>
    "error: bad arguments\n\nUsage: lds-gen [OPTIONS]\n\nFor more information, try '--help'.\n"

/-- Indents every line of a text but its first. -/
def hangingIndent (indent : String) (text : String) : String :=
  String.ofList (text.toList.flatMap fun c => if c = '\n' then '\n' :: indent.toList else [c])

/-- The report of a failure: what was being done, and the causes from the nearest on. Causes are
numbered when there is more than one. -/
def failureReport (task : String) (causes : List String) : String :=
  let blocks :=
    match causes with
    | [cause] => ["    " ++ hangingIndent "    " cause ++ "\n"]
    | _ => causes.mapIdx fun i cause =>
      let number := toString i
      String.ofList (List.replicate (5 - number.length) ' ') ++ number ++ ": " ++
        hangingIndent "       " cause ++ "\n"
  "Error: " ++ task ++ "\n\nCaused by:\n" ++ String.join blocks

/-- The log of a delivery. The warning comes last, and only when a script was written that
exports everything. -/
def Delivery.log (delivery : Delivery) (config : Config) : List LogLine :=
  delivery.events.map LogLine.ofEvent ++
    match delivery.result with
    | .ok summary =>
      if summary.accepted.isEmpty && config.extraNames.isEmpty then
        [LogLine.exportsEverything config.apiPrefix]
      else []
    | .error _ => []

def runDelivery (config : Config) (filter : LogFilter) (input : Source)
    (engine : PatternEngine := .unlimited) : Outcome :=
  match config.check with
  | .error error => ⟨1, [], failureReport "invalid configuration" [error.message]⟩
  | .ok () =>
    let delivery := deliver config input {} engine
    let log := filter.render (delivery.log config)
    let written := delivery.sink.accepted.toList
    match delivery.result with
    | .ok _ => ⟨0, written, log⟩
    | .error error =>
      ⟨1, written, log ++ failureReport "failed to generate version script" error.causes⟩

def Request.readsInput : Request → Bool
  | deliver config _ => (Criteria.ofConfig config).isOk
  | _ => false

def run (arguments : List String) (filterText : Option String) (input : Source)
    (libraries : Libraries := {}) : Outcome :=
  match Request.ofArguments arguments with
  | .rejected => ⟨2, [], libraries.rejection arguments⟩
  | .showHelp => ⟨0, Text.utf8 helpText, ""⟩
  | .showVersion => ⟨0, Text.utf8 versionText, ""⟩
  | .deliver config verbose =>
    runDelivery config (libraries.filters.choose filterText verbose) input libraries.engine

end LinkerExports
