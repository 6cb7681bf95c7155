import LinkerExports.Delivery
import LinkerExports.Text.Characters

/-! Every event is one line of text: its level, where it comes from, a message and named values. A
filter lets some of the lines through. The text set for the filter, where it can be read, decides
alone; otherwise `--verbose` does. Texts of filters are read by a `FilterReader`. The plain one
reads directives for targets, parted by commas, and none for spans. -/
namespace LinkerExports

inductive Level where
  | error
  | warn
  | info
  | debug
  | trace
  deriving DecidableEq, Repr

namespace Level

def rank : Level → Nat
  | error => 1
  | warn => 2
  | info => 3
  | debug => 4
  | trace => 5

def label : Level → String
  | error => "ERROR"
  | warn => " WARN"
  | info => " INFO"
  | debug => "DEBUG"
  | trace => "TRACE"

/-- Every name of a level, one in letters and one in digits; `off` is below all levels. -/
def names : List (String × Option Level) :=
  [("off", none), ("error", some error), ("warn", some warn), ("info", some info),
    ("debug", some debug), ("trace", some trace), ("0", none), ("1", some error),
    ("2", some warn), ("3", some info), ("4", some debug), ("5", some trace)]

def ofName? (name : String) : Option (Option Level) := names.lookup name.toLower

end Level

structure LogLine where
  level : Level
  target : String
  message : String
  values : List (String × String)
  deriving DecidableEq, Repr

namespace LogLine

def runTarget : String := "lds_gen"

def scanTarget : String := "lds_gen::scanner::extract"

def ofEvent : Event → LogLine
  | .accepted name line =>
    ⟨.debug, scanTarget, "accepted symbol", [("symbol", name), ("line", toString line)]⟩
  | .suppressed entry =>
    ⟨.debug, scanTarget, "suppressed unused symbol",
      [("symbol", entry.name), ("line", toString entry.line),
        ("marker", Text.quoted entry.marker)]⟩
  | .repeated name => ⟨.debug, scanTarget, "symbol declared more than once", [("symbol", name)]⟩
  | .completed summary =>
    ⟨.info, scanTarget, "scan complete",
      [("lines", toString summary.lineCount), ("matched", toString summary.declarationCount),
        ("accepted", toString summary.accepted.length),
        ("suppressed", toString summary.suppressed.length),
        ("duplicates", toString summary.repeated.length)]⟩

def exportsEverything (apiPrefix : String) : LogLine :=
  ⟨.warn, runTarget, "no public symbols found; exporting everything", [("prefix", apiPrefix)]⟩

def render (line : LogLine) : String :=
  line.level.label ++ " " ++ line.target ++ ": " ++ line.message ++
    String.join (line.values.map fun value => " " ++ value.1 ++ "=" ++ value.2)

end LogLine

structure LogFilter where
  allows : LogLine → Bool

def LogFilter.render (filter : LogFilter) (lines : List LogLine) : String :=
  String.join ((lines.filter filter.allows).map fun line => line.render ++ "\n")

/-- Lets through the lines whose target begins with `target`, up to a level. -/
structure Directive where
  target : String
  level : Option Level
  deriving DecidableEq, Repr

namespace Directive

def isTarget (text : List Char) : Bool :=
  !text.isEmpty && text.all fun c => c.isAlphanum || c == '_' || c == ':' || c == '-'

/-- Reads a level for all targets, or a target, which may have an equals sign and a level behind
it. -/
def ofText? (text : List Char) : Option Directive :=
  let name := text.takeWhile (· != '=')
  match Level.ofName? (String.ofList text), text.drop name.length with
  | some level, _ => some ⟨"", level⟩
  | none, '=' :: first :: level =>
    if isTarget name then
      (Level.ofName? (String.ofList (first :: level))).map (⟨String.ofList name, ·⟩)
    else none
  | none, _ => if isTarget name then some ⟨String.ofList name, some .trace⟩ else none

def concerns (directive : Directive) (line : LogLine) : Bool :=
  directive.target.toList.isPrefixOf line.target.toList

def allows (directive : Directive) (line : LogLine) : Bool :=
  match directive.level with
  | none => false
  | some level => line.level.rank ≤ level.rank

/-- Of two directives, the one with the longer target, and the later one if they are as long. -/
def closer (later : Directive) : Option Directive → Option Directive
  | none => some later
  | some earlier =>
    if later.target.length < earlier.target.length then some earlier else some later

/-- The parts of a text between its commas that are not empty. -/
def parts (text : String) : List (List Char) :=
  ((Text.splitLines (· == ',') text.toList).map (List.filter (· != ','))).filter (!·.isEmpty)

end Directive

/-- Of the directives that concern a line, the one with the longest target decides. Where there are
no directives at all, errors pass. -/
def LogFilter.ofDirectives (directives : List Directive) : LogFilter where
  allows line :=
    let given := if directives.isEmpty then [⟨"", some .error⟩] else directives
    match (given.filter (·.concerns line)).foldl (fun found later => later.closer found) none with
    | none => false
    | some directive => directive.allows line

structure FilterReader where
  /-- Reads the text of a filter, or refuses it. -/
  read? : String → Option LogFilter
  /-- Reads the text of a filter and leaves out what it cannot read. -/
  readLossy : String → LogFilter

namespace FilterReader

def plain : FilterReader where
  read? text := ((Directive.parts text).mapM Directive.ofText?).map LogFilter.ofDirectives
  readLossy text := LogFilter.ofDirectives ((Directive.parts text).filterMap Directive.ofText?)

def fallbackText (verbose : Bool) : String :=
  LogLine.runTarget ++ "=" ++ if verbose then "debug" else "warn"

/-- The filter of a run, from the text set for it, if any. -/
def choose (reader : FilterReader) (text : Option String) (verbose : Bool) : LogFilter :=
  (text.bind reader.read?).getD (reader.readLossy (fallbackText verbose))

end FilterReader

end LinkerExports
