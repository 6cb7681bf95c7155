import LinkerExports.Config

/-! Arguments are read from left to right. The first one that asks for help or for the version
settles the run, and so does the first bad one. Options that take a value take it after an equals
sign or from the next argument. -/
namespace LinkerExports

inductive ValueOption where
  | apiPrefix
  | marker
  | extraName
  | tool
  deriving DecidableEq, Repr

inductive Flag where
  | dropRepeats
  | verbose
  | help
  | version
  deriving DecidableEq, Repr

def ValueOption.name : ValueOption → String
  | apiPrefix => "prefix"
  | marker => "unused-marker"
  | extraName => "extra-symbol"
  | tool => "generator"

def Flag.name : Flag → String
  | dropRepeats => "dedup"
  | verbose => "verbose"
  | help => "help"
  | version => "version"

def ValueOption.ofName? (name : String) : Option ValueOption :=
  [apiPrefix, marker, extraName, tool].find? fun option => option.name == name

def Flag.ofName? (name : String) : Option Flag :=
  [dropRepeats, verbose, help, version].find? fun flag => flag.name == name

def Flag.ofLetter? (letter : Char) : Option Flag :=
  [('v', verbose), ('h', help), ('V', version)].lookup letter

structure Options where
  apiPrefix : Option String := none
  markers : List String := []
  extraNames : List String := []
  tool : Option String := none
  dropRepeats : Bool := false
  verbose : Bool := false
  deriving DecidableEq, Repr

/-- The configuration of a run. Markers replace those of the default and are not added to them. -/
def Options.config (options : Options) : Config where
  apiPrefix := options.apiPrefix.getD ({} : Config).apiPrefix
  markers :=
    if options.markers.isEmpty then ({} : Config).markers else options.markers
  extraNames := options.extraNames
  tool := options.tool.getD ({} : Config).tool
  dropRepeats := options.dropRepeats

inductive Request where
  | deliver (config : Config) (verbose : Bool)
  | showHelp
  | showVersion
  | rejected
  deriving DecidableEq, Repr

namespace Options

/-- Sets a value. Only markers and extra names may be given more than once. -/
def assign (options : Options) (option : ValueOption) (value : String) :
    Except Request Options :=
  match option with
  | .apiPrefix =>
    if options.apiPrefix.isSome then .error .rejected
    else .ok { options with apiPrefix := some value }
  | .marker => .ok { options with markers := options.markers ++ [value] }
  | .extraName => .ok { options with extraNames := options.extraNames ++ [value] }
  | .tool =>
    if options.tool.isSome then .error .rejected
    else .ok { options with tool := some value }

def raise (options : Options) (flag : Flag) : Except Request Options :=
  match flag with
  | .dropRepeats =>
    if options.dropRepeats then .error .rejected else .ok { options with dropRepeats := true }
  | .verbose =>
    if options.verbose then .error .rejected else .ok { options with verbose := true }
  | .help => .error .showHelp
  | .version => .error .showVersion

def raiseLetters (options : Options) : List Char → Except Request Options
  | [] => .ok options
  | letter :: rest =>
    match Flag.ofLetter? letter with
    | none => .error .rejected
    | some flag =>
      match options.raise flag with
      | .error request => .error request
      | .ok raised => raised.raiseLetters rest

end Options

inductive Argument where
  | endMark
  | valued (option : ValueOption) (value : String)
  /-- An option whose value is the next argument. -/
  | awaiting (option : ValueOption)
  | switch (flag : Flag)
  | cluster (letters : List Char)
  | unknown
  deriving DecidableEq, Repr

namespace Argument

def ofLong (text : List Char) : Argument :=
  let name := text.takeWhile (· != '=')
  match ValueOption.ofName? (String.ofList name), Flag.ofName? (String.ofList name),
      text.drop name.length with
  | some option, _, [] => awaiting option
  | some option, _, _ :: value => valued option (String.ofList value)
  | none, some flag, [] => switch flag
  | none, _, _ => unknown

def ofText (text : String) : Argument :=
  match text.toList with
  | ['-', '-'] => endMark
  | '-' :: '-' :: long => ofLong long
  | '-' :: letter :: rest => cluster (letter :: rest)
  | _ => unknown

/-- An argument may be the value of the option in front of it when it does not begin with a hyphen,
or is a hyphen alone. -/
def isValue (text : String) : Bool := text == "-" || text.toList.head? != some '-'

end Argument

namespace Options

/-- Reads the arguments that are left. Behind the end of the options nothing may follow. -/
def readFrom (options : Options) : List String → Request
  | [] => .deliver options.config options.verbose
  | text :: rest =>
    match Argument.ofText text with
    | .endMark => if rest.isEmpty then .deliver options.config options.verbose else .rejected
    | .unknown => .rejected
    | .valued option value =>
      match options.assign option value with
      | .error request => request
      | .ok assigned => assigned.readFrom rest
    | .awaiting option =>
      match rest with
      | [] => .rejected
      | value :: rest =>
        if Argument.isValue value then
          match options.assign option value with
          | .error request => request
          | .ok assigned => assigned.readFrom rest
        else .rejected
    | .switch flag =>
      match options.raise flag with
      | .error request => request
      | .ok raised => raised.readFrom rest
    | .cluster letters =>
      match options.raiseLetters letters with
      | .error request => request
      | .ok raised => raised.readFrom rest

end Options

def Request.ofArguments (arguments : List String) : Request :=
  ({} : Options).readFrom arguments

end LinkerExports
