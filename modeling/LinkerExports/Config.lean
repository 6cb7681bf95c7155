import LinkerExports.Text.Characters

/-! What to look for and how to write it. A configuration is checked before anything is read or
written; `check` reports the first fault in the order prefix, markers, extra names, tool. Apart
from its configuration, a run fails because of its streams. A line of the input that makes no
sense is never an error, it just declares nothing. -/
namespace LinkerExports

structure Config where
  apiPrefix : String := "serdes_"
  /-- Beginnings of a line that hide the declaration below it. -/
  markers : List String := ["SERDES_UNUSED", "__attribute__((unused))"]
  /-- Names to export that no declaration has to give. -/
  extraNames : List String := []
  tool : String := "lds-gen"
  dropRepeats : Bool := false
  deriving DecidableEq, Repr

inductive ConfigError where
  | emptyPrefix
  | malformedPrefix (apiPrefix : String)
  | emptyMarker
  | malformedName (name : String)
  | multilineTool
  /-- The prefix is well-formed, but no pattern could be built for it, for the reason given. -/
  | unbuiltPattern (reason : String)
  deriving DecidableEq, Repr

def ConfigError.field : ConfigError → String
  | emptyPrefix | malformedPrefix _ => "prefix"
  | emptyMarker => "unused marker"
  | malformedName _ => "extra symbol"
  | multilineTool => "generator"
  | unbuiltPattern _ => "declaration pattern"

def ConfigError.reason : ConfigError → String
  | emptyPrefix | emptyMarker => "must not be empty"
  | malformedPrefix apiPrefix => "'" ++ apiPrefix ++ "' contains whitespace or '('"
  | malformedName name => "'" ++ name ++ "' is not a valid symbol name"
  | multilineTool => "must fit on a single line"
  | unbuiltPattern reason => reason

def ConfigError.message (error : ConfigError) : String :=
  "invalid " ++ error.field ++ ": " ++ error.reason

inductive Error where
  | config (error : ConfigError)
  | stream (text : String)
  deriving DecidableEq, Repr

namespace Error

/-- The pattern of the declarations could not be built, with the text of its engine. -/
def pattern (text : String) : Error := config (.unbuiltPattern text)

def message : Error → String
  | config error => error.message
  | stream text => "I/O error: " ++ text

/-- The messages of the error and of what caused it, the outermost first. -/
def causes : Error → List String
  | config (.unbuiltPattern text) => [(pattern text).message, text]
  | config error => [error.message]
  | stream text => [(stream text).message, text]

end Error

namespace Config

open Text

/-- A name that makes one entry of a script: not empty, without blanks, and without the character
that ends an entry. -/
def isEntryName (name : String) : Bool :=
  !name.isEmpty && name.toList.all fun c => !isBlank c && c != ';'

def isPrefixText (apiPrefix : String) : Bool :=
  apiPrefix.toList.all fun c => !isBlank c && c != '('

def check (config : Config) : Except ConfigError Unit :=
  if config.apiPrefix = "" then .error .emptyPrefix
  else if ¬ isPrefixText config.apiPrefix then .error (.malformedPrefix config.apiPrefix)
  else if "" ∈ config.markers then .error .emptyMarker
  else match config.extraNames.find? fun name => !isEntryName name with
    | some name => .error (.malformedName name)
    | none => if '\n' ∈ config.tool.toList then .error .multilineTool else .ok ()

theorem check_eq_ok_iff {config : Config} :
    config.check = .ok () ↔
      config.apiPrefix ≠ "" ∧ isPrefixText config.apiPrefix = true ∧ "" ∉ config.markers ∧
        (∀ name ∈ config.extraNames, isEntryName name = true) ∧
        '\n' ∉ config.tool.toList := by
  unfold check
  cases h : config.extraNames.find? fun name => !isEntryName name with
  | some name =>
    have found := List.find?_some h
    have member := List.mem_of_find?_eq_some h
    grind
  | none =>
    rw [List.find?_eq_none] at h
    grind

/-- A check builds no pattern, so it cannot fail for want of one. -/
theorem check_ne_unbuiltPattern (config : Config) (reason : String) :
    config.check ≠ .error (.unbuiltPattern reason) := by
  unfold check
  grind

theorem check_default : ({} : Config).check = .ok () := by rfl

end Config

end LinkerExports
