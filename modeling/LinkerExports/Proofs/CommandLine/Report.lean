import LinkerExports.CommandLine.Run
import LinkerExports.Proofs.Text.Lines

/-! A report says on its first line what was being done, and then what caused it to fail, the
nearest cause first. Each cause stands behind a mark. Where it takes several lines, all but the
first are as far indented as the mark is long. -/
namespace LinkerExports

namespace Text

end Text

/-- What an error of a configuration says. -/
def ConfigError.text : ConfigError → String
  | emptyPrefix => "invalid prefix: must not be empty"
  | malformedPrefix apiPrefix =>
    "invalid prefix: '" ++ apiPrefix ++ "' contains whitespace or '('"
  | emptyMarker => "invalid unused marker: must not be empty"
  | malformedName name => "invalid extra symbol: '" ++ name ++ "' is not a valid symbol name"
  | multilineTool => "invalid generator: must fit on a single line"
  | unbuiltPattern reason => "invalid declaration pattern: " ++ reason

end LinkerExports
