import LinkerExports.Config
import LinkerExports.Scan.Basic
import LinkerExports.Streams
import LinkerExports.Text.ByteOrder

/-! A version script exports the names it lists and hides all others. A script that lists no name
exports everything and hides nothing. -/
namespace LinkerExports

structure VersionScript where
  tool : String
  exports : List String
  deriving DecidableEq, Repr

namespace VersionScript

open Text

def ofNames (tool : String) (names : List String) : VersionScript :=
  ⟨tool, sortNames names⟩

/-- The script for the accepted names of a scan and the extra names. Repeats are dropped after
sorting, where they stand side by side. -/
def ofSummary (summary : Summary) (config : Config) : VersionScript :=
  let script := ofNames config.tool (summary.accepted ++ config.extraNames)
  if config.dropRepeats then { script with exports := dropRepeats script.exports } else script

def exportsAll (script : VersionScript) : Bool := script.exports.isEmpty

/-! The fixed parts of the text. -/

def headFront : String := "# Automatically generated by "

def headBack : String := " - DO NOT EDIT\n"

def openLine : String := "\x7b\n"

def globalLine : String := " global:\n"

def localLine : String := "local:\n"

def wildcardLine : String := "    *;\n"

def closeLine : String := "\x7d;\n"

def entryFront : String := "    "

def entryBack : String := ";\n"

/-- The pieces of the text in the order in which they are written. -/
def pieces (script : VersionScript) : List String :=
  [headFront, script.tool, headBack, openLine, globalLine] ++
  (if script.exportsAll then [wildcardLine]
    else script.exports.flatMap (fun name => [entryFront, name, entryBack]) ++
      [localLine, wildcardLine]) ++
  [closeLine]

def render (script : VersionScript) : String := String.join script.pieces

def emit (script : VersionScript) (sink : Sink) : Except Error Unit × Sink :=
  match sink.writeAll (script.pieces.map utf8) with
  | (.ok (), written) => (written.flush, written)
  | failed => failed

end VersionScript

end LinkerExports
