import LinkerExports.Scan.Criteria
import LinkerExports.Streams
import LinkerExports.Text.ByteOrder
import LinkerExports.Text.Utf8
import Std.Data.HashMap

/-! A scan is one pass over the lines of a source. Each line is decoded by itself; bytes that
are no UTF-8 are replaced, not refused. The state of the pass is one line of lookback and
what has been found so far. A line that declares nothing becomes the line above the next one.
A line that declares something empties the lookback, so a marker reaches the line directly
below it and no other. -/
namespace LinkerExports

/-- A declaration left out because of the marker on the line above it. Lines are counted from
one. -/
structure Suppression where
  name : String
  line : Nat
  marker : String
  deriving DecidableEq, Repr

structure Summary where
  /-- The accepted names in the order of the input, repeats included. -/
  accepted : List String := []
  lineCount : Nat := 0
  /-- How many lines declare something, suppressed or not. -/
  declarationCount : Nat := 0
  suppressed : List Suppression := []
  /-- The names accepted more than once, in byte order. -/
  repeated : List String := []
  deriving DecidableEq, Repr

inductive Event where
  | accepted (name : String) (line : Nat)
  | suppressed (entry : Suppression)
  | repeated (name : String)
  | completed (summary : Summary)
  deriving DecidableEq, Repr

def Summary.closingEvents (summary : Summary) : List Event :=
  summary.repeated.map .repeated ++ [.completed summary]

structure Progress where
  /-- The line above if it declared nothing, and otherwise empty. -/
  above : List Char := []
  lineCount : Nat := 0
  declarationCount : Nat := 0
  accepted : Array String := #[]
  suppressed : Array Suppression := #[]
  counts : Std.HashMap String Nat := {}
  events : Array Event := #[]

namespace Progress

def passBy (progress : Progress) (line : List Char) : Progress :=
  { progress with
    lineCount := progress.lineCount + 1
    above := line }

def suppress (progress : Progress) (name marker : String) : Progress :=
  let entry : Suppression := ⟨name, progress.lineCount + 1, marker⟩
  { progress with
    lineCount := progress.lineCount + 1
    above := []
    declarationCount := progress.declarationCount + 1
    suppressed := progress.suppressed.push entry
    events := progress.events.push (.suppressed entry) }

def accept (progress : Progress) (name : String) : Progress :=
  { progress with
    lineCount := progress.lineCount + 1
    above := []
    declarationCount := progress.declarationCount + 1
    accepted := progress.accepted.push name
    counts := progress.counts.insert name (progress.counts.getD name 0 + 1)
    events := progress.events.push (.accepted name (progress.lineCount + 1)) }

def repeated (progress : Progress) : List String :=
  Text.sortNames ((progress.counts.toList.filter fun entry => entry.2 > 1).map Prod.fst)

/-- The summary at the end of the input. The line of lookback is dropped. -/
def summary (progress : Progress) : Summary where
  accepted := progress.accepted.toList
  lineCount := progress.lineCount
  declarationCount := progress.declarationCount
  suppressed := progress.suppressed.toList
  repeated := progress.repeated

end Progress

structure Scan where
  result : Except Error Summary
  events : List Event

namespace Criteria

def readLine (criteria : Criteria) (progress : Progress) (raw : List Char) : Progress :=
  let line := Text.foldEnding raw
  match criteria.name? line with
  | none => progress.passBy line
  | some name =>
    match criteria.marker? progress.above with
    | some marker => progress.suppress name marker
    | none => progress.accept name

def readLines (criteria : Criteria) (lines : List (List Char)) : Progress :=
  lines.foldl criteria.readLine {}

def scanText (criteria : Criteria) (text : String) : Summary :=
  (criteria.readLines (Text.lines text.toList)).summary

def scan (criteria : Criteria) (source : Source) : Scan :=
  let progress := criteria.readLines (source.lines.map Text.decode)
  match source.failure with
  | none => ⟨.ok progress.summary, progress.events.toList ++ progress.summary.closingEvents⟩
  | some text => ⟨.error (.stream text), progress.events.toList⟩

theorem scan_result_of_failure (criteria : Criteria) {source : Source} {text : String}
    (h : source.failure = some text) : (criteria.scan source).result = .error (.stream text) := by
  simp [scan, h]

end Criteria

end LinkerExports
