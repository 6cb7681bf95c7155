import LinkerExports.Proofs.Scan.Run
import LinkerExports.Proofs.Text.Decoding
import LinkerExports.Proofs.Text.Lines
import LinkerExports.Scan.Basic

/-! A scan of a text, told line by line and without a state: a declaration is hidden exactly when
the line directly above it declares nothing and begins with a marker. A source that ends is scanned
like the text that all its bytes stand for, wherever its chunks stop. -/
namespace LinkerExports

/-- The summary that the verdicts on the lines of an input make. -/
def Summary.ofVerdicts (verdicts : List Verdict) : Summary where
  accepted := verdicts.filterMap Verdict.accepted?
  lineCount := verdicts.length
  declarationCount := verdicts.countP Verdict.declares
  suppressed := Verdict.suppressions 1 verdicts
  repeated := Text.repeats (verdicts.filterMap Verdict.accepted?)

/-- The marker is the first of all that the line begins with. -/
def Marker.IsFirst (markers : List String) (line : List Char) (marker : String) : Prop :=
  ∃ before after, markers = before ++ marker :: after ∧ marker.toList <+: line ∧
    ∀ other ∈ before, ¬ other.toList <+: line

theorem Marker.find?_eq_some_iff {markers : List String} {line : List Char} {marker : String} :
    find? markers line = some marker ↔ IsFirst markers line marker := by
  simp only [find?, List.find?_eq_some_iff_append, List.isPrefixOf_iff_prefix, IsFirst,
    Bool.not_eq_true', ← Bool.not_eq_true]
  constructor
  · rintro ⟨begins, before, after, split, none⟩
    exact ⟨before, after, split, begins, none⟩
  · rintro ⟨before, after, split, begins, none⟩
    exact ⟨begins, before, after, split, none⟩

namespace Criteria

variable {criteria : Criteria}

theorem summary_readLines (nonempty : "" ∉ criteria.markers) (raws : List (List Char)) :
    (criteria.readLines raws).summary =
      Summary.ofVerdicts (criteria.verdicts (raws.map Text.foldEnding)) := by
  obtain ⟨grown, -, kept⟩ := foldl_readLine nonempty (looksBackTo_empty nonempty) raws
  have tallies : (criteria.readLines raws).Tallies := kept Progress.tallies_empty
  rw [← verdicts_eq_verdictsBelow] at grown
  have accepted := grown.accepted
  have lineCount := grown.lineCount
  have declarationCount := grown.declarationCount
  have suppressed := grown.suppressed
  simp only [List.nil_append, Nat.zero_add] at accepted lineCount declarationCount suppressed
  simp only [Progress.summary, Summary.ofVerdicts, tallies.repeated_eq]
  simp only [readLines, accepted, lineCount, declarationCount, suppressed]

theorem scanText_eq_ofVerdicts (nonempty : "" ∉ criteria.markers) (text : String) :
    criteria.scanText text = Summary.ofVerdicts
      (criteria.verdicts ((Text.lines text.toList).map Text.foldEnding)) :=
  summary_readLines nonempty _

theorem repeated_scanText (nonempty : "" ∉ criteria.markers) (text : String) :
    (criteria.scanText text).repeated = Text.repeats (criteria.scanText text).accepted := by
  rw [scanText_eq_ofVerdicts nonempty]
  rfl

theorem setMarker?_eq_some_iff {line : List Char} {marker : String} :
    criteria.setMarker? line = some marker ↔
      criteria.name? line = none ∧ criteria.marker? line = some marker := by
  cases h : criteria.name? line <;> simp [setMarker?, h]

theorem verdict_eq_suppressed_iff {above : Option (List Char)} {line : List Char}
    {name marker : String} :
    criteria.verdict above line = .suppressed name marker ↔
      criteria.name? line = some name ∧ above.bind criteria.setMarker? = some marker := by
  simp only [verdict]
  cases criteria.name? line <;> cases above.bind criteria.setMarker? <;> simp

theorem verdict_eq_accepted_iff {above : Option (List Char)} {line : List Char} {name : String} :
    criteria.verdict above line = .accepted name ↔
      criteria.name? line = some name ∧ above.bind criteria.setMarker? = none := by
  simp only [verdict]
  cases criteria.name? line <;> cases above.bind criteria.setMarker? <;> simp

theorem declares_verdict (above : Option (List Char)) (line : List Char) :
    (criteria.verdict above line).declares = (criteria.name? line).isSome := by
  simp only [verdict]
  cases criteria.name? line <;> cases above.bind criteria.setMarker? <;> rfl

theorem countP_declares_verdictsBelow (above : Option (List Char)) (lines : List (List Char)) :
    (criteria.verdictsBelow above lines).countP Verdict.declares =
      lines.countP fun line => (criteria.name? line).isSome := by
  induction lines generalizing above with
  | nil => rfl
  | cons line rest ih => simp only [verdictsBelow, List.countP_cons, declares_verdict, ih]

end Criteria

namespace Config

/-- The criteria that the configuration gives once it is checked. -/
def criteria (config : Config) : Criteria := ⟨config.apiPrefix, config.markers⟩

variable {config : Config}

theorem ofConfig_eq_criteria (valid : config.check = .ok ()) :
    Criteria.ofConfig config = .ok config.criteria :=
  Criteria.ofConfig_eq_ok_iff.mpr ⟨valid, rfl, rfl⟩

theorem scanText_criteria (valid : config.check = .ok ()) (text : String) :
    config.criteria.scanText text = Summary.ofVerdicts
      (config.criteria.verdicts ((Text.lines text.toList).map Text.foldEnding)) :=
  Criteria.scanText_eq_ofVerdicts (Criteria.empty_notMem_markers (ofConfig_eq_criteria valid)) text

@[simp] theorem name?_criteria (line : List Char) :
    config.criteria.name? line = Declaration.name? config.apiPrefix line := rfl

theorem setMarker?_criteria_eq_some_iff {line : List Char} {marker : String} :
    config.criteria.setMarker? line = some marker ↔
      Declaration.name? config.apiPrefix line = none ∧ Marker.IsFirst config.markers line marker := by
  rw [Criteria.setMarker?_eq_some_iff, name?_criteria, Criteria.marker?, Marker.find?_eq_some_iff,
    criteria]

end Config

/-- The line above line `i`, lines counted from zero. -/
def lineAbove (lines : List (List Char)) : Nat → Option (List Char)
  | 0 => none
  | i + 1 => lines[i]?

theorem Criteria.getElem?_verdicts (criteria : Criteria) (lines : List (List Char)) (i : Nat) :
    (criteria.verdicts lines)[i]? = lines[i]?.map (criteria.verdict (lineAbove lines i)) := by
  rw [verdicts, List.getElem?_zipWith]
  cases i with
  | zero => cases lines <;> rfl
  | succ i =>
    rw [List.getElem?_cons_succ, List.getElem?_map]
    by_cases inside : i + 1 < lines.length
    · have here : lines[i + 1]? = some lines[i + 1] := List.getElem?_eq_getElem inside
      have above : lines[i]? = some lines[i] := List.getElem?_eq_getElem (by omega)
      simp only [here, above, lineAbove, Option.map_some]
    · have beyond : lines[i + 1]? = none := List.getElem?_eq_none (by omega)
      simp only [beyond, Option.map_none]
      cases lines[i]? <;> rfl

namespace Config

def DeclaresAt (config : Config) (lines : List (List Char)) (i : Nat) (name : String) : Prop :=
  ∃ line, lines[i]? = some line ∧ Declaration.name? config.apiPrefix line = some name

/-- Line `i` has a line directly above it that declares nothing and begins with a marker. -/
def HidesAt (config : Config) (lines : List (List Char)) (i : Nat) : Prop :=
  ∃ j above, i = j + 1 ∧ lines[j]? = some above ∧
    Declaration.name? config.apiPrefix above = none ∧
      ∃ marker ∈ config.markers, marker.toList <+: above

/-- The marker is the first that the line directly above line `i` begins with. -/
def HidesAtBy (config : Config) (lines : List (List Char)) (i : Nat) (marker : String) : Prop :=
  ∃ j above, i = j + 1 ∧ lines[j]? = some above ∧
    Declaration.name? config.apiPrefix above = none ∧ Marker.IsFirst config.markers above marker

/-- The verdicts on all lines, each pinned down by the line and the one directly above it. -/
structure Judges (config : Config) (lines : List (List Char)) (verdicts : List Verdict) : Prop where
  length_eq : verdicts.length = lines.length
  accepted_iff : ∀ i name, verdicts[i]? = some (.accepted name) ↔
    config.DeclaresAt lines i name ∧ ¬ config.HidesAt lines i
  suppressed_iff : ∀ i name marker, verdicts[i]? = some (.suppressed name marker) ↔
    config.DeclaresAt lines i name ∧ config.HidesAtBy lines i marker

theorem setMarker?_lineAbove_iff {config : Config} {lines : List (List Char)} {i : Nat}
    {marker : String} :
    (lineAbove lines i).bind config.criteria.setMarker? = some marker ↔
      config.HidesAtBy lines i marker := by
  simp only [HidesAtBy, Option.bind_eq_some_iff, setMarker?_criteria_eq_some_iff]
  constructor
  · rintro ⟨above, at_above, hidden⟩
    cases i with
    | zero => simp [lineAbove] at at_above
    | succ j => exact ⟨j, above, rfl, at_above, hidden⟩
  · rintro ⟨j, above, rfl, at_above, hidden⟩
    exact ⟨above, at_above, hidden⟩

theorem hidesAt_iff {config : Config} {lines : List (List Char)} {i : Nat} :
    config.HidesAt lines i ↔ ∃ marker, config.HidesAtBy lines i marker := by
  constructor
  · rintro ⟨j, above, rfl, at_above, silent, marker, member, begins⟩
    cases found : Marker.find? config.markers above with
    | none => exact absurd begins (Marker.find?_eq_none_iff.mp found marker member)
    | some first =>
      exact ⟨first, j, above, rfl, at_above, silent, Marker.find?_eq_some_iff.mp found⟩
  · rintro ⟨marker, j, above, rfl, at_above, silent, before, after, split, begins, -⟩
    exact ⟨j, above, rfl, at_above, silent, marker, by simp [split], begins⟩

theorem judges_verdicts (config : Config) (lines : List (List Char)) :
    config.Judges lines (config.criteria.verdicts lines) := by
  constructor
  · exact Criteria.length_verdicts _ lines
  · intro i name
    rw [Criteria.getElem?_verdicts, Option.map_eq_some_iff]
    simp only [Criteria.verdict_eq_accepted_iff, hidesAt_iff, ← setMarker?_lineAbove_iff,
      ← Option.isSome_iff_exists, Option.not_isSome_iff_eq_none]
    constructor
    · rintro ⟨line, here, declares, unmarked⟩
      exact ⟨⟨line, here, declares⟩, unmarked⟩
    · rintro ⟨⟨line, here, declares⟩, unmarked⟩
      exact ⟨line, here, declares, unmarked⟩
  · intro i name marker
    rw [Criteria.getElem?_verdicts, Option.map_eq_some_iff]
    simp only [Criteria.verdict_eq_suppressed_iff, ← setMarker?_lineAbove_iff]
    constructor
    · rintro ⟨line, here, declares, hidden⟩
      exact ⟨⟨line, here, declares⟩, hidden⟩
    · rintro ⟨⟨line, here, declares⟩, hidden⟩
      exact ⟨line, here, declares, hidden⟩

end Config

/-- The summary says of every line what becomes of it. -/
structure Summary.Reports (summary : Summary) (config : Config) (lines : List (List Char)) :
    Prop where
  lineCount : summary.lineCount = lines.length
  declarationCount : summary.declarationCount =
    lines.countP fun line => (Declaration.name? config.apiPrefix line).isSome
  verdicts : ∃ verdicts, config.Judges lines verdicts ∧
    summary.accepted = verdicts.filterMap Verdict.accepted? ∧
    summary.suppressed = (verdicts.zipIdx 1).filterMap fun entry => entry.1.suppressed? entry.2

/-- A checked configuration gives criteria, and a scan of any text reports its lines, their
endings folded. -/
theorem scanText_reports_lines {config : Config} (valid : config.check = .ok ()) (text : String) :
    ∃ criteria rows lines, Criteria.ofConfig config = .ok criteria ∧
      Text.IsLines (· == '\n') text.toList rows ∧ List.Forall₂ Text.FoldsTo rows lines ∧
      (criteria.scanText text).Reports config lines := by
  refine ⟨config.criteria, Text.lines text.toList, (Text.lines text.toList).map Text.foldEnding,
    Config.ofConfig_eq_criteria valid, Text.isLines_splitLines _ _, Text.foldsTo_map_foldEnding _,
    ?_⟩
  rw [Config.scanText_criteria valid]
  constructor
  · exact Criteria.length_verdicts _ _
  · simp only [Summary.ofVerdicts, Criteria.verdicts_eq_verdictsBelow,
      Criteria.countP_declares_verdictsBelow, Config.name?_criteria]
  · exact ⟨_, config.judges_verdicts _, rfl, rfl⟩

/-- The second line is hidden through a folded ending. The marker of the third hides nothing, for
that line is a declaration itself. -/
theorem scanText_reports_lines_of_default :
    ({} : Config).check = .ok () ∧
      ∃ criteria rows lines, Criteria.ofConfig {} = .ok criteria ∧
        Text.IsLines (· == '\n') ("SERDES_UNUSED\r\nint serdes_a(int x);\n" ++
          "SERDES_UNUSED int serdes_b(int x);\nint serdes_c(int x)").toList rows ∧
        List.Forall₂ Text.FoldsTo rows lines ∧
        (criteria.scanText ("SERDES_UNUSED\r\nint serdes_a(int x);\n" ++
          "SERDES_UNUSED int serdes_b(int x);\nint serdes_c(int x)")).Reports {} lines :=
  ⟨Config.check_default, scanText_reports_lines Config.check_default _⟩

theorem Source.lines_of_ends {source : Source} (ends : source.failure = none) :
    source.lines = Text.byteLines source.bytes := by
  obtain ⟨chunks, failure⟩ := source
  simp only at ends
  subst ends
  exact Source.lines_eq_byteLines chunks

def Source.text (source : Source) : String := String.ofList (Text.decode source.bytes)

theorem Source.decodes_text (source : Source) : Text.Decodes source.bytes source.text.toList := by
  rw [Source.text, String.toList_ofList]
  exact Text.decodes_decode source.bytes

theorem Source.map_decode_lines {source : Source} (ends : source.failure = none) :
    source.lines.map Text.decode = Text.lines source.text.toList := by
  rw [lines_of_ends ends, Text.map_decode_byteLines, text, String.toList_ofList]

theorem Criteria.scan_result_of_ends (criteria : Criteria) {source : Source}
    (ends : source.failure = none) :
    (criteria.scan source).result = .ok (criteria.scanText source.text) := by
  simp only [Criteria.scan, Criteria.scanText, ends, Source.map_decode_lines ends]

/-- Scanning a source that ends succeeds, and its summary is that of the text that the whole input
stands for, whatever the chunks are. -/
theorem scan_eq_scanText {config : Config} (valid : config.check = .ok ()) {source : Source}
    (ends : source.failure = none) :
    ∃ criteria, Criteria.ofConfig config = .ok criteria ∧
      (∃ text : String, Text.Decodes source.bytes text.toList) ∧
      ∀ text : String, Text.Decodes source.bytes text.toList →
        (criteria.scan source).result = .ok (criteria.scanText text) := by
  refine ⟨_, Criteria.ofConfig_eq_ok_iff.mpr ⟨valid, rfl, rfl⟩, ⟨_, source.decodes_text⟩, ?_⟩
  intro text decodes
  have same : text = source.text := String.toList_inj.mp (decodes.unique source.decodes_text)
  rw [same]
  exact Criteria.scan_result_of_ends _ ends

/-- A sequence cut off by a newline, an overlong newline and a sequence cut off by the end. -/
def cutOffSource : Source := { chunks := [[0xE2], [0x82, 0x0A, 0xC0], [0x8A, 0xF0, 0x9F]] }

theorem scan_eq_scanText_of_cutOff :
    ({} : Config).check = .ok () ∧ cutOffSource.failure = none ∧
      ∃ criteria, Criteria.ofConfig {} = .ok criteria ∧
        (criteria.scan cutOffSource).result =
          .ok (criteria.scanText "\uFFFD\n\uFFFD\uFFFD\uFFFD") := by
  refine ⟨Config.check_default, rfl, ?_⟩
  have ends : cutOffSource.failure = none := rfl
  obtain ⟨criteria, built, -, agree⟩ := scan_eq_scanText Config.check_default ends
  exact ⟨criteria, built, agree _ (Text.decodes_iff.mpr (by decide))⟩

end LinkerExports
