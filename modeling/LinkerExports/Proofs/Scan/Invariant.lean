import LinkerExports.Proofs.Scan.Meaning
import LinkerExports.Proofs.Scan.Names

/-! Each suppression uses up a marker line of its own, directly above it. So suppressed
declarations are at least two lines apart, and they and their marker lines are all
counted among the lines read. -/
namespace LinkerExports

namespace Marker

/-- No marker that comes earlier begins the first one found: it would have been found instead. -/
theorem IsFirst.self {markers : List String} {line : List Char} {marker : String}
    (h : IsFirst markers line marker) : IsFirst markers marker.toList marker := by
  obtain ⟨before, after, split, begins, none⟩ := h
  refine ⟨before, after, split, List.prefix_refl _, ?_⟩
  intro other member otherBegins
  exact none other member (otherBegins.trans begins)

end Marker

namespace Progress

def offers (progress : Progress) (criteria : Criteria) : Nat :=
  (criteria.marker? progress.above).isSome.toNat

/-- How the parts of a state hang together. A marker on offer is counted like one that is used: its
line is the last one read, and no suppression stands there. -/
structure IsBalanced (progress : Progress) (criteria : Criteria) : Prop where
  declarationCount :
    progress.declarationCount = progress.accepted.toList.length + progress.suppressed.toList.length
  markerLines : progress.declarationCount + progress.suppressed.toList.length +
    progress.offers criteria ≤ progress.lineCount
  apart : progress.suppressed.toList.Pairwise fun upper lower => upper.line + 2 ≤ lower.line
  inside : ∀ entry ∈ progress.suppressed.toList,
    2 ≤ entry.line ∧ entry.line + progress.offers criteria ≤ progress.lineCount
  markers : ∀ entry ∈ progress.suppressed.toList,
    Marker.IsFirst criteria.markers entry.marker.toList entry.marker
  accepted : ∀ name ∈ progress.accepted.toList,
    Declaration.IsNamed criteria.apiPrefix.toList name.toList
  suppressed : ∀ entry ∈ progress.suppressed.toList,
    Declaration.IsNamed criteria.apiPrefix.toList entry.name.toList

variable {progress : Progress} {criteria : Criteria}

theorem offers_le_one : progress.offers criteria ≤ 1 := Bool.toNat_le _

theorem offers_of_above_nil (nonempty : "" ∉ criteria.markers) (cleared : progress.above = []) :
    progress.offers criteria = 0 := by
  rw [offers, cleared, Criteria.marker?_nil nonempty]
  rfl

theorem isBalanced_empty (nonempty : "" ∉ criteria.markers) :
    ({} : Progress).IsBalanced criteria := by
  have idle : ({} : Progress).offers criteria = 0 := offers_of_above_nil nonempty rfl
  constructor <;> simp [idle]

theorem IsBalanced.passBy (h : progress.IsBalanced criteria) (line : List Char) :
    (progress.passBy line).IsBalanced criteria where
  declarationCount := h.declarationCount
  markerLines := by
    have offered : (progress.passBy line).offers criteria ≤ 1 := offers_le_one
    have before := h.markerLines
    simp only [Progress.passBy] at offered ⊢
    omega
  apart := h.apart
  inside entry member := by
    have offered : (progress.passBy line).offers criteria ≤ 1 := offers_le_one
    have before := h.inside entry member
    simp only [Progress.passBy] at offered ⊢
    omega
  markers := h.markers
  accepted := h.accepted
  suppressed := h.suppressed

theorem IsBalanced.accept (h : progress.IsBalanced criteria) (nonempty : "" ∉ criteria.markers)
    {name : String} (named : Declaration.IsNamed criteria.apiPrefix.toList name.toList) :
    (progress.accept name).IsBalanced criteria where
  declarationCount := by
    have before := h.declarationCount
    simp only [Progress.accept, Array.toList_push, List.length_append, List.length_singleton]
    omega
  markerLines := by
    have idle : (progress.accept name).offers criteria = 0 := offers_of_above_nil nonempty rfl
    have before := h.markerLines
    simp only [Progress.accept] at idle ⊢
    omega
  apart := h.apart
  inside entry member := by
    have idle : (progress.accept name).offers criteria = 0 := offers_of_above_nil nonempty rfl
    have before := h.inside entry member
    simp only [Progress.accept] at idle ⊢
    omega
  markers := h.markers
  accepted other member := by
    simp only [Progress.accept, Array.toList_push, List.mem_append, List.mem_singleton] at member
    rcases member with old | rfl
    · exact h.accepted other old
    · exact named
  suppressed := h.suppressed

theorem mem_suppressed_suppress {name marker : String} {entry : Suppression} :
    entry ∈ (progress.suppress name marker).suppressed.toList ↔
      entry ∈ progress.suppressed.toList ∨ entry = ⟨name, progress.lineCount + 1, marker⟩ := by
  simp only [Progress.suppress, Array.toList_push, List.mem_append, List.mem_singleton]

theorem IsBalanced.suppress (h : progress.IsBalanced criteria) (nonempty : "" ∉ criteria.markers)
    {name marker : String} (named : Declaration.IsNamed criteria.apiPrefix.toList name.toList)
    (offered : criteria.marker? progress.above = some marker) :
    (progress.suppress name marker).IsBalanced criteria := by
  have one : progress.offers criteria = 1 := by rw [offers, offered]; rfl
  have idle : (progress.suppress name marker).offers criteria = 0 :=
    offers_of_above_nil nonempty rfl
  have lineCount : (progress.suppress name marker).lineCount = progress.lineCount + 1 := rfl
  have before := h.markerLines
  have declarationCount := h.declarationCount
  constructor
  case declarationCount =>
    simp only [Progress.suppress, Array.toList_push, List.length_append, List.length_singleton]
    omega
  case markerLines =>
    simp only [idle, lineCount]
    simp only [Progress.suppress, Array.toList_push, List.length_append, List.length_singleton]
    omega
  case apart =>
    simp only [Progress.suppress, Array.toList_push]
    refine List.pairwise_append.mpr ⟨h.apart, List.pairwise_singleton _ _, ?_⟩
    intro upper member lower new
    obtain rfl := List.mem_singleton.mp new
    have inside := (h.inside upper member).2
    show upper.line + 2 ≤ progress.lineCount + 1
    omega
  case inside =>
    intro entry member
    rw [idle, lineCount]
    rcases mem_suppressed_suppress.mp member with old | rfl
    · have inside := h.inside entry old
      omega
    · show 2 ≤ progress.lineCount + 1 ∧ progress.lineCount + 1 + 0 ≤ progress.lineCount + 1
      omega
  case markers =>
    intro entry member
    rcases mem_suppressed_suppress.mp member with old | rfl
    · exact h.markers entry old
    · exact (Marker.find?_eq_some_iff.mp offered).self
  case accepted =>
    exact h.accepted
  case suppressed =>
    intro entry member
    rcases mem_suppressed_suppress.mp member with old | rfl
    · exact h.suppressed entry old
    · exact named

end Progress

namespace Criteria

variable {criteria : Criteria}

theorem isBalanced_readLine (nonempty : "" ∉ criteria.markers) {progress : Progress}
    (h : progress.IsBalanced criteria) (raw : List Char) :
    (criteria.readLine progress raw).IsBalanced criteria := by
  cases declares : criteria.name? (Text.foldEnding raw) with
  | none =>
    simp only [readLine, declares]
    exact h.passBy _
  | some name =>
    have named : Declaration.IsNamed criteria.apiPrefix.toList name.toList :=
      Declaration.isNamed_of_name? declares
    cases offered : criteria.marker? progress.above with
    | none =>
      simp only [readLine, declares, offered]
      exact h.accept nonempty named
    | some marker =>
      simp only [readLine, declares, offered]
      exact h.suppress nonempty named offered

theorem isBalanced_readLines (nonempty : "" ∉ criteria.markers) (raws : List (List Char)) :
    (criteria.readLines raws).IsBalanced criteria := by
  have run : ∀ progress : Progress, progress.IsBalanced criteria →
      (raws.foldl criteria.readLine progress).IsBalanced criteria := by
    induction raws with
    | nil => exact fun progress h => h
    | cons raw raws ih =>
      intro progress h
      exact ih _ (isBalanced_readLine nonempty h raw)
  exact run {} (Progress.isBalanced_empty nonempty)

theorem tallies_readLines (nonempty : "" ∉ criteria.markers) (raws : List (List Char)) :
    (criteria.readLines raws).Tallies :=
  (foldl_readLine nonempty (looksBackTo_empty nonempty) raws).2.2 Progress.tallies_empty

end Criteria

/-- What a summary of `count` lines says, whatever the lines are. -/
structure Summary.IsConsistent (summary : Summary) (config : Config) (count : Nat) : Prop where
  lineCount : summary.lineCount = count
  declarationCount :
    summary.declarationCount = summary.accepted.length + summary.suppressed.length
  markerLines : summary.declarationCount + summary.suppressed.length ≤ summary.lineCount
  apart : summary.suppressed.Pairwise fun upper lower => upper.line + 2 ≤ lower.line
  inside : ∀ entry ∈ summary.suppressed, 2 ≤ entry.line ∧ entry.line ≤ summary.lineCount
  /-- The marker is one of those configured, and none in front of it begins it. -/
  markers : ∀ entry ∈ summary.suppressed, ∃ before after,
    config.markers = before ++ entry.marker :: after ∧
      ∀ other ∈ before, ¬ other.toList <+: entry.marker.toList
  accepted : ∀ name ∈ summary.accepted, config.IsPublic name
  suppressed : ∀ entry ∈ summary.suppressed, config.IsPublic entry.name
  ascending : Text.IsAscending summary.repeated
  repeated : ∀ name, name ∈ summary.repeated ↔ 2 ≤ summary.accepted.count name

theorem Config.isConsistent_readLines {config : Config} (valid : config.check = .ok ())
    (raws : List (List Char)) :
    (config.criteria.readLines raws).summary.IsConsistent config raws.length := by
  have nonempty : "" ∉ config.criteria.markers :=
    Criteria.empty_notMem_markers (ofConfig_eq_criteria valid)
  have balanced := Criteria.isBalanced_readLines nonempty raws
  have summary := Criteria.summary_readLines nonempty raws
  have repeated : (config.criteria.readLines raws).summary.repeated =
      Text.repeats (config.criteria.readLines raws).summary.accepted := by
    rw [summary]
    rfl
  constructor
  case lineCount =>
    rw [summary, Summary.ofVerdicts, Criteria.length_verdicts, List.length_map]
  case declarationCount =>
    exact balanced.declarationCount
  case markerLines =>
    exact Nat.le_trans (Nat.le_add_right _ _) balanced.markerLines
  case apart =>
    exact balanced.apart
  case inside =>
    intro entry member
    obtain ⟨second, last⟩ := balanced.inside entry member
    exact ⟨second, Nat.le_trans (Nat.le_add_right _ _) last⟩
  case markers =>
    intro entry member
    obtain ⟨before, after, split, -, none⟩ := balanced.markers entry member
    exact ⟨before, after, split, none⟩
  case accepted =>
    exact fun name member => isPublic_of_isNamed valid (balanced.accepted name member)
  case suppressed =>
    exact fun entry member => isPublic_of_isNamed valid (balanced.suppressed entry member)
  case ascending =>
    rw [repeated]
    exact Text.isAscending_repeats _
  case repeated =>
    intro name
    rw [repeated, Text.mem_repeats]

theorem Config.hidesAtBy_of_mem_suppressed {config : Config} (valid : config.check = .ok ())
    {raws : List (List Char)} {entry : Suppression}
    (member : entry ∈ (config.criteria.readLines raws).summary.suppressed) :
    config.HidesAtBy (raws.map Text.foldEnding) (entry.line - 1) entry.marker := by
  have nonempty := Criteria.empty_notMem_markers (ofConfig_eq_criteria valid)
  rw [Criteria.summary_readLines nonempty, Summary.ofVerdicts] at member
  obtain ⟨-, here⟩ := Verdict.mem_suppressions_iff.mp member
  exact (((config.judges_verdicts _).suppressed_iff _ _ _).mp here).2

/-- After any number of lines the counts are those of the accepted names, the summary is consistent
and every suppression has its marker line. So is every summary of a text and of a source. -/
theorem readLines_isConsistent {config : Config} (valid : config.check = .ok ()) :
    ∃ criteria, Criteria.ofConfig config = .ok criteria ∧
      (∀ raws : List (List Char), (criteria.readLines raws).Tallies ∧
        (criteria.readLines raws).summary.IsConsistent config raws.length ∧
        ∀ entry ∈ (criteria.readLines raws).summary.suppressed,
          config.HidesAtBy (raws.map Text.foldEnding) (entry.line - 1) entry.marker) ∧
      (∀ (text : String) (rows : List (List Char)), Text.IsLines (· == '\n') text.toList rows →
        (criteria.scanText text).IsConsistent config rows.length) ∧
      ∀ (source : Source) (summary : Summary), (criteria.scan source).result = .ok summary →
        ∃ rows, Text.IsLines (· == 0x0A) source.bytes rows ∧
          summary.IsConsistent config rows.length := by
  have built := Config.ofConfig_eq_criteria valid
  refine ⟨_, built, ?_, ?_, ?_⟩
  · intro raws
    exact ⟨Criteria.tallies_readLines (Criteria.empty_notMem_markers built) raws,
      Config.isConsistent_readLines valid raws,
      fun entry member => Config.hidesAtBy_of_mem_suppressed valid member⟩
  · intro text rows cut
    obtain rfl := Text.isLines_iff.mp cut
    exact Config.isConsistent_readLines valid _
  · intro source summary scanned
    cases ends : source.failure with
    | some text =>
      rw [Criteria.scan_result_of_failure _ ends] at scanned
      simp at scanned
    | none =>
      refine ⟨Text.byteLines source.bytes, Text.isLines_splitLines _ _, ?_⟩
      have rows := Source.lines_of_ends ends
      simp only [Criteria.scan, ends, rows, Except.ok.injEq] at scanned
      have consistent :=
        Config.isConsistent_readLines valid ((Text.byteLines source.bytes).map Text.decode)
      rwa [scanned, List.length_map] at consistent

def crowdedText : String :=
  "SERDES_UNUSED\nint serdes_a(int x);\nSERDES_UNUSED\nint serdes_b(int x);\n" ++
    "int serdes_c(int x);\nint serdes_c(int x);"

theorem readLines_isConsistent_of_crowded :
    ({} : Config).check = .ok () ∧
      ∃ criteria, Criteria.ofConfig {} = .ok criteria ∧
        (criteria.scanText crowdedText).suppressed.map Suppression.line = [2, 4] ∧
        (criteria.scanText crowdedText).IsConsistent {} 6 := by
  obtain ⟨criteria, built, -, texts, -⟩ := readLines_isConsistent Config.check_default
  obtain ⟨-, -, rfl⟩ := Criteria.ofConfig_eq_ok_iff.mp built
  have consistent := texts crowdedText _ (Text.isLines_splitLines _ _)
  have six : (Text.splitLines (· == '\n') crowdedText.toList).length = 6 := by decide +kernel
  rw [six] at consistent
  refine ⟨Config.check_default, _, built, ?_, consistent⟩
  decide +kernel

end LinkerExports
