import LinkerExports.Proofs.Scan.Meaning
import LinkerExports.Proofs.Script.Exports
import LinkerExports.Proofs.Text.Ascending

/-! A scan counts names while it runs, a script drops repeats after it has sorted them. The two
agree on which names are repeated and on how many copies there are. -/
namespace LinkerExports

/-- The same configuration with repeats dropped or kept. -/
def Config.dropping (config : Config) (drops : Bool) : Config :=
  { config with dropRepeats := drops }

/-- What the summary reports as repeated is what stands side by side in the script and what is
dropped from it. -/
structure Summary.RepeatsMatch (summary : Summary) (config : Config) : Prop where
  nodup : summary.repeated.Nodup
  inOrder : ∀ tool, summary.repeated.Sublist (VersionScript.ofNames tool summary.accepted).exports
  standBeside : ∀ tool name, name ∈ summary.repeated ↔
    Text.StandsBesideItself (VersionScript.ofNames tool summary.accepted).exports name
  differ : config.extraNames = [] →
    (VersionScript.ofSummary summary (config.dropping true) ≠
      VersionScript.ofSummary summary (config.dropping false) ↔ summary.repeated ≠ [])
  /-- The sum is how many entries are dropped. -/
  length : config.extraNames = [] →
    (VersionScript.ofSummary summary (config.dropping true)).exports.length +
        (summary.repeated.map fun name => summary.accepted.count name - 1).sum =
      (VersionScript.ofSummary summary (config.dropping false)).exports.length
  dropped : ∀ name,
    (VersionScript.ofSummary summary (config.dropping true)).exports.count name <
        (VersionScript.ofSummary summary (config.dropping false)).exports.count name ↔
      name ∈ summary.repeated ∨
        name ∈ config.extraNames ∧
          (2 ≤ config.extraNames.count name ∨ name ∈ summary.accepted)

namespace VersionScript

variable {summary : Summary} {config : Config}

theorem exports_dropping_true : (ofSummary summary (config.dropping true)).exports =
    Text.dropRepeats (Text.sortNames (summary.accepted ++ config.extraNames)) :=
  congrArg exports (ofSummary_of_drops rfl)

theorem exports_dropping_false : (ofSummary summary (config.dropping false)).exports =
    Text.sortNames (summary.accepted ++ config.extraNames) :=
  congrArg exports (ofSummary_of_keeps rfl)

theorem ofSummary_dropping_ne_iff :
    ofSummary summary (config.dropping true) ≠ ofSummary summary (config.dropping false) ↔
      Text.repeats (summary.accepted ++ config.extraNames) ≠ [] := by
  rw [ofSummary_of_drops rfl, ofSummary_of_keeps rfl, ne_eq, ne_eq, VersionScript.mk.injEq,
    ← Text.dropRepeats_sortNames_eq_iff]
  exact not_congr (and_iff_right rfl)

end VersionScript

theorem Text.two_le_count_append_iff {found given : List String} {name : String} :
    2 ≤ (found ++ given).count name ↔
      2 ≤ found.count name ∨ name ∈ given ∧ (2 ≤ given.count name ∨ name ∈ found) := by
  rw [List.count_append, ← List.count_pos_iff, ← List.count_pos_iff]
  omega

theorem Summary.repeatsMatch_of_repeats {summary : Summary}
    (counted : summary.repeated = Text.repeats summary.accepted) (config : Config) :
    summary.RepeatsMatch config := by
  have alone : config.extraNames = [] →
      summary.accepted ++ config.extraNames = summary.accepted := by
    intro none
    rw [none, List.append_nil]
  constructor
  case nodup =>
    rw [counted]
    exact (Text.isAscending_repeats _).nodup
  case inOrder =>
    intro tool
    rw [counted]
    exact Text.repeats_sublist_sortNames _
  case standBeside =>
    intro tool name
    rw [counted]
    exact Text.mem_repeats_iff_standsBesideItself
  case differ =>
    intro none
    rw [VersionScript.ofSummary_dropping_ne_iff, alone none, counted]
  case length =>
    intro none
    rw [VersionScript.exports_dropping_true, VersionScript.exports_dropping_false, alone none,
      counted, Text.length_dropRepeats_sortNames, (Text.sortNames_perm _).length_eq]
  case dropped =>
    intro name
    rw [VersionScript.exports_dropping_true, VersionScript.exports_dropping_false,
      Text.count_dropRepeats_lt_iff, Text.two_le_count_append_iff, counted, Text.mem_repeats]

/-- The repeated names that a scan counts are those that sorting shows side by side and those of
which dropping repeats takes copies, for every text and every source that ends. -/
theorem scan_repeats_match {config : Config} (valid : config.check = .ok ()) :
    ∃ criteria, Criteria.ofConfig config = .ok criteria ∧
      (∀ text, (criteria.scanText text).RepeatsMatch config) ∧
      ∀ source : Source, source.failure = none →
        ∃ summary, (criteria.scan source).result = .ok summary ∧ summary.RepeatsMatch config := by
  have built := Config.ofConfig_eq_criteria valid
  have texts : ∀ text, (config.criteria.scanText text).RepeatsMatch config := by
    intro text
    have counted := Criteria.repeated_scanText (Criteria.empty_notMem_markers built) text
    exact Summary.repeatsMatch_of_repeats counted config
  refine ⟨_, built, texts, ?_⟩
  intro source ends
  exact ⟨_, Criteria.scan_result_of_ends _ ends, texts _⟩

def repeatingText : String := "int serdes_b(int x);\nint serdes_a(int x);\nint serdes_b(int x)"

/-- One name is declared twice. The other is declared once and may be an extra name as well. -/
theorem scan_repeats_match_of_repeating :
    ({} : Config).check = .ok () ∧ ({ extraNames := ["serdes_a"] } : Config).check = .ok () ∧
      ∃ criteria, Criteria.ofConfig {} = .ok criteria ∧
        let summary := criteria.scanText repeatingText
        let script := fun extraNames drops =>
          VersionScript.ofSummary summary (Config.dropping { extraNames := extraNames } drops)
        "serdes_b" ∈ summary.repeated ∧ "serdes_a" ∉ summary.repeated ∧
        script [] true ≠ script [] false ∧
        (script ["serdes_a"] true).exports.count "serdes_a" <
          (script ["serdes_a"] false).exports.count "serdes_a" := by
  have valid : ({ extraNames := ["serdes_a"] } : Config).check = .ok () := rfl
  obtain ⟨criteria, built, texts, -⟩ := scan_repeats_match Config.check_default
  obtain ⟨_, extraBuilt, extraTexts, -⟩ := scan_repeats_match valid
  obtain ⟨-, -, rfl⟩ := Criteria.ofConfig_eq_ok_iff.mp built
  obtain ⟨-, -, rfl⟩ := Criteria.ofConfig_eq_ok_iff.mp extraBuilt
  have alone := texts repeatingText
  have extra := extraTexts repeatingText
  have accepted : (Criteria.scanText ⟨({} : Config).apiPrefix, ({} : Config).markers⟩
      repeatingText).accepted = ["serdes_b", "serdes_a", "serdes_b"] := by decide
  have sorted : (VersionScript.ofNames "" ["serdes_b", "serdes_a", "serdes_b"]).exports =
      ["serdes_a", "serdes_b", "serdes_b"] :=
    Text.IsSorted.sortNames_eq (by decide) (by decide)
  have beside := alone.standBeside ""
  rw [accepted, sorted] at beside
  have repeated := (beside "serdes_b").mpr ⟨1, rfl, rfl⟩
  refine ⟨Config.check_default, valid, _, built, repeated, ?_, ?_, ?_⟩
  · rw [beside]
    rintro ⟨_ | _ | _ | _, here, next⟩ <;> simp at here next
  · exact (alone.differ rfl).mpr (List.ne_nil_of_mem repeated)
  · refine (extra.dropped "serdes_a").mpr (Or.inr ⟨by decide, Or.inr ?_⟩)
    rw [accepted]
    decide

end LinkerExports
