import LinkerExports.Proofs.Text.Ascending
import LinkerExports.Script.Basic

/-! The script for a summary exports the accepted names and the extra names and nothing else, and
lists them in one way only. It does not show in which order they were found, from which of the two
sources they come, nor how often a name was accepted if repeats are dropped. -/
namespace LinkerExports.VersionScript

open Text

theorem mem_exports_ofSummary {summary : Summary} {config : Config} {name : String} :
    name ∈ (ofSummary summary config).exports ↔
      name ∈ summary.accepted ∨ name ∈ config.extraNames := by
  have merged : name ∈ sortNames (summary.accepted ++ config.extraNames) ↔
      name ∈ summary.accepted ∨ name ∈ config.extraNames := by
    rw [mem_sortNames, List.mem_append]
  rw [← merged, ofSummary]
  split
  · exact mem_dropRepeats
  · exact Iff.rfl

theorem ofSummary_of_keeps {summary : Summary} {config : Config}
    (keeps : config.dropRepeats = false) :
    ofSummary summary config =
      ⟨config.tool, sortNames (summary.accepted ++ config.extraNames)⟩ := by
  rw [ofSummary, keeps]
  rfl

theorem ofSummary_of_drops {summary : Summary} {config : Config}
    (drops : config.dropRepeats = true) :
    ofSummary summary config =
      ⟨config.tool, dropRepeats (sortNames (summary.accepted ++ config.extraNames))⟩ := by
  rw [ofSummary, drops]
  rfl

theorem tool_ofSummary (summary : Summary) (config : Config) :
    (ofSummary summary config).tool = config.tool := by
  rw [ofSummary]
  split <;> rfl

theorem exports_ofSummary_eq_nil_iff {summary : Summary} {config : Config} :
    (ofSummary summary config).exports = [] ↔ summary.accepted = [] ∧ config.extraNames = [] := by
  simp only [List.eq_nil_iff_forall_not_mem, mem_exports_ofSummary, not_or, forall_and]

theorem ofSummary_eq_of_perm {first second : Summary} (h : first.accepted.Perm second.accepted)
    (config : Config) : ofSummary first config = ofSummary second config := by
  have sorted : sortNames (first.accepted ++ config.extraNames) =
      sortNames (second.accepted ++ config.extraNames) :=
    sortNames_eq_of_perm (h.append_right config.extraNames)
  simp only [ofSummary, ofNames, sorted]

theorem ofSummary_eq_of_mem_iff {first second : Summary}
    (same : ∀ name, name ∈ first.accepted ↔ name ∈ second.accepted) {config : Config}
    (drops : config.dropRepeats = true) : ofSummary first config = ofSummary second config := by
  have merged : dropRepeats (sortNames (first.accepted ++ config.extraNames)) =
      dropRepeats (sortNames (second.accepted ++ config.extraNames)) := by
    apply dropRepeats_sortNames_eq_of_mem_iff
    intro name
    rw [List.mem_append, List.mem_append, same]
  rw [ofSummary_of_drops drops, ofSummary_of_drops drops, merged]

/-- The list of a script is sorted and holds the accepted names and the extra names, each as often
as it is given, or each once if repeats are dropped. So the text of the script shows nothing else of
them, and it exports everything only if there are none. -/
theorem ofSummary_canonical (summary : Summary) (config : Config) :
    let script := ofSummary summary config
    let names := summary.accepted ++ config.extraNames
    (config.dropRepeats = false →
      IsSorted script.exports ∧ script.exports.Perm names ∧
      ∀ (other : Summary) (setting : Config), setting.dropRepeats = false →
        setting.tool = config.tool → (other.accepted ++ setting.extraNames).Perm names →
        (ofSummary other setting).render = script.render) ∧
    (config.dropRepeats = true →
      IsAscending script.exports ∧ (∀ name, name ∈ script.exports ↔ name ∈ names) ∧
      ∀ (other : Summary) (setting : Config), setting.dropRepeats = true →
        setting.tool = config.tool →
        (∀ name, name ∈ other.accepted ++ setting.extraNames ↔ name ∈ names) →
        (ofSummary other setting).render = script.render) ∧
    (script.exportsAll = true ↔ summary.accepted = [] ∧ config.extraNames = []) := by
  intro script names
  refine ⟨?_, ?_, ?_⟩
  · intro keeps
    have listed : script = ⟨config.tool, sortNames names⟩ := ofSummary_of_keeps keeps
    rw [listed]
    refine ⟨isSorted_sortNames names, sortNames_perm names, ?_⟩
    intro other setting otherKeeps sameTool perm
    rw [ofSummary_of_keeps otherKeeps, sameTool, sortNames_eq_of_perm perm]
  · intro drops
    have listed : script = ⟨config.tool, dropRepeats (sortNames names)⟩ := ofSummary_of_drops drops
    rw [listed]
    refine ⟨(isSorted_sortNames names).isAscending_dropRepeats, ?_, ?_⟩
    · intro name
      rw [mem_dropRepeats, mem_sortNames]
    · intro other setting otherDrops sameTool members
      rw [ofSummary_of_drops otherDrops, sameTool, dropRepeats_sortNames_eq_of_mem_iff members]
  · rw [exportsAll, List.isEmpty_iff]
    exact exports_ofSummary_eq_nil_iff

def scatteredNames : List String := ["serdes_é", "serdes_z", "serdes_", "serdes_z"]

theorem ofSummary_canonical_of_scattered :
    let found : Summary := { accepted := scatteredNames }
    let given : Summary := { accepted := ["serdes_z", "serdes_é"] }
    IsSorted (ofSummary found {}).exports ∧
      (ofSummary found {}).exports = ["serdes_", "serdes_z", "serdes_z", "serdes_é"] ∧
      (ofSummary given { extraNames := ["serdes_z", "serdes_"] }).render =
        (ofSummary found {}).render ∧
      (ofSummary given { extraNames := ["serdes_"], dropRepeats := true }).render =
        (ofSummary found { dropRepeats := true }).render := by
  intro found given
  obtain ⟨kept, -, -⟩ := ofSummary_canonical found {}
  obtain ⟨-, dropped, -⟩ := ofSummary_canonical found { dropRepeats := true }
  obtain ⟨sorted, -, renders⟩ := kept rfl
  obtain ⟨-, -, rendersOnce⟩ := dropped rfl
  refine ⟨sorted, IsSorted.sortNames_eq (by decide) (by decide), ?_, ?_⟩
  · exact renders given _ rfl rfl (by decide)
  · refine rendersOnce given _ rfl rfl ?_
    intro name
    simp [found, given, scatteredNames, or_comm, or_left_comm]

end LinkerExports.VersionScript
