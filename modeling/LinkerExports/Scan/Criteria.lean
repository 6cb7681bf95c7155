import LinkerExports.Config
import LinkerExports.Declaration.Basic

/-! What a scan looks for: the beginning of the public names, and the markers that hide a
declaration. A marker is a text that begins a line. It counts at the first column only. -/
namespace LinkerExports

namespace Marker

/-- The first of the markers, in the order given, that the line begins with. -/
def find? (markers : List String) (line : List Char) : Option String :=
  markers.find? fun marker => marker.toList.isPrefixOf line

theorem find?_eq_none_iff {markers : List String} {line : List Char} :
    find? markers line = none ↔ ∀ marker ∈ markers, ¬ marker.toList <+: line := by
  simp [find?]

theorem of_find?_eq_some {markers : List String} {line : List Char} {marker : String}
    (h : find? markers line = some marker) : marker ∈ markers ∧ marker.toList <+: line :=
  ⟨List.mem_of_find?_eq_some h, by simpa using List.find?_some h⟩

theorem find?_nil {markers : List String} (h : "" ∉ markers) : find? markers [] = none := by
  rw [find?_eq_none_iff]
  intro marker member begins
  have empty : marker = "" := by simpa using begins
  exact h (empty ▸ member)

end Marker

structure Criteria where
  apiPrefix : String
  markers : List String
  deriving DecidableEq, Repr

namespace Criteria

/-- Only a configuration without faults gives criteria, and only when the engine builds the pattern
of its declarations. -/
def ofConfig (config : Config) (engine : PatternEngine := .unlimited) : Except Error Criteria :=
  match config.check with
  | .error error => .error (.config error)
  | .ok () =>
    match engine.build (Declaration.patternText config.apiPrefix) with
    | .error text => .error (.pattern text)
    | .ok () => .ok ⟨config.apiPrefix, config.markers⟩

def name? (criteria : Criteria) (line : List Char) : Option String :=
  Declaration.name? criteria.apiPrefix line

def marker? (criteria : Criteria) (line : List Char) : Option String :=
  Marker.find? criteria.markers line

theorem ofConfig_eq_ok_iff {config : Config} {engine : PatternEngine} {criteria : Criteria} :
    ofConfig config engine = .ok criteria ↔
      config.check = .ok () ∧ engine.Builds config.apiPrefix ∧
        criteria = ⟨config.apiPrefix, config.markers⟩ := by
  unfold ofConfig PatternEngine.Builds
  cases config.check with
  | error error => simp
  | ok _ => cases engine.build (Declaration.patternText config.apiPrefix) <;> simp [eq_comm]

theorem ofConfig_of_builds {config : Config} {engine : PatternEngine}
    (builds : engine.Builds config.apiPrefix) : ofConfig config engine = ofConfig config := by
  have same : engine.build (Declaration.patternText config.apiPrefix) = .ok () := builds
  simp only [ofConfig, same, PatternEngine.unlimited]

theorem empty_notMem_markers {config : Config} {engine : PatternEngine} {criteria : Criteria}
    (h : ofConfig config engine = .ok criteria) : "" ∉ criteria.markers := by
  obtain ⟨valid, -, rfl⟩ := ofConfig_eq_ok_iff.mp h
  exact (Config.check_eq_ok_iff.mp valid).2.2.1

end Criteria

end LinkerExports
