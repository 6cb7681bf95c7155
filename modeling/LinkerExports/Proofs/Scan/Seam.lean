import LinkerExports.Proofs.Scan.Meaning

/-! A scan of two texts, one behind the other, is made of the scans of both. The first
text reaches into the second by the marker that its last line sets, and no further
than the first line there. -/
namespace LinkerExports

def Suppression.shift (above : Nat) (suppression : Suppression) : Suppression :=
  { suppression with line := above + suppression.line }

theorem Verdict.suppressions_add (start above : Nat) (verdicts : List Verdict) :
    suppressions (above + start) verdicts =
      (suppressions start verdicts).map (Suppression.shift above) := by
  induction verdicts generalizing start with
  | nil => rfl
  | cons verdict rest ih =>
    have later := ih (start + 1)
    unfold suppressions at later ⊢
    rw [List.zipIdx_cons, List.zipIdx_cons, List.filterMap_cons, List.filterMap_cons,
      Nat.add_assoc, later]
    cases verdict <;> rfl

namespace Summary

theorem accepted_ofVerdicts_append (a b : List Verdict) :
    (ofVerdicts (a ++ b)).accepted = (ofVerdicts a).accepted ++ (ofVerdicts b).accepted :=
  List.filterMap_append

theorem suppressed_ofVerdicts_append (a b : List Verdict) :
    (ofVerdicts (a ++ b)).suppressed = (ofVerdicts a).suppressed ++
      (ofVerdicts b).suppressed.map (Suppression.shift (ofVerdicts a).lineCount) := by
  unfold ofVerdicts
  rw [Verdict.suppressions_append, Nat.add_comm 1, Verdict.suppressions_add]

theorem ofVerdicts_suppressed_cons (name marker : String) (rest : List Verdict) :
    (ofVerdicts (.suppressed name marker :: rest)).suppressed =
      ⟨name, 1, marker⟩ :: (ofVerdicts (.accepted name :: rest)).suppressed := rfl

end Summary

namespace Criteria

variable {criteria : Criteria}

theorem verdict_of_name?_eq_none {line : List Char} (silent : criteria.name? line = none)
    (above : Option (List Char)) : criteria.verdict above line = .noise := by
  rw [verdict, silent]

/-- What stands above some lines is of no matter when the first of them declares nothing. -/
theorem verdictsBelow_of_silent {lines : List (List Char)}
    (silent : lines.head?.bind criteria.name? = none) (above other : Option (List Char)) :
    criteria.verdictsBelow above lines = criteria.verdictsBelow other lines := by
  cases lines with
  | nil => rfl
  | cons line rest =>
    have here : criteria.name? line = none := silent
    rw [verdictsBelow, verdictsBelow, verdict_of_name?_eq_none here, verdict_of_name?_eq_none here]

theorem verdicts_append (criteria : Criteria) (a b : List (List Char)) :
    criteria.verdicts (a ++ b) = criteria.verdicts a ++ criteria.verdictsBelow a.getLast? b := by
  rw [verdicts_eq_verdictsBelow, verdicts_eq_verdictsBelow, verdictsBelow_append, Option.or_none]

theorem verdicts_append_of_open {a b : List (List Char)}
    (h : a.getLast?.bind criteria.setMarker? = none ∨ b.head?.bind criteria.name? = none) :
    criteria.verdicts (a ++ b) = criteria.verdicts a ++ criteria.verdicts b := by
  rw [verdicts_append, verdicts_eq_verdictsBelow criteria b]
  rcases h with unmarked | silent
  · have same : a.getLast?.bind criteria.setMarker? =
        (none : Option (List Char)).bind criteria.setMarker? := unmarked
    rw [verdictsBelow_congr same]
  · rw [verdictsBelow_of_silent silent a.getLast? none]

theorem verdicts_append_of_hidden {a b : List (List Char)} {marker name : String}
    (set : a.getLast?.bind criteria.setMarker? = some marker)
    (declares : b.head?.bind criteria.name? = some name) :
    ∃ rest, criteria.verdicts b = .accepted name :: rest ∧
      criteria.verdicts (a ++ b) = criteria.verdicts a ++ .suppressed name marker :: rest := by
  cases b with
  | nil => simp at declares
  | cons line rest =>
    have here : criteria.name? line = some name := declares
    have alone : criteria.verdict none line = .accepted name :=
      verdict_eq_accepted_iff.mpr ⟨here, rfl⟩
    have below : criteria.verdict a.getLast? line = .suppressed name marker :=
      verdict_eq_suppressed_iff.mpr ⟨here, set⟩
    refine ⟨criteria.verdictsBelow (some line) rest, ?_, ?_⟩
    · rw [verdicts_eq_verdictsBelow, verdictsBelow, alone]
    · rw [verdicts_append, verdictsBelow, below]

end Criteria

namespace Config

/-- The last line of the text declares nothing, and the marker is the first that it begins with. -/
def LeavesMarker (config : Config) (text marker : String) : Prop :=
  ∃ rows row line, Text.IsLines (· == '\n') text.toList rows ∧ rows.getLast? = some row ∧
    Text.FoldsTo row line ∧ Declaration.name? config.apiPrefix line = none ∧
    Marker.IsFirst config.markers line marker

/-- The first line of the text declares the name. -/
def BeginsWithName (config : Config) (text name : String) : Prop :=
  ∃ row rows line, Text.IsLines (· == '\n') text.toList (row :: rows) ∧
    Text.FoldsTo row line ∧ Declaration.name? config.apiPrefix line = some name

theorem leavesMarker_iff {config : Config} {text marker : String} :
    config.LeavesMarker text marker ↔
      ((Text.lines text.toList).map Text.foldEnding).getLast?.bind config.criteria.setMarker? =
        some marker := by
  simp only [LeavesMarker, Text.isLines_iff, Text.foldsTo_iff, List.getLast?_map,
    Option.bind_map, Option.bind_eq_some_iff, Function.comp_apply,
    setMarker?_criteria_eq_some_iff]
  constructor
  · rintro ⟨rows, row, line, rfl, last, rfl, hidden⟩
    exact ⟨row, last, hidden⟩
  · rintro ⟨row, last, hidden⟩
    exact ⟨_, row, _, rfl, last, rfl, hidden⟩

theorem beginsWithName_iff {config : Config} {text name : String} :
    config.BeginsWithName text name ↔
      ((Text.lines text.toList).map Text.foldEnding).head?.bind config.criteria.name? =
        some name := by
  simp only [BeginsWithName, Text.isLines_iff, Text.foldsTo_iff, List.head?_map, Option.bind_map,
    Option.bind_eq_some_iff, Function.comp_apply, name?_criteria]
  constructor
  · rintro ⟨row, rows, line, cut, rfl, declares⟩
    refine ⟨row, ?_, declares⟩
    rw [Text.lines, ← cut, List.head?_cons]
  · rintro ⟨row, first, declares⟩
    obtain ⟨rows, cut⟩ := List.head?_eq_some_iff.mp first
    exact ⟨row, rows, _, cut.symm, rfl, declares⟩

end Config

/-- The summary of two texts, the second behind the first. -/
theorem scanText_append {config : Config} (valid : config.check = .ok ()) {a : String}
    (closed : Text.IsClosed (· == '\n') a.toList) (b : String) :
    ∃ criteria, Criteria.ofConfig config = .ok criteria ∧
      let first := criteria.scanText a
      let second := criteria.scanText b
      let whole := criteria.scanText (a ++ b)
      whole.lineCount = first.lineCount + second.lineCount ∧
      whole.declarationCount = first.declarationCount + second.declarationCount ∧
      ((∀ marker, ¬ config.LeavesMarker a marker) ∨ (∀ name, ¬ config.BeginsWithName b name) →
        whole.accepted = first.accepted ++ second.accepted ∧
        whole.suppressed = first.suppressed ++
          second.suppressed.map (Suppression.shift first.lineCount)) ∧
      (∀ marker name, config.LeavesMarker a marker → config.BeginsWithName b name →
        ∃ others, second.accepted = name :: others ∧
          whole.accepted = first.accepted ++ others ∧
          whole.suppressed = first.suppressed ++ ⟨name, first.lineCount + 1, marker⟩ ::
            second.suppressed.map (Suppression.shift first.lineCount)) ∧
      Text.IsAscending whole.repeated ∧
      ∀ name, name ∈ whole.repeated ↔ 2 ≤ whole.accepted.count name := by
  have cut : Text.lines (a ++ b).toList = Text.lines a.toList ++ Text.lines b.toList := by
    rw [String.toList_append]
    exact Text.splitLines_append closed b.toList
  refine ⟨_, Config.ofConfig_eq_criteria valid, ?_⟩
  simp only [Config.scanText_criteria valid, cut, List.map_append,
    Config.leavesMarker_iff, Config.beginsWithName_iff, ← Option.eq_none_iff_forall_ne_some]
  generalize (Text.lines a.toList).map Text.foldEnding = upper
  generalize (Text.lines b.toList).map Text.foldEnding = lower
  refine ⟨?_, ?_, ?_, ?_, Text.isAscending_repeats _, fun name => Text.mem_repeats⟩
  · simp only [Summary.ofVerdicts, Criteria.length_verdicts, List.length_append]
  · simp only [Summary.ofVerdicts, Criteria.verdicts_eq_verdictsBelow,
      Criteria.countP_declares_verdictsBelow, List.countP_append]
  · intro apart
    rw [Criteria.verdicts_append_of_open apart]
    exact ⟨Summary.accepted_ofVerdicts_append _ _, Summary.suppressed_ofVerdicts_append _ _⟩
  · intro marker name set declares
    obtain ⟨rest, alone, joined⟩ := Criteria.verdicts_append_of_hidden set declares
    rw [alone, joined]
    refine ⟨(Summary.ofVerdicts rest).accepted, rfl, ?_, ?_⟩
    · exact Summary.accepted_ofVerdicts_append _ _
    · rw [Summary.suppressed_ofVerdicts_append, Summary.ofVerdicts_suppressed_cons]
      rfl

def markedText : String := "int serdes_a(int x);\nSERDES_UNUSED\r\n"

def declaringText : String := "int serdes_b(int x);\nint serdes_a(int x);"

/-- The name that both texts declare is repeated in the whole text. -/
theorem scanText_append_of_marked :
    ({} : Config).check = .ok () ∧ Text.IsClosed (· == '\n') markedText.toList ∧
      ({} : Config).LeavesMarker markedText "SERDES_UNUSED" ∧
      ({} : Config).BeginsWithName declaringText "serdes_b" ∧
      ∃ criteria, Criteria.ofConfig {} = .ok criteria ∧
        (criteria.scanText (markedText ++ declaringText)).accepted = ["serdes_a", "serdes_a"] ∧
        (criteria.scanText (markedText ++ declaringText)).suppressed =
          [⟨"serdes_b", 3, "SERDES_UNUSED"⟩] ∧
        "serdes_a" ∈ (criteria.scanText (markedText ++ declaringText)).repeated := by
  have closed : Text.IsClosed (· == '\n') markedText.toList := by decide
  have leaves : ({} : Config).LeavesMarker markedText "SERDES_UNUSED" := by
    rw [Config.leavesMarker_iff]
    decide
  have begins : ({} : Config).BeginsWithName declaringText "serdes_b" := by
    rw [Config.beginsWithName_iff]
    decide
  obtain ⟨criteria, built, -, -, -, hidden, -, repeated⟩ :=
    scanText_append Config.check_default closed declaringText
  obtain ⟨others, second, accepted, suppressed⟩ := hidden _ _ leaves begins
  obtain ⟨-, -, rfl⟩ := Criteria.ofConfig_eq_ok_iff.mp built
  have tail : others = ["serdes_a"] := (List.cons.inj second).2.symm
  have both : _ = ["serdes_a", "serdes_a"] := accepted.trans (by rw [tail]; decide)
  refine ⟨Config.check_default, closed, leaves, begins, _, built, both, ?_, ?_⟩
  · rw [suppressed]
    decide
  · rw [repeated, both]
    decide

end LinkerExports
