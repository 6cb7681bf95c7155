import LinkerExports.Proofs.Scan.Growth
import LinkerExports.Proofs.Script.Exports

/-! A marker line that is put directly above a declaration hides this declaration and no other.
What stands above stays as it was, and what stands below only moves down by one line. -/
namespace LinkerExports

namespace Summary

/-- A declaration on the line is among the suppressed ones. -/
def Suppresses (summary : Summary) (line : Nat) : Prop :=
  ∃ entry ∈ summary.suppressed, entry.line = line

theorem ofVerdicts_insert (front rest : List Verdict) (name marker : String)
    (hidden : Option String) :
    let first := ofVerdicts front
    let original := ofVerdicts (front ++ .on name hidden :: rest)
    let edited := ofVerdicts (front ++ .noise :: .suppressed name marker :: rest)
    ∃ others later,
      edited.accepted = first.accepted ++ others ∧
      edited.suppressed = first.suppressed ++
        ⟨name, first.lineCount + 2, marker⟩ :: later.map (Suppression.shift 1) ∧
      (¬ original.Suppresses (first.lineCount + 1) →
        original.accepted = first.accepted ++ name :: others ∧
        original.suppressed = first.suppressed ++ later) ∧
      ∀ entry ∈ original.suppressed, entry.line = first.lineCount + 1 →
        entry.name = name ∧ original.accepted = first.accepted ++ others ∧
          original.suppressed = first.suppressed ++ entry :: later := by
  intro first original edited
  have decided := (goesOn_append front (.on name hidden) rest).decided
  have accepted : original.accepted = first.accepted ++
      (Verdict.on name hidden).accepted?.toList ++ rest.filterMap Verdict.accepted? :=
    filterMap_append_cons _ front _ rest
  have suppressed : original.suppressed = first.suppressed ++
      ((Verdict.on name hidden).suppressed? (first.lineCount + 1)).toList ++
        Verdict.suppressions (first.lineCount + 2) rest :=
    suppressions_append_cons front _ rest
  have moved : Verdict.suppressions (first.lineCount + 3) rest =
      (Verdict.suppressions (first.lineCount + 2) rest).map (Suppression.shift 1) := by
    rw [← Verdict.suppressions_add, Nat.add_comm 1]
  refine ⟨rest.filterMap Verdict.accepted?, Verdict.suppressions (first.lineCount + 2) rest, ?_, ?_,
    ?_, ?_⟩
  · simp only [edited, accepted_ofVerdicts_append]
    rfl
  · have silent : Verdict.suppressions 1 (front ++ [.noise]) = Verdict.suppressions 1 front := by
      rw [Verdict.suppressions_append]
      exact List.append_nil _
    have below := suppressions_append_cons (front ++ [.noise]) (.suppressed name marker) rest
    rw [List.append_assoc, List.singleton_append, silent, List.length_append,
      List.length_singleton] at below
    rw [← moved]
    exact below.trans (by rw [List.append_assoc]; rfl)
  · intro free
    cases hidden with
    | none => exact ⟨by simpa using accepted, by simpa using suppressed⟩
    | some other =>
      have member : ⟨name, first.lineCount + 1, other⟩ ∈ original.suppressed := by simp [suppressed]
      exact absurd ⟨_, member, rfl⟩ free
  · rintro ⟨word, line, used⟩ member here
    have judged := decided _ member here
    simp only at here
    subst here
    cases hidden with
    | none => simp at judged
    | some other =>
      obtain ⟨rfl, rfl⟩ : name = word ∧ other = used := by simpa using judged
      exact ⟨rfl, by simpa using accepted, by simpa using suppressed⟩

end Summary

theorem Verdict.accepted?_eq_some_iff {verdict : Verdict} {name : String} :
    verdict.accepted? = some name ↔ verdict = .accepted name := by
  cases verdict <;> simp [accepted?]

theorem exists_getElem?_of_mem {α : Type} {front rest : List α} {a : α} (between : α)
    (h : a ∈ front ∨ a ∈ rest) :
    ∃ i, i ≠ front.length ∧ (front ++ between :: rest)[i]? = some a := by
  rcases h with above | below
  · obtain ⟨i, inside, here⟩ := List.getElem_of_mem above
    refine ⟨i, by omega, ?_⟩
    rw [List.getElem?_append_left inside, List.getElem?_eq_getElem inside, here]
  · obtain ⟨i, here⟩ := List.getElem?_of_mem below
    refine ⟨front.length + (i + 1), by omega, ?_⟩
    rw [List.getElem?_append_right (Nat.le_add_right _ _), Nat.add_sub_cancel_left,
      List.getElem?_cons_succ, here]

namespace Criteria

variable {criteria : Criteria}

theorem exists_verdicts_insert {markerLine line : List Char} {marker name : String}
    (set : criteria.setMarker? markerLine = some marker)
    (declares : criteria.name? line = some name) (upper lower : List (List Char)) :
    ∃ hidden rest,
      criteria.verdicts (upper ++ line :: lower) =
        criteria.verdicts upper ++ .on name hidden :: rest ∧
      criteria.verdicts (upper ++ markerLine :: line :: lower) =
        criteria.verdicts upper ++ .noise :: .suppressed name marker :: rest := by
  have silent : criteria.name? markerLine = none := (setMarker?_eq_some_iff.mp set).1
  refine ⟨upper.getLast?.bind criteria.setMarker?, criteria.verdictsBelow (some line) lower, ?_, ?_⟩
  · rw [verdicts_append, verdictsBelow, verdict_eq_on declares]
  · have below : criteria.verdict (some markerLine) line = .suppressed name marker :=
      verdict_eq_suppressed_iff.mpr ⟨declares, set⟩
    rw [verdicts_append, verdictsBelow, verdictsBelow, verdict_of_name?_eq_none silent, below]

end Criteria

/-- The row is the first line of the text that it makes with the one behind it: it has its newline,
or nothing is behind it. -/
def Text.IsRowBefore (row more : List Char) : Prop :=
  IsRow (· == '\n') row ∨ row ≠ [] ∧ '\n' ∉ row ∧ more = []

namespace Text

theorem lines_of_isRow {row : List Char} (h : IsRow (· == '\n') row) (more : List Char) :
    lines (row ++ more) = row :: lines more :=
  splitLines_append_of_isRow h more

theorem IsRowBefore.lines_append {row more : List Char} (h : IsRowBefore row more) :
    lines (row ++ more) = row :: lines more := by
  rcases h with finished | ⟨nonempty, inline, rfl⟩
  · exact lines_of_isRow finished more
  · rw [List.append_nil]
    exact splitLines_of_free nonempty (free_iff.mpr inline)

theorem IsRowBefore.lines_eq {row more : List Char} (h : IsRowBefore row more) :
    lines row = [row] := by
  have alone : IsRowBefore row [] :=
    h.imp_right fun ⟨nonempty, inline, _⟩ => ⟨nonempty, inline, rfl⟩
  have cut := alone.lines_append
  rwa [List.append_nil] at cut

end Text

namespace Config

variable {config : Config}

theorem exists_verdicts_insert {above markerRow row below marker name : String}
    (closed : Text.IsClosed (· == '\n') above.toList)
    (finished : Text.IsRow (· == '\n') markerRow.toList)
    (sets : config.LeavesMarker markerRow marker)
    (single : Text.IsRowBefore row.toList below.toList)
    (declares : config.BeginsWithName row name) :
    let upper := config.criteria.verdicts ((Text.lines above.toList).map Text.foldEnding)
    ∃ hidden rest,
      config.criteria.verdicts
          ((Text.lines (above ++ row ++ below).toList).map Text.foldEnding) =
        upper ++ .on name hidden :: rest ∧
      config.criteria.verdicts
          ((Text.lines (above ++ markerRow ++ row ++ below).toList).map Text.foldEnding) =
        upper ++ .noise :: .suppressed name marker :: rest := by
  have markerSet : config.criteria.setMarker? (Text.foldEnding markerRow.toList) = some marker := by
    have alone := Text.lines_of_isRow finished []
    rw [List.append_nil] at alone
    have last := leavesMarker_iff.mp sets
    rw [alone] at last
    exact last
  have named : config.criteria.name? (Text.foldEnding row.toList) = some name := by
    have first := beginsWithName_iff.mp declares
    rw [single.lines_eq] at first
    exact first
  have cut : ∀ rest : List Char,
      Text.lines (above.toList ++ rest) = Text.lines above.toList ++ Text.lines rest :=
    Text.splitLines_append closed
  simp only [String.toList_append, List.append_assoc, cut, Text.lines_of_isRow finished,
    single.lines_append, List.map_append, List.map_cons]
  exact Criteria.exists_verdicts_insert markerSet named _ _

theorem notMem_exports_of_others {front rest : List Verdict} {name marker : String}
    {hidden : Option String} {lines : List (List Char)}
    (judged : config.criteria.verdicts lines = front ++ .on name hidden :: rest)
    (plain : name ∉ config.extraNames)
    (others : ∀ i, i ≠ front.length → config.DeclaresAt lines i name → config.HidesAt lines i) :
    name ∉ (VersionScript.ofSummary (Summary.ofVerdicts
      (front ++ .noise :: .suppressed name marker :: rest)) config).exports := by
  rw [VersionScript.mem_exports_ofSummary, not_or]
  refine ⟨?_, plain⟩
  intro member
  obtain ⟨verdict, inside, accepted⟩ := List.mem_filterMap.mp member
  obtain rfl := Verdict.accepted?_eq_some_iff.mp accepted
  have elsewhere : Verdict.accepted name ∈ front ∨ Verdict.accepted name ∈ rest := by
    simpa using inside
  obtain ⟨i, apart, here⟩ := exists_getElem?_of_mem (.on name hidden) elsewhere
  rw [← judged] at here
  obtain ⟨declares, seen⟩ := ((config.judges_verdicts lines).accepted_iff i name).mp here
  exact seen (others i apart declares)

end Config

/-- A marker line put above a declaration suppresses the declaration, whether it was accepted or
suppressed before. What stands above stays as it was, what stands below only moves down by one line.
So if no other line gives the name, it is not exported. -/
theorem scanText_insert_marker {config : Config} (valid : config.check = .ok ())
    {above markerRow row below marker name : String}
    (closed : Text.IsClosed (· == '\n') above.toList)
    (finished : Text.IsRow (· == '\n') markerRow.toList)
    (sets : config.LeavesMarker markerRow marker)
    (single : Text.IsRowBefore row.toList below.toList)
    (declares : config.BeginsWithName row name) :
    ∃ criteria, Criteria.ofConfig config = .ok criteria ∧
      let first := criteria.scanText above
      let original := criteria.scanText (above ++ row ++ below)
      let edited := criteria.scanText (above ++ markerRow ++ row ++ below)
      edited.declarationCount = original.declarationCount ∧
      edited.lineCount = original.lineCount + 1 ∧
      (∃ others later,
        edited.accepted = first.accepted ++ others ∧
        edited.suppressed = first.suppressed ++
          ⟨name, first.lineCount + 2, marker⟩ :: later.map (Suppression.shift 1) ∧
        (¬ original.Suppresses (first.lineCount + 1) →
          original.accepted = first.accepted ++ name :: others ∧
          original.suppressed = first.suppressed ++ later) ∧
        ∀ entry ∈ original.suppressed, entry.line = first.lineCount + 1 →
          entry.name = name ∧ original.accepted = first.accepted ++ others ∧
          original.suppressed = first.suppressed ++ entry :: later) ∧
      ∀ rows lines, Text.IsLines (· == '\n') (above ++ row ++ below).toList rows →
        List.Forall₂ Text.FoldsTo rows lines → name ∉ config.extraNames →
        (∀ i, i ≠ first.lineCount → config.DeclaresAt lines i name → config.HidesAt lines i) →
        name ∉ (VersionScript.ofSummary edited config).exports := by
  obtain ⟨hidden, rest, original, edited⟩ :=
    Config.exists_verdicts_insert closed finished sets single declares
  refine ⟨_, Config.ofConfig_eq_criteria valid, ?_⟩
  simp only [Config.scanText_criteria valid, original, edited]
  refine ⟨?_, ?_, Summary.ofVerdicts_insert _ rest name marker hidden, ?_⟩
  · have silent : Verdict.noise.declares = false := rfl
    have counted : (Verdict.suppressed name marker).declares = true := rfl
    simp [Summary.ofVerdicts, silent, counted]
  · simp [Summary.ofVerdicts, Nat.add_assoc]
  · intro rows lines isLines folds plain others
    obtain rfl := Text.forall₂_foldsTo_iff.mp folds
    obtain rfl := Text.isLines_iff.mp isLines
    exact Config.notMem_exports_of_others original plain others

def textAbove : String := "int serdes_b(int x);\n"

def declaringRow : String := "int serdes_a(int x);\n"

def textBelow : String := "__attribute__((unused))\nint serdes_c(int x);"

/-- The declaration was accepted before. The suppression below it moves from line 4 to line 5. -/
theorem scanText_insert_marker_of_accepted :
    ({} : Config).check = .ok () ∧ Text.IsClosed (· == '\n') textAbove.toList ∧
      Text.IsRow (· == '\n') "SERDES_UNUSED\r\n".toList ∧
      ({} : Config).LeavesMarker "SERDES_UNUSED\r\n" "SERDES_UNUSED" ∧
      Text.IsRowBefore declaringRow.toList textBelow.toList ∧
      ({} : Config).BeginsWithName declaringRow "serdes_a" ∧
      ∃ criteria, Criteria.ofConfig {} = .ok criteria ∧
        let original := criteria.scanText (textAbove ++ declaringRow ++ textBelow)
        let edited := criteria.scanText
          (textAbove ++ "SERDES_UNUSED\r\n" ++ declaringRow ++ textBelow)
        original.accepted = ["serdes_b", "serdes_a"] ∧
        edited.accepted = ["serdes_b"] ∧ edited.lineCount = original.lineCount + 1 ∧
        edited.suppressed = [⟨"serdes_a", 3, "SERDES_UNUSED"⟩,
          ⟨"serdes_c", 5, "__attribute__((unused))"⟩] ∧
        "serdes_a" ∉ (VersionScript.ofSummary edited {}).exports := by
  have closed : Text.IsClosed (· == '\n') textAbove.toList := by decide
  have finished : Text.IsRow (· == '\n') "SERDES_UNUSED\r\n".toList :=
    Text.isRow_of_getLast? (by decide) (by decide)
  have leaves : ({} : Config).LeavesMarker "SERDES_UNUSED\r\n" "SERDES_UNUSED" := by
    rw [Config.leavesMarker_iff]
    decide
  have single : Text.IsRowBefore declaringRow.toList textBelow.toList :=
    .inl (Text.isRow_of_getLast? (by decide) (by decide))
  have begins : ({} : Config).BeginsWithName declaringRow "serdes_a" := by
    rw [Config.beginsWithName_iff]
    decide
  obtain ⟨criteria, built, -, counts, -, hides⟩ :=
    scanText_insert_marker Config.check_default closed finished leaves single begins
  obtain ⟨-, -, rfl⟩ := Criteria.ofConfig_eq_ok_iff.mp built
  have four : (Text.lines (textAbove ++ declaringRow ++ textBelow).toList).length = 4 := by
    decide +kernel
  have elsewhere : ∀ i : Fin 4, i.val ≠ 1 →
      ((Text.lines (textAbove ++ declaringRow ++ textBelow).toList).map
        Text.foldEnding)[i.val]?.bind (Declaration.name? "serdes_") ≠ some "serdes_a" := by
    decide +kernel
  refine ⟨Config.check_default, closed, finished, leaves, single, begins, _, built, ?_, ?_, counts,
    ?_, ?_⟩
  · decide +kernel
  · decide +kernel
  · decide +kernel
  · refine hides _ _ (Text.isLines_splitLines _ _) (Text.foldsTo_map_foldEnding _) (by decide) ?_
    rintro i apart ⟨line, here, declares⟩
    obtain ⟨inside, -⟩ := List.getElem?_eq_some_iff.mp here
    rw [List.length_map] at inside
    exact absurd (Option.bind_eq_some_iff.mpr ⟨line, here, declares⟩)
      (elsewhere ⟨i, inside.trans_eq four⟩ apart)

end LinkerExports
