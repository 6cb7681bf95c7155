import LinkerExports.Proofs.Declaration.Last
import LinkerExports.Proofs.Scan.Names

/-! A name that a scan accepts goes into the script as it is. It has no blank, but it runs on to the
last parameter list that it reaches without one, so a parenthesis or a semicolon can get into it. -/
namespace LinkerExports

namespace Declaration

open Text

/-- Behind the character comes a parameter list, with no blank before the gap in front of it. -/
def RunsInto (mark : Char) (text : List Char) : Prop :=
  ∃ front word behind, text = front ++ mark :: word ++ behind ∧
    (∀ c ∈ front ++ mark :: word, isBlank c = false) ∧ OpensParameters behind

theorem RunsInto.mem {mark : Char} {text : List Char} (h : RunsInto mark text) : mark ∈ text := by
  obtain ⟨front, word, behind, rfl, -, -⟩ := h
  simp

theorem RunsInto.two_le_count {text : List Char} (h : RunsInto '(' text) : 2 ≤ text.count '(' := by
  obtain ⟨front, word, behind, rfl, -, gap, c, rest, rfl, -, -⟩ := h
  simp only [List.count_append, List.count_cons_self]
  omega

/-- A character gets into the name exactly if it runs into a parameter list from where the name
begins. -/
theorem mem_name_iff_runsInto {apiPrefix : String} {line : List Char} {declaration : Declaration}
    (found : find? apiPrefix line = some declaration)
    (inks : ∀ c ∈ apiPrefix.toList, isBlank c = false) (mark : Char) :
    mark ∈ declaration.name.toList ↔ RunsInto mark (line.drop declaration.column) := by
  obtain ⟨before, name, behind, rfl, ⟨-, isNamed, opens⟩, rfl, longest⟩ := longest_of_find? found
  rw [String.toList_ofList, List.drop_left]
  constructor
  · intro member
    obtain ⟨front, word, rfl⟩ := List.append_of_mem member
    exact ⟨front, word, behind, rfl, isBlank_eq_false_of_isNamed isNamed inks, opens⟩
  · rintro ⟨front, word, rest, split, wordInks, restOpens⟩
    obtain ⟨tail, nonempty, rfl, tailInks⟩ := isNamed
    by_cases inPrefix : mark ∈ apiPrefix.toList
    · exact List.mem_append_left _ inPrefix
    -- The mark stands behind the prefix, so what runs into the list is a name as well.
    have begins : ∃ more, front = apiPrefix.toList ++ more := by
      rw [List.append_assoc, List.append_assoc, List.append_eq_append_iff] at split
      rcases split with ⟨more, rfl, -⟩ | ⟨more, isPrefix, starts⟩
      · exact ⟨more, rfl⟩
      · cases more with
        | nil => exact ⟨[], by simp [isPrefix]⟩
        | cons c more =>
          obtain ⟨rfl, -⟩ := List.cons.inj starts
          exact absurd (by simp [isPrefix]) inPrefix
    obtain ⟨more, rfl⟩ := begins
    have named : IsNamed apiPrefix.toList (apiPrefix.toList ++ more ++ mark :: word) := by
      refine ⟨more ++ mark :: word, by simp, by simp, ?_⟩
      intro c inside
      exact wordInks c (by rw [List.append_assoc]; exact List.mem_append_right _ inside)
    have shorter := longest _ rest split named restOpens
    have otherBegins : apiPrefix.toList ++ more ++ mark :: word <+:
        apiPrefix.toList ++ tail ++ behind := ⟨rest, split.symm⟩
    have nameBegins : apiPrefix.toList ++ tail <+: apiPrefix.toList ++ tail ++ behind :=
      List.prefix_append _ _
    have inside := List.prefix_of_prefix_length_le otherBegins nameBegins shorter
    exact inside.subset (by simp)

end Declaration

/-- The scan found the name, whether it was accepted or suppressed. -/
def Summary.Finds (summary : Summary) (name : String) : Prop :=
  name ∈ summary.accepted ∨ ∃ entry ∈ summary.suppressed, entry.name = name

namespace Criteria

variable {criteria : Criteria}

theorem exists_line_of_finds {lines : List (List Char)} {name : String}
    (h : (Summary.ofVerdicts (criteria.verdicts lines)).Finds name) :
    ∃ line ∈ lines, criteria.name? line = some name := by
  simp only [verdicts_eq_verdictsBelow, Summary.ofVerdicts] at h
  rcases h with accepted | ⟨entry, suppressed, rfl⟩
  · exact exists_line_of_accepted accepted
  · obtain ⟨-, here⟩ := Verdict.mem_suppressions_iff.mp suppressed
    obtain ⟨line, inside, upper, verdict⟩ :=
      exists_line_of_mem_verdictsBelow (List.mem_of_getElem? here)
    exact ⟨line, inside, (verdict_eq_suppressed_iff.mp verdict).1⟩

end Criteria

/-- Every name that is found is declared by a line, is not empty and has no blank. It has a
parenthesis or a semicolon exactly if one runs into a parameter list there, and otherwise is the name
of one entry. -/
theorem scanText_finds_entries {config : Config} (valid : config.check = .ok ()) :
    ∃ criteria, Criteria.ofConfig config = .ok criteria ∧
      ∀ text name, (criteria.scanText text).Finds name →
        ∃ rows row line column, Text.IsLines (· == '\n') text.toList rows ∧ row ∈ rows ∧
          Text.FoldsTo row line ∧
          Declaration.find? config.apiPrefix line = some ⟨column, name⟩ ∧
          name ≠ "" ∧ (∀ c ∈ name.toList, Text.isBlank c = false) ∧
          ('(' ∈ name.toList ↔ Declaration.RunsInto '(' (line.drop column)) ∧
          (Config.isEntryName name = true ↔ ¬ Declaration.RunsInto ';' (line.drop column)) := by
  refine ⟨_, Config.ofConfig_eq_criteria valid, ?_⟩
  intro text name found
  rw [Config.scanText_criteria valid] at found
  obtain ⟨line, member, declares⟩ := Criteria.exists_line_of_finds found
  obtain ⟨row, inside, rfl⟩ := List.mem_map.mp member
  have named := Config.isPublic_of_isNamed valid (Declaration.isNamed_of_name? declares)
  have nonempty : name ≠ "" := by
    rintro rfl
    exact Nat.not_lt_zero _ named.longer
  obtain ⟨⟨column, _⟩, declaration, rfl⟩ := Option.map_eq_some_iff.mp declares
  obtain ⟨-, prefixText, -, -, -⟩ := Config.check_eq_ok_iff.mp valid
  have runs := Declaration.mem_name_iff_runsInto declaration
    (Config.inks_of_isPrefixText prefixText)
  refine ⟨_, row, _, column, Text.isLines_splitLines _ _, inside, Text.foldsTo_foldEnding row,
    declaration, nonempty, named.inks, runs '(', ?_⟩
  rw [← runs ';', Config.isEntryName_iff]
  constructor
  · exact fun entry => entry.2.2
  · exact fun apart => ⟨nonempty, named.inks, apart⟩

def plainText : String := "SERDES_UNUSED\nint serdes_a(int x)\nvoid *serdes_b (void)\n"

theorem scanText_finds_entries_of_plain :
    ({} : Config).check = .ok () ∧ ∃ criteria, Criteria.ofConfig {} = .ok criteria ∧
      ∀ name ∈ ["serdes_a", "serdes_b"], (criteria.scanText plainText).Finds name ∧
        '(' ∉ name.toList ∧ Config.isEntryName name = true := by
  obtain ⟨criteria, built, entries⟩ := scanText_finds_entries Config.check_default
  obtain ⟨-, -, rfl⟩ := Criteria.ofConfig_eq_ok_iff.mp built
  refine ⟨Config.check_default, _, built, ?_⟩
  intro name listed
  have found : (Criteria.scanText ⟨({} : Config).apiPrefix, ({} : Config).markers⟩
      plainText).Finds name := by
    revert name
    unfold Summary.Finds
    decide +kernel
  obtain ⟨rows, row, line, column, cut, member, folds, -, -, -, closed, entry⟩ :=
    entries _ _ found
  obtain rfl := Text.isLines_iff.mp cut
  obtain rfl := Text.foldsTo_iff.mp folds
  have plain : ∀ row ∈ Text.splitLines (· == '\n') plainText.toList,
      (Text.foldEnding row).count '(' ≤ 1 ∧ ';' ∉ Text.foldEnding row := by
    decide +kernel
  obtain ⟨one, none⟩ := plain row member
  refine ⟨found, ?_, entry.mpr fun runs => none (List.mem_of_mem_drop runs.mem)⟩
  intro inside
  have two := (closed.mp inside).two_le_count
  have fewer := (List.drop_sublist column (Text.foldEnding row)).count_le '('
  omega

def callbackText : String := "int serdes_each(int (*visit)(int x));\n"

/-- The type that the function taken returns gets into the name. -/
theorem scanText_finds_parenthesis :
    ¬ ∀ (config : Config) (criteria : Criteria) (text name : String),
      Criteria.ofConfig config = .ok criteria → (criteria.scanText text).Finds name →
        '(' ∉ name.toList ∧ Config.isEntryName name = true := by
  intro clean
  have found : (Criteria.scanText ⟨({} : Config).apiPrefix, ({} : Config).markers⟩
      callbackText).Finds "serdes_each(int" := by
    unfold Summary.Finds
    decide +kernel
  have apart := (clean {} _ callbackText "serdes_each(int" rfl found).1
  revert apart
  decide

end LinkerExports
