import LinkerExports.Proofs.Declaration.Last
import LinkerExports.Proofs.Scan.Meaning

/-! Every name that a scan accepts is declared by a line. Under a checked configuration it has no
blank, as its prefix has none. -/
namespace LinkerExports

namespace Config

theorem newline_notMem_of_inks {text : List Char} (h : ∀ c ∈ text, Text.isBlank c = false) :
    '\n' ∉ text := by
  intro member
  have ink := h '\n' member
  rw [Text.isBlank_newline] at ink
  exact absurd ink (by simp)

theorem isEntryName_iff {name : String} :
    isEntryName name = true ↔
      name ≠ "" ∧ (∀ c ∈ name.toList, Text.isBlank c = false) ∧ ';' ∉ name.toList := by
  simp only [isEntryName, Bool.and_eq_true, Bool.not_eq_true', String.isEmpty_eq_false_iff,
    List.all_eq_true, bne_iff_ne, forall_and]
  constructor
  · rintro ⟨nonempty, inks, apart⟩
    exact ⟨nonempty, inks, fun member => apart ';' member rfl⟩
  · rintro ⟨nonempty, inks, apart⟩
    refine ⟨nonempty, inks, ?_⟩
    rintro c member rfl
    exact apart member

theorem inks_of_isEntryName {name : String} (h : isEntryName name = true) :
    ∀ c ∈ name.toList, Text.isBlank c = false :=
  (isEntryName_iff.mp h).2.1

theorem inks_of_isPrefixText {apiPrefix : String} (h : isPrefixText apiPrefix = true) :
    ∀ c ∈ apiPrefix.toList, Text.isBlank c = false := by
  simp only [isPrefixText, List.all_eq_true, Bool.and_eq_true, Bool.not_eq_true'] at h
  intro c member
  exact (h c member).1

theorem unopened_of_isPrefixText {apiPrefix : String} (h : isPrefixText apiPrefix = true) :
    '(' ∉ apiPrefix.toList := by
  simp only [isPrefixText, List.all_eq_true, Bool.and_eq_true, bne_iff_ne] at h
  exact fun member => (h '(' member).2 rfl

end Config

/-- A public name is longer than the prefix with which it begins, and it has no blank. -/
structure Config.IsPublic (config : Config) (name : String) : Prop where
  begins : config.apiPrefix.toList <+: name.toList
  longer : config.apiPrefix.length < name.length
  inks : ∀ c ∈ name.toList, Text.isBlank c = false

theorem Config.isPublic_of_isNamed {config : Config} (valid : config.check = .ok ())
    {name : String} (named : Declaration.IsNamed config.apiPrefix.toList name.toList) :
    config.IsPublic name := by
  obtain ⟨-, prefixText, -, -, -⟩ := check_eq_ok_iff.mp valid
  have inks := Declaration.isBlank_eq_false_of_isNamed named (inks_of_isPrefixText prefixText)
  have longer := Declaration.length_lt_of_isNamed named
  obtain ⟨word, -, split, -⟩ := named
  rw [String.length_toList, String.length_toList] at longer
  exact ⟨⟨word, split.symm⟩, longer, inks⟩

namespace Criteria

variable {criteria : Criteria}

theorem exists_line_of_mem_verdictsBelow {above : Option (List Char)} {lines : List (List Char)}
    {verdict : Verdict} (h : verdict ∈ criteria.verdictsBelow above lines) :
    ∃ line ∈ lines, ∃ upper, criteria.verdict upper line = verdict := by
  induction lines generalizing above with
  | nil => simp [verdictsBelow] at h
  | cons line rest ih =>
    rcases List.mem_cons.mp h with rfl | later
    · exact ⟨line, by simp, above, rfl⟩
    · obtain ⟨found, inside, judged⟩ := ih later
      exact ⟨found, by simp [inside], judged⟩

theorem exists_line_of_accepted {above : Option (List Char)} {lines : List (List Char)}
    {name : String} (h : name ∈ (criteria.verdictsBelow above lines).filterMap Verdict.accepted?) :
    ∃ line ∈ lines, criteria.name? line = some name := by
  obtain ⟨verdict, member, accepted⟩ := List.mem_filterMap.mp h
  cases verdict with
  | noise => simp [Verdict.accepted?] at accepted
  | suppressed other marker => simp [Verdict.accepted?] at accepted
  | accepted other =>
    obtain rfl := Option.some.inj accepted
    obtain ⟨line, inside, upper, judged⟩ := exists_line_of_mem_verdictsBelow member
    exact ⟨line, inside, (verdict_eq_accepted_iff.mp judged).1⟩

end Criteria

theorem inks_of_accepted {config : Config} (valid : config.check = .ok ()) {text name : String}
    (h : name ∈ (config.criteria.scanText text).accepted) :
    ∀ c ∈ name.toList, Text.isBlank c = false := by
  rw [Config.scanText_criteria valid, Summary.ofVerdicts, Criteria.verdicts_eq_verdictsBelow] at h
  obtain ⟨line, -, declares⟩ := Criteria.exists_line_of_accepted h
  exact (Config.isPublic_of_isNamed valid (Declaration.isNamed_of_name? declares)).inks

end LinkerExports
