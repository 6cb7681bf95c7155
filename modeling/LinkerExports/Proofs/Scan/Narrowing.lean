import LinkerExports.Proofs.Declaration.Comparison
import LinkerExports.Proofs.Scan.Events

/-! A longer prefix only takes lines away: a line on which a scan finds a declaration
under it is one on which the scan finds a declaration under the shorter prefix as
well, if not the same one. -/
namespace LinkerExports

namespace Criteria

variable {few many : Criteria}

theorem declarations_sublist
    (all : ∀ line, (few.name? line).isSome → (many.name? line).isSome)
    (start : Nat) (lines : List (List Char)) :
    ((few.declarations start lines).map Prod.snd).Sublist
      ((many.declarations start lines).map Prod.snd) := by
  induction lines generalizing start with
  | nil => exact List.Sublist.refl _
  | cons line rest ih =>
    rw [declarations_cons, declarations_cons, List.map_append, List.map_append]
    refine List.Sublist.append ?_ (ih (start + 1))
    have here := all line
    cases fewer : few.name? line with
    | none => exact List.nil_sublist _
    | some name =>
      obtain ⟨other, found⟩ := Option.isSome_iff_exists.mp (here (by rw [fewer]; rfl))
      rw [found]
      exact List.Sublist.refl _

theorem length_declarations (start : Nat) (lines : List (List Char)) :
    (few.declarations start lines).length = lines.countP fun line => (few.name? line).isSome := by
  induction lines generalizing start with
  | nil => rfl
  | cons line rest ih =>
    rw [declarations_cons, List.length_append, ih, List.countP_cons]
    cases few.name? line <;> simp [Nat.add_comm]

theorem length_declaringLines (nonempty : "" ∉ few.markers) (text : String) :
    (few.declaringLines text).length = (few.scanText text).declarationCount := by
  rw [declaringLines_eq nonempty, List.length_map, length_declarations,
    scanText_eq_ofVerdicts nonempty]
  simp only [Summary.ofVerdicts, verdicts_eq_verdictsBelow, countP_declares_verdictsBelow]

end Criteria

/-- Under the shorter of two prefixes a line declares the name that it declares under the longer
one, from the same column on, or a name further on. So a scan reports declarations on all lines on
which it reports them under the longer prefix, and counts no fewer. -/
theorem scanText_of_longer_prefix {broad narrow : Config} (broadValid : broad.check = .ok ())
    (narrowValid : narrow.check = .ok ())
    (begins : broad.apiPrefix.toList <+: narrow.apiPrefix.toList) :
    (∀ line declaration, Declaration.find? narrow.apiPrefix line = some declaration →
      ∃ other, Declaration.find? broad.apiPrefix line = some other ∧
        declaration.column ≤ other.column ∧
        (declaration.column = other.column → declaration.name = other.name)) ∧
    ∃ few many, Criteria.ofConfig narrow = .ok few ∧ Criteria.ofConfig broad = .ok many ∧
      ∀ text,
        (few.declaringLines text).Sublist (many.declaringLines text) ∧
        (few.declaringLines text).length = (few.scanText text).declarationCount ∧
        (many.declaringLines text).length = (many.scanText text).declarationCount ∧
        (few.scanText text).declarationCount ≤ (many.scanText text).declarationCount := by
  obtain ⟨-, prefixText, -, -, -⟩ := Config.check_eq_ok_iff.mp narrowValid
  have declares : ∀ line declaration,
      Declaration.find? narrow.apiPrefix line = some declaration →
        ∃ other, Declaration.find? broad.apiPrefix line = some other ∧
          declaration.column ≤ other.column ∧
          (declaration.column = other.column → declaration = other) :=
    fun line declaration found =>
      Declaration.find?_of_longer begins (Config.inks_of_isPrefixText prefixText) found
  constructor
  · intro line declaration found
    obtain ⟨other, foundBroad, column, same⟩ := declares line declaration found
    exact ⟨other, foundBroad, column, fun equal => congrArg Declaration.name (same equal)⟩
  · have narrowBuilt := Config.ofConfig_eq_criteria narrowValid
    have broadBuilt := Config.ofConfig_eq_criteria broadValid
    refine ⟨_, _, narrowBuilt, broadBuilt, ?_⟩
    intro text
    have nonempty := Criteria.empty_notMem_markers narrowBuilt
    have broadNonempty := Criteria.empty_notMem_markers broadBuilt
    have all : ∀ line, (narrow.criteria.name? line).isSome →
        (broad.criteria.name? line).isSome := by
      intro line isSome
      rw [Config.name?_criteria, Declaration.name?, Option.isSome_map] at isSome ⊢
      obtain ⟨declaration, found⟩ := Option.isSome_iff_exists.mp isSome
      obtain ⟨other, foundBroad, -⟩ := declares line declaration found
      rw [foundBroad]
      rfl
    have lines : (narrow.criteria.declaringLines text).Sublist
        (broad.criteria.declaringLines text) := by
      rw [Criteria.declaringLines_eq nonempty, Criteria.declaringLines_eq broadNonempty]
      exact Criteria.declarations_sublist all 1 _
    have count := Criteria.length_declaringLines nonempty text
    have broadCount := Criteria.length_declaringLines broadNonempty text
    refine ⟨lines, count, broadCount, ?_⟩
    rw [← count, ← broadCount]
    exact lines.length_le

def callingText : String := "int serdes_a(int x, int s_b (int y));\nint s_c(int x);\n"

/-- Under the shorter prefix the first line declares a name further on, and the second line declares
something as well. -/
theorem scanText_of_longer_prefix_of_calling :
    ({ apiPrefix := "s" } : Config).check = .ok () ∧ ({} : Config).check = .ok () ∧
      "s".toList <+: "serdes_".toList ∧
      Declaration.find? "serdes_" callingText.toList = some ⟨4, "serdes_a"⟩ ∧
      (∃ other, Declaration.find? "s" callingText.toList = some other ∧ 4 ≤ other.column ∧
        other.name = "s_b") ∧
      ∃ few many, Criteria.ofConfig {} = .ok few ∧
        Criteria.ofConfig { apiPrefix := "s" } = .ok many ∧
        (few.declaringLines callingText).Sublist (many.declaringLines callingText) ∧
        few.declaringLines callingText = [1] ∧ many.declaringLines callingText = [1, 2] := by
  have valid : ({ apiPrefix := "s" } : Config).check = .ok () := rfl
  have begins : "s".toList <+: "serdes_".toList := by decide
  have narrow : Declaration.find? "serdes_" callingText.toList = some ⟨4, "serdes_a"⟩ := by decide
  obtain ⟨declares, few, many, fewBuilt, manyBuilt, texts⟩ :=
    scanText_of_longer_prefix valid Config.check_default begins
  obtain ⟨other, found, column, -⟩ := declares _ _ narrow
  obtain ⟨-, -, rfl⟩ := Criteria.ofConfig_eq_ok_iff.mp fewBuilt
  obtain ⟨-, -, rfl⟩ := Criteria.ofConfig_eq_ok_iff.mp manyBuilt
  have name : (Declaration.find? "s" callingText.toList).map Declaration.name = some "s_b" := by
    decide
  rw [found] at name
  exact ⟨valid, Config.check_default, begins, narrow,
    ⟨other, found, column, Option.some.inj name⟩, _, _, fewBuilt, manyBuilt, (texts _).1,
    by decide, by decide⟩

end LinkerExports
