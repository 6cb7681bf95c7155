import LinkerExports.Text.Utf8

/-! Names are sorted by their bytes, so that the order of an exported list depends on no locale.
`sortNames` keeps repeated names, `dropRepeats` then keeps one of each. -/
namespace LinkerExports.Text

def byteLe (a b : String) : Bool := utf8 a ≤ utf8 b

def sortNames (names : List String) : List String := names.mergeSort byteLe

def dropRepeats : List String → List String
  | [] => []
  | [name] => [name]
  | first :: second :: rest =>
    if first = second then dropRepeats (second :: rest) else first :: dropRepeats (second :: rest)

theorem byteLe_trans (a b c : String) (hab : byteLe a b = true) (hbc : byteLe b c = true) :
    byteLe a c = true := by
  simp only [byteLe, decide_eq_true_eq] at *
  exact List.le_trans hab hbc

theorem byteLe_total (a b : String) : (byteLe a b || byteLe b a) = true := by
  simp only [byteLe, Bool.or_eq_true, decide_eq_true_eq]
  exact List.le_total (utf8 a) (utf8 b)

theorem eq_of_utf8_le {a b : String} (hab : utf8 a ≤ utf8 b) (hba : utf8 b ≤ utf8 a) : a = b :=
  utf8_inj.mp (List.le_antisymm hab hba)

theorem sortNames_perm (names : List String) : (sortNames names).Perm names :=
  List.mergeSort_perm names byteLe

theorem pairwise_sortNames (names : List String) :
    (sortNames names).Pairwise fun a b => byteLe a b = true :=
  List.pairwise_mergeSort byteLe_trans byteLe_total names

theorem mem_dropRepeats {names : List String} {name : String} :
    name ∈ dropRepeats names ↔ name ∈ names := by
  fun_induction dropRepeats names <;> simp_all

theorem dropRepeats_sublist (names : List String) : (dropRepeats names).Sublist names := by
  fun_induction dropRepeats names with
  | case1 => exact .slnil
  | case2 => exact List.Sublist.refl _
  | case3 first rest ih => exact ih.cons _
  | case4 first second rest h ih => exact ih.cons_cons _

end LinkerExports.Text
