import LinkerExports.Text.ByteOrder
import Mathlib.Algebra.BigOperators.Group.List.Lemmas
import Mathlib.Algebra.GroupWithZero.Nat
import Mathlib.Data.List.Dedup

/-! A sorted list is determined by how often each name stands in it, and a strictly ascending one by
its members. Equal names stand side by side in a sorted list, so the names that are there more than
once are those that stand beside themselves, and dropping repeats leaves each name once. -/
namespace LinkerExports.Text

def IsAscending (names : List String) : Prop := names.Pairwise fun a b => utf8 a < utf8 b

/-- Equal names may stand side by side. -/
def IsSorted (names : List String) : Prop := names.Pairwise fun a b => utf8 a ≤ utf8 b

instance (names : List String) : Decidable (IsSorted names) :=
  inferInstanceAs (Decidable (names.Pairwise fun a b => utf8 a ≤ utf8 b))

theorem isSorted_sortNames (names : List String) : IsSorted (sortNames names) := by
  refine (pairwise_sortNames names).imp ?_
  intro a b le
  exact of_decide_eq_true le

theorem mem_sortNames {names : List String} {name : String} :
    name ∈ sortNames names ↔ name ∈ names :=
  (sortNames_perm names).mem_iff

theorem isAscending_sortNames {names : List String} (distinct : names.Nodup) :
    IsAscending (sortNames names) := by
  have apart : (sortNames names).Nodup := (sortNames_perm names).nodup_iff.mpr distinct
  refine ((isSorted_sortNames names).and apart).imp ?_
  rintro a b ⟨le, ne⟩
  have unequal : utf8 a ≠ utf8 b := fun h => ne (utf8_inj.mp h)
  exact Std.lt_of_le_of_ne le unequal

theorem IsAscending.nodup {names : List String} (h : IsAscending names) : names.Nodup := by
  refine h.imp ?_
  rintro a _ lt rfl
  exact List.lt_irrefl _ lt

theorem IsAscending.eq_of_mem_iff {first second : List String} (hf : IsAscending first)
    (hs : IsAscending second) (same : ∀ name, name ∈ first ↔ name ∈ second) : first = second := by
  have perm : first.Perm second := (List.perm_ext_iff_of_nodup hf.nodup hs.nodup).mpr same
  refine perm.eq_of_pairwise ?_ hf hs
  intro a b _ _ hab hba
  exact absurd (List.lt_trans hab hba) (List.lt_irrefl _)

/-! Sorting keeps nothing of the order of a list, and dropping repeats keeps nothing of how
often a name stood there. -/

theorem IsSorted.sortNames_eq {sorted names : List String} (h : IsSorted sorted)
    (perm : sorted.Perm names) : sortNames names = sorted := by
  refine ((sortNames_perm names).trans perm.symm).eq_of_pairwise ?_ (isSorted_sortNames names) h
  intro a b _ _ hab hba
  exact eq_of_utf8_le hab hba

theorem sortNames_eq_of_perm {first second : List String} (h : first.Perm second) :
    sortNames first = sortNames second :=
  (isSorted_sortNames second).sortNames_eq ((sortNames_perm second).trans h.symm)

/-- A name that comes again behind the front of a sorted list comes again at once. -/
theorem IsSorted.head?_eq_iff_mem {first : String} {names : List String}
    (sorted : IsSorted (first :: names)) : names.head? = some first ↔ first ∈ names := by
  constructor
  · exact List.mem_of_head?
  · intro again
    obtain ⟨least, sortedRest⟩ := List.pairwise_cons.mp sorted
    cases names with
    | nil => simp at again
    | cons second rest =>
      rcases List.mem_cons.mp again with rfl | further
      · rfl
      · have forth := least second (by simp)
        have back := (List.pairwise_cons.mp sortedRest).1 first further
        rw [eq_of_utf8_le forth back, List.head?_cons]

theorem IsSorted.isAscending_dropRepeats {names : List String} (sorted : IsSorted names) :
    IsAscending (dropRepeats names) := by
  fun_induction dropRepeats names with
  | case1 => exact List.Pairwise.nil
  | case2 name => exact List.pairwise_singleton _ name
  | case3 first rest ih => exact ih (List.pairwise_cons.mp sorted).2
  | case4 first second rest apart ih =>
    obtain ⟨least, sortedRest⟩ := List.pairwise_cons.mp sorted
    refine List.pairwise_cons.mpr ⟨?_, ih sortedRest⟩
    intro name member
    have later : name ∈ second :: rest := mem_dropRepeats.mp member
    -- A name equal to the first would come at once, in the place of the second.
    have unequal : utf8 first ≠ utf8 name := by
      intro same
      obtain rfl := utf8_inj.mp same
      have next := sorted.head?_eq_iff_mem.mpr later
      exact apart (Option.some.inj next).symm
    exact Std.lt_of_le_of_ne (least name later) unequal

theorem dropRepeats_sortNames_eq_of_mem_iff {first second : List String}
    (same : ∀ name, name ∈ first ↔ name ∈ second) :
    dropRepeats (sortNames first) = dropRepeats (sortNames second) := by
  apply (isSorted_sortNames first).isAscending_dropRepeats.eq_of_mem_iff
    (isSorted_sortNames second).isAscending_dropRepeats
  intro name
  rw [mem_dropRepeats, mem_dropRepeats, mem_sortNames, mem_sortNames, same]

/-- The names that stand in a list at least twice, each once and in byte order. -/
def repeats (names : List String) : List String :=
  sortNames (names.dedup.filter fun name => 2 ≤ names.count name)

theorem isAscending_repeats (names : List String) : IsAscending (repeats names) :=
  isAscending_sortNames (names.nodup_dedup.filter _)

theorem mem_repeats {names : List String} {name : String} :
    name ∈ repeats names ↔ 2 ≤ names.count name := by
  simp only [repeats, mem_sortNames, List.mem_filter, List.mem_dedup, decide_eq_true_eq,
    and_iff_right_iff_imp]
  intro h
  exact List.count_pos_iff.mp (by omega)

theorem eq_repeats {found names : List String} (ascending : IsAscending found)
    (members : ∀ name, name ∈ found ↔ 2 ≤ names.count name) : found = repeats names := by
  apply ascending.eq_of_mem_iff (isAscending_repeats names)
  intro name
  rw [members, mem_repeats]

theorem repeats_eq_of_perm {first second : List String} (h : first.Perm second) :
    repeats first = repeats second := by
  apply eq_repeats (isAscending_repeats first)
  intro name
  rw [mem_repeats, h.count_eq]

/-- The name stands at two positions next to each other. -/
def StandsBesideItself (names : List String) (name : String) : Prop :=
  ∃ i, names[i]? = some name ∧ names[i + 1]? = some name

variable {names : List String} {name : String}

theorem standsBesideItself_cons {first : String} :
    StandsBesideItself (first :: names) name ↔
      first = name ∧ names.head? = some name ∨ StandsBesideItself names name := by
  constructor
  · rintro ⟨_ | i, here, next⟩
    · refine Or.inl ⟨Option.some.inj here, ?_⟩
      rwa [List.head?_eq_getElem?]
    · exact Or.inr ⟨i, here, next⟩
  · rintro (⟨rfl, next⟩ | ⟨i, here, next⟩)
    · refine ⟨0, rfl, ?_⟩
      rwa [List.head?_eq_getElem?] at next
    · exact ⟨i + 1, here, next⟩

theorem IsSorted.standsBesideItself_iff (sorted : IsSorted names) :
    StandsBesideItself names name ↔ 2 ≤ names.count name := by
  induction names with
  | nil => simp [StandsBesideItself]
  | cons first rest ih =>
    rw [standsBesideItself_cons, ih (List.pairwise_cons.mp sorted).2]
    by_cases same : first = name
    · subst same
      have again := List.count_pos_iff (a := first) (l := rest)
      rw [sorted.head?_eq_iff_mem, ← again, List.count_cons_self, eq_self, true_and]
      omega
    · rw [List.count_cons_of_ne same]
      simp [same]

theorem mem_repeats_iff_standsBesideItself :
    name ∈ repeats names ↔ StandsBesideItself (sortNames names) name := by
  rw [(isSorted_sortNames names).standsBesideItself_iff, (sortNames_perm names).count_eq,
    mem_repeats]

theorem nodup_dropRepeats_sortNames (names : List String) :
    (dropRepeats (sortNames names)).Nodup :=
  (isSorted_sortNames names).isAscending_dropRepeats.nodup

theorem filter_dropRepeats_sortNames (names : List String) :
    (dropRepeats (sortNames names)).filter (fun name => 2 ≤ names.count name) = repeats names := by
  apply eq_repeats
  · exact (isSorted_sortNames names).isAscending_dropRepeats.filter _
  · intro name
    rw [List.mem_filter, mem_dropRepeats, mem_sortNames, decide_eq_true_eq, ← List.count_pos_iff]
    omega

theorem repeats_sublist_sortNames (names : List String) :
    (repeats names).Sublist (sortNames names) := by
  rw [← filter_dropRepeats_sortNames]
  exact List.filter_sublist.trans (dropRepeats_sublist _)

theorem count_dropRepeats_lt_iff :
    (dropRepeats (sortNames names)).count name < (sortNames names).count name ↔
      2 ≤ names.count name := by
  have atMostOne : (dropRepeats (sortNames names)).count name ≤ 1 :=
    List.nodup_iff_count_le_one.mp (nodup_dropRepeats_sortNames names) name
  have kept : 0 < (dropRepeats (sortNames names)).count name ↔ 0 < names.count name := by
    rw [List.count_pos_iff, List.count_pos_iff, mem_dropRepeats, mem_sortNames]
  rw [(sortNames_perm names).count_eq]
  omega

theorem sum_map_eq_length_add {f : String → Nat} (positive : ∀ name ∈ names, 1 ≤ f name) :
    (names.map f).sum = names.length +
      ((names.filter fun name => 2 ≤ f name).map fun name => f name - 1).sum := by
  induction names with
  | nil => rfl
  | cons first rest ih =>
    have here := positive first (by simp)
    have sum := ih fun name member => positive name (by simp [member])
    rw [List.map_cons, List.sum_cons, sum, List.length_cons, List.filter_cons]
    split
    · rw [List.map_cons, List.sum_cons]
      omega
    · next one =>
      simp only [decide_eq_true_eq] at one
      omega

theorem length_dropRepeats_sortNames (names : List String) :
    (dropRepeats (sortNames names)).length +
      ((repeats names).map fun name => names.count name - 1).sum = names.length := by
  have distinct : (dropRepeats (sortNames names)).Perm names.dedup := by
    rw [List.perm_ext_iff_of_nodup (nodup_dropRepeats_sortNames names) names.nodup_dedup]
    intro name
    rw [mem_dropRepeats, mem_sortNames, List.mem_dedup]
  have positive : ∀ name ∈ dropRepeats (sortNames names), 1 ≤ names.count name := by
    intro name member
    rwa [mem_dropRepeats, mem_sortNames, ← List.count_pos_iff] at member
  rw [← filter_dropRepeats_sortNames, ← sum_map_eq_length_add positive,
    (distinct.map _).sum_eq, List.sum_map_count_dedup_eq_length]

theorem dropRepeats_sortNames_eq_iff :
    dropRepeats (sortNames names) = sortNames names ↔ repeats names = [] := by
  constructor
  · intro same
    rw [List.eq_nil_iff_forall_not_mem]
    intro name repeated
    have fewer := count_dropRepeats_lt_iff.mpr (mem_repeats.mp repeated)
    rw [same] at fewer
    exact Nat.lt_irrefl _ fewer
  · intro none
    have length := length_dropRepeats_sortNames names
    rw [none, List.map_nil, List.sum_nil, Nat.add_zero] at length
    exact (dropRepeats_sublist _).eq_of_length (length.trans (sortNames_perm names).length_eq.symm)

end LinkerExports.Text
