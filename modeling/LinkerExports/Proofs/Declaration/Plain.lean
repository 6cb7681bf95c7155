import LinkerExports.Proofs.Declaration.Comparison
import LinkerExports.Proofs.Scan.Names

/-! A declaration as it is usually written, with one parenthesis on the line: a return type,
stars, a name, blanks and parameters. No other reading of such a line is left, so the line
declares just this name, wherever else the prefix comes up on it. -/
namespace LinkerExports.Declaration

open Text

/-- A return type on one line with the blank behind it. -/
structure IsReturnType (lead : List Char) : Prop where
  begins : ∃ c ∈ lead.head?, isBlank c = false
  ends : ∃ c ∈ lead.getLast?, isBlank c = true
  inline : '\n' ∉ lead
  unopened : '(' ∉ lead

/-- The parts of a plain declaration around its prefix. `word` goes on with the name, and `rest` is
what stands behind the parenthesis. -/
structure IsPlain (lead : List Char) (stars : Nat) (word gap rest : List Char) : Prop where
  typed : lead = [] ∧ stars = 0 ∨ IsReturnType lead
  nonempty : word ≠ []
  inks : ∀ c ∈ word, isBlank c = false
  wordUnopened : '(' ∉ word
  blanks : ∀ c ∈ gap, isBlank c = true
  opens : ∃ c ∈ rest.head?, c ≠ ')'
  restUnopened : '(' ∉ rest

theorem IsReturnType.isLead {lead : List Char} (h : IsReturnType lead) (stars : Nat) :
    IsLead (lead ++ List.replicate stars '*') := by
  refine Or.inr ⟨lead, _, rfl, fun c => List.eq_of_mem_replicate, h.begins, h.ends, ?_⟩
  have oneLine : lead.dropWhile (· != '\n') = [] := by
    rw [List.dropWhile_eq_nil_iff]
    intro c member
    rw [bne_iff_ne]
    rintro rfl
    exact h.inline member
  simp [oneLine]

theorem IsLead.stars_of_append {front back : List Char} (h : IsLead (front ++ back))
    (inks : ∀ c ∈ back, isBlank c = false) : ∀ c ∈ back, c = '*' := by
  rcases h with nothing | ⟨body, stars, split, areStars, -, ⟨last, ends, blank⟩, -⟩
  · obtain ⟨-, rfl⟩ := List.append_eq_nil_iff.mp nothing
    simp
  rcases List.append_eq_append_iff.mp split with ⟨more, rfl, rfl⟩ | ⟨more, -, rfl⟩
  · -- The blank that ends the body would stand in the text behind `front`.
    cases more with
    | nil => simpa using areStars
    | cons c more =>
      have inside : last ∈ c :: more := by
        rw [List.getLast?_append_of_ne_nil _ (by simp)] at ends
        exact List.mem_of_getLast? ends
      have ink := inks last (List.mem_append_left _ inside)
      rw [blank] at ink
      exact absurd ink (by simp)
  · exact fun c member => areStars c (List.mem_append_right _ member)

theorem IsLead.length_le {lead name before word : List Char} (h : IsLead lead)
    (same : lead ++ name = before ++ word) (inks : ∀ c ∈ word, isBlank c = false)
    (starless : word.head? ≠ some '*') : lead.length ≤ before.length := by
  rcases List.append_eq_append_iff.mp same with ⟨more, rfl, -⟩ | ⟨more, rfl, rfl⟩
  · simp
  · cases more with
    | nil => simp
    | cons c more =>
      have inside : ∀ d ∈ c :: more, isBlank d = false :=
        fun d member => inks d (List.mem_append_left _ member)
      have star : c = '*' := h.stars_of_append inside c (by simp)
      exact absurd (by simp [star]) starless

theorem isBlank_getLast?_append {front back : List Char} (inks : ∀ c ∈ back, isBlank c = false)
    (nonempty : back ≠ []) : ∀ c ∈ (front ++ back).getLast?, isBlank c = false := by
  intro c last
  rw [List.getLast?_append_of_ne_nil _ nonempty] at last
  exact inks c (List.mem_of_getLast? last)

theorem length_le_of_append_blanks {front gap text blanks : List Char}
    (same : front ++ gap = text ++ blanks) (areBlank : ∀ c ∈ gap, isBlank c = true)
    (ends : ∀ c ∈ text.getLast?, isBlank c = false) : text.length ≤ front.length := by
  rcases List.append_eq_append_iff.mp same with ⟨more, rfl, rfl⟩ | ⟨more, rfl, -⟩
  · cases more with
    | nil => simp
    | cons c more =>
      obtain ⟨last, isLast⟩ : ∃ last, (c :: more).getLast? = some last :=
        ⟨_, List.getLast?_eq_some_getLast (by simp)⟩
      have ink : isBlank last = false := by
        apply ends
        rw [List.getLast?_append_of_ne_nil _ (by simp)]
        exact isLast
      have blank := areBlank last (List.mem_append_left _ (List.mem_of_getLast? isLast))
      rw [blank] at ink
      exact absurd ink (by simp)
  · simp

theorem ne_nil_of_isNamed {apiPrefix name : List Char} (h : IsNamed apiPrefix name) :
    name ≠ [] := by
  rintro rfl
  exact Nat.not_lt_zero _ (length_lt_of_isNamed h)

variable {letters lead word gap rest : List Char} {stars : Nat}

theorem IsPlain.occursOn (h : IsPlain lead stars word gap rest) (letters : List Char) :
    OccursOn letters (lead ++ List.replicate stars '*' ++ letters ++ word ++ gap ++ '(' :: rest)
      (lead ++ List.replicate stars '*') (letters ++ word) := by
  obtain ⟨c, first, notClose⟩ := h.opens
  obtain ⟨rest, rfl⟩ := List.head?_eq_some_iff.mp first
  refine ⟨gap ++ '(' :: c :: rest, by simp, ?_, ⟨word, h.nonempty, rfl, h.inks⟩,
    gap, c, rest, rfl, h.blanks, notClose⟩
  rcases h.typed with ⟨rfl, rfl⟩ | typed
  · exact isLead_nil
  · exact typed.isLead stars

theorem IsPlain.unopened (h : IsPlain lead stars word gap rest) (closed : '(' ∉ letters) :
    '(' ∉ lead ++ List.replicate stars '*' ++ letters ++ word ++ gap := by
  have leadClosed : '(' ∉ lead := by
    rcases h.typed with ⟨rfl, -⟩ | typed
    · simp
    · exact typed.unopened
  have gapClosed : '(' ∉ gap := by
    intro member
    have blank := h.blanks '(' member
    rw [isBlank_open] at blank
    exact absurd blank (by simp)
  simp [leadClosed, closed, h.wordUnopened, gapClosed]

/-- The other reading agrees on the parenthesis, then on the blanks in front of it, then on the
lead. -/
theorem IsPlain.only (h : IsPlain lead stars word gap rest)
    (inks : ∀ c ∈ letters, isBlank c = false) (closed : '(' ∉ letters)
    (starless : ∃ c ∈ letters.head?, c ≠ '*') {before name : List Char}
    (occurs : OccursOn letters
      (lead ++ List.replicate stars '*' ++ letters ++ word ++ gap ++ '(' :: rest) before name) :
    before = lead ++ List.replicate stars '*' ∧ name = letters ++ word := by
  obtain ⟨-, -, plainLead, plainNamed, -⟩ := h.occursOn letters
  obtain ⟨_, split, isLead, named, otherGap, c, tail, rfl, otherBlanks, -⟩ := occurs
  have nameInks := isBlank_eq_false_of_isNamed named inks
  have plainInks := isBlank_eq_false_of_isNamed plainNamed inks
  have fronts : before ++ name ++ otherGap =
      lead ++ List.replicate stars '*' ++ (letters ++ word) ++ gap := by
    have readings : lead ++ List.replicate stars '*' ++ letters ++ word ++ gap ++ '(' :: rest =
        before ++ name ++ otherGap ++ '(' :: (c :: tail) := by
      rw [split]
      simp
    have same := (List.append_cons_inj_of_notMem (h.unopened closed) h.restUnopened).mp readings
    rw [← same.1]
    simp
  have declared : before ++ name = lead ++ List.replicate stars '*' ++ (letters ++ word) := by
    have ends : ∀ c ∈ (before ++ name).getLast?, isBlank c = false :=
      isBlank_getLast?_append nameInks (ne_nil_of_isNamed named)
    have plainEnds : ∀ c ∈ (lead ++ List.replicate stars '*' ++ (letters ++ word)).getLast?,
        isBlank c = false :=
      isBlank_getLast?_append plainInks (ne_nil_of_isNamed plainNamed)
    have le := length_le_of_append_blanks fronts otherBlanks plainEnds
    have ge := length_le_of_append_blanks fronts.symm h.blanks ends
    exact (List.append_inj fronts (Nat.le_antisymm ge le)).1
  have head : ∀ word : List Char, (letters ++ word).head? ≠ some '*' := by
    obtain ⟨c, first, other⟩ := starless
    obtain ⟨letters, rfl⟩ := List.head?_eq_some_iff.mp first
    simpa using other
  obtain ⟨tail, -, rfl, -⟩ := named
  have le := isLead.length_le declared plainInks (head word)
  have ge := plainLead.length_le declared.symm nameInks (head tail)
  exact List.append_inj declared (Nat.le_antisymm le ge)

/-- A plain declaration declares its prefix and the word that goes on with it, at the column behind
the stars. -/
theorem declares_plain_name {config : Config} (valid : config.check = .ok ())
    (starless : config.apiPrefix.toList.head? ≠ some '*')
    (plain : IsPlain lead stars word gap rest) :
    let line := lead ++ List.replicate stars '*' ++ config.apiPrefix.toList ++ word ++ gap ++
      '(' :: rest
    let name := config.apiPrefix ++ String.ofList word
    find? config.apiPrefix line = some ⟨lead.length + stars, name⟩ ∧
      name? config.apiPrefix line = some name := by
  intro line name
  obtain ⟨nonempty, prefixText, -, -, -⟩ := Config.check_eq_ok_iff.mp valid
  have closed : '(' ∉ config.apiPrefix.toList := Config.unopened_of_isPrefixText prefixText
  have begins : ∃ c ∈ config.apiPrefix.toList.head?, c ≠ '*' := by
    cases letters : config.apiPrefix.toList with
    | nil => exact absurd (String.toList_eq_nil_iff.mp letters) nonempty
    | cons c more =>
      rw [letters] at starless
      exact ⟨c, rfl, by simpa using starless⟩
  have found : find? config.apiPrefix line =
      some ⟨(lead ++ List.replicate stars '*').length,
        String.ofList (config.apiPrefix.toList ++ word)⟩ :=
    find?_of_only (plain.occursOn _) fun _ _ occurs =>
      plain.only (Config.inks_of_isPrefixText prefixText) closed begins occurs
  have named : String.ofList (config.apiPrefix.toList ++ word) = name := by
    rw [← String.toList_inj, String.toList_append, String.toList_ofList, String.toList_ofList]
  rw [named, List.length_append, List.length_replicate] at found
  exact ⟨found, name?_of_find? found⟩

theorem declares_plain_name_of_repeated :
    ({} : Config).check = .ok () ∧ ({} : Config).apiPrefix.toList.head? ≠ some '*' ∧
      IsPlain "static serdes_t * ".toList 2 "copy_serdes_".toList [' ']
        "serdes_t *serdes_x);\n".toList ∧
      name? "serdes_" "static serdes_t * **serdes_copy_serdes_ (serdes_t *serdes_x);\n".toList =
        some "serdes_copy_serdes_" := by
  have starless : ({} : Config).apiPrefix.toList.head? ≠ some '*' := by decide
  have typed : IsReturnType "static serdes_t * ".toList :=
    ⟨⟨'s', rfl, by decide⟩, ⟨' ', rfl, by decide⟩, by decide, by decide⟩
  have plain : IsPlain "static serdes_t * ".toList 2 "copy_serdes_".toList [' ']
      "serdes_t *serdes_x);\n".toList :=
    ⟨Or.inr typed, by decide, Config.inks_of_isEntryName (by decide), by decide,
      List.forall_mem_singleton.mpr (by decide), ⟨'s', rfl, by decide⟩, by decide⟩
  exact ⟨Config.check_default, starless, plain,
    (declares_plain_name Config.check_default starless plain).2⟩

end LinkerExports.Declaration
