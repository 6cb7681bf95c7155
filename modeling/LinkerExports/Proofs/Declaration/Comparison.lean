import LinkerExports.Proofs.Declaration.Last
import LinkerExports.Proofs.Text.Lines

/-! What a line declares is settled by the names that may be declared on it, so two lines, or two
prefixes, are compared by these names. A declaration needs one character behind its parenthesis
and no more: a line that declares something goes on doing so whatever it is completed with. -/
namespace LinkerExports.Declaration

open Text

/-- The name may be declared on the line behind the text in front of it. -/
def OccursOn (apiPrefix line before name : List Char) : Prop :=
  ∃ behind, line = before ++ (name ++ behind) ∧ Occurs apiPrefix before name behind

variable {apiPrefix other : String} {line second before name : List Char}

theorem name?_of_find? {declaration : Declaration}
    (h : find? apiPrefix line = some declaration) :
    name? apiPrefix line = some declaration.name := by
  rw [name?, h, Option.map_some]

theorem find?_ne_none_of_occursOn (h : OccursOn apiPrefix.toList line before name) :
    find? apiPrefix line ≠ none := by
  obtain ⟨behind, rfl, occurs⟩ := h
  intro nothing
  exact find?_eq_none_iff.mp nothing ⟨_, _, before, name, behind, rfl, rfl, rfl, occurs⟩

theorem last_occursOn_of_find? {declaration : Declaration}
    (h : find? apiPrefix line = some declaration) :
    ∃ before name, OccursOn apiPrefix.toList line before name ∧
      declaration = ⟨before.length, String.ofList name⟩ ∧
      ∀ lead word, OccursOn apiPrefix.toList line lead word →
        lead.length < before.length ∨ lead = before ∧ word <+: name := by
  obtain ⟨before, name, behind, rfl, occurs, rfl, longest⟩ := longest_of_find? h
  refine ⟨before, name, ⟨behind, rfl, occurs⟩, rfl, ?_⟩
  rintro lead word ⟨rest, split, found⟩
  obtain ⟨last, isLast, -⟩ := last_of_find? h
  have bound : lead.length ≤ before.length :=
    isLast.begins_le _ _ ⟨lead, word, rest, split, rfl, rfl, found⟩
  rcases Nat.lt_or_eq_of_le bound with earlier | same
  · exact Or.inl earlier
  · obtain ⟨rfl, tails⟩ := List.append_inj split same.symm
    have shorter : word.length ≤ name.length := longest word rest tails found.2.1 found.2.2
    exact Or.inr ⟨rfl, List.prefix_of_prefix_length_le ⟨rest, tails.symm⟩ ⟨behind, rfl⟩ shorter⟩

theorem find?_of_only (here : OccursOn apiPrefix.toList line before name)
    (only : ∀ lead word, OccursOn apiPrefix.toList line lead word → lead = before ∧ word = name) :
    find? apiPrefix line = some ⟨before.length, String.ofList name⟩ := by
  obtain ⟨declaration, found⟩ := Option.ne_none_iff_exists'.mp (find?_ne_none_of_occursOn here)
  obtain ⟨lead, word, there, rfl, -⟩ := last_occursOn_of_find? found
  obtain ⟨rfl, rfl⟩ := only lead word there
  exact found

/-- The later declaration begins further on, or at the same column and runs on from the early
one. -/
def GrowsTo (early late : Declaration) : Prop :=
  early.column < late.column ∨ early.column = late.column ∧ early.name.toList <+: late.name.toList

theorem GrowsTo.antisymm {early late : Declaration} (h : early.GrowsTo late)
    (g : late.GrowsTo early) : early = late := by
  obtain ⟨first, name⟩ := early
  obtain ⟨column, word⟩ := late
  simp only [GrowsTo] at h g
  have same : first = column := by omega
  have front : name.toList <+: word.toList := (h.resolve_left (by omega)).2
  have back : word.toList <+: name.toList := (g.resolve_left (by omega)).2
  have names : name.toList = word.toList := front.eq_of_length_le back.length_le
  rw [same, String.toList_inj.mp names]

/-- Where all names that may be declared on a line may be declared on a second one as well, the
second line declares something, no earlier and no shorter. -/
theorem grows_of_occursOn
    (all : ∀ before name, OccursOn apiPrefix.toList line before name →
      OccursOn other.toList second before name)
    {early : Declaration} (found : find? apiPrefix line = some early) :
    ∃ late, find? other second = some late ∧ early.GrowsTo late := by
  obtain ⟨before, name, here, rfl, -⟩ := last_occursOn_of_find? found
  have there := all before name here
  obtain ⟨late, foundLate⟩ := Option.ne_none_iff_exists'.mp (find?_ne_none_of_occursOn there)
  obtain ⟨lead, word, -, rfl, last⟩ := last_occursOn_of_find? foundLate
  refine ⟨_, foundLate, ?_⟩
  rcases last before name there with earlier | ⟨rfl, begins⟩
  · exact Or.inl earlier
  · refine Or.inr ⟨rfl, ?_⟩
    rwa [String.toList_ofList, String.toList_ofList]

theorem find?_congr
    (same : ∀ before name, OccursOn apiPrefix.toList line before name ↔
      OccursOn other.toList second before name) :
    find? apiPrefix line = find? other second := by
  have onto := fun before name => (same before name).mp
  have back := fun before name => (same before name).mpr
  cases found : find? apiPrefix line with
  | none =>
    cases foundSecond : find? other second with
    | none => rfl
    | some late =>
      obtain ⟨early, here, -⟩ := grows_of_occursOn back foundSecond
      rw [found] at here
      exact absurd here (by simp)
  | some early =>
    obtain ⟨late, there, grows⟩ := grows_of_occursOn onto found
    obtain ⟨again, here, shrinks⟩ := grows_of_occursOn back there
    obtain rfl : early = again := Option.some.inj (found.symm.trans here)
    rw [there, grows.antisymm shrinks]

/-! A prefix and one that goes on from it. -/

section Longer

variable {short long : List Char}

theorem IsNamed.of_longer (begins : short <+: long) (inks : ∀ c ∈ long, isBlank c = false)
    (h : IsNamed long name) : IsNamed short name := by
  obtain ⟨more, rfl⟩ := begins
  obtain ⟨word, nonempty, rfl, wordInks⟩ := h
  refine ⟨more ++ word, by simp [nonempty], List.append_assoc short more word, ?_⟩
  intro c member
  rcases List.mem_append.mp member with inPrefix | inWord
  · exact inks c (List.mem_append_right _ inPrefix)
  · exact wordInks c inWord

theorem IsNamed.extend (begins : short <+: long) (h : IsNamed long name) {grown : List Char}
    (grows : name <+: grown) (named : IsNamed short grown) : IsNamed long grown := by
  obtain ⟨more, rfl⟩ := begins
  obtain ⟨word, nonempty, rfl, -⟩ := h
  obtain ⟨tail, rfl⟩ := grows
  obtain ⟨rest, -, split, restInks⟩ := named
  simp only [List.append_assoc, List.append_cancel_left_eq] at split
  refine ⟨word ++ tail, by simp [nonempty], by simp, ?_⟩
  intro c member
  exact restInks c (split ▸ List.mem_append_right more member)

theorem OccursOn.of_longer (begins : short <+: long) (inks : ∀ c ∈ long, isBlank c = false)
    (h : OccursOn long line before name) : OccursOn short line before name := by
  obtain ⟨behind, split, lead, named, opens⟩ := h
  exact ⟨behind, split, lead, named.of_longer begins inks, opens⟩

end Longer

/-- What a line declares under a longer prefix it declares under the shorter one, unless a name that
begins further on has only the shorter one. -/
theorem find?_of_longer (begins : apiPrefix.toList <+: other.toList)
    (inks : ∀ c ∈ other.toList, isBlank c = false) {declaration : Declaration}
    (found : find? other line = some declaration) :
    ∃ late, find? apiPrefix line = some late ∧ declaration.column ≤ late.column ∧
      (declaration.column = late.column → declaration = late) := by
  obtain ⟨before, name, here, rfl, last⟩ := last_occursOn_of_find? found
  have there := here.of_longer begins inks
  obtain ⟨late, foundLate⟩ := Option.ne_none_iff_exists'.mp (find?_ne_none_of_occursOn there)
  obtain ⟨lead, word, occurs, rfl, lastLate⟩ := last_occursOn_of_find? foundLate
  refine ⟨_, foundLate, ?_⟩
  rcases lastLate before name there with earlier | ⟨rfl, grows⟩
  · exact ⟨Nat.le_of_lt earlier, fun same => absurd same (Nat.ne_of_lt earlier)⟩
  · -- Both begin at one column, so the name that is found has the longer prefix and is no longer.
    obtain ⟨-, -, -, named, -⟩ := here
    obtain ⟨behind, split, isLead, shortNamed, opens⟩ := occurs
    have back : OccursOn other.toList line before word :=
      ⟨behind, split, isLead, named.extend begins grows shortNamed, opens⟩
    have shrinks : word <+: name :=
      ((last before word back).resolve_left (Nat.lt_irrefl _)).2
    obtain rfl : name = word := grows.eq_of_length_le shrinks.length_le
    exact ⟨Nat.le_refl _, fun _ => rfl⟩

/-! The end of a line. -/

section Ending

variable {apiPrefix opened before name : List Char}

theorem OccursOn.complete (h : OccursOn apiPrefix opened before name) (inline : '\n' ∉ opened)
    (more : List Char) : OccursOn apiPrefix (foldEnding (opened ++ more)) before name := by
  obtain ⟨_, rfl, lead, named, gap, c, rest, rfl, blanks, notClose⟩ := h
  have notNewline : c ≠ '\n' := by
    rintro rfl
    simp at inline
  obtain ⟨d, tail, fold, kept⟩ :=
    exists_foldEnding_append_cons notNewline (before ++ (name ++ (gap ++ ['(']))) (rest ++ more)
  refine ⟨gap ++ '(' :: d :: tail, ?_, lead, named, gap, d, tail, rfl, blanks, ?_⟩
  · simpa using fold
  · rcases kept with rfl | rfl
    · exact notClose
    · decide

theorem foldEnding_append_newline (row : List Char) :
    ∃ body tail, row = body ++ tail ∧ (tail = [] ∨ tail = ['\r']) ∧
      foldEnding (row ++ ['\n']) = body ++ ['\n'] := by
  rcases foldsTo_foldEnding (row ++ ['\n']) with ⟨body, split, fold⟩ | ⟨-, fold⟩
  · have rows : row ++ ['\n'] = (body ++ ['\r']) ++ ['\n'] := by simpa using split
    exact ⟨body, ['\r'], List.append_cancel_right rows, Or.inr rfl, fold⟩
  · exact ⟨row, [], by simp, Or.inl rfl, fold⟩

/-- A newline at the end of a line lets no name be declared that could not be before, unless it
comes right behind a parenthesis. -/
theorem OccursOn.of_append_newline
    (h : OccursOn apiPrefix (foldEnding (opened ++ ['\n'])) before name)
    (shut : opened.getLast? ≠ some '(') : OccursOn apiPrefix opened before name := by
  obtain ⟨body, tail, rfl, ending, fold⟩ := foldEnding_append_newline opened
  obtain ⟨_, split, lead, named, gap, c, rest, rfl, blanks, notClose⟩ := h
  have cut : before ++ (name ++ (gap ++ ['('])) ++ c :: rest = body ++ ['\n'] := by
    rw [← fold, split]
    simp
  rcases List.eq_nil_or_concat rest with rfl | ⟨kept, last, rfl⟩
  · -- The newline itself is the character behind the parenthesis.
    obtain ⟨rfl, -⟩ := List.append_inj' cut rfl
    rcases ending with rfl | rfl
    · simp at shut
    · exact ⟨gap ++ ['(', '\r'], by simp, lead, named, gap, '\r', [], rfl, blanks, by decide⟩
  · have again : before ++ (name ++ (gap ++ ['('])) ++ c :: kept ++ [last] = body ++ ['\n'] := by
      simpa using cut
    obtain ⟨rfl, -⟩ := List.append_inj' again rfl
    exact ⟨gap ++ '(' :: c :: (kept ++ tail), by simp, lead, named, gap, c, kept ++ tail, rfl,
      blanks, notClose⟩

theorem grows_of_complete {apiPrefix : String} {early : Declaration} (inline : '\n' ∉ opened)
    (found : find? apiPrefix opened = some early) (more : List Char) :
    ∃ late, find? apiPrefix (foldEnding (opened ++ more)) = some late ∧ early.GrowsTo late :=
  grows_of_occursOn (fun _ _ occurs => occurs.complete inline more) found

theorem find?_append_newline (apiPrefix : String) (inline : '\n' ∉ opened)
    (shut : opened.getLast? ≠ some '(') :
    find? apiPrefix (foldEnding (opened ++ ['\n'])) = find? apiPrefix opened := by
  apply find?_congr
  intro before name
  exact ⟨fun occurs => occurs.of_append_newline shut, fun occurs => occurs.complete inline ['\n']⟩

end Ending

end LinkerExports.Declaration
