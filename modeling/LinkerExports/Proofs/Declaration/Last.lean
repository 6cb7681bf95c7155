import LinkerExports.Proofs.Declaration.Search
import Mathlib.Data.List.TakeWhile

/-! The runs of a return type compete for the characters of a line, and the search prefers long
runs in the order in which they stand. All the same it comes to one thing: the declaration of a
line is the occurrence that begins last, and of those the longest. -/
namespace LinkerExports.Declaration

open Text

/-- Blanks and then stars, as between a return type and a name. -/
def IsGap (gap : List Char) : Prop :=
  ∃ blanks stars, gap = blanks ++ stars ∧ (∀ c ∈ blanks, isBlank c = true) ∧ ∀ c ∈ stars, c = '*'

theorem IsGap.of_append {front back : List Char} (h : IsGap (front ++ back)) : IsGap back := by
  obtain ⟨blanks, stars, split, areBlank, areStars⟩ := h
  rcases List.append_eq_append_iff.mp split with ⟨more, rfl, rfl⟩ | ⟨more, rfl, rfl⟩
  · exact ⟨more, stars, rfl, fun c hc => areBlank c (by simp [hc]), areStars⟩
  · exact ⟨[], back, rfl, by simp, fun c hc => areStars c (by simp [hc])⟩

theorem isLead_of_runs {c b : Char} {inks dots blanks stars : List Char}
    (isInk : ∀ d ∈ c :: inks, Declaration.isInk d = true) (noNewline : ∀ d ∈ dots, (d != '\n') = true)
    (areBlank : ∀ d ∈ b :: blanks, isBlank d = true) (areStars : ∀ d ∈ stars, d = '*') :
    IsLead (c :: inks ++ dots ++ (b :: blanks) ++ stars) := by
  have inkFree : ∀ d ∈ c :: inks ++ dots, (d != '\n') = true := by
    intro d hd
    rcases List.mem_append.mp hd with hd | hd
    · have ink := isInk d hd
      rw [bne_iff_ne]
      rintro rfl
      simp [Declaration.isInk, isBlank_newline] at ink
    · exact noNewline d hd
  refine Or.inr ⟨c :: inks ++ dots ++ (b :: blanks), stars, rfl, areStars, ?_, ?_, ?_⟩
  · exact ⟨c, rfl, by simpa [Declaration.isInk] using isInk c (by simp)⟩
  · obtain ⟨last, isLast⟩ : ∃ last, (b :: blanks).getLast? = some last :=
      ⟨_, List.getLast?_eq_some_getLast (by simp)⟩
    refine ⟨last, ?_, areBlank last (List.mem_of_getLast? isLast)⟩
    rw [List.getLast?_append, isLast]
    rfl
  · intro d hd
    rw [List.dropWhile_append_of_pos inkFree] at hd
    exact areBlank d ((List.dropWhile_sublist _).subset hd)

theorem exists_gap_of_isLead {before : List Char} (h : IsLead before) (nonempty : before ≠ []) :
    ∃ c dots b gap, before = c :: dots ++ b :: gap ∧ isInk c = true ∧
      (∀ d ∈ dots, (d != '\n') = true) ∧ isBlank b = true ∧ IsGap (b :: gap) := by
  obtain rfl | ⟨body, stars, rfl, areStars, ⟨c, first, blankless⟩, ⟨b, last, blank⟩, behind⟩ := h
  · exact absurd rfl nonempty
  obtain ⟨rest, rfl⟩ : ∃ rest, body = c :: rest := List.head?_eq_some_iff.mp first
  have ink : isInk c = true := by simp [isInk, blankless]
  have within : (c != '\n') = true := by
    rw [bne_iff_ne]
    rintro rfl
    simp [isBlank_newline] at blankless
  replace behind : ∀ d ∈ rest.dropWhile (· != '\n'), isBlank d = true := by
    rwa [List.dropWhile_cons, if_pos within] at behind
  -- The gap begins at the first newline, or else at the last character of the body.
  cases newlines : rest.dropWhile (· != '\n') with
  | cons newline blanks =>
    rw [newlines] at behind
    have whole : rest.takeWhile (· != '\n') ++ newline :: blanks = rest := by
      rw [← newlines, List.takeWhile_append_dropWhile]
    refine ⟨c, rest.takeWhile (· != '\n'), newline, blanks ++ stars, ?_, ink,
      fun d hd => List.mem_takeWhile_imp (p := (· != '\n')) hd, behind newline (by simp),
      newline :: blanks, stars, rfl, behind, areStars⟩
    calc c :: rest ++ stars = c :: (rest.takeWhile (· != '\n') ++ newline :: blanks) ++ stars := by
          rw [whole]
      _ = c :: rest.takeWhile (· != '\n') ++ newline :: (blanks ++ stars) := by simp
  | nil =>
    have oneLine := List.dropWhile_eq_nil_iff.mp newlines
    rcases List.eq_nil_or_concat rest with rfl | ⟨dots, z, rfl⟩
    · obtain rfl : c = b := by simpa using last
      simp [blank] at blankless
    · obtain rfl : z = b := by simpa [List.getLast?_cons] using last
      refine ⟨c, dots, z, stars, by simp, ink, fun d hd => oneLine d (by simp [hd]), blank,
        [z], stars, rfl, by simpa using blank, areStars⟩

def gap {α : Type} (next : Search α) : Search α :=
  Search.atLeastOne isBlank (Search.many (· == '*') next)

variable {α : Type} {next : Search α} {text : List Char} {found : α}

theorem gap_ne_none {b : Char} {run behind : List Char} (blank : isBlank b = true)
    (isGap : IsGap (b :: run)) (finds : next behind ≠ none) :
    gap next (b :: run ++ behind) ≠ none := by
  intro nothing
  obtain ⟨blanks, stars, split, areBlank, areStars⟩ := isGap
  cases blanks with
  | nil =>
    have star : b = '*' := areStars b (by rw [List.nil_append] at split; simp [← split])
    simp [star, isBlank_star] at blank
  | cons c blanks =>
    rw [List.cons_append] at split
    obtain ⟨rfl, rfl⟩ := List.cons.inj split
    simp only [gap, Search.atLeastOne, List.cons_append, Search.one_cons, blank, if_true,
      List.append_assoc] at nothing
    have atStars := Search.eq_none_of_many (fun d hd => areBlank d (by simp [hd])) nothing
    exact finds (Search.eq_none_of_many (fun d hd => beq_iff_eq.mpr (areStars d hd)) atStars)

theorem eq_nil_of_blank {stars behind rest : List Char} {b : Char} (blank : isBlank b = true)
    (areStars : ∀ d ∈ stars, d = '*') (split : b :: rest = stars ++ behind) : stars = [] := by
  cases stars with
  | nil => rfl
  | cons d stars =>
    obtain ⟨rfl, -⟩ := List.cons.inj split
    simp [areStars b (by simp), isBlank_star] at blank

/-- Of all gaps from here on behind which `next` finds anything, the search takes the longest. -/
theorem longest_of_gap (h : gap next text = some found) :
    ∃ b blanks stars rest, text = b :: blanks ++ (stars ++ rest) ∧
      (∀ d ∈ b :: blanks, isBlank d = true) ∧ (∀ d ∈ stars, d = '*') ∧ next rest = some found ∧
      ∀ run behind, text = run ++ behind → IsGap run → next behind ≠ none →
        run.length ≤ (b :: blanks ++ stars).length := by
  obtain ⟨b, _, rfl, blank, h⟩ := Search.of_one h
  obtain ⟨blanks, _, rfl, areBlank, h, longestBlanks⟩ := Search.longest_of_many h
  obtain ⟨stars, rest, rfl, areStars, h, longestStars⟩ := Search.longest_of_many h
  refine ⟨b, blanks, stars, rest, rfl, by simpa [blank] using areBlank,
    fun d hd => eq_of_beq (areStars d hd), h, ?_⟩
  rintro _ behind split ⟨otherBlanks, otherStars, rfl, otherBlank, otherStar⟩ finds
  rw [List.append_assoc] at split
  cases otherBlanks with
  | nil =>
    rw [eq_nil_of_blank blank otherStar split]
    exact Nat.zero_le _
  | cons c otherBlanks =>
    obtain rfl : b = c := (List.cons.inj split).1
    have tails : blanks ++ (stars ++ rest) = otherBlanks ++ (otherStars ++ behind) :=
      (List.cons.inj split).2
    have shorter : otherBlanks.length ≤ blanks.length := by
      refine longestBlanks _ _ tails (fun d hd => otherBlank d (by simp [hd])) fun nothing => ?_
      exact finds (Search.eq_none_of_many (fun d hd => beq_iff_eq.mpr (otherStar d hd)) nothing)
    obtain ⟨more, rfl⟩ : otherBlanks <+: blanks :=
      List.prefix_of_prefix_length_le ⟨_, tails.symm⟩ ⟨_, rfl⟩ shorter
    rw [List.append_assoc, List.append_cancel_left_eq] at tails
    cases more with
    | nil =>
      have bound := longestStars _ _ tails (fun d hd => beq_iff_eq.mpr (otherStar d hd)) finds
      simp only [List.append_nil, List.length_append, List.length_cons]
      omega
    | cons d more =>
      have ended := eq_nil_of_blank (areBlank d (by simp)) otherStar tails
      simp only [ended, List.append_nil, List.length_append, List.length_cons]
      omega

theorem typed_eq (next : Search α) :
    typed next = Search.atLeastOne isInk (Search.many (· != '\n') (gap next)) := rfl

theorem typed_ne_none {before behind : List Char} (lead : IsLead before) (nonempty : before ≠ [])
    (finds : next behind ≠ none) : typed next (before ++ behind) ≠ none := by
  obtain ⟨c, dots, b, run, rfl, ink, oneLine, blank, isGap⟩ := exists_gap_of_isLead lead nonempty
  intro nothing
  simp only [typed_eq, Search.atLeastOne, List.cons_append, List.append_assoc, Search.one_cons, ink,
    if_true] at nothing
  have atDots := Search.eq_none_of_many (List.forall_mem_nil _) nothing
  exact gap_ne_none blank isGap finds (Search.eq_none_of_many oneLine atDots)

theorem last_of_typed (h : typed next text = some found) :
    ∃ before rest, text = before ++ rest ∧ IsLead before ∧ next rest = some found ∧
      ∀ other behind, text = other ++ behind → IsLead other → next behind ≠ none →
        other.length ≤ before.length := by
  rw [typed_eq] at h
  obtain ⟨c, inks, _, rfl, areInk, h⟩ := Search.of_atLeastOne h
  obtain ⟨dots, _, rfl, oneLine, h, longestDots⟩ := Search.longest_of_many h
  obtain ⟨b, blanks, stars, rest, rfl, areBlank, areStars, h, longestGap⟩ := longest_of_gap h
  refine ⟨c :: inks ++ dots ++ (b :: blanks) ++ stars, rest, by simp,
    isLead_of_runs areInk oneLine areBlank areStars, h, ?_⟩
  intro other behind split lead finds
  by_cases nonempty : other = []
  · simp [nonempty]
  obtain ⟨d, line, first, run, rfl, -, otherLine, blank, isGap⟩ := exists_gap_of_isLead lead nonempty
  have reached := gap_ne_none blank isGap finds
  have tails : (inks ++ dots) ++ (b :: blanks ++ (stars ++ rest)) =
      line ++ (first :: run ++ behind) := by
    simpa using (List.cons.inj split).2
  have bound : line.length + (first :: run).length ≤
      (inks ++ dots).length + (b :: blanks ++ stars).length := by
    rcases List.append_eq_append_iff.mp tails with ⟨more, rfl, later⟩ | ⟨more, earlier, later⟩
    · -- The other gap begins further on in the line, where `dots` would have gone as well.
      have shorter := longestDots (dots ++ more) _ (by rw [later, List.append_assoc])
        (by
          intro e he
          rcases List.mem_append.mp he with he | he
          · exact oneLine e he
          · exact otherLine e (by simp [he]))
        reached
      rw [List.length_append] at shorter
      obtain rfl : more = [] := List.eq_nil_of_length_eq_zero (by omega)
      have inside := longestGap (first :: run) behind later isGap finds
      rw [List.append_nil]
      exact Nat.add_le_add_left inside _
    · rcases List.append_eq_append_iff.mp later with ⟨between, within, -⟩ | ⟨back, ends, beyond⟩
      · have lengths := congrArg List.length earlier
        rw [within] at lengths
        simp only [List.length_append] at lengths ⊢
        omega
      · rw [ends] at isGap
        have inside := longestGap _ _ beyond isGap.of_append finds
        rw [earlier, ends]
        simp only [List.length_append] at inside ⊢
        omega
  simp only [List.length_append, List.length_cons] at bound ⊢
  omega

theorem last_of_search {apiPrefix line : List Char} {found : List Char × List Char × Unit}
    (h : search apiPrefix line = some found) :
    ∃ before rest, line = before ++ rest ∧ IsLead before ∧ named apiPrefix rest = some found ∧
      ∀ other behind, line = other ++ behind → IsLead other → named apiPrefix behind ≠ none →
        other.length ≤ before.length := by
  rcases (Option.orElse_eq_some _ _ _).mp h with h | ⟨nothing, h⟩
  · exact last_of_typed h
  · refine ⟨[], line, rfl, isLead_nil, h, ?_⟩
    rintro other behind rfl lead finds
    by_contra longer
    have nonempty : other ≠ [] := by
      rintro rfl
      exact longer (Nat.le_refl 0)
    exact typed_ne_none lead nonempty finds nothing

theorem search_ne_none {apiPrefix before name behind : List Char}
    (h : Occurs apiPrefix before name behind) :
    search apiPrefix (before ++ (name ++ behind)) ≠ none := by
  obtain ⟨lead, isNamed, opens⟩ := h
  have finds := named_ne_none isNamed opens
  intro nothing
  obtain ⟨noTyped, noNamed⟩ := (Option.orElse_eq_none _ _).mp nothing
  by_cases nonempty : before = []
  · rw [nonempty] at noNamed
    exact finds noNamed
  · exact typed_ne_none lead nonempty finds noTyped

theorem ofTexts_append (before name behind : List Char) :
    ofTexts (before ++ (name ++ behind)) (name ++ behind) behind =
      ⟨before.length, String.ofList name⟩ := by
  simp only [ofTexts, List.length_append, mk.injEq]
  constructor
  · omega
  · rw [Nat.add_sub_cancel, List.take_left]

/-! Occurrences by their columns. -/

/-- A name may be declared from column `first` on up to column `last`. -/
def OccursAt (apiPrefix line : List Char) (first last : Nat) : Prop :=
  ∃ before name behind, line = before ++ (name ++ behind) ∧ before.length = first ∧
    first + name.length = last ∧ Occurs apiPrefix before name behind

/-- No occurrence begins later, and none that begins here ends later. -/
structure IsLastOccurrence (apiPrefix line : List Char) (first last : Nat) : Prop where
  occurs : OccursAt apiPrefix line first last
  begins_le : ∀ other stop, OccursAt apiPrefix line other stop → other ≤ first
  ends_le : ∀ stop, OccursAt apiPrefix line first stop → stop ≤ last

def textAt (line : List Char) (first last : Nat) : String :=
  String.ofList ((line.drop first).take (last - first))

variable {apiPrefix : String} {line : List Char}

theorem find?_eq_none_iff :
    find? apiPrefix line = none ↔ ¬ ∃ first last, OccursAt apiPrefix.toList line first last := by
  rw [find?_eq_search, Option.map_eq_none_iff]
  constructor
  · rintro nothing ⟨-, -, before, name, behind, rfl, -, -, occurs⟩
    exact search_ne_none occurs nothing
  · intro nowhere
    cases h : search apiPrefix.toList line with
    | none => rfl
    | some found =>
      obtain ⟨before, rest, rfl, lead, h, -⟩ := last_of_search h
      obtain ⟨name, behind, rfl, isNamed, opens, -, -⟩ := longest_of_named h
      exact absurd ⟨_, _, before, name, behind, rfl, rfl, rfl, lead, isNamed, opens⟩ nowhere

theorem last_of_find? {declaration : Declaration} (h : find? apiPrefix line = some declaration) :
    ∃ last, IsLastOccurrence apiPrefix.toList line declaration.column last ∧
      declaration.name = textAt line declaration.column last := by
  rw [find?_eq_search, Option.map_eq_some_iff] at h
  obtain ⟨found, h, rfl⟩ := h
  obtain ⟨before, text, rfl, lead, h, begins⟩ := last_of_search h
  obtain ⟨name, behind, rfl, isNamed, opens, rfl, longest⟩ := longest_of_named h
  rw [ofTexts_append]
  refine ⟨before.length + name.length, ⟨?_, ?_, ?_⟩, ?_⟩
  · exact ⟨before, name, behind, rfl, rfl, rfl, lead, isNamed, opens⟩
  · rintro - - ⟨other, word, rest, split, rfl, rfl, otherLead, otherNamed, otherOpens⟩
    exact begins other _ split otherLead (named_ne_none otherNamed otherOpens)
  · rintro - ⟨other, word, rest, split, same, rfl, -, otherNamed, otherOpens⟩
    obtain ⟨-, tails⟩ := List.append_inj split same.symm
    exact Nat.add_le_add_left (longest word rest tails otherNamed otherOpens) _
  · rw [textAt, List.drop_left, Nat.add_sub_cancel_left, List.take_left]

theorem IsLastOccurrence.unique {first last other stop : Nat} {letters : List Char}
    (h : IsLastOccurrence letters line first last) (g : IsLastOccurrence letters line other stop) :
    first = other ∧ last = stop := by
  have same : first = other :=
    Nat.le_antisymm (g.begins_le _ _ h.occurs) (h.begins_le _ _ g.occurs)
  subst same
  exact ⟨rfl, Nat.le_antisymm (g.ends_le _ h.occurs) (h.ends_le _ g.occurs)⟩

theorem find?_of_isLast {first last : Nat} (h : IsLastOccurrence apiPrefix.toList line first last) :
    find? apiPrefix line = some ⟨first, textAt line first last⟩ := by
  cases found : find? apiPrefix line with
  | none => exact absurd ⟨first, last, h.occurs⟩ (find?_eq_none_iff.mp found)
  | some declaration =>
    obtain ⟨stop, isLast, text⟩ := last_of_find? found
    obtain ⟨rfl, rfl⟩ := h.unique isLast
    rw [← text]

/-- A line declares nothing exactly when no name occurs on it, and otherwise it declares the name
that occurs last. -/
theorem declares_last_occurrence (apiPrefix : String) (line : List Char) :
    (name? apiPrefix line = none ↔ ¬ ∃ first last, OccursAt apiPrefix.toList line first last) ∧
      (∀ declaration, find? apiPrefix line = some declaration ↔
        ∃ last, IsLastOccurrence apiPrefix.toList line declaration.column last ∧
          declaration.name = textAt line declaration.column last) ∧
      ∀ name, name? apiPrefix line = some name ↔
        ∃ first last, IsLastOccurrence apiPrefix.toList line first last ∧
          name = textAt line first last := by
  refine ⟨?_, ?_, ?_⟩
  · rw [name?, Option.map_eq_none_iff, find?_eq_none_iff]
  · intro declaration
    constructor
    · exact last_of_find?
    · rintro ⟨last, isLast, text⟩
      rw [find?_of_isLast isLast, ← text]
  · intro name
    rw [name?, Option.map_eq_some_iff]
    constructor
    · rintro ⟨declaration, found, rfl⟩
      obtain ⟨last, isLast, text⟩ := last_of_find? found
      exact ⟨_, last, isLast, text⟩
    · rintro ⟨first, last, isLast, rfl⟩
      exact ⟨_, find?_of_isLast isLast, rfl⟩

example : find? "*" "int ***f (int x)".toList = some ⟨6, "*f"⟩ := by decide +kernel

/-! The declaration in terms of the texts around it. -/

theorem longest_of_find? {declaration : Declaration} (h : find? apiPrefix line = some declaration) :
    ∃ before name behind, line = before ++ (name ++ behind) ∧
      Occurs apiPrefix.toList before name behind ∧
      declaration = ⟨before.length, String.ofList name⟩ ∧
      ∀ other rest, name ++ behind = other ++ rest → IsNamed apiPrefix.toList other →
        OpensParameters rest → other.length ≤ name.length := by
  obtain ⟨last, isLast, text⟩ := last_of_find? h
  obtain ⟨before, name, behind, rfl, column, rfl, occurs⟩ := isLast.occurs
  refine ⟨before, name, behind, rfl, occurs, ?_, ?_⟩
  · obtain ⟨_, _⟩ := declaration
    simp only at column text
    subst column
    rw [text, textAt, List.drop_left, Nat.add_sub_cancel_left, List.take_left]
  · intro other rest split isNamed opens
    have bound := isLast.ends_le _ ⟨before, other, rest, by rw [split], column, rfl, occurs.1,
      isNamed, opens⟩
    omega

theorem isNamed_of_name? {name : String} (h : name? apiPrefix line = some name) :
    IsNamed apiPrefix.toList name.toList := by
  obtain ⟨declaration, found, rfl⟩ := Option.map_eq_some_iff.mp h
  obtain ⟨before, name, behind, -, occurs, rfl, -⟩ := longest_of_find? found
  rw [String.toList_ofList]
  exact occurs.2.1

end LinkerExports.Declaration
