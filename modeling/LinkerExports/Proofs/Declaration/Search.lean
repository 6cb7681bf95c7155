import LinkerExports.Declaration.Basic
import Mathlib.Data.Option.Basic

/-! An occurrence says where a name may stand on a line, without an order of preference. A search
reads a text from front to back, and where it may take any number of characters it takes as many
as it can, so from where a name begins the longest one is found. -/
namespace LinkerExports

namespace Declaration

open Text

/-- The text in front of a name: nothing, or a return type that ends in a blank and then stars.
Behind the first newline of the return type there are blanks only. -/
def IsLead (before : List Char) : Prop :=
  before = [] ∨
    ∃ body stars, before = body ++ stars ∧ (∀ c ∈ stars, c = '*') ∧
      (∃ c ∈ body.head?, isBlank c = false) ∧ (∃ c ∈ body.getLast?, isBlank c = true) ∧
      ∀ c ∈ body.dropWhile (· != '\n'), isBlank c = true

/-- A name begins with the prefix, goes on behind it, and has no blank behind it. -/
def IsNamed (apiPrefix name : List Char) : Prop :=
  ∃ word, word ≠ [] ∧ name = apiPrefix ++ word ∧ ∀ c ∈ word, isBlank c = false

/-- The text behind a name: blanks, an opening parenthesis, and a character that does not close
it. -/
def OpensParameters (behind : List Char) : Prop :=
  ∃ gap c rest, behind = gap ++ '(' :: c :: rest ∧ (∀ b ∈ gap, isBlank b = true) ∧ c ≠ ')'

def Occurs (apiPrefix before name behind : List Char) : Prop :=
  IsLead before ∧ IsNamed apiPrefix name ∧ OpensParameters behind

theorem isLead_nil : IsLead [] := Or.inl rfl

theorem length_lt_of_isNamed {apiPrefix name : List Char} (h : IsNamed apiPrefix name) :
    apiPrefix.length < name.length := by
  obtain ⟨word, nonempty, rfl, -⟩ := h
  have := List.length_pos_iff.mpr nonempty
  simp only [List.length_append]
  omega

end Declaration

namespace Text.Search

variable {α : Type} {isMember : Char → Bool} {next : Search α} {text : List Char} {found : α}

theorem of_one (h : one isMember next text = some found) :
    ∃ c rest, text = c :: rest ∧ isMember c = true ∧ next rest = some found := by
  cases text with
  | nil => simp at h
  | cons c rest =>
    rw [one_cons] at h
    split at h
    · next member => exact ⟨c, rest, rfl, member, h⟩
    · simp at h

theorem eq_none_of_many {run rest : List Char} (members : ∀ c ∈ run, isMember c = true)
    (h : many isMember next (run ++ rest) = none) : next rest = none := by
  induction run with
  | nil =>
    cases rest with
    | nil => exact h
    | cons c rest =>
      rw [List.nil_append, many_cons] at h
      split at h
      · exact ((Option.orElse_eq_none _ _).mp h).2
      · exact h
  | cons c run ih =>
    rw [List.cons_append, many_cons, if_pos (members c (by simp))] at h
    exact ih (fun d member => members d (by simp [member])) ((Option.orElse_eq_none _ _).mp h).1

theorem longest_of_many (h : many isMember next text = some found) :
    ∃ run rest, text = run ++ rest ∧ (∀ c ∈ run, isMember c = true) ∧ next rest = some found ∧
      ∀ other behind, text = other ++ behind → (∀ c ∈ other, isMember c = true) →
        next behind ≠ none → other.length ≤ run.length := by
  induction text with
  | nil =>
    refine ⟨[], [], rfl, by simp, h, ?_⟩
    intro other behind split _ _
    obtain ⟨rfl, -⟩ := List.append_eq_nil_iff.mp split.symm
    exact Nat.le_refl 0
  | cons c text ih =>
    rw [many_cons] at h
    split at h
    · next member =>
      rcases (Option.orElse_eq_some _ _ _).mp h with longer | ⟨nothing, here⟩
      · obtain ⟨run, rest, rfl, members, after, longest⟩ := ih longer
        refine ⟨c :: run, rest, rfl, ?_, after, ?_⟩
        · intro d hd
          rcases List.mem_cons.mp hd with rfl | hd
          · exact member
          · exact members d hd
        · intro other behind split otherMembers some
          cases other with
          | nil => simp
          | cons d other =>
            obtain ⟨rfl, tails⟩ := List.cons.inj split
            have bound := longest other behind tails
              (fun e inside => otherMembers e (by simp [inside])) some
            simpa using bound
      · refine ⟨[], c :: text, rfl, by simp, here, ?_⟩
        intro other behind split otherMembers some
        cases other with
        | nil => exact Nat.le_refl 0
        | cons d other =>
          obtain ⟨rfl, tails⟩ := List.cons.inj split
          subst tails
          have members : ∀ e ∈ other, isMember e = true :=
            fun e inside => otherMembers e (by simp [inside])
          exact absurd (eq_none_of_many members nothing) some
    · next stranger =>
      refine ⟨[], c :: text, rfl, by simp, h, ?_⟩
      intro other behind split otherMembers _
      cases other with
      | nil => exact Nat.le_refl 0
      | cons d other =>
        obtain ⟨rfl, -⟩ := List.cons.inj split
        exact absurd (otherMembers c (by simp)) stranger

theorem of_many (h : many isMember next text = some found) :
    ∃ run rest, text = run ++ rest ∧ (∀ c ∈ run, isMember c = true) ∧ next rest = some found := by
  obtain ⟨run, rest, split, members, after, -⟩ := longest_of_many h
  exact ⟨run, rest, split, members, after⟩

theorem of_atLeastOne (h : atLeastOne isMember next text = some found) :
    ∃ c run rest, text = c :: run ++ rest ∧ (∀ d ∈ c :: run, isMember d = true) ∧
      next rest = some found := by
  obtain ⟨c, more, rfl, member, h⟩ := of_one h
  obtain ⟨run, rest, rfl, members, after⟩ := of_many h
  refine ⟨c, run, rest, rfl, ?_, after⟩
  intro d hd
  rcases List.mem_cons.mp hd with rfl | hd
  · exact member
  · exact members d hd

theorem of_literal {word : List Char} (h : literal word next text = some found) :
    ∃ rest, text = word ++ rest ∧ next rest = some found := by
  by_cases begins : word <+: text
  · obtain ⟨rest, rfl⟩ := begins
    rw [literal_append] at h
    exact ⟨rest, rfl, h⟩
  · rw [literal_eq_none begins] at h
    simp at h

theorem of_marked {found : List Char × α} (h : marked next text = some found) :
    found.1 = text ∧ next text = some found.2 := by
  obtain ⟨after, here, rfl⟩ := Option.map_eq_some_iff.mp h
  exact ⟨rfl, here⟩

end Text.Search

namespace Declaration

open Text

theorem opensParameters_of_parameters {text : List Char} (h : parameters text = some ()) :
    OpensParameters text := by
  obtain ⟨gap, rest, rfl, blanks, h⟩ := Search.of_many h
  obtain ⟨c, rest, rfl, isOpen, h⟩ := Search.of_one h
  obtain ⟨d, rest, rfl, notClose, -⟩ := Search.of_one h
  refine ⟨gap, d, rest, ?_, blanks, by simpa using notClose⟩
  rw [eq_of_beq isOpen]

theorem parameters_ne_none {text : List Char} (h : OpensParameters text) :
    parameters text ≠ none := by
  obtain ⟨gap, c, rest, rfl, blanks, notClose⟩ := h
  intro nothing
  have closed : opening ('(' :: c :: rest) = none := Search.eq_none_of_many blanks nothing
  simp [opening, notClose] at closed

theorem longest_of_named {apiPrefix text : List Char} {found : List Char × List Char × Unit}
    (h : named apiPrefix text = some found) :
    ∃ name behind, text = name ++ behind ∧ IsNamed apiPrefix name ∧ OpensParameters behind ∧
      found = (text, behind, ()) ∧
      ∀ other rest, text = other ++ rest → IsNamed apiPrefix other → OpensParameters rest →
        other.length ≤ name.length := by
  obtain ⟨start, tail, ⟨⟩⟩ := found
  obtain ⟨rfl, h⟩ := Search.of_marked h
  obtain ⟨afterPrefix, split, h⟩ := Search.of_literal h
  obtain ⟨c, more, rfl, ink, h⟩ := Search.of_one h
  obtain ⟨run, behind, rfl, inks, h, longest⟩ := Search.longest_of_many h
  obtain ⟨behindEq, h⟩ := Search.of_marked h
  simp only at behindEq split h
  subst behindEq
  refine ⟨apiPrefix ++ c :: run, tail, by simp [split], ⟨c :: run, by simp, rfl, ?_⟩,
    opensParameters_of_parameters h, rfl, ?_⟩
  · intro d hd
    rcases List.mem_cons.mp hd with rfl | hd
    · simpa [isInk] using ink
    · simpa [isInk] using inks d hd
  · rintro other rest again ⟨word, nonempty, rfl, wordInks⟩ opens
    rw [split, List.append_assoc, List.append_cancel_left_eq] at again
    cases word with
    | nil => exact absurd rfl nonempty
    | cons d word =>
      obtain ⟨rfl, tails⟩ := List.cons.inj again
      have otherInks : ∀ e ∈ word, isInk e = true := by
        intro e inside
        simp [isInk, wordInks e (by simp [inside])]
      have found : (parameters.marked rest) ≠ none := by
        simp [Search.marked, parameters_ne_none opens]
      have bound := longest word rest tails otherInks found
      simp only [List.length_append, List.length_cons]
      omega

theorem named_ne_none {apiPrefix name behind : List Char} (isNamed : IsNamed apiPrefix name)
    (opens : OpensParameters behind) : named apiPrefix (name ++ behind) ≠ none := by
  obtain ⟨word, nonempty, rfl, inks⟩ := isNamed
  obtain ⟨c, word, rfl⟩ := List.exists_cons_of_ne_nil nonempty
  intro nothing
  have ink : ∀ d ∈ c :: word, isInk d = true := by
    intro d hd
    simp [isInk, inks d hd]
  simp only [named, Search.marked, Option.map_eq_none_iff, List.append_assoc,
    Search.literal_append, Search.atLeastOne, List.cons_append, Search.one_cons, ink c (by simp),
    if_true] at nothing
  have atBehind := Search.eq_none_of_many (fun d hd => ink d (by simp [hd])) nothing
  exact parameters_ne_none opens (Option.map_eq_none_iff.mp atBehind)

theorem isBlank_eq_false_of_isNamed {apiPrefix name : List Char} (h : IsNamed apiPrefix name)
    (inks : ∀ c ∈ apiPrefix, isBlank c = false) : ∀ c ∈ name, isBlank c = false := by
  obtain ⟨word, -, rfl, wordInks⟩ := h
  intro c hc
  rcases List.mem_append.mp hc with hc | hc
  · exact inks c hc
  · exact wordInks c hc

end Declaration

end LinkerExports
