import LinkerExports.CommandLine.Arguments

/-! Each form of an argument is spelled in one way, and nothing else is read as that form. -/
namespace LinkerExports

namespace Text

/-- The name of an option, or of what else an equals sign follows, and what comes behind it. -/
structure IsNameOf (name rest text : List Char) : Prop where
  split : text = name ++ rest
  noSign : '=' ∉ name
  sign : ∀ c ∈ rest.head?, c = '='

theorem isNameOf_iff {name rest text : List Char} :
    IsNameOf name rest text ↔
      text.takeWhile (· != '=') = name ∧ text.drop name.length = rest := by
  constructor
  · rintro ⟨rfl, noSign, sign⟩
    have front : ∀ c ∈ name, (c != '=') = true := by
      intro c member
      rw [bne_iff_ne]
      rintro rfl
      exact noSign member
    refine ⟨?_, List.drop_left⟩
    rw [List.takeWhile_append_of_pos front]
    cases rest with
    | nil => simp
    | cons c rest => simp [sign c rfl]
  · rintro ⟨rfl, rfl⟩
    induction text with
    | nil => exact ⟨rfl, by simp, by simp⟩
    | cons c text ih =>
      by_cases h : c = '='
      · subst h
        exact ⟨rfl, by simp, by simp⟩
      · obtain ⟨split, noSign, sign⟩ := ih
        have within : (c != '=') = true := bne_iff_ne.mpr h
        rw [List.takeWhile_cons, if_pos within]
        refine ⟨?_, ?_, sign⟩
        · rw [List.length_cons, List.drop_succ_cons, List.cons_append, ← split]
        · rw [List.mem_cons, not_or]
          exact ⟨fun e => h e.symm, noSign⟩

end Text

theorem ValueOption.ofName?_name (option : ValueOption) : ofName? option.name = some option := by
  cases option <;> rfl

theorem ValueOption.name_of_ofName? {name : String} {option : ValueOption}
    (h : ofName? name = some option) : option.name = name := by
  simpa using List.find?_some h

theorem Flag.ofName?_name (flag : Flag) : ofName? flag.name = some flag := by
  cases flag <;> rfl

theorem Flag.name_of_ofName? {name : String} {flag : Flag} (h : ofName? name = some flag) :
    flag.name = name := by
  simpa using List.find?_some h

theorem Flag.ofLetter?_eq_some_iff {letter : Char} {flag : Flag} :
    ofLetter? letter = some flag ↔
      letter = 'v' ∧ flag = verbose ∨ letter = 'h' ∧ flag = help ∨ letter = 'V' ∧ flag = version := by
  simp only [ofLetter?, List.lookup_cons, List.lookup_nil]
  grind

namespace Argument

def spelling : Argument → String
  | endMark => "--"
  | valued option value => "--" ++ option.name ++ "=" ++ value
  | awaiting option => "--" ++ option.name
  | switch flag => "--" ++ flag.name
  | cluster letters => "-" ++ String.ofList letters
  | unknown => ""

theorem ofText_long {long : List Char} (nonempty : long ≠ []) :
    ofText ("--" ++ String.ofList long) = ofLong long := by
  have text : ("--" ++ String.ofList long).toList = '-' :: '-' :: long := by simp
  obtain ⟨c, rest, rfl⟩ := List.exists_cons_of_ne_nil nonempty
  simp only [ofText, text]

theorem ofText_valued (option : ValueOption) (value : String) :
    ofText (valued option value).spelling = valued option value := by
  have text : (valued option value).spelling =
      "--" ++ String.ofList (option.name.toList ++ '=' :: value.toList) := by
    rw [← String.toList_inj]
    simp [spelling]
  have name : Text.IsNameOf option.name.toList ('=' :: value.toList)
      (option.name.toList ++ '=' :: value.toList) := ⟨rfl, by cases option <;> decide, by simp⟩
  obtain ⟨front, behind⟩ := Text.isNameOf_iff.mp name
  rw [text, ofText_long (by simp)]
  simp only [ofLong, front, behind, String.ofList_toList, ValueOption.ofName?_name]

theorem ofText_awaiting (option : ValueOption) :
    ofText (awaiting option).spelling = awaiting option := by
  cases option <;> rfl

theorem ofText_switch (flag : Flag) : ofText (switch flag).spelling = switch flag := by
  cases flag <;> rfl

theorem ofText_cluster {letter : Char} (other : letter ≠ '-') (more : List Char) :
    ofText (cluster (letter :: more)).spelling = cluster (letter :: more) := by
  have text : (cluster (letter :: more)).spelling.toList = '-' :: letter :: more := by
    simp [spelling]
  unfold ofText
  rw [text]
  split
  · next same => simp_all
  · next same => simp_all
  · next same => simp_all
  · next plain => exact absurd rfl (plain letter more)

theorem spelling_ofLong {long : List Char} (known : ofLong long ≠ unknown) :
    (ofLong long).spelling = "--" ++ String.ofList long := by
  have name : Text.IsNameOf (long.takeWhile (· != '='))
      (long.drop (long.takeWhile (· != '=')).length) long := Text.isNameOf_iff.mpr ⟨rfl, rfl⟩
  revert known
  simp only [ofLong]
  generalize long.takeWhile (· != '=') = front at name ⊢
  generalize long.drop front.length = behind at name ⊢
  obtain ⟨rfl, -, sign⟩ := name
  intro known
  rw [← String.toList_inj]
  cases option : ValueOption.ofName? (String.ofList front) with
  | some option =>
    have name := ValueOption.name_of_ofName? option
    cases behind with
    | nil => simp [spelling, name]
    | cons c value => simp [spelling, name, sign c rfl]
  | none =>
    simp only [option] at known
    cases flag : Flag.ofName? (String.ofList front) with
    | none => simp [flag] at known
    | some flag =>
      have name := Flag.name_of_ofName? flag
      cases behind with
      | nil => simp [spelling, name]
      | cons c value => simp [flag] at known

theorem spelling_ofText {text : String} (known : ofText text ≠ unknown) :
    (ofText text).spelling = text := by
  revert known
  unfold ofText
  split
  · next same =>
    intro _
    rw [← String.toList_inj, same]
    rfl
  · next long _ same =>
    intro known
    rw [spelling_ofLong known, ← String.toList_inj, same]
    simp
  · next letter rest _ same =>
    intro _
    rw [← String.toList_inj, same]
    simp [spelling]
  · intro known
    exact absurd rfl known

end Argument

end LinkerExports
