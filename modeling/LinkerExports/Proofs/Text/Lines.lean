import LinkerExports.Text.Lines
import Mathlib.Data.List.Forall2

/-! `IsLines` and `FoldsTo` say what the lines of a text and their folded endings are. Both hold
of what `splitLines` and `foldEnding` compute and of nothing else. -/
namespace LinkerExports.Text

variable {α : Type} {isEnd : α → Bool}

/-- The rows are the lines of a text. A finished line runs up to the first terminator; what has no
terminator is the last line, unless it is empty. -/
inductive IsLines (isEnd : α → Bool) : List α → List (List α) → Prop
  | nil : IsLines isEnd [] []
  | unfinished {row : List α} (nonempty : row ≠ []) (free : ∀ a ∈ row, isEnd a = false) :
      IsLines isEnd row [row]
  | finished {body rest : List α} {a : α} {rows : List (List α)}
      (free : ∀ b ∈ body, isEnd b = false) (ends : isEnd a = true)
      (lines : IsLines isEnd rest rows) :
      IsLines isEnd (body ++ a :: rest) ((body ++ [a]) :: rows)

/-- The text is empty or ends with a terminator. -/
def IsClosed (isEnd : α → Bool) (text : List α) : Prop := ∀ a ∈ text.getLast?, isEnd a = true

instance (isEnd : α → Bool) (text : List α) : Decidable (IsClosed isEnd text) :=
  match h : text.getLast? with
  | none => .isTrue (by simp [IsClosed, h])
  | some a => decidable_of_iff (isEnd a = true) (by simp [IsClosed, h])

theorem free_iff [BEq α] [LawfulBEq α] {mark : α} {row : List α} :
    (∀ a ∈ row, (a == mark) = false) ↔ mark ∉ row := by
  constructor
  · intro free member
    have different := free mark member
    rw [beq_self_eq_true] at different
    exact absurd different (by simp)
  · intro absent a member
    rw [beq_eq_false_iff_ne]
    rintro rfl
    exact absent member

theorem IsLines.cons {text : List α} {rows : List (List α)} (h : IsLines isEnd text rows) (a : α) :
    IsLines isEnd (a :: text) (consLine isEnd a rows) := by
  cases ha : isEnd a with
  | true =>
    simp only [consLine, ha, if_true]
    have empty : ∀ b ∈ ([] : List α), isEnd b = false := by simp
    exact IsLines.finished empty ha h
  | false =>
    cases h with
    | nil =>
      simp only [consLine, ha, Bool.false_eq_true, if_false]
      exact IsLines.unfinished (by simp) (by simpa using ha)
    | unfinished nonempty free =>
      simp only [consLine, ha, Bool.false_eq_true, if_false]
      refine IsLines.unfinished (by simp) ?_
      intro b hb
      rcases List.mem_cons.mp hb with rfl | hb
      · exact ha
      · exact free b hb
    | @finished body rest b rows free ends lines =>
      simp only [consLine, ha, Bool.false_eq_true, if_false]
      have longer : ∀ c ∈ a :: body, isEnd c = false := by
        intro c hc
        rcases List.mem_cons.mp hc with rfl | hc
        · exact ha
        · exact free c hc
      exact IsLines.finished longer ends lines

theorem isLines_splitLines (isEnd : α → Bool) (text : List α) :
    IsLines isEnd text (splitLines isEnd text) := by
  induction text with
  | nil => exact IsLines.nil
  | cons a text ih => exact ih.cons a

theorem splitLines_of_free {row : List α} (nonempty : row ≠ [])
    (free : ∀ a ∈ row, isEnd a = false) : splitLines isEnd row = [row] := by
  induction row with
  | nil => exact absurd rfl nonempty
  | cons a row ih =>
    have ha : isEnd a = false := free a (by simp)
    rw [splitLines_cons]
    by_cases hr : row = []
    · simp [hr, consLine, ha]
    · rw [ih hr fun b hb => free b (by simp [hb])]
      simp [consLine, ha]

theorem splitLines_append_end {body : List α} {a : α} (free : ∀ b ∈ body, isEnd b = false)
    (ends : isEnd a = true) (rest : List α) :
    splitLines isEnd (body ++ a :: rest) = (body ++ [a]) :: splitLines isEnd rest := by
  induction body with
  | nil => simp [splitLines_cons, consLine, ends]
  | cons b body ih =>
    have hb : isEnd b = false := free b (by simp)
    rw [List.cons_append, splitLines_cons, ih fun c hc => free c (by simp [hc])]
    simp [consLine, hb]

/-- A text has its lines in one way only. -/
theorem isLines_iff {text : List α} {rows : List (List α)} :
    IsLines isEnd text rows ↔ rows = splitLines isEnd text := by
  constructor
  · intro h
    induction h with
    | nil => rfl
    | unfinished nonempty free => exact (splitLines_of_free nonempty free).symm
    | finished free ends lines ih => rw [splitLines_append_end free ends, ih]
  · rintro rfl
    exact isLines_splitLines isEnd text

theorem IsLines.append {text more : List α} {rows moreRows : List (List α)}
    (first : IsLines isEnd text rows) (closed : IsClosed isEnd text)
    (second : IsLines isEnd more moreRows) : IsLines isEnd (text ++ more) (rows ++ moreRows) := by
  induction first with
  | nil => exact second
  | @unfinished row nonempty free =>
    have last : row.getLast nonempty ∈ row.getLast? := List.getLast?_eq_some_getLast nonempty
    have ends := closed _ last
    rw [free _ (List.getLast_mem nonempty)] at ends
    exact absurd ends (by simp)
  | @finished body rest a rows free ends lines ih =>
    have restClosed : IsClosed isEnd rest := by
      intro b hb
      refine closed b ?_
      rw [List.getLast?_append, List.getLast?_cons, Option.mem_def.mp hb]
      rfl
    rw [List.append_assoc, List.cons_append, List.cons_append]
    exact IsLines.finished free ends (ih restClosed)

theorem splitLines_append {text : List α} (closed : IsClosed isEnd text) (more : List α) :
    splitLines isEnd (text ++ more) = splitLines isEnd text ++ splitLines isEnd more :=
  (isLines_iff.mp ((isLines_splitLines isEnd text).append closed
    (isLines_splitLines isEnd more))).symm

theorem splitLines_flatten {texts : List (List α)} (closed : ∀ text ∈ texts, IsClosed isEnd text) :
    splitLines isEnd texts.flatten = texts.flatMap (splitLines isEnd) := by
  induction texts with
  | nil => rfl
  | cons text texts ih =>
    have rest := ih fun other member => closed other (by simp [member])
    rw [List.flatten_cons, splitLines_append (closed text (by simp)), rest, List.flatMap_cons]

theorem exists_splitLines_append_of_free {row : List α} (nonempty : row ≠ [])
    (free : ∀ a ∈ row, isEnd a = false) (more : List α) :
    ∃ tail rows, splitLines isEnd (row ++ more) = (row ++ tail) :: rows := by
  induction row with
  | nil => exact absurd rfl nonempty
  | cons a row ih =>
    have ha : isEnd a = false := free a (by simp)
    rw [List.cons_append, splitLines_cons]
    by_cases hr : row = []
    · subst hr
      cases more with
      | nil => exact ⟨[], [], by simp [consLine, ha]⟩
      | cons b more =>
        cases cut : splitLines isEnd (b :: more) with
        | nil => exact ⟨[], [], by simp [consLine, ha, cut]⟩
        | cons tail rows => exact ⟨tail, rows, by simp [consLine, ha, cut]⟩
    · obtain ⟨tail, rows, cut⟩ := ih hr fun b hb => free b (by simp [hb])
      exact ⟨tail, rows, by simp [cut, consLine, ha]⟩

theorem exists_closed_append (isEnd : α → Bool) (text : List α) :
    ∃ closed opened, text = closed ++ opened ∧ IsClosed isEnd closed ∧
      ∀ a ∈ opened, isEnd a = false := by
  induction text with
  | nil => exact ⟨[], [], rfl, by simp [IsClosed], by simp⟩
  | cons a text ih =>
    obtain ⟨closed, opened, rfl, ends, free⟩ := ih
    cases closed with
    | cons b closed =>
      refine ⟨a :: b :: closed, opened, rfl, ?_, free⟩
      simpa [IsClosed] using ends
    | nil =>
      cases ha : isEnd a with
      | true => exact ⟨[a], opened, rfl, by simpa [IsClosed] using ha, free⟩
      | false => exact ⟨[], a :: opened, rfl, by simp [IsClosed], by simpa [ha] using free⟩

/-- A finished line: it has one terminator, at its end. -/
def IsRow (isEnd : α → Bool) (row : List α) : Prop :=
  ∃ body a, row = body ++ [a] ∧ isEnd a = true ∧ ∀ b ∈ body, isEnd b = false

theorem splitLines_append_of_isRow {row : List α} (h : IsRow isEnd row) (more : List α) :
    splitLines isEnd (row ++ more) = row :: splitLines isEnd more := by
  obtain ⟨body, a, rfl, ends, free⟩ := h
  rw [List.append_assoc, List.singleton_append, splitLines_append_end free ends]

theorem isLines_flatten {rows : List (List α)} (h : ∀ row ∈ rows, IsRow isEnd row) :
    IsLines isEnd rows.flatten rows := by
  induction rows with
  | nil => exact IsLines.nil
  | cons row rows ih =>
    obtain ⟨body, a, rfl, ends, free⟩ := h row (by simp)
    have rest := ih fun other member => h other (by simp [member])
    rw [List.flatten_cons, List.append_assoc, List.singleton_append]
    exact IsLines.finished free ends rest

theorem isRow_append_newline {body : List Char} (h : '\n' ∉ body) :
    IsRow (· == '\n') (body ++ ['\n']) :=
  ⟨body, '\n', rfl, rfl, free_iff.mpr h⟩

theorem isRow_of_getLast? {row : List Char} (ends : row.getLast? = some '\n')
    (free : '\n' ∉ row.dropLast) : IsRow (· == '\n') row := by
  have split : row.dropLast ++ ['\n'] = row := List.dropLast_append_getLast? '\n' ends
  rw [← split]
  exact isRow_append_newline free

/-- A carriage return and a newline at the end of a row become the newline alone; any other row
stays as it is. -/
def FoldsTo (row line : List Char) : Prop :=
  (∃ body, row = body ++ ['\r', '\n'] ∧ line = body ++ ['\n']) ∨
    (¬ ['\r', '\n'] <:+ row ∧ line = row)

theorem foldEnding_of_not_suffix {row : List Char} (h : ¬ ['\r', '\n'] <:+ row) :
    foldEnding row = row := by
  fun_induction foldEnding row with
  | case1 => rfl
  | case2 => exact absurd (List.suffix_refl _) h
  | case3 c rest other ih =>
    rw [ih]
    intro suffix
    exact h (suffix.trans (List.suffix_cons c rest))

theorem foldEnding_of_inline {row : List Char} (inline : '\n' ∉ row) : foldEnding row = row := by
  apply foldEnding_of_not_suffix
  intro ends
  exact inline (ends.subset (by simp))

theorem foldsTo_foldEnding (row : List Char) : FoldsTo row (foldEnding row) := by
  by_cases h : ['\r', '\n'] <:+ row
  · obtain ⟨body, rfl⟩ := h
    exact Or.inl ⟨body, rfl, foldEnding_append_crlf body⟩
  · exact Or.inr ⟨h, foldEnding_of_not_suffix h⟩

theorem foldsTo_iff {row line : List Char} : FoldsTo row line ↔ line = foldEnding row := by
  constructor
  · rintro (⟨body, rfl, rfl⟩ | ⟨other, rfl⟩)
    · exact (foldEnding_append_crlf body).symm
    · exact (foldEnding_of_not_suffix other).symm
  · rintro rfl
    exact foldsTo_foldEnding row

/-- Folding leaves everything in front of a character that is no newline. A carriage return that the
newline follows is all that it changes. -/
theorem exists_foldEnding_append_cons {c : Char} (inline : c ≠ '\n') (front rest : List Char) :
    ∃ d tail, foldEnding (front ++ c :: rest) = front ++ d :: tail ∧ (d = c ∨ d = '\n') := by
  rcases foldsTo_foldEnding (front ++ c :: rest) with ⟨body, split, fold⟩ | ⟨-, fold⟩
  · rw [fold]
    rcases List.append_eq_append_iff.mp split with ⟨more, rfl, ends⟩ | ⟨more, rfl, ends⟩
    · cases more with
      | nil => exact ⟨'\n', [], by simp, Or.inr rfl⟩
      | cons d more =>
        obtain ⟨rfl, -⟩ := List.cons.inj ends
        exact ⟨c, more ++ ['\n'], by simp, Or.inl rfl⟩
    · cases more with
      | nil => exact ⟨'\n', [], by simp, Or.inr rfl⟩
      | cons d more =>
        -- The character would be the newline itself or stand behind it.
        obtain ⟨rfl, last⟩ := List.cons.inj ends
        cases more with
        | nil => exact absurd (List.cons.inj last).1.symm inline
        | cons e more => simp at last
  · exact ⟨c, rest, fold, Or.inl rfl⟩

theorem forall₂_foldsTo_iff {rows lines : List (List Char)} :
    List.Forall₂ FoldsTo rows lines ↔ lines = rows.map foldEnding := by
  constructor
  · intro h
    induction h with
    | nil => rfl
    | cons folds _ ih => rw [foldsTo_iff.mp folds, ih, List.map_cons]
  · rintro rfl
    rw [List.forall₂_map_right_iff, List.forall₂_same]
    exact fun row _ => foldsTo_foldEnding row

theorem foldsTo_map_foldEnding (rows : List (List Char)) :
    List.Forall₂ FoldsTo rows (rows.map foldEnding) :=
  forall₂_foldsTo_iff.mpr rfl

end LinkerExports.Text
