import LinkerExports.Proofs.Text.Decoding

/-! Lines may end in a carriage return and a newline or in a newline alone, and the last one may
lack both. `plainEndings` gives every line the newline alone. Decoded and folded, the finished
lines are the same with either, unless one has two carriage returns in front of its newline. -/
namespace LinkerExports.Text

/-- Drops each carriage return that stands directly in front of a newline. -/
def dropReturns : List UInt8 → List UInt8
  | [] => []
  | b :: rest =>
    if b = 0x0D ∧ rest.head? = some 0x0A then dropReturns rest else b :: dropReturns rest

def close (bytes : List UInt8) : List UInt8 :=
  if bytes ≠ [] ∧ bytes.getLast? ≠ some 0x0A then bytes ++ [0x0A] else bytes

def plainEndings (bytes : List UInt8) : List UInt8 := close (dropReturns bytes)

theorem dropReturns_cons (b : UInt8) (rest : List UInt8) :
    dropReturns (b :: rest) =
      if b = 0x0D ∧ rest.head? = some 0x0A then dropReturns rest else b :: dropReturns rest := rfl

theorem dropReturns_append {a b : List UInt8}
    (seam : a.getLast? = some 0x0D → b.head? ≠ some 0x0A) :
    dropReturns (a ++ b) = dropReturns a ++ dropReturns b := by
  induction a with
  | nil => rfl
  | cons x a ih =>
    cases a with
    | nil =>
      have kept : ¬ (x = 0x0D ∧ b.head? = some 0x0A) := by
        rintro ⟨rfl, first⟩
        exact seam rfl first
      rw [List.singleton_append, dropReturns_cons, if_neg kept]
      simp [dropReturns]
    | cons y a =>
      have rest := ih (by simpa using seam)
      rw [List.cons_append, dropReturns_cons, rest, dropReturns_cons x (y :: a)]
      by_cases dropped : x = 0x0D ∧ y = 0x0A <;> simp [dropped]

theorem dropReturns_of_inline {body : List UInt8} (inline : 0x0A ∉ body) :
    dropReturns body = body := by
  induction body with
  | nil => rfl
  | cons b body ih =>
    rw [List.mem_cons, not_or] at inline
    have kept : ¬ (b = 0x0D ∧ body.head? = some 0x0A) :=
      fun h => inline.2 (List.mem_of_head? h.2)
    rw [dropReturns_cons, if_neg kept, ih inline.2]

theorem close_append_newline (front rest : List UInt8) :
    close (front ++ 0x0A :: rest) = front ++ 0x0A :: close rest := by
  cases rest with
  | nil => simp [close]
  | cons b rest =>
    have last : (front ++ 0x0A :: b :: rest).getLast? = (b :: rest).getLast? := by
      rw [List.getLast?_append_of_ne_nil _ (by simp), List.getLast?_cons_cons]
    simp only [close, last]
    split <;> simp_all

theorem plainEndings_of_inline {row : List UInt8} (nonempty : row ≠ []) (inline : 0x0A ∉ row) :
    plainEndings row = row ++ [0x0A] := by
  have unfinished : row.getLast? ≠ some 0x0A := fun last => inline (List.mem_of_getLast? last)
  rw [plainEndings, dropReturns_of_inline inline, close, if_pos ⟨nonempty, unfinished⟩]

theorem exists_plainEndings_row {body : List UInt8} (inline : 0x0A ∉ body) :
    ∃ kept, (body = kept ∨ body = kept ++ [0x0D]) ∧
      ∀ rest, plainEndings (body ++ 0x0A :: rest) = kept ++ 0x0A :: plainEndings rest := by
  have finished : ∀ {kept : List UInt8}, dropReturns (body ++ [0x0A]) = kept ++ [0x0A] →
      ∀ rest, plainEndings (body ++ 0x0A :: rest) = kept ++ 0x0A :: plainEndings rest := by
    intro kept row rest
    have seam : (body ++ [0x0A]).getLast? = some 0x0D → rest.head? ≠ some 0x0A := by simp
    have apart := dropReturns_append seam
    rw [row, List.append_assoc, List.append_assoc, List.singleton_append, List.singleton_append]
      at apart
    rw [plainEndings, apart, close_append_newline, plainEndings]
  by_cases ends : body.getLast? = some 0x0D
  · obtain ⟨kept, rfl⟩ := List.getLast?_eq_some_iff.mp ends
    refine ⟨kept, Or.inr rfl, finished ?_⟩
    have apart : dropReturns (kept ++ [0x0D, 0x0A]) = dropReturns kept ++ [0x0A] :=
      dropReturns_append fun _ => by decide
    rw [List.append_assoc, List.singleton_append, apart,
      dropReturns_of_inline fun member => inline (List.mem_append_left _ member)]
  · refine ⟨body, Or.inl rfl, finished ?_⟩
    rw [dropReturns_append fun last => absurd last ends, dropReturns_of_inline inline]
    rfl

theorem IsLines.plainEndings {bytes : List UInt8} {rows : List (List UInt8)}
    (h : IsLines (· == (0x0A : UInt8)) bytes rows) :
    IsLines (· == (0x0A : UInt8)) (Text.plainEndings bytes) (rows.map Text.plainEndings) := by
  induction h with
  | nil => exact IsLines.nil
  | @unfinished row nonempty free =>
    rw [List.map_singleton, plainEndings_of_inline nonempty (free_iff.mp free)]
    exact IsLines.finished free rfl IsLines.nil
  | @finished body rest b rows free ends lines ih =>
    obtain rfl : b = 0x0A := by simpa using ends
    obtain ⟨kept, ending, finished⟩ := exists_plainEndings_row (free_iff.mp free)
    have keptFree : ∀ c ∈ kept, (c == (0x0A : UInt8)) = false := by
      rcases ending with rfl | rfl
      · exact free
      · exact fun c member => free c (List.mem_append_left _ member)
    have row : Text.plainEndings (body ++ [0x0A]) = kept ++ [0x0A] := finished []
    rw [finished, List.map_cons, row]
    exact IsLines.finished keptFree rfl ih

theorem Decodes.getLast?_of_single {bytes : List UInt8} {text : List Char} (h : Decodes bytes text)
    {c : Char} {b : UInt8} (single : String.utf8EncodeChar c = [b])
    (last : text.getLast? = some c) : bytes.getLast? = some b := by
  induction h with
  | nil => simp at last
  | @char d rest text tail ih =>
    cases text with
    | nil =>
      obtain rfl : d = c := by simpa using last
      cases tail
      rw [List.append_nil, single]
      rfl
    | cons e text => rw [List.getLast?_append, ih (by simpa using last), Option.some_or]
  | @illFormed part rest text front tail ih =>
    cases text with
    | nil =>
      obtain rfl : replacement = c := by simpa using last
      have three : (String.utf8EncodeChar replacement).length = 3 := by decide
      rw [single] at three
      simp at three
    | cons e text => rw [List.getLast?_append, ih (by simpa using last), Option.some_or]

/-- With at most one carriage return in front of its newline, a finished line is folded to the same
line with either ending. -/
theorem foldEnding_decode_plainEndings {row : List UInt8}
    (finished : IsRow (· == (0x0A : UInt8)) row) (single : ¬ [0x0D, 0x0D, 0x0A] <:+: row) :
    foldEnding (decode (plainEndings row)) = foldEnding (decode row) := by
  obtain ⟨body, b, rfl, ends, free⟩ := finished
  obtain rfl : b = 0x0A := by simpa using ends
  obtain ⟨kept, ending, plain⟩ := exists_plainEndings_row (free_iff.mp free)
  have whole : plainEndings (body ++ [0x0A]) = kept ++ [0x0A] := plain []
  rcases ending with rfl | rfl
  · rw [whole]
  · have newline : decode (kept ++ [0x0A]) = decode kept ++ ['\n'] := decode_append_newline kept []
    have both : decode (kept ++ [0x0D] ++ [0x0A]) = decode kept ++ ['\r', '\n'] := by
      rw [List.append_assoc]
      exact decode_append_of_lt (by decide) kept [0x0A]
    rw [whole, newline, both, foldEnding_append_crlf]
    apply foldEnding_of_not_suffix
    -- A second carriage return in the text would be a second one in the bytes.
    rintro ⟨front, split⟩
    have last : (decode kept).getLast? = some '\r' := by
      have again : front ++ ['\r'] ++ ['\n'] = decode kept ++ ['\n'] := by simpa using split
      rw [← List.append_cancel_right again, List.getLast?_concat]
    have code : String.utf8EncodeChar '\r' = [0x0D] := by decide
    obtain ⟨more, rfl⟩ := List.getLast?_eq_some_iff.mp
      ((decodes_decode kept).getLast?_of_single code last)
    exact single ⟨more, [], by simp⟩

theorem decode_plainEndings_of_inline {row : List UInt8} (nonempty : row ≠ [])
    (inline : 0x0A ∉ row) :
    decode (plainEndings row) = decode row ++ ['\n'] := by
  rw [plainEndings_of_inline nonempty inline]
  exact decode_append_newline row []

end LinkerExports.Text
