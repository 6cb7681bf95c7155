import LinkerExports.Proofs.Text.Lines
import LinkerExports.Proofs.Text.Utf8Form

/-! `Decodes` says what text any bytes stand for: the characters encoded there, and one
replacement for each maximal ill-formed part between them. `decode` computes this text and no
other, and it cuts into lines where the bytes do. -/
namespace LinkerExports.Text

/-- The bytes are the beginning of an encoded character, or all of it. -/
def BeginsChar (bytes : List UInt8) : Prop := ∃ c, bytes <+: String.utf8EncodeChar c

/-- No character stands at the front of `bytes`, and the part is the longest one there that begins
a character, or a single byte where none does. -/
structure IsIllFormedPart (part bytes : List UInt8) : Prop where
  front : part <+: bytes
  nonempty : part ≠ []
  noChar : ∀ c, ¬ String.utf8EncodeChar c <+: bytes
  begins : BeginsChar part ∨ part.length = 1
  longest : ∀ longer, longer <+: bytes → BeginsChar longer → longer.length ≤ part.length

/-- The text that any bytes stand for. -/
inductive Decodes : List UInt8 → List Char → Prop
  | nil : Decodes [] []
  | char (c : Char) {rest : List UInt8} {text : List Char} (tail : Decodes rest text) :
      Decodes (String.utf8EncodeChar c ++ rest) (c :: text)
  | illFormed {part rest : List UInt8} {text : List Char}
      (front : IsIllFormedPart part (part ++ rest)) (tail : Decodes rest text) :
      Decodes (part ++ rest) (replacement :: text)

/-! Nothing decodes in two ways. -/

theorem utf8EncodeChar_append_inj {c d : Char} {rest more : List UInt8}
    (h : String.utf8EncodeChar c ++ rest = String.utf8EncodeChar d ++ more) :
    c = d ∧ rest = more := by
  have bytes := congrArg (fun bytes => ByteArray.utf8DecodeChar? bytes.toByteArray 0) h
  simp only [List.toByteArray_append, ByteArray.utf8DecodeChar?_utf8EncodeChar_append,
    Option.some.injEq] at bytes
  subst bytes
  exact ⟨rfl, List.append_cancel_left h⟩

theorem IsIllFormedPart.length_le {part other bytes : List UInt8} (h : IsIllFormedPart part bytes)
    (g : IsIllFormedPart other bytes) : part.length ≤ other.length := by
  rcases h.begins with begins | single
  · exact g.longest part h.front begins
  · have := List.length_pos_iff.mpr g.nonempty
    omega

theorem IsIllFormedPart.unique {part other bytes : List UInt8} (h : IsIllFormedPart part bytes)
    (g : IsIllFormedPart other bytes) : part = other := by
  have same : part.length = other.length := Nat.le_antisymm (h.length_le g) (g.length_le h)
  obtain ⟨rest, rfl⟩ := h.front
  obtain ⟨more, split⟩ := g.front
  exact (List.append_inj split same.symm).1.symm

theorem Decodes.unique {bytes : List UInt8} {text other : List Char} (h : Decodes bytes text)
    (g : Decodes bytes other) : text = other := by
  induction h generalizing other with
  | nil =>
    generalize empty : ([] : List UInt8) = bytes at g
    cases g with
    | nil => rfl
    | char c tail =>
      exact absurd (List.append_eq_nil_iff.mp empty.symm).1 String.utf8EncodeChar_ne_nil
    | illFormed front tail =>
      exact absurd (List.append_eq_nil_iff.mp empty.symm).1 front.nonempty
  | @char c rest text tail ih =>
    generalize same : String.utf8EncodeChar c ++ rest = bytes at g
    cases g with
    | nil => exact absurd (List.append_eq_nil_iff.mp same).1 String.utf8EncodeChar_ne_nil
    | char d more =>
      obtain ⟨rfl, rfl⟩ := utf8EncodeChar_append_inj same
      rw [ih more]
    | illFormed front more => exact absurd ⟨rest, same⟩ (front.noChar c)
  | @illFormed part rest text front tail ih =>
    generalize same : part ++ rest = bytes at g front
    cases g with
    | nil => exact absurd (List.append_eq_nil_iff.mp same).1 front.nonempty
    | char d more => exact absurd ⟨_, rfl⟩ (front.noChar d)
    | illFormed other more =>
      obtain rfl := front.unique other
      obtain rfl := List.append_cancel_left same
      rw [ih more]

/-! What a state says of the bytes behind it. -/

namespace Pending

variable {pending : Pending} {seen : List UInt8}

theorem Awaits.last (h : pending.Awaits seen) {b : UInt8} (inside : pending.low ≤ b ∧ b ≤ pending.high)
    (need : pending.need = 1) :
    String.utf8EncodeChar (Char.ofNat (joinBits pending.bits b)) = seen ++ [b] :=
  (h.completes_iff [b] _).mpr ((completes_one need).mpr ⟨b, rfl, inside, rfl⟩)

theorem Awaits.next (h : pending.Awaits seen) {b : UInt8} (inside : pending.low ≤ b ∧ b ≤ pending.high)
    (need : pending.need ≠ 1) :
    (tail (pending.need - 1) (joinBits pending.bits b)).Awaits (seen ++ [b]) := by
  have more : 1 ≤ pending.need := h.live.1
  refine ⟨by simp, ⟨by simp only [tail]; omega, by simp [tail]⟩, ?_⟩
  intro rest c
  rw [List.append_assoc, List.singleton_append, h.completes_iff, completes_more need]
  constructor
  · rintro ⟨_, _, split, -, completes⟩
    obtain ⟨rfl, rfl⟩ := List.cons.inj split
    exact completes
  · intro completes
    exact ⟨b, rest, rfl, inside, completes⟩

theorem Awaits.isIllFormedPart (h : pending.Awaits seen) {rest : List UInt8}
    (outside : ∀ b ∈ rest.head?, ¬ (pending.low ≤ b ∧ b ≤ pending.high)) :
    IsIllFormedPart seen (seen ++ rest) := by
  have begins : BeginsChar seen := by
    obtain ⟨more, c, completes⟩ := h.live.exists_completes
    exact ⟨c, more, ((h.completes_iff more c).mpr completes).symm⟩
  -- whatever begins a character and is longer would go on with a byte that may follow
  have stops : ∀ longer, longer <+: seen ++ rest → BeginsChar longer →
      longer.length ≤ seen.length := by
    intro longer front beginsLonger
    by_contra beyond
    obtain ⟨more, rfl⟩ : seen <+: longer :=
      List.prefix_of_prefix_length_le (List.prefix_append seen rest) front (by omega)
    obtain ⟨c, tail, encoded⟩ := beginsLonger
    cases more with
    | nil => simp at beyond
    | cons b more =>
      have follows : b ∈ rest.head? := by
        obtain ⟨last, split⟩ := front
        rw [List.append_assoc, List.append_cancel_left_eq] at split
        simp [← split]
      rw [List.append_assoc, List.cons_append] at encoded
      have completes := (h.completes_iff _ c).mp encoded.symm
      exact outside b follows completes.1
  refine ⟨List.prefix_append seen rest, h.nonempty, ?_, Or.inl begins, stops⟩
  intro c front
  have short := stops _ front ⟨c, List.prefix_refl _⟩
  obtain ⟨tail, whole⟩ : String.utf8EncodeChar c <+: seen :=
    List.prefix_of_prefix_length_le front (List.prefix_append seen rest) short
  obtain ⟨more, d, completes⟩ := h.live.exists_completes
  have encoded := (h.completes_iff more d).mpr completes
  rw [← whole, List.append_assoc, ← List.append_nil (String.utf8EncodeChar d)] at encoded
  obtain ⟨rfl, none⟩ := utf8EncodeChar_append_inj encoded
  obtain ⟨rfl, rfl⟩ := List.append_eq_nil_iff.mp none.symm
  exact completes

end Pending

theorem isIllFormedPart_single {b : UInt8} {rest : List UInt8} (notOne : ¬ b < 0x80)
    (notLead : Pending.ofLead? b = none) : IsIllFormedPart [b] ([b] ++ rest) := by
  have never := utf8EncodeChar_ne_cons notOne notLead
  refine ⟨List.prefix_append _ _, by simp, ?_, Or.inr rfl, ?_⟩
  · rintro c ⟨tail, split⟩
    cases encoded : String.utf8EncodeChar c with
    | nil => exact String.utf8EncodeChar_ne_nil encoded
    | cons first more =>
      rw [encoded, List.cons_append, List.singleton_append] at split
      obtain ⟨rfl, -⟩ := List.cons.inj split
      exact never more c encoded
  · rintro longer ⟨tail, split⟩ ⟨c, more, encoded⟩
    cases longer with
    | nil => simp
    | cons first longer =>
      rw [List.cons_append, List.singleton_append] at split
      obtain ⟨rfl, -⟩ := List.cons.inj split
      exact absurd encoded.symm (never _ c)

/-- From between two characters, and from inside a sequence of which `seen` is read. -/
theorem decodes_decodeFrom (bytes : List UInt8) :
    Decodes bytes (decodeFrom none bytes) ∧
      ∀ (pending : Pending) (seen : List UInt8), pending.Awaits seen →
        Decodes (seen ++ bytes) (decodeFrom (some pending) bytes) := by
  induction bytes with
  | nil =>
    refine ⟨Decodes.nil, ?_⟩
    intro pending seen awaits
    exact Decodes.illFormed (awaits.isIllFormedPart (by simp)) Decodes.nil
  | cons b rest ih =>
    obtain ⟨ihStart, ihInside⟩ := ih
    have start : Decodes (b :: rest) (decodeFrom none (b :: rest)) := by
      by_cases one : b < 0x80
      · have encoded : String.utf8EncodeChar (Char.ofNat b.toNat) = [b] :=
          (utf8EncodeChar_eq_cons_one (UInt8.lt_iff_toNat_lt.mp one)).mpr ⟨rfl, rfl⟩
        have step := Decodes.char (Char.ofNat b.toNat) ihStart
        rw [encoded] at step
        simpa [decodeFrom, decodeStep, startChar, one] using step
      · cases lead : Pending.ofLead? b with
        | some pending =>
          have step := ihInside pending [b] (awaits_of_ofLead? lead)
          simpa [decodeFrom, decodeStep, startChar, one, lead] using step
        | none =>
          have step := Decodes.illFormed (isIllFormedPart_single one lead) ihStart
          simpa [decodeFrom, decodeStep, startChar, one, lead] using step
    refine ⟨start, ?_⟩
    intro pending seen awaits
    by_cases inside : pending.low ≤ b ∧ b ≤ pending.high
    · by_cases need : pending.need = 1
      · have step := Decodes.char (Char.ofNat (joinBits pending.bits b)) ihStart
        rw [awaits.last inside need, List.append_assoc, List.singleton_append] at step
        simpa [decodeFrom, decodeStep, Pending.next, inside, need, joinBits_eq] using step
      · have step := ihInside _ _ (awaits.next inside need)
        rw [List.append_assoc, List.singleton_append] at step
        simpa [decodeFrom, decodeStep, Pending.next, inside, need, joinBits_eq] using step
    · have part : IsIllFormedPart seen (seen ++ b :: rest) :=
        awaits.isIllFormedPart (by simpa using inside)
      have step := Decodes.illFormed part start
      simpa [decodeFrom, decodeStep, Pending.next, inside] using step

theorem decodes_decode (bytes : List UInt8) : Decodes bytes (decode bytes) :=
  (decodes_decodeFrom bytes).1

theorem decodes_iff {bytes : List UInt8} {text : List Char} :
    Decodes bytes text ↔ text = decode bytes := by
  constructor
  · intro h
    exact h.unique (decodes_decode bytes)
  · rintro rfl
    exact decodes_decode bytes

/-! Lines. -/

theorem newline_mem_utf8EncodeChar {c : Char} (h : c = '\n') : 0x0A ∈ String.utf8EncodeChar c := by
  subst h
  decide

theorem Decodes.newline_notMem {bytes : List UInt8} {text : List Char} (h : Decodes bytes text)
    (free : (0x0A : UInt8) ∉ bytes) : '\n' ∉ text := by
  induction h with
  | nil => simp
  | @char c rest text tail ih =>
    rw [List.mem_append, not_or] at free
    rw [List.mem_cons, not_or]
    exact ⟨fun same => free.1 (newline_mem_utf8EncodeChar same.symm), ih free.2⟩
  | illFormed front tail ih =>
    rw [List.mem_append, not_or] at free
    rw [List.mem_cons, not_or]
    exact ⟨by decide, ih free.2⟩

theorem decode_ne_nil {bytes : List UInt8} (h : bytes ≠ []) : decode bytes ≠ [] := by
  intro empty
  have decodes := decodes_decode bytes
  rw [empty] at decodes
  cases decodes
  exact h rfl

/-- A byte of the ASCII range ends whatever is open, so the bytes behind it decode by themselves. -/
theorem decode_append_of_lt {b : UInt8} (ascii : b < 0x80) (body rest : List UInt8) :
    decode (body ++ b :: rest) = decode body ++ Char.ofNat b.toNat :: decode rest := by
  have whole := decodeFrom_append none body (b :: rest)
  have alone := decodeFrom_append none body []
  rw [List.append_nil] at alone
  simp only [decode, whole, alone, decodeFrom, decodeStep_of_lt ascii]
  cases (decodeState none body).isSome <;> simp

theorem decode_append_newline (body rest : List UInt8) :
    decode (body ++ 0x0A :: rest) = decode body ++ '\n' :: decode rest :=
  decode_append_of_lt (by decide) body rest

theorem IsLines.decode {bytes : List UInt8} {rows : List (List UInt8)}
    (h : IsLines (· == (0x0A : UInt8)) bytes rows) :
    IsLines (· == '\n') (Text.decode bytes) (rows.map Text.decode) := by
  have free : ∀ body : List UInt8, (∀ b ∈ body, (b == (0x0A : UInt8)) = false) →
      ∀ c ∈ Text.decode body, (c == '\n') = false := by
    intro body noEnd
    exact free_iff.mpr ((decodes_decode body).newline_notMem (free_iff.mp noEnd))
  induction h with
  | nil => exact IsLines.nil
  | unfinished nonempty noEnd => exact IsLines.unfinished (decode_ne_nil nonempty) (free _ noEnd)
  | @finished body rest b rows noEnd ends lines ih =>
    obtain rfl : b = 0x0A := by simpa using ends
    have row : Text.decode (body ++ [0x0A]) = Text.decode body ++ ['\n'] :=
      decode_append_newline body []
    rw [decode_append_newline, List.map_cons, row]
    exact IsLines.finished (free _ noEnd) rfl ih

/-- Cutting bytes into lines and decoding each is decoding first and cutting then. -/
theorem map_decode_byteLines (bytes : List UInt8) :
    (byteLines bytes).map decode = lines (decode bytes) :=
  isLines_iff.mp (isLines_splitLines _ bytes).decode

end LinkerExports.Text
