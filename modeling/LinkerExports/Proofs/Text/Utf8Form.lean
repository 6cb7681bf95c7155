import LinkerExports.Text.Utf8
import Mathlib.Tactic.Common

/-! A state of the decoder stands for the ways in which the bytes read so far can be completed to
the encoding of a character. This covers every first byte: the overlong forms, the surrogates and
the values past the last code point are exactly what no state completes. -/
namespace LinkerExports.Text

def IsTail (b : UInt8) : Prop := 0x80 ≤ b.toNat ∧ b.toNat ≤ 0xBF

def joinBits (bits : Nat) (b : UInt8) : Nat := bits * 64 + (b.toNat - 0x80)

theorem joinBits_eq (bits : Nat) (b : UInt8) :
    joinBits bits b = bits * 64 + (b.toNat - 0x80) := rfl

theorem toNat_ofNat_of_isValidChar {n : Nat} (h : n.isValidChar) : (Char.ofNat n).toNat = n := by
  rw [Char.ofNat, dif_pos h]
  rfl

theorem eq_ofNat_iff {c : Char} {n : Nat} (h : n.isValidChar) : c = Char.ofNat n ↔ c.toNat = n := by
  constructor
  · rintro rfl
    exact toNat_ofNat_of_isValidChar h
  · rintro rfl
    exact (Char.ofNat_toNat c).symm

theorem ofNat_eq_iff {n : Nat} {b : UInt8} (h : n < 256) : UInt8.ofNat n = b ↔ n = b.toNat := by
  rw [← UInt8.toNat_inj, UInt8.toNat_ofNat', Nat.mod_eq_of_lt h]

/-! The bytes of a character by its code point. -/

theorem utf8EncodeChar_one {c : Char} (h : c.toNat ≤ 0x7F) :
    String.utf8EncodeChar c = [UInt8.ofNat c.toNat] := by
  have scalar : c.val.toNat = c.toNat := rfl
  simp only [String.utf8EncodeChar, scalar, if_pos h]

theorem utf8EncodeChar_two {c : Char} (low : 0x80 ≤ c.toNat) (high : c.toNat ≤ 0x7FF) :
    String.utf8EncodeChar c =
      [UInt8.ofNat (c.toNat / 64 + 0xC0), UInt8.ofNat (c.toNat % 64 + 0x80)] := by
  have scalar : c.val.toNat = c.toNat := rfl
  have small : c.toNat / 64 % 32 = c.toNat / 64 := by omega
  simp only [String.utf8EncodeChar, scalar, if_neg (show ¬ c.toNat ≤ 0x7F by omega), if_pos high,
    small]

theorem utf8EncodeChar_three {c : Char} (low : 0x800 ≤ c.toNat) (high : c.toNat ≤ 0xFFFF) :
    String.utf8EncodeChar c = [UInt8.ofNat (c.toNat / 4096 + 0xE0),
      UInt8.ofNat (c.toNat / 64 % 64 + 0x80), UInt8.ofNat (c.toNat % 64 + 0x80)] := by
  have scalar : c.val.toNat = c.toNat := rfl
  have small : c.toNat / 4096 % 16 = c.toNat / 4096 := by omega
  simp only [String.utf8EncodeChar, scalar, if_neg (show ¬ c.toNat ≤ 0x7F by omega),
    if_neg (show ¬ c.toNat ≤ 0x7FF by omega), if_pos high, small]

theorem toNat_lt (c : Char) : c.toNat < 0x110000 := by
  have valid : c.toNat.isValidChar := c.valid
  simp only [Nat.isValidChar] at valid
  omega

theorem utf8EncodeChar_four {c : Char} (low : 0x10000 ≤ c.toNat) :
    String.utf8EncodeChar c = [UInt8.ofNat (c.toNat / 262144 + 0xF0),
      UInt8.ofNat (c.toNat / 4096 % 64 + 0x80), UInt8.ofNat (c.toNat / 64 % 64 + 0x80),
      UInt8.ofNat (c.toNat % 64 + 0x80)] := by
  have scalar : c.val.toNat = c.toNat := rfl
  have bound := toNat_lt c
  have small : c.toNat / 262144 % 8 = c.toNat / 262144 := by omega
  simp only [String.utf8EncodeChar, scalar, if_neg (show ¬ c.toNat ≤ 0x7F by omega),
    if_neg (show ¬ c.toNat ≤ 0x7FF by omega), if_neg (show ¬ c.toNat ≤ 0xFFFF by omega), small]

theorem lead_cases {c : Char} {b : UInt8} {rest : List UInt8}
    (h : String.utf8EncodeChar c = b :: rest) :
    (c.toNat ≤ 0x7F ∧ b.toNat = c.toNat ∧ rest = []) ∨
    (0x80 ≤ c.toNat ∧ c.toNat ≤ 0x7FF ∧ b.toNat = c.toNat / 64 + 0xC0 ∧
      rest = [UInt8.ofNat (c.toNat % 64 + 0x80)]) ∨
    (0x800 ≤ c.toNat ∧ c.toNat ≤ 0xFFFF ∧ b.toNat = c.toNat / 4096 + 0xE0 ∧
      rest = [UInt8.ofNat (c.toNat / 64 % 64 + 0x80), UInt8.ofNat (c.toNat % 64 + 0x80)]) ∨
    (0x10000 ≤ c.toNat ∧ b.toNat = c.toNat / 262144 + 0xF0 ∧
      rest = [UInt8.ofNat (c.toNat / 4096 % 64 + 0x80), UInt8.ofNat (c.toNat / 64 % 64 + 0x80),
        UInt8.ofNat (c.toNat % 64 + 0x80)]) := by
  have bound := toNat_lt c
  by_cases one : c.toNat ≤ 0x7F
  · rw [utf8EncodeChar_one one, List.cons.injEq, ofNat_eq_iff (by omega)] at h
    exact Or.inl ⟨one, h.1.symm, h.2.symm⟩
  by_cases two : c.toNat ≤ 0x7FF
  · rw [utf8EncodeChar_two (by omega) two, List.cons.injEq, ofNat_eq_iff (by omega)] at h
    exact Or.inr (Or.inl ⟨by omega, two, h.1.symm, h.2.symm⟩)
  by_cases three : c.toNat ≤ 0xFFFF
  · rw [utf8EncodeChar_three (by omega) three, List.cons.injEq, ofNat_eq_iff (by omega)] at h
    exact Or.inr (Or.inr (Or.inl ⟨by omega, three, h.1.symm, h.2.symm⟩))
  · rw [utf8EncodeChar_four (by omega), List.cons.injEq, ofNat_eq_iff (by omega)] at h
    exact Or.inr (Or.inr (Or.inr ⟨by omega, h.1.symm, h.2.symm⟩))

theorem toNat_ofNat_tail {n : Nat} (h : n < 64) : (UInt8.ofNat (n + 0x80)).toNat = n + 0x80 := by
  rw [UInt8.toNat_ofNat']
  omega

theorem isTail_ofNat {n : Nat} (h : n < 64) : IsTail (UInt8.ofNat (n + 0x80)) := by
  rw [IsTail, toNat_ofNat_tail h]
  omega

theorem joinBits_ofNat {bits n : Nat} (h : n < 64) :
    joinBits bits (UInt8.ofNat (n + 0x80)) = bits * 64 + n := by
  rw [joinBits_eq, toNat_ofNat_tail h, Nat.add_sub_cancel]

/-! What has to stand behind each first byte. -/

theorem utf8EncodeChar_eq_cons_one {c : Char} {b : UInt8} {rest : List UInt8}
    (lead : b.toNat < 0x80) :
    String.utf8EncodeChar c = b :: rest ↔ rest = [] ∧ c = Char.ofNat b.toNat := by
  have valid : b.toNat.isValidChar := Or.inl (by omega)
  rw [eq_ofNat_iff valid]
  constructor
  · intro h
    rcases lead_cases h with h | h | h | h
    · exact ⟨h.2.2, h.2.1.symm⟩
    all_goals omega
  · rintro ⟨rfl, code⟩
    rw [utf8EncodeChar_one (by omega), code, UInt8.ofNat_toNat]

theorem utf8EncodeChar_eq_cons_two {c : Char} {b : UInt8} {rest : List UInt8}
    (low : 0xC0 ≤ b.toNat) (high : b.toNat < 0xE0) :
    String.utf8EncodeChar c = b :: rest ↔ ∃ b₁, rest = [b₁] ∧ IsTail b₁ ∧
      0x80 ≤ joinBits (b.toNat - 0xC0) b₁ ∧ c = Char.ofNat (joinBits (b.toNat - 0xC0) b₁) := by
  constructor
  · intro h
    rcases lead_cases h with h | ⟨l, u, first, rfl⟩ | h | h
    · omega
    · refine ⟨_, rfl, isTail_ofNat (by omega), ?_⟩
      have value : joinBits (b.toNat - 0xC0) (UInt8.ofNat (c.toNat % 64 + 0x80)) = c.toNat := by
        rw [joinBits_ofNat (by omega)]
        omega
      rw [value]
      exact ⟨l, (Char.ofNat_toNat c).symm⟩
    · omega
    · omega
  · rintro ⟨b₁, rfl, tail, least, code⟩
    simp only [IsTail, joinBits_eq] at *
    have valid : ((b.toNat - 0xC0) * 64 + (b₁.toNat - 0x80)).isValidChar := by
      refine Or.inl ?_
      omega
    rw [eq_ofNat_iff valid] at code
    have low : 0x80 ≤ c.toNat := by omega
    have high : c.toNat ≤ 0x7FF := by omega
    have first : c.toNat / 64 + 0xC0 = b.toNat := by omega
    have second : c.toNat % 64 + 0x80 = b₁.toNat := by omega
    rw [utf8EncodeChar_two low high, first, second, UInt8.ofNat_toNat, UInt8.ofNat_toNat]

theorem utf8EncodeChar_eq_cons_three {c : Char} {b : UInt8} {rest : List UInt8}
    (low : 0xE0 ≤ b.toNat) (high : b.toNat < 0xF0) :
    String.utf8EncodeChar c = b :: rest ↔ ∃ b₁ b₂, rest = [b₁, b₂] ∧ IsTail b₁ ∧ IsTail b₂ ∧
      0x800 ≤ joinBits (joinBits (b.toNat - 0xE0) b₁) b₂ ∧
      (joinBits (joinBits (b.toNat - 0xE0) b₁) b₂).isValidChar ∧
      c = Char.ofNat (joinBits (joinBits (b.toNat - 0xE0) b₁) b₂) := by
  constructor
  · intro h
    rcases lead_cases h with h | h | ⟨l, u, first, rfl⟩ | h
    · omega
    · omega
    · refine ⟨_, _, rfl, isTail_ofNat (by omega), isTail_ofNat (by omega), ?_⟩
      have value : joinBits (joinBits (b.toNat - 0xE0) (UInt8.ofNat (c.toNat / 64 % 64 + 0x80)))
          (UInt8.ofNat (c.toNat % 64 + 0x80)) = c.toNat := by
        rw [joinBits_ofNat (by omega), joinBits_ofNat (by omega)]
        omega
      rw [value]
      exact ⟨l, c.valid, (Char.ofNat_toNat c).symm⟩
    · omega
  · rintro ⟨b₁, b₂, rfl, tail₁, tail₂, least, valid, code⟩
    rw [eq_ofNat_iff valid] at code
    simp only [IsTail, joinBits_eq] at *
    have low : 0x800 ≤ c.toNat := by omega
    have high : c.toNat ≤ 0xFFFF := by omega
    have first : c.toNat / 4096 + 0xE0 = b.toNat := by omega
    have second : c.toNat / 64 % 64 + 0x80 = b₁.toNat := by omega
    have third : c.toNat % 64 + 0x80 = b₂.toNat := by omega
    rw [utf8EncodeChar_three low high, first, second, third, UInt8.ofNat_toNat, UInt8.ofNat_toNat,
      UInt8.ofNat_toNat]

theorem utf8EncodeChar_eq_cons_four {c : Char} {b : UInt8} {rest : List UInt8}
    (low : 0xF0 ≤ b.toNat) :
    String.utf8EncodeChar c = b :: rest ↔ ∃ b₁ b₂ b₃, rest = [b₁, b₂, b₃] ∧
      IsTail b₁ ∧ IsTail b₂ ∧ IsTail b₃ ∧
      0x10000 ≤ joinBits (joinBits (joinBits (b.toNat - 0xF0) b₁) b₂) b₃ ∧
      joinBits (joinBits (joinBits (b.toNat - 0xF0) b₁) b₂) b₃ < 0x110000 ∧
      c = Char.ofNat (joinBits (joinBits (joinBits (b.toNat - 0xF0) b₁) b₂) b₃) := by
  have bound := toNat_lt c
  constructor
  · intro h
    rcases lead_cases h with h | h | h | ⟨l, first, rfl⟩
    · omega
    · omega
    · omega
    · refine ⟨_, _, _, rfl, isTail_ofNat (by omega), isTail_ofNat (by omega),
        isTail_ofNat (by omega), ?_⟩
      have value : joinBits (joinBits (joinBits (b.toNat - 0xF0)
          (UInt8.ofNat (c.toNat / 4096 % 64 + 0x80))) (UInt8.ofNat (c.toNat / 64 % 64 + 0x80)))
          (UInt8.ofNat (c.toNat % 64 + 0x80)) = c.toNat := by
        rw [joinBits_ofNat (by omega), joinBits_ofNat (by omega), joinBits_ofNat (by omega)]
        omega
      rw [value]
      exact ⟨l, bound, (Char.ofNat_toNat c).symm⟩
  · rintro ⟨b₁, b₂, b₃, rfl, tail₁, tail₂, tail₃, least, most, code⟩
    have valid : (joinBits (joinBits (joinBits (b.toNat - 0xF0) b₁) b₂) b₃).isValidChar := by
      refine Or.inr ⟨?_, most⟩
      omega
    rw [eq_ofNat_iff valid] at code
    simp only [IsTail, joinBits_eq] at *
    have low : 0x10000 ≤ c.toNat := by omega
    have first : c.toNat / 262144 + 0xF0 = b.toNat := by omega
    have second : c.toNat / 4096 % 64 + 0x80 = b₁.toNat := by omega
    have third : c.toNat / 64 % 64 + 0x80 = b₂.toNat := by omega
    have fourth : c.toNat % 64 + 0x80 = b₃.toNat := by omega
    rw [utf8EncodeChar_four low, first, second, third, fourth, UInt8.ofNat_toNat,
      UInt8.ofNat_toNat, UInt8.ofNat_toNat, UInt8.ofNat_toNat]

namespace Pending

/-- The bytes that bring a state to the end of a character. -/
def Completes : Pending → List UInt8 → Char → Prop
  | _, [], _ => False
  | pending, b :: rest, c => (pending.low ≤ b ∧ b ≤ pending.high) ∧
      if pending.need = 1 then rest = [] ∧ c = Char.ofNat (joinBits pending.bits b)
      else (Pending.tail (pending.need - 1) (joinBits pending.bits b)).Completes rest c

def IsLive (pending : Pending) : Prop := 1 ≤ pending.need ∧ pending.low ≤ pending.high

/-- The state after reading `seen`: what completes it is what completes `seen` to the encoding of a
character. -/
structure Awaits (pending : Pending) (seen : List UInt8) : Prop where
  nonempty : seen ≠ []
  live : pending.IsLive
  completes_iff : ∀ rest c,
    String.utf8EncodeChar c = seen ++ rest ↔ pending.Completes rest c

theorem isTail_iff {b : UInt8} : (0x80 : UInt8) ≤ b ∧ b ≤ 0xBF ↔ IsTail b := by
  simp only [UInt8.le_iff_toNat_le, IsTail, UInt8.reduceToNat]

theorem completes_one {pending : Pending} (need : pending.need = 1) {rest : List UInt8} {c : Char} :
    pending.Completes rest c ↔ ∃ b, rest = [b] ∧ (pending.low ≤ b ∧ b ≤ pending.high) ∧
      c = Char.ofNat (joinBits pending.bits b) := by
  cases rest with
  | nil => simp [Completes]
  | cons b rest =>
    simp only [Completes, need, if_true, List.cons.injEq]
    constructor
    · rintro ⟨range, rfl, code⟩
      exact ⟨b, ⟨rfl, rfl⟩, range, code⟩
    · rintro ⟨_, ⟨rfl, rfl⟩, range, code⟩
      exact ⟨range, rfl, code⟩

theorem completes_more {pending : Pending} (need : pending.need ≠ 1) {rest : List UInt8}
    {c : Char} : pending.Completes rest c ↔ ∃ b more, rest = b :: more ∧
      (pending.low ≤ b ∧ b ≤ pending.high) ∧
      (tail (pending.need - 1) (joinBits pending.bits b)).Completes more c := by
  cases rest with
  | nil => simp [Completes]
  | cons b rest =>
    simp only [Completes, if_neg need, List.cons.injEq]
    constructor
    · rintro ⟨range, more⟩
      exact ⟨b, rest, ⟨rfl, rfl⟩, range, more⟩
    · rintro ⟨_, _, ⟨rfl, rfl⟩, range, more⟩
      exact ⟨range, more⟩

theorem completes_tail_one {bits : Nat} {rest : List UInt8} {c : Char} :
    (tail 1 bits).Completes rest c ↔
      ∃ b, rest = [b] ∧ IsTail b ∧ c = Char.ofNat (joinBits bits b) := by
  rw [completes_one rfl]
  simp only [tail, isTail_iff]

theorem completes_tail_two {bits : Nat} {rest : List UInt8} {c : Char} :
    (tail 2 bits).Completes rest c ↔ ∃ b₁ b₂, rest = [b₁, b₂] ∧ IsTail b₁ ∧ IsTail b₂ ∧
      c = Char.ofNat (joinBits (joinBits bits b₁) b₂) := by
  rw [completes_more (by simp [tail])]
  simp only [tail, isTail_iff]
  constructor
  · rintro ⟨b₁, more, rfl, first, h⟩
    obtain ⟨b₂, rfl, second, code⟩ := completes_tail_one.mp h
    exact ⟨b₁, b₂, rfl, first, second, code⟩
  · rintro ⟨b₁, b₂, rfl, first, second, code⟩
    exact ⟨b₁, [b₂], rfl, first, completes_tail_one.mpr ⟨b₂, rfl, second, code⟩⟩

theorem IsLive.exists_completes {pending : Pending} (live : pending.IsLive) :
    ∃ rest c, pending.Completes rest c := by
  obtain ⟨need, range⟩ := live
  obtain ⟨k, hk⟩ : ∃ k, pending.need = k + 1 := ⟨pending.need - 1, by omega⟩
  induction k generalizing pending with
  | zero => exact ⟨[pending.low], _, (completes_one hk).mpr ⟨_, rfl, ⟨UInt8.le_refl _, range⟩, rfl⟩⟩
  | succ k ih =>
    have short : pending.need ≠ 1 := by omega
    obtain ⟨rest, c, h⟩ := @ih (tail (pending.need - 1) (joinBits pending.bits pending.low))
      (by simp only [tail]; omega) (by simp [tail]) (by simp only [tail]; omega)
    exact ⟨_, c, (completes_more short).mpr ⟨_, rest, rfl, ⟨UInt8.le_refl _, range⟩, h⟩⟩

end Pending

/-! The states after each first byte. -/

theorem awaits_two {b : UInt8} (low : 0xC2 ≤ b) (high : b ≤ 0xDF) :
    (Pending.tail 1 (b.toNat - 0xC0)).Awaits [b] := by
  simp only [UInt8.le_iff_toNat_le, UInt8.reduceToNat] at low high
  refine ⟨by simp, ⟨by simp [Pending.tail], by simp [Pending.tail]⟩, ?_⟩
  intro rest c
  rw [List.singleton_append, utf8EncodeChar_eq_cons_two (by omega) (by omega),
    Pending.completes_tail_one]
  constructor
  · rintro ⟨b₁, rfl, tail, least, code⟩
    exact ⟨b₁, rfl, tail, code⟩
  · rintro ⟨b₁, rfl, tail, code⟩
    refine ⟨b₁, rfl, tail, ?_, code⟩
    rw [joinBits_eq]
    omega

theorem awaits_three {b : UInt8} {pending : Pending} (first : 0xE0 ≤ b.toNat) (last : b.toNat < 0xF0)
    (need : pending.need = 2) (bits : pending.bits = b.toNat - 0xE0)
    (range : pending.low ≤ pending.high)
    (second : ∀ b₁ b₂, IsTail b₂ →
      (pending.low ≤ b₁ ∧ b₁ ≤ pending.high ↔ IsTail b₁ ∧
        0x800 ≤ joinBits (joinBits (b.toNat - 0xE0) b₁) b₂ ∧
        (joinBits (joinBits (b.toNat - 0xE0) b₁) b₂).isValidChar)) :
    pending.Awaits [b] := by
  refine ⟨by simp, ⟨by omega, range⟩, ?_⟩
  intro rest c
  rw [List.singleton_append, utf8EncodeChar_eq_cons_three first last,
    Pending.completes_more (by omega), need, bits]
  constructor
  · rintro ⟨b₁, b₂, rfl, tail₁, tail₂, least, valid, code⟩
    exact ⟨b₁, [b₂], rfl, (second b₁ b₂ tail₂).mpr ⟨tail₁, least, valid⟩,
      Pending.completes_tail_one.mpr ⟨b₂, rfl, tail₂, code⟩⟩
  · rintro ⟨b₁, more, rfl, inside, h⟩
    obtain ⟨b₂, rfl, tail₂, code⟩ := Pending.completes_tail_one.mp h
    obtain ⟨tail₁, least, valid⟩ := (second b₁ b₂ tail₂).mp inside
    exact ⟨b₁, b₂, rfl, tail₁, tail₂, least, valid, code⟩

theorem awaits_four {b : UInt8} {pending : Pending} (first : 0xF0 ≤ b.toNat)
    (need : pending.need = 3) (bits : pending.bits = b.toNat - 0xF0)
    (range : pending.low ≤ pending.high)
    (second : ∀ b₁ b₂ b₃, IsTail b₂ → IsTail b₃ →
      (pending.low ≤ b₁ ∧ b₁ ≤ pending.high ↔ IsTail b₁ ∧
        0x10000 ≤ joinBits (joinBits (joinBits (b.toNat - 0xF0) b₁) b₂) b₃ ∧
        joinBits (joinBits (joinBits (b.toNat - 0xF0) b₁) b₂) b₃ < 0x110000)) :
    pending.Awaits [b] := by
  refine ⟨by simp, ⟨by omega, range⟩, ?_⟩
  intro rest c
  rw [List.singleton_append, utf8EncodeChar_eq_cons_four first,
    Pending.completes_more (by omega), need, bits]
  constructor
  · rintro ⟨b₁, b₂, b₃, rfl, tail₁, tail₂, tail₃, least, most, code⟩
    exact ⟨b₁, [b₂, b₃], rfl, (second b₁ b₂ b₃ tail₂ tail₃).mpr ⟨tail₁, least, most⟩,
      Pending.completes_tail_two.mpr ⟨b₂, b₃, rfl, tail₂, tail₃, code⟩⟩
  · rintro ⟨b₁, more, rfl, inside, h⟩
    obtain ⟨b₂, b₃, rfl, tail₂, tail₃, code⟩ := Pending.completes_tail_two.mp h
    obtain ⟨tail₁, least, most⟩ := (second b₁ b₂ b₃ tail₂ tail₃).mp inside
    exact ⟨b₁, b₂, b₃, rfl, tail₁, tail₂, tail₃, least, most, code⟩

theorem awaits_of_ofLead? {b : UInt8} {pending : Pending} (h : Pending.ofLead? b = some pending) :
    pending.Awaits [b] := by
  have literal : ∀ n : UInt8, b = n ↔ b.toNat = n.toNat := fun n => UInt8.toNat_inj.symm
  simp only [Pending.ofLead?] at h
  split at h
  · next lead =>
    obtain rfl := Option.some.inj h
    exact awaits_two lead.1 lead.2
  simp only [literal, UInt8.le_iff_toNat_le, UInt8.reduceToNat] at h
  split at h
  · next lead =>
    obtain rfl := Option.some.inj h
    refine awaits_three (by omega) (by omega) rfl (by simp [lead]) (by decide) ?_
    intro b₁ b₂ tail₂
    simp only [UInt8.le_iff_toNat_le, UInt8.reduceToNat, IsTail, joinBits_eq, Nat.isValidChar] at *
    omega
  split at h
  · next lead =>
    obtain rfl := Option.some.inj h
    refine awaits_three (by omega) (by omega) rfl (by simp [lead]) (by decide) ?_
    intro b₁ b₂ tail₂
    simp only [UInt8.le_iff_toNat_le, UInt8.reduceToNat, IsTail, joinBits_eq, Nat.isValidChar] at *
    omega
  split at h
  · next lead =>
    obtain rfl := Option.some.inj h
    refine awaits_three (by omega) (by omega) rfl rfl (by simp [Pending.tail]) ?_
    intro b₁ b₂ tail₂
    simp only [Pending.tail, UInt8.le_iff_toNat_le, UInt8.reduceToNat, IsTail, joinBits_eq,
      Nat.isValidChar] at *
    omega
  split at h
  · next lead =>
    obtain rfl := Option.some.inj h
    refine awaits_four (by omega) rfl (by simp [lead]) (by decide) ?_
    intro b₁ b₂ b₃ tail₂ tail₃
    simp only [UInt8.le_iff_toNat_le, UInt8.reduceToNat, IsTail, joinBits_eq] at *
    omega
  split at h
  · next lead =>
    obtain rfl := Option.some.inj h
    refine awaits_four (by omega) rfl rfl (by simp [Pending.tail]) ?_
    intro b₁ b₂ b₃ tail₂ tail₃
    simp only [Pending.tail, UInt8.le_iff_toNat_le, UInt8.reduceToNat, IsTail, joinBits_eq] at *
    omega
  split at h
  · next lead =>
    obtain rfl := Option.some.inj h
    refine awaits_four (by omega) rfl (by simp [lead]) (by decide) ?_
    intro b₁ b₂ b₃ tail₂ tail₃
    simp only [UInt8.le_iff_toNat_le, UInt8.reduceToNat, IsTail, joinBits_eq] at *
    omega
  · simp at h

theorem utf8EncodeChar_ne_cons {b : UInt8} (notOne : ¬ b < 0x80) (h : Pending.ofLead? b = none)
    (rest : List UInt8) (c : Char) : String.utf8EncodeChar c ≠ b :: rest := by
  intro encoded
  have bound := toNat_lt c
  have literal : ∀ n : UInt8, b = n ↔ b.toNat = n.toNat := fun n => UInt8.toNat_inj.symm
  have inside : 0xC2 ≤ b.toNat ∧ b.toNat ≤ 0xF4 := by
    simp only [UInt8.lt_iff_toNat_lt, UInt8.reduceToNat] at notOne
    rcases lead_cases encoded with h | h | h | h
    all_goals omega
  simp only [Pending.ofLead?, literal, UInt8.le_iff_toNat_le, UInt8.reduceToNat] at h
  split_ifs at h
  omega

end LinkerExports.Text
