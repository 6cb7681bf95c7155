/-! `utf8` gives the bytes of a string. `decode` reads any bytes and never fails: each maximal
part of an ill-formed sequence becomes one replacement character. Decoding runs byte by byte over
a state that says which byte may come next. -/
namespace LinkerExports.Text

def utf8 (s : String) : List UInt8 := s.toUTF8.data.toList

/-- Stands for a part of the input that is no character. -/
def replacement : Char := '\uFFFD'

/-- A sequence that is not complete: how many bytes it still needs, the range of the next one, and
the bits read so far. No byte below the range of continuation bytes can go on. -/
structure Pending where
  need : Nat
  low : UInt8
  high : UInt8
  bits : Nat
  tail_le_low : 0x80 ≤ low
  deriving DecidableEq

def Pending.tail (need bits : Nat) : Pending := ⟨need, 0x80, 0xBF, bits, by decide⟩

/-- What a byte opens when it is the first of a sequence of several bytes. The range of the second
byte leaves out overlong forms, surrogates and values past the last code point. -/
def Pending.ofLead? (b : UInt8) : Option Pending :=
  if 0xC2 ≤ b ∧ b ≤ 0xDF then some (.tail 1 (b.toNat - 0xC0))
  else if b = 0xE0 then some ⟨2, 0xA0, 0xBF, 0, by decide⟩
  else if b = 0xED then some ⟨2, 0x80, 0x9F, 0xD, by decide⟩
  else if 0xE1 ≤ b ∧ b ≤ 0xEF then some (.tail 2 (b.toNat - 0xE0))
  else if b = 0xF0 then some ⟨3, 0x90, 0xBF, 0, by decide⟩
  else if 0xF1 ≤ b ∧ b ≤ 0xF3 then some (.tail 3 (b.toNat - 0xF0))
  else if b = 0xF4 then some ⟨3, 0x80, 0x8F, 4, by decide⟩
  else none

def startChar (b : UInt8) : List Char × Option Pending :=
  if b < 0x80 then ([Char.ofNat b.toNat], none)
  else match Pending.ofLead? b with
    | some pending => ([], some pending)
    | none => ([replacement], none)

/-- Reads a byte inside a sequence. A byte outside the range ends the sequence as ill-formed and
is read again as the first of what follows. -/
def Pending.next (pending : Pending) (b : UInt8) : List Char × Option Pending :=
  if pending.low ≤ b ∧ b ≤ pending.high then
    let bits := pending.bits * 64 + (b.toNat - 0x80)
    if pending.need = 1 then ([Char.ofNat bits], none)
    else ([], some (.tail (pending.need - 1) bits))
  else
    let start := startChar b
    (replacement :: start.1, start.2)

def decodeStep (state : Option Pending) (b : UInt8) : List Char × Option Pending :=
  match state with
  | none => startChar b
  | some pending => pending.next b

/-- Decodes from a state on. A sequence that the end cuts off is one ill-formed part. -/
def decodeFrom (state : Option Pending) : List UInt8 → List Char
  | [] => if state.isSome then [replacement] else []
  | b :: rest => (decodeStep state b).1 ++ decodeFrom (decodeStep state b).2 rest

def decode (bytes : List UInt8) : List Char := decodeFrom none bytes

def decodeState (state : Option Pending) (bytes : List UInt8) : Option Pending :=
  bytes.foldl (fun state b => (decodeStep state b).2) state

/-- The characters completed by some bytes, without the end of the input. -/
def decodeOpen (state : Option Pending) : List UInt8 → List Char
  | [] => []
  | b :: rest => (decodeStep state b).1 ++ decodeOpen (decodeStep state b).2 rest

theorem utf8_append (a b : String) : utf8 (a ++ b) = utf8 a ++ utf8 b := by
  simp [utf8, String.toUTF8]

theorem utf8_inj {a b : String} : utf8 a = utf8 b ↔ a = b := by
  rw [utf8, utf8, Array.toList_inj, ← ByteArray.ext_iff]
  exact String.toByteArray_inj

theorem decodeFrom_append (state : Option Pending) (a b : List UInt8) :
    decodeFrom state (a ++ b) = decodeOpen state a ++ decodeFrom (decodeState state a) b := by
  induction a generalizing state with
  | nil => rfl
  | cons x a ih => simp [decodeFrom, decodeOpen, decodeState, ih]

/-- A byte of the ASCII range is never part of a sequence: it closes an open one as ill-formed. -/
theorem decodeStep_of_lt {b : UInt8} (ascii : b < 0x80) (state : Option Pending) :
    decodeStep state b = (if state.isSome then [replacement, Char.ofNat b.toNat]
      else [Char.ofNat b.toNat], none) := by
  cases state with
  | none => simp [decodeStep, startChar, ascii]
  | some pending =>
    have low : ¬ pending.low ≤ b := fun h =>
      UInt8.not_le.mpr ascii (UInt8.le_trans pending.tail_le_low h)
    simp [decodeStep, Pending.next, startChar, low, ascii]

end LinkerExports.Text
