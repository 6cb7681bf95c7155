import LinkerExports.Config
import LinkerExports.Text.Lines

/-! A source delivers its bytes in chunks and then ends, or fails; its lines do not depend on where
one chunk stops. A sink takes bytes until its room is used up. A write that goes over is taken in
part and fails. An empty write needs no room and cannot fail. -/
namespace LinkerExports

structure Source where
  chunks : List (List UInt8) := []
  /-- The text of the error that stands in the place of the end. -/
  failure : Option String := none
  deriving DecidableEq, Repr

namespace Source

open Text

def bytes (source : Source) : List UInt8 := source.chunks.flatten

/-- The finished lines of the chunks and what is left behind the last of them. -/
def cut (source : Source) : List (List UInt8) × List UInt8 :=
  source.chunks.foldr (fun chunk => joinCuts (cutLines (· == 0x0A) chunk)) ([], [])

/-- The lines that are delivered before the end or the failure. -/
def lines (source : Source) : List (List UInt8) :=
  match source.failure with
  | none => source.cut.1 ++ lastLine source.cut.2
  | some _ => source.cut.1

theorem cut_eq_cutLines (source : Source) :
    source.cut = cutLines (· == 0x0A) source.bytes := by
  rcases source with ⟨chunks, failure⟩
  induction chunks with
  | nil => rfl
  | cons chunk rest ih =>
    simp only [cut, bytes, List.foldr_cons, List.flatten_cons, cutLines_append] at ih ⊢
    rw [ih]

theorem lines_eq_byteLines (chunks : List (List UInt8)) :
    (⟨chunks, none⟩ : Source).lines = byteLines chunks.flatten := by
  simp only [lines, cut_eq_cutLines, bytes]
  exact (splitLines_eq_cutLines _ _).symm

end Source

structure Sink where
  accepted : Array UInt8 := #[]
  /-- How many bytes more are taken; without a number, any number. -/
  room : Option Nat := none
  /-- The text of the error of a write without room. -/
  writeFault : String := ""
  /-- The text of the error of flushing, if it fails. -/
  flushFault : Option String := none
  deriving DecidableEq, Repr

namespace Sink

def write (sink : Sink) (bytes : List UInt8) : Except Error Unit × Sink :=
  match sink.room with
  | none => (.ok (), { sink with accepted := sink.accepted ++ bytes })
  | some room =>
    let taken :=
      { sink with
        accepted := sink.accepted ++ bytes.take room
        room := some (room - bytes.length) }
    if bytes.length ≤ room then (.ok (), taken) else (.error (.stream sink.writeFault), taken)

def writeAll (sink : Sink) : List (List UInt8) → Except Error Unit × Sink
  | [] => (.ok (), sink)
  | piece :: rest =>
    match sink.write piece with
    | (.ok (), written) => written.writeAll rest
    | (.error error, written) => (.error error, written)

def flush (sink : Sink) : Except Error Unit :=
  match sink.flushFault with
  | none => .ok ()
  | some text => .error (.stream text)

def taken (sink : Sink) (bytes : List UInt8) : List UInt8 :=
  match sink.room with
  | none => bytes
  | some room => bytes.take room

@[simp] theorem write_nil (sink : Sink) : sink.write [] = (.ok (), sink) := by
  rcases sink with ⟨accepted, _ | room, fault, flushFault⟩ <;> simp [write]

theorem accepted_write (sink : Sink) (bytes : List UInt8) :
    (sink.write bytes).2.accepted.toList = sink.accepted.toList ++ sink.taken bytes := by
  rcases sink with ⟨accepted, _ | room, fault, flushFault⟩
  · simp [write, taken]
  · by_cases h : bytes.length ≤ room <;> simp [write, taken, h]

end Sink

end LinkerExports
