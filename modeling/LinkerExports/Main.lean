import LinkerExports.CommandLine.Run

/-! Reads the arguments, the environment and standard input, and does what `run` decides. -/
namespace LinkerExports.Program

def filterVariable : String := "LDS_GEN_LOG"

partial def readSource (stream : IO.FS.Stream) (chunks : List (List UInt8)) : IO Source := do
  let outcome ← (stream.read 65536).toBaseIO
  match outcome with
  | .error error => return ⟨chunks.reverse, some (toString error)⟩
  | .ok chunk =>
    if chunk.isEmpty then return ⟨chunks.reverse, none⟩
    else readSource stream (chunk.data.toList :: chunks)

end LinkerExports.Program

open LinkerExports in
def main (arguments : List String) : IO UInt32 := do
  let filterText ← IO.getEnv Program.filterVariable
  let input ←
    if (Request.ofArguments arguments).readsInput then Program.readSource (← IO.getStdin) []
    else pure {}
  let outcome := run arguments filterText input
  let stdout ← IO.getStdout
  let stderr ← IO.getStderr
  stderr.putStr outcome.stderr
  stdout.write (ByteArray.mk outcome.stdout.toArray)
  stdout.flush
  return outcome.code.toUInt32
