import LineShell.Host

/-!
# The program

Runs the shell on a machine of its own: the arguments and the standard input are those of this
program, and what the shell writes is written when it has ended.
-/

open LineShell

/-- Everything that a stream holds. -/
partial def readStream (stream : IO.FS.Stream) (sofar : ByteArray) : IO ByteArray := do
  let chunk ← stream.read 65536
  if chunk.isEmpty then return sofar else readStream stream (sofar ++ chunk)

/-- Runs the shell. -/
def main (arguments : List String) : IO UInt32 := do
  let stdin ← IO.getStdin
  let stdout ← IO.getStdout
  let stderr ← IO.getStderr
  let input ← readStream stdin ByteArray.empty
  let machine := Host.commandLine { input := input.data.toList } arguments
  stdout.write (ByteArray.mk machine.written.toArray)
  stderr.write (ByteArray.mk machine.complaints.toArray)
  return match machine.ending? with
    | some (.exited code) => UInt32.ofNat code
    | some (.killed signal) => UInt32.ofNat (128 + signal)
    | none => 1
