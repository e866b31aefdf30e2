import BoardDiagram.CommandLine.Run

/-! The command line program: it reads what a run asks for and writes what the run leaves behind. -/

namespace BoardDiagram.CommandLine

/-- The bytes that are left on a stream. -/
partial def readAll (stream : IO.FS.Stream) (before : ByteArray) : IO ByteArray := do
  let bytes ← stream.read 65536
  if bytes.isEmpty then return before else readAll stream (before ++ bytes)

/-- The bytes of a source, if it exists. -/
def Source.read : Source → IO (Option ByteArray)
  | .stdin => do return some (← readAll (← IO.getStdin) .empty)
  | .file path => do
    try return some (← IO.FS.readBinFile (String.ofList path.text))
    catch _ => return none

/-- The standard input of the program keeps its line breaks. -/
def Job.carryOut (job : Job) : IO Outcome := do
  return job.finishBytes (job.source.lineBreaks .kept) (← job.source.read)

/-- Writes what a run leaves behind, and answers with its status. -/
def Outcome.deliver (outcome : Outcome) : IO UInt32 := do
  match outcome.file with
  | some (path, text) => IO.FS.writeFile (String.ofList path.text) (String.ofList text)
  | none => pure ()
  IO.print (String.ofList outcome.stdout)
  IO.eprint (String.ofList outcome.stderr)
  return outcome.status.toUInt32

end BoardDiagram.CommandLine

open BoardDiagram.CommandLine in
def main (args : List String) : IO UInt32 := do
  match Job.ofArgs (args.map String.toList) with
  | .error outcome => outcome.deliver
  | .ok job => (← job.carryOut).deliver
