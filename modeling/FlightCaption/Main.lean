import FlightCaption.CommandLine.Request
import FlightCaption.CommandLine.Run
import FlightCaption.Document.Json.Reader
import FlightCaption.Document.Yaml.Reader

/-!
# The program

The command line on real files, with the parser of arguments and the readers of documents that the
library has.
-/

namespace FlightCaption

/-- Reads a file from the disk. -/
def readDisk (path : String) : IO FileContent := do
  try
    return .ok (← IO.FS.readBinFile path)
  catch fault =>
    return .error <| .refused <| match fault with
      | .noFileOrDirectory .. => "No such file or directory (os error 2)"
      | .inappropriateType .. => "Is a directory (os error 21)"
      | other => toString other

/-- The readers of the program. -/
def programReaders : Readers where
  yaml := Document.Yaml.reader
  json := Document.Json.reader

end FlightCaption

/-- Runs the command line and reports how it ends. -/
def main (arguments : List String) : IO UInt32 := do
  let outcome ← FlightCaption.CommandLine.run FlightCaption.CommandLine.parser
    FlightCaption.programReaders FlightCaption.readDisk arguments
  (← IO.getStdout).putStr outcome.output
  if let some complaint := outcome.complaint? then
    IO.eprintln complaint
  return outcome.code.toUInt32
