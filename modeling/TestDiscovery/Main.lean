/-
# TestDiscovery.Main -- the program

Reads the command line, the setting of the log and the one configuration file that
can matter, and prints the report.
-/
import TestDiscovery.Report

set_option autoImplicit false

namespace TestDiscovery.FileState

/-- What stands where a file cannot be read, by the first line of the fault. -/
def ofFault (fault : IO.Error) : FileState :=
  let line := String.ofList (fault.toString.toList.takeWhile (· != '\n'))
  if line.endsWith ", is a directory)" then .directory
  else if line.endsWith ", not a directory)" then .throughFile
  else if line.startsWith "no such file or directory" then .missing
  else .refused true line

/-- What stands at a path of the real file system. -/
def ofPath (path : Path) : IO FileState := do
  match path.text? with
  | none => return .missing
  | some name =>
    try
      return .contents (← IO.FS.readBinFile name).data.toList
    catch fault => return ofFault fault

end TestDiscovery.FileState

open TestDiscovery

/-- The program. -/
def main (arguments : List String) : IO UInt32 := do
  let raw := arguments.map Text.Utf8.encode
  let root := Path.ofText (← IO.currentDir).toString
  let setting ← IO.getEnv "RUST_LOG"
  let path := match Arguments.read raw with
    | .ok a => Launch.configPath a root
    | .error _ => root
  let state ← FileState.ofPath path
  let report := Report.ofCommandLine (fun _ => state) root setting raw
  for r in report.records do
    IO.eprintln r.sourcedLine
  if let some complaint := report.complaint then
    IO.eprintln complaint
  IO.print report.output
  return report.exitCode.toUInt32
