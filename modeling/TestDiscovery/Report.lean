/-
# TestDiscovery.Report -- what the program prints

The program prints the listing of the request, or its summary as JSON.  Without a
request it prints the fault and exits with 1; a command line that cannot be read is
refused with 2.  Records go to the error stream when they are urgent enough.
-/
import TestDiscovery.CommandLine.Reader
import TestDiscovery.Launch
import TestDiscovery.Request.Summary

namespace TestDiscovery

set_option autoImplicit false

/-- What a run of the program leaves. -/
structure Report where
  exitCode : Nat
  output : String
  /-- The complaint on the error stream. -/
  complaint : Option String
  /-- The records on the error stream. -/
  records : List LogRecord

/-- The version of the program. -/
def versionText : String := "rlaunch 0.0.1\n"

/-- The line for an option in the help text. -/
def CommandOption.usage (o : CommandOption) : String :=
  "  --" ++ o.name ++ (match o with
    | .value .config => " [<KEY=VALUE>...]"
    | .value _ => " <VALUE>"
    | _ => "") ++ "\n"

/-- The help text. -/
def helpText : String :=
  "Usage: rlaunch [OPTIONS]\n\nOptions:\n" ++
    String.join (CommandOption.all.map CommandOption.usage)

/-- The least urgent level that is shown, for the value of the setting: warnings without one,
errors for an empty one, and none at all when it is switched off.  Levels are given by name or by
number. -/
def threshold? (setting : Option String) : Option LogLevel :=
  match setting.map fun s => String.ofList (s.toList.map Char.toLower) with
  | none => some .warn
  | some "" | some "error" | some "1" => some .error
  | some "info" | some "3" => some .info
  | some "debug" | some "4" => some .debug
  | some "trace" | some "5" => some .trace
  | some "off" | some "0" => none
  | some _ => some .warn

/-- The records that are shown. -/
def shown (setting : Option String) (records : List LogRecord) : List LogRecord :=
  match threshold? setting with
  | some level => records.filter (·.isShownAt level)
  | none => []

namespace Report

/-- The report on a refused command line. -/
def ofRefusal (r : Refusal) : Report :=
  match r with
  | .displayVersion => ⟨0, versionText, none, []⟩
  | .displayHelp => ⟨0, helpText, none, []⟩
  | _ => ⟨r.exitCode, "", some "error: the command line cannot be read", []⟩

/-- The report on a request. -/
def ofRequest (json : Bool) (records : List LogRecord) (r : Request) : Report :=
  if !json then ⟨0, r.listing, none, records⟩
  else match r.summary.json? with
    | some j => ⟨0, j.pretty ++ "\n", none, records⟩
    | none => ⟨1, "", some ("Failed to serialize request: " ++ pathNotText), records⟩

/-- The report on the arguments of a command line. -/
def ofArguments (files : FileSystem) (root : Path) (setting : Option String) (a : Arguments) :
    Report :=
  match (Launch.request files a root).run Builder.empty with
  | (.ok r, b) => ofRequest a.json (shown setting b.journal) r
  | (.error fault, b) => ⟨1, "", some ("Error: " ++ fault.message), shown setting b.journal⟩

/-- The report on a command line. -/
def ofCommandLine (files : FileSystem) (root : Path) (setting : Option String)
    (raw : List RawArgument) : Report :=
  match Arguments.read raw with
  | .ok a => ofArguments files root setting a
  | .error refusal => ofRefusal refusal

end Report

end TestDiscovery
