/-
# TestDiscovery.Proofs.Report.Modes -- the listing and the JSON form

A command line without `--json`, and the same one after `--json`, come to the same
outcome and differ in print alone: the first prints the listing of the request, the
second its JSON form.  `TwoModes` is such a pair of runs, and each of its two reports
is read off the outcome.

The listing tells no more than the summary (`Request.listing_eq`), and a summary is
read back from its JSON form.  So the printed JSON value determines the listing
(`Summary.listingOfJson?`), across all runs.
-/
import TestDiscovery.Proofs.CommandLine.JsonFlag
import TestDiscovery.Proofs.Launch.Assembled
import TestDiscovery.Proofs.Report.Printed

namespace TestDiscovery

set_option autoImplicit false

open TestDiscovery.Text

/-! ## The listing of a summary -/

namespace Summary

/-- The listing of the described request. -/
def listing (s : Summary) : String :=
  let selectorLines :=
    if s.selectors.isEmpty then ["No selectors given."]
    else ("Selected " ++ toString s.selectors.length ++ " items:") ::
      s.selectors.map fun x => "  " ++ x.display
  let filterLines :=
    (s.engineIds.map fun id => "Engine filter: " ++ (EngineFilter.mk id).display) ++
      (s.discoveryFilters.map fun shown => "Discovery filter: " ++ shown) ++
      (s.postDiscoveryFilters.map fun shown => "Post-discovery filter: " ++ shown)
  let parameterLines :=
    if s.parameters.isEmpty then []
    else "Configuration parameters:" ::
      s.parameters.toList.map fun (key, value) => "  " ++ key ++ " = " ++ value
  String.join ((selectorLines ++ filterLines ++ parameterLines).map fun l => l ++ "\n")

/-- The listing of the request whose summary the JSON value is. -/
def listingOfJson? (j : Json) : Option String := (ofJson? j).map listing

end Summary

theorem Request.listing_eq (r : Request) : r.listing = r.summary.listing := by
  simp only [listing, Summary.listing, summary, selectorLines, filterLines, parameterLines,
    List.map_map, Function.comp_def]
  rfl

theorem Request.listing_ne_empty (r : Request) : r.listing ≠ "" := by
  have first : ∃ line lines, r.selectorLines = line :: lines := by
    unfold selectorLines
    split
    · exact ⟨_, _, rfl⟩
    · exact ⟨_, _, rfl⟩
  obtain ⟨line, lines, first⟩ := first
  simp [listing, first]

/-! ## Selected paths -/

/-- The selected paths are those of the command line. -/
theorem Launch.Assembled.path_mem_selectors_iff {c : Config} {a : Arguments} {r : Request}
    (h : Assembled c a r) (p : Path) : Selector.path p ∈ r.selectors ↔ p ∈ a.paths := by
  obtain ⟨methods, -, selectors⟩ := h.selectors
  simp [selectors]

/-- The request of a launch has a JSON form just if the paths of the command line are text. -/
theorem Launch.exists_json?_iff {files : FileSystem} {a : Arguments} {root : Path} {r : Request}
    (h : outcome files a root = .ok r) :
    (∃ j, r.summary.json? = some j) ↔ ∀ p ∈ a.paths, p.IsText := by
  obtain ⟨c, -, config, arguments, rfl⟩ := outcome_eq_ok_iff.1 h
  have assembled := assembled_additions config arguments
  rw [← Option.isSome_iff_exists, ← not_iff_not, Option.not_isSome_iff_eq_none,
    Summary.json?_eq_none_iff]
  simp only [not_forall, exists_prop]
  exact exists_congr fun p => and_congr_left' (assembled.path_mem_selectors_iff p)

/-! ## The two runs -/

/-- The run failed, printed nothing and complained. -/
def Report.FailsWith (report : Report) (complaint : String) : Prop :=
  report.exitCode = 1 ∧ report.output = "" ∧ report.complaint = some complaint

/-- A command line that is read and does not ask for JSON, in some surroundings. -/
structure TwoModes where
  files : FileSystem
  root : Path
  setting : Option String
  raw : List RawArgument
  arguments : Arguments
  accepted : Arguments.read raw = .ok arguments
  plain : arguments.json = false

namespace TwoModes

variable (run : TwoModes)

/-- The report on the command line. -/
def text : Report := Report.ofCommandLine run.files run.root run.setting run.raw

/-- The report on the command line after `--json`. -/
def json : Report := Report.ofCommandLine run.files run.root run.setting (jsonArgument :: run.raw)

/-- What both command lines come to. -/
def outcome : Except LaunchFault Request := Launch.outcome run.files run.arguments run.root

variable {run}

theorem text_eq : run.text = Report.ofArguments run.files run.root run.setting run.arguments :=
  Report.ofCommandLine_of_read run.accepted run.setting

theorem json_eq : run.json =
    Report.ofArguments run.files run.root run.setting { run.arguments with json := true } :=
  Report.ofCommandLine_of_read (Arguments.read_json_cons run.accepted run.plain) run.setting

theorem fail_of_error {fault : LaunchFault} (h : run.outcome = .error fault) :
    run.text.FailsWith ("Error: " ++ fault.message) ∧
      run.json.FailsWith ("Error: " ++ fault.message) := by
  -- A launch does not look at the flag.
  have flagged : Launch.outcome run.files { run.arguments with json := true } run.root =
      .error fault := h
  obtain ⟨_, inText⟩ := Report.ofArguments_of_error h run.setting
  obtain ⟨_, inJson⟩ := Report.ofArguments_of_error flagged run.setting
  rw [text_eq, json_eq, inText, inJson]
  exact ⟨⟨rfl, rfl, rfl⟩, rfl, rfl, rfl⟩

theorem text_of_ok {r : Request} (h : run.outcome = .ok r) :
    ∃ records, run.text = ⟨0, r.listing, none, records⟩ := by
  obtain ⟨records, report⟩ := Report.ofArguments_of_ok h run.setting
  refine ⟨records, ?_⟩
  rw [text_eq, report, run.plain, Report.ofRequest_listing]

theorem json_of_ok {r : Request} (h : run.outcome = .ok r) :
    ∃ records, run.json = Report.ofRequest true records r := by
  have flagged : Launch.outcome run.files { run.arguments with json := true } run.root = .ok r := h
  rw [json_eq]
  exact Report.ofArguments_of_ok flagged run.setting

theorem json_succeeds {r : Request} {j : Json} (h : run.outcome = .ok r)
    (form : r.summary.json? = some j) :
    run.json.exitCode = 0 ∧ run.json.output = j.pretty ++ "\n" := by
  obtain ⟨records, report⟩ := json_of_ok h
  rw [report, Report.ofRequest_of_json?_eq_some form]
  exact ⟨rfl, rfl⟩

theorem json_fails {r : Request} (h : run.outcome = .ok r) (form : r.summary.json? = none) :
    run.json.FailsWith ("Failed to serialize request: " ++ pathNotText) := by
  obtain ⟨records, report⟩ := json_of_ok h
  rw [report, Report.ofRequest_of_json?_eq_none form]
  exact ⟨rfl, rfl, rfl⟩

/-- When the run with `--json` succeeds, both print the same request. -/
theorem prints_of_json_success (success : run.json.exitCode = 0) :
    ∃ r j, run.outcome = .ok r ∧ r.summary.json? = some j ∧
      run.json.output = j.pretty ++ "\n" ∧ run.text.output = r.listing := by
  cases come : run.outcome with
  | error fault =>
      have failed := (fail_of_error come).2.1
      rw [success] at failed
      cases failed
  | ok r =>
      obtain ⟨records, report⟩ := text_of_ok come
      cases form : r.summary.json? with
      | none =>
          have failed := (json_fails come form).1
          rw [success] at failed
          cases failed
      | some j => exact ⟨r, j, rfl, form, (json_succeeds come form).2, by rw [report]⟩

/-- The value that the run with `--json` prints determines the listing. -/
theorem listingOfJson?_of_isWrittenBy (success : run.json.exitCode = 0) {j : Json}
    (h : j.IsWrittenBy run.json.output) : Summary.listingOfJson? j = some run.text.output := by
  obtain ⟨r, form, -, written, printed, listed⟩ := prints_of_json_success success
  rw [printed] at h
  obtain rfl : j = form := Json.eq_of_isWrittenBy h form.isWrittenBy_pretty
  rw [Summary.listingOfJson?, Summary.ofJson?_of_json? written, listed, r.listing_eq]
  rfl

theorem output_ne_empty_iff :
    (run.text.output ≠ "" ↔ run.text.exitCode = 0) ∧
      (run.json.output ≠ "" ↔ run.json.exitCode = 0) := by
  have fails {report : Report} {complaint : String} (h : report.FailsWith complaint) :
      report.output ≠ "" ↔ report.exitCode = 0 := by
    simp [h.1, h.2.1]
  cases come : run.outcome with
  | error fault => exact ⟨fails (fail_of_error come).1, fails (fail_of_error come).2⟩
  | ok r =>
      obtain ⟨records, report⟩ := text_of_ok come
      refine ⟨by simp [report, r.listing_ne_empty], ?_⟩
      cases form : r.summary.json? with
      | none => exact fails (json_fails come form)
      | some j => simp [json_succeeds come form]

end TwoModes

/-- **The two modes agree.**  Both fail with the fault of the launch.  Without one the listing is
printed, and the JSON form just if every path of the command line is text.  The printed JSON value
determines the listing, in every pair of runs. -/
theorem two_modes_agree (run : TwoModes) :
    (∀ fault, run.outcome = .error fault →
      run.text.FailsWith ("Error: " ++ fault.message) ∧
        run.json.FailsWith ("Error: " ++ fault.message)) ∧
    (∀ r, run.outcome = .ok r → run.text.exitCode = 0 ∧
      (run.json.exitCode = 0 ↔ ∀ p ∈ run.arguments.paths, p.IsText) ∧
      (¬ (∀ p ∈ run.arguments.paths, p.IsText) →
        run.json.FailsWith ("Failed to serialize request: " ++ pathNotText))) ∧
    (run.text.output ≠ "" ↔ run.text.exitCode = 0) ∧
    (run.json.output ≠ "" ↔ run.json.exitCode = 0) ∧
    (run.json.exitCode = 0 → ∃ j, (∀ k : Json, k.IsWrittenBy run.json.output ↔ k = j) ∧
      Summary.listingOfJson? j = some run.text.output) ∧
    ∀ other : TwoModes, run.json.exitCode = 0 → other.json.exitCode = 0 →
      ∀ j : Json, j.IsWrittenBy run.json.output → j.IsWrittenBy other.json.output →
        run.text.output = other.text.output := by
  refine ⟨fun _ => TwoModes.fail_of_error, ?_, TwoModes.output_ne_empty_iff.1,
    TwoModes.output_ne_empty_iff.2, ?_, ?_⟩
  · intro r come
    obtain ⟨records, report⟩ := TwoModes.text_of_ok come
    refine ⟨by rw [report], ?_⟩
    have paths : (∃ j, r.summary.json? = some j) ↔ _ := Launch.exists_json?_iff come
    rw [← paths]
    cases form : r.summary.json? with
    | none =>
        have failed := TwoModes.json_fails come form
        simp [failed, failed.1]
    | some j => simp [TwoModes.json_succeeds come form]
  · intro success
    obtain ⟨r, j, -, -, printed, -⟩ := TwoModes.prints_of_json_success success
    have written : j.IsWrittenBy run.json.output := by
      rw [printed]
      exact j.isWrittenBy_pretty
    exact ⟨j, Json.isWrittenBy_iff_of_isWrittenBy written,
      TwoModes.listingOfJson?_of_isWrittenBy success written⟩
  · intro other success otherSuccess j here there
    have listed := TwoModes.listingOfJson?_of_isWrittenBy success here
    rw [TwoModes.listingOfJson?_of_isWrittenBy otherSuccess there] at listed
    exact (Option.some.inj listed).symm

/-- A path that is no text can be listed, but has no JSON form. -/
theorem two_modes_agree_bytes_of_path :
    ∃ run : TwoModes, run.raw = [Utf8.encode "--select-path", [0x2F, 0xFF]] ∧
      run.text.exitCode = 0 ∧ run.text.output = "Selected 1 items:\n  path:/\uFFFD\n" ∧
      run.json.FailsWith "Failed to serialize request: path contains invalid UTF-8 characters" := by
  let raw := [Utf8.encode "--select-path", [0x2F, 0xFF]]
  let report := Report.ofCommandLine (fun _ => .missing) ⟨[]⟩ none
  have plain : (Arguments.read raw).toOption.any (fun a => !a.json) = true := by decide +kernel
  have listed : (report raw).exitCode = 0 ∧
      (report raw).output = "Selected 1 items:\n  path:/\uFFFD\n" := by decide +kernel
  have refused : (report (jsonArgument :: raw)).exitCode ≠ 0 := by decide +kernel
  cases read : Arguments.read raw with
  | error refusal =>
      rw [read] at plain
      cases plain
  | ok a =>
      have unset : a.json = false := by simpa [read, Except.toOption] using plain
      let run : TwoModes := ⟨fun _ => .missing, ⟨[]⟩, none, raw, a, read, unset⟩
      obtain ⟨faults, requests, -⟩ := two_modes_agree run
      cases come : run.outcome with
      | error fault =>
          have failed : (report raw).exitCode = 1 := (faults fault come).1.1
          rw [listed.1] at failed
          cases failed
      | ok r =>
          obtain ⟨-, texts, fails⟩ := requests r come
          exact ⟨run, rfl, listed.1, listed.2, fails fun all => refused (texts.2 all)⟩

end TestDiscovery
