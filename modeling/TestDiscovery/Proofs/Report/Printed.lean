/-
# TestDiscovery.Proofs.Report.Printed -- what a run prints

A run on arguments that are read reports on the outcome of the launch, log records
apart: on the fault (`ofArguments_of_error`), or on the request (`ofArguments_of_ok`).
The request is printed as its listing or as the JSON form of its summary.

A summary has a JSON form just if its paths are text, and is read back from it.  The
text of the form writes that value and no other, whatever the names in it contain
(`Json.isWrittenBy_pretty`), so nothing of a summary is lost in print.
-/
import TestDiscovery.Proofs.Json.ReadBack
import TestDiscovery.Proofs.Launch.Faults
import TestDiscovery.Proofs.Request.JsonForm
import TestDiscovery.Report

namespace TestDiscovery

set_option autoImplicit false

open TestDiscovery.Text

/-- The text is one JSON document, which writes this value. -/
theorem Json.isWrittenBy_iff_of_isWrittenBy {j : Json} {s : String} (h : j.IsWrittenBy s)
    (k : Json) : k.IsWrittenBy s ↔ k = j := by
  constructor
  · intro other
    exact eq_of_isWrittenBy other h
  · rintro rfl
    exact h

namespace Report

variable {files : FileSystem} {root : Path} {a : Arguments}

theorem ofCommandLine_of_read {raw : List RawArgument} (h : Arguments.read raw = .ok a)
    (setting : Option String) :
    ofCommandLine files root setting raw = ofArguments files root setting a := by
  rw [ofCommandLine, h]

/-! ## Faults and requests -/

theorem ofArguments_of_error {fault : LaunchFault}
    (h : Launch.outcome files a root = .error fault) (setting : Option String) :
    ∃ records, ofArguments files root setting a =
      ⟨1, "", some ("Error: " ++ fault.message), records⟩ := by
  unfold Launch.outcome at h
  unfold ofArguments
  split
  · rename_i run
    rw [run] at h
    cases h
  · rename_i run
    rw [run] at h
    cases h
    exact ⟨_, rfl⟩

theorem ofArguments_of_ok {r : Request} (h : Launch.outcome files a root = .ok r)
    (setting : Option String) :
    ∃ records, ofArguments files root setting a = ofRequest a.json records r := by
  unfold Launch.outcome at h
  unfold ofArguments
  split
  · rename_i run
    rw [run] at h
    cases h
    exact ⟨_, rfl⟩
  · rename_i run
    rw [run] at h
    cases h

/-! ## Requests in print -/

theorem ofRequest_listing (records : List LogRecord) (r : Request) :
    ofRequest false records r = ⟨0, r.listing, none, records⟩ := rfl

theorem ofRequest_of_json?_eq_some {r : Request} {j : Json} (h : r.summary.json? = some j)
    (records : List LogRecord) :
    ofRequest true records r = ⟨0, j.pretty ++ "\n", none, records⟩ := by
  simp [ofRequest, h]

theorem ofRequest_of_json?_eq_none {r : Request} (h : r.summary.json? = none)
    (records : List LogRecord) :
    ofRequest true records r =
      ⟨1, "", some ("Failed to serialize request: " ++ pathNotText), records⟩ := by
  simp [ofRequest, h]

/-- A run that succeeds with `--json` prints the JSON form of the summary. -/
theorem prints_json_form {setting : Option String} (json : a.json = true)
    (success : (ofArguments files root setting a).exitCode = 0) :
    ∃ r j, Launch.outcome files a root = .ok r ∧ r.summary.json? = some j ∧
      (ofArguments files root setting a).output = j.pretty ++ "\n" := by
  cases come : Launch.outcome files a root with
  | error fault =>
      obtain ⟨records, report⟩ := ofArguments_of_error come setting
      rw [report] at success
      cases success
  | ok r =>
      obtain ⟨records, report⟩ := ofArguments_of_ok come setting
      rw [json] at report
      cases form : r.summary.json? with
      | none =>
          rw [report, ofRequest_of_json?_eq_none form] at success
          cases success
      | some j => exact ⟨r, j, rfl, form, by rw [report, ofRequest_of_json?_eq_some form]⟩

end Report

/-- **The JSON form loses nothing.**  A summary has one unless a selected path is no text, and is
then read back from it.  What is printed with `--json` on success is one document, which writes
the JSON form of the summary. -/
theorem json_form_loses_nothing :
    (∀ s : Summary, s.json? = none ↔ ∃ p, Selector.path p ∈ s.selectors ∧ ¬ p.IsText) ∧
    (∀ (s : Summary) (j : Json), s.json? = some j → Summary.ofJson? j = some s) ∧
    (∀ (s t : Summary) (j : Json), s.json? = some j → t.json? = some j → s = t) ∧
    ∀ (files : FileSystem) (root : Path) (setting : Option String) (raw : List RawArgument)
      (a : Arguments), Arguments.read raw = .ok a → a.json = true →
      (Report.ofCommandLine files root setting raw).exitCode = 0 →
      ∃ r j, Launch.outcome files a root = .ok r ∧ r.summary.json? = some j ∧
        ∀ k : Json, k.IsWrittenBy (Report.ofCommandLine files root setting raw).output ↔ k = j := by
  refine ⟨fun s => s.json?_eq_none_iff, fun s j => Summary.ofJson?_of_json?, ?_, ?_⟩
  · intro s t j hs ht
    have back := Summary.ofJson?_of_json? hs
    rw [Summary.ofJson?_of_json? ht] at back
    exact (Option.some.inj back).symm
  · intro files root setting raw a read json success
    rw [Report.ofCommandLine_of_read read setting] at success ⊢
    obtain ⟨r, j, come, form, printed⟩ := Report.prints_json_form json success
    refine ⟨r, j, come, form, ?_⟩
    rw [printed]
    exact Json.isWrittenBy_iff_of_isWrittenBy j.isWrittenBy_pretty

/-- Names with a quotation mark, a backslash, a control character and a letter beyond ASCII. -/
theorem json_form_loses_nothing_special_names :
    let raw := ["--json", "--select-class", "\"\\\t\u0001é", "--select-path", "./a//b"].map Utf8.encode
    let files : FileSystem := fun _ => .missing
    ∃ a r j, Arguments.read raw = .ok a ∧ Launch.outcome files a ⟨[]⟩ = .ok r ∧
      Summary.ofJson? j = some r.summary ∧
      ∀ k : Json, k.IsWrittenBy (Report.ofCommandLine files ⟨[]⟩ none raw).output ↔ k = j := by
  intro raw files
  have asks : (Arguments.read raw).toOption.any (·.json) = true := by decide +kernel
  have success : (Report.ofCommandLine files ⟨[]⟩ none raw).exitCode = 0 := by decide +kernel
  cases read : Arguments.read raw with
  | error refusal =>
      rw [read] at asks
      cases asks
  | ok a =>
      rw [read] at asks
      obtain ⟨-, back, -, prints⟩ := json_form_loses_nothing
      obtain ⟨r, j, come, form, written⟩ := prints files ⟨[]⟩ none raw a read asks success
      exact ⟨a, r, j, rfl, come, back r.summary j form, written⟩

end TestDiscovery
