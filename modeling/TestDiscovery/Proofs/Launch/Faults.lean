/-
# TestDiscovery.Proofs.Launch.Faults -- which fault a launch reports

`Launch.faults` lists every fault of a launch in the order of its stages: that of
the configuration alone, or else those of the lists in force and the file's
parameters, then those of the command line.  A list that the command line replaces
is not looked at.

The stages are put together once (`answers_stages`), and what comes out is either the
first fault of the list or the request with all additions
(`outcome_of_configuration`).  Both what is reported and what a request holds are
read off from this.
-/
import TestDiscovery.Proofs.Launch.Stages

namespace TestDiscovery

set_option autoImplicit false

open TestDiscovery.Text Building

/-- The faults of a command line, after those of the configuration. -/
def Arguments.faults (a : Arguments) : List LaunchFault :=
  a.methodFaults.map .request ++
    ((patternFaults .include a.includeClassNames ++
        patternFaults .exclude a.excludeClassNames).map .request ++
      (a.parameterFaults ++ (writeFaults a.pairs).map .request))

/-- A command line without faults has none in any of its lists. -/
theorem Arguments.faults_eq_nil_iff (a : Arguments) :
    a.faults = [] ↔ a.methodFaults = [] ∧ patternFaults .include a.includeClassNames = [] ∧
      patternFaults .exclude a.excludeClassNames = [] ∧ a.parameterFaults = [] ∧
        writeFaults a.pairs = [] := by
  simp only [faults, List.append_eq_nil_iff, List.map_eq_nil_iff, and_assoc]

/-- The faults of a configuration, as faults of a launch. -/
def Config.launchFaults (c : Config) : List LaunchFault :=
  (c.faults.map ConfigFault.request).map LaunchFault.config

namespace Launch

/-- The request or the fault that a command line comes to. -/
def outcome (files : FileSystem) (a : Arguments) (root : Path) : Except LaunchFault Request :=
  ((request files a root).run Builder.empty).1

/-- All faults of a launch, in order. -/
def faults (files : FileSystem) (a : Arguments) (root : Path) : List LaunchFault :=
  match configuration files a root with
  | .error e => [.config e]
  | .ok c => (c.inForce a).launchFaults ++ a.faults

/-- What a launch without faults adds to the empty request. -/
def additions (c : Config) (a : Arguments) : Additions :=
  c.additions ++ (.ofSelectors a.selectors ++
    ((.ofFilters (Arguments.patternFilters .include a.includeClassNames) ++
        .ofFilters (Arguments.patternFilters .exclude a.excludeClassNames)) ++
      .ofWrites (accepted a.pairs)))

/-- The stages after the configuration is known. -/
def stages (c : Config) (a : Arguments) : Building LaunchFault Request := do
  Building.widen .config c.apply
  Building.widen .request (selectAll a)
  Building.widen .request (filterClassNames a)
  let parameters ← Building.ofExcept a.parameters
  Building.widen .request (Building.setParameters parameters)
  Building.note .assembled
  Building.build

theorem request_eq (files : FileSystem) (a : Arguments) (root : Path) :
    request files a root = (do
      let c ← Building.widen .config (load files a root)
      let c ← overridden c a
      stages c a) := rfl

theorem answers_stages (c : Config) (a : Arguments) (b : Builder) :
    ((stages c a).run b).1 =
      firstFault (c.launchFaults ++ a.faults) (b.contents.extended (additions c a)) := by
  have read : Adds (Building.ofExcept a.parameters) a.parameterFaults (fun _ => a.pairs)
      .nothing := by
    rw [a.parameters_eq]
    exact adds_ofExcept_firstFault _ _
  have all := (c.adds_apply.widen LaunchFault.config).seq
    (((adds_selectAll a).widen LaunchFault.request).seq
      (((adds_filterClassNames a).widen LaunchFault.request).seq
        (read.bind fun pairs => ((adds_setParameters pairs).widen LaunchFault.request).seq
          ((finds_note .assembled).adds.seq adds_build))))
  -- The last two stages find no faults and leave empty lists behind.
  have faults : c.launchFaults ++ a.faults = c.launchFaults ++ (a.methodFaults.map .request ++
      ((Arguments.patternFaults .include a.includeClassNames ++
          Arguments.patternFaults .exclude a.excludeClassNames).map .request ++
        (a.parameterFaults ++ ((writeFaults a.pairs).map .request ++ ([] ++ []))))) := by
    rw [List.append_nil, List.append_nil]
    rfl
  rw [stages, all.answers b, ← Config.launchFaults, ← faults]
  -- The stages cut their additions short at a fault; the request only counts when there is none.
  refine firstFault_congr fun free => ?_
  obtain ⟨-, free⟩ := List.append_eq_nil_iff.1 free
  obtain ⟨methods, includes, -⟩ := a.faults_eq_nil_iff.1 free
  simp only [additions, methods, includes, Additions.barring, Request.extended_append,
    Request.extended_nothing, id]

/-- **Once the configuration is loaded, the first fault is reported, or all is added.** -/
theorem outcome_of_configuration {files : FileSystem} {a : Arguments} {root : Path} {c : Config}
    (h : configuration files a root = .ok c) :
    outcome files a root = firstFault (faults files a root)
      (Request.empty.extended (additions (c.inForce a) a)) := by
  have loaded : Finds (Building.widen LaunchFault.config (load files a root)) (.ok c) := by
    have found := (finds_load files a root).widen LaunchFault.config
    rwa [h] at found
  have forced : Finds (overridden c a : Building LaunchFault Config) (.ok (c.inForce a)) :=
    finds_overridden c a
  rw [outcome, request_eq, run_bind_of_ok (loaded.answers _), run_bind_of_ok (forced.answers _),
    answers_stages, forced.leaves, loaded.leaves, faults, h]
  rfl

theorem outcome_of_configuration_error {files : FileSystem} {a : Arguments} {root : Path}
    {e : ConfigFault} (h : configuration files a root = .error e) :
    outcome files a root = .error (.config e) := by
  have refused : Finds (Building.widen LaunchFault.config (load files a root))
      (.error (.config e)) := by
    have found := (finds_load files a root).widen LaunchFault.config
    rwa [h] at found
  have reported := refused.refused (fun c => do
    let c ← overridden c a
    stages c a) id
  rw [outcome, request_eq, reported.answers, firstFault]

/-- A launch succeeds when neither the configuration in force nor the command line has a fault. -/
theorem outcome_eq_ok_iff {files : FileSystem} {a : Arguments} {root : Path} {r : Request} :
    outcome files a root = .ok r ↔ ∃ c, configuration files a root = .ok c ∧
      (c.inForce a).faults = [] ∧ a.faults = [] ∧
        Request.empty.extended (additions (c.inForce a) a) = r := by
  cases loaded : configuration files a root with
  | error e =>
      rw [outcome_of_configuration_error loaded]
      exact ⟨nofun, fun ⟨c, h, _⟩ => nomatch h⟩
  | ok c =>
      rw [outcome_of_configuration loaded, firstFault_eq_ok_iff, faults, loaded]
      simp only [List.append_eq_nil_iff, Config.launchFaults, List.map_eq_nil_iff,
        Except.ok.injEq, exists_eq_left', and_assoc]

/-- **A launch fails if it has a fault, and it reports the first of them.** -/
theorem reports_first_fault (files : FileSystem) (a : Arguments) (root : Path) :
    ((∃ e, outcome files a root = .error e) ↔ faults files a root ≠ []) ∧
    ∀ e, outcome files a root = .error e ↔ (faults files a root).head? = some e := by
  have reported : ∃ r, outcome files a root = firstFault (faults files a root) r := by
    cases h : configuration files a root with
    | ok c => exact ⟨_, outcome_of_configuration h⟩
    | error e =>
        refine ⟨Request.empty, ?_⟩
        rw [outcome_of_configuration_error h, faults, h, firstFault]
  obtain ⟨r, reported⟩ := reported
  rw [reported]
  refine ⟨?_, fun e => firstFault_eq_error_iff⟩
  constructor
  · rintro ⟨e, failed⟩ free
    rw [firstFault_eq_error_iff, free] at failed
    cases failed
  · intro some_
    obtain ⟨e, rest, first⟩ := List.exists_cons_of_ne_nil some_
    exact ⟨e, firstFault_eq_error_iff.2 (by rw [first, List.head?_cons])⟩

end Launch

end TestDiscovery
