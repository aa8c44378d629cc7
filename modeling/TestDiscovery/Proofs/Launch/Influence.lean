/-
# TestDiscovery.Proofs.Launch.Influence -- what of a configuration counts

A command line replaces the lists of a configuration and overwrites its parameters,
but only after the configuration has been read.  `Config.SameFor` says that two
configurations differ in nothing but what a command line replaces or overwrites and
in keys without a meaning.  Such a difference leaves no trace: the faults are the same
(`Config.SameFor.faults_eq`) and so is the request
(`Launch.Assembled.eq_of_sameFor`).  A blank key can be overwritten by no command line,
so blank keys of a configuration always count.
-/
import TestDiscovery.Proofs.Entries
import TestDiscovery.Proofs.Launch.Assembled

namespace TestDiscovery

set_option autoImplicit false

open TestDiscovery.Text Building

/-- A text of the command line sets the key: the key stands before its first equals sign. -/
def Arguments.SetsKey (a : Arguments) (key : String) : Prop :=
  ∃ raw ∈ a.config, ∃ value, raw = key ++ "=" ++ value ∧ '=' ∉ key.toList

/-- The configurations agree in all that the command line neither replaces nor overwrites. -/
structure Config.SameFor (a : Arguments) (c d : Config) : Prop where
  engines : a.engines = [] → c.engines = d.engines
  includeTags : a.includeTags = [] → c.includeTags = d.includeTags
  excludeTags : a.excludeTags = [] → c.excludeTags = d.excludeTags
  parameters : ∀ key, ¬ (isBlank key = false ∧ a.SetsKey key) →
    c.parameters.get? key = d.parameters.get? key

/-! ## Entries under some of the keys -/

/-- Dictionaries that agree on some of the keys have the same entries under them. -/
theorem Dictionary.filter_eq_of_get? {d e : Dictionary} {p : String → Bool}
    (h : ∀ k, p k = true → d.get? k = e.get? k) :
    (d.toList.filter fun w => p w.1) = e.toList.filter fun w => p w.1 := by
  refine Dictionary.eq_of_lookup (d.ascending.filter _) (e.ascending.filter _) fun k => ?_
  show ((d.toList.filter fun w => p w.1).lookup k) = (e.toList.filter fun w => p w.1).lookup k
  rw [lookup_filter, lookup_filter]
  cases counts : p k with
  | true => exact h k counts
  | false => rfl

/-- Only blank keys are at fault, so only they have to be the same. -/
theorem writeFaults_toList_congr {d e : Dictionary}
    (h : ∀ k, isBlank k = true → d.get? k = e.get? k) :
    writeFaults d.toList = writeFaults e.toList := by
  have same : (d.toList.filter fun w => isBlank w.1) = e.toList.filter fun w => isBlank w.1 :=
    Dictionary.filter_eq_of_get? h
  simp only [writeFaults, refusals, Bool.not_not, same]

/-! ## The same faults -/

namespace Launch

theorem effective_congr {given xs ys : List String} (h : given = [] → xs = ys) :
    effective xs given = effective ys given := by
  cases given with
  | nil => exact h rfl
  | cons g given => rfl

end Launch

namespace Config.SameFor

variable {a : Arguments} {c d : Config}

/-- Applied with the lists in force, both have the same faults. -/
theorem faults_eq (h : SameFor a c d) : (c.inForce a).faults = (d.inForce a).faults := by
  have blanks : writeFaults c.parameters.toList = writeFaults d.parameters.toList := by
    refine writeFaults_toList_congr fun key blank => h.parameters key ?_
    rintro ⟨filled, -⟩
    rw [blank] at filled
    cases filled
  simp only [faults, inForce, Launch.effective_congr h.engines,
    Launch.effective_congr h.includeTags, Launch.effective_congr h.excludeTags, blanks]

end Config.SameFor

/-! ## The same request -/

theorem Arguments.parameter_eq_ok {key : String} (free : '=' ∉ key.toList) (value : String) :
    parameter (key ++ "=" ++ value) = .ok (key, value) := by
  have cut : cutAt '=' (key ++ "=" ++ value).toList = some (key.toList, value.toList) := by
    simpa using cutAt_append '=' key.toList value.toList free
  rw [parameter, cut]
  simp

/-- A key that the command line sets is among those that it writes. -/
theorem Arguments.SetsKey.lastWrite_ne_none {a : Arguments} {key : String} (h : a.SetsKey key)
    {pairs : List (String × String)} (read : a.config.map parameter = pairs.map .ok) :
    lastWrite pairs key ≠ none := by
  obtain ⟨_, given, value, rfl, free⟩ := h
  have among : .ok (key, value) ∈ pairs.map (Except.ok (ε := LaunchFault)) := by
    rw [← read, ← parameter_eq_ok free value]
    exact List.mem_map_of_mem given
  have written : (key, value) ∈ pairs := by simpa using among
  exact lastWrite_ne_none_iff.2 ⟨value, written⟩

namespace Launch

theorem map_ok_injective {ε α : Type} :
    Function.Injective (List.map (Except.ok (ε := ε) (α := α))) :=
  List.map_injective_iff.2 fun _ _ => Except.ok.inj

/-- Requests of one command line are the same if their configurations agree in what counts. -/
theorem Assembled.eq_of_sameFor {a : Arguments} {c d : Config} {r s : Request}
    (h : Assembled c a r) (k : Assembled d a s) (same : Config.SameFor a c d) : r = s := by
  have selectors : r.selectors = s.selectors := by
    obtain ⟨methods, read, made⟩ := h.selectors
    obtain ⟨_, again, other⟩ := k.selectors
    rw [made, other, map_ok_injective (again.symm.trans read)]
  have engineFilters : r.engineFilters = s.engineFilters := by
    rw [h.engineFilters, k.engineFilters, effective_congr same.engines]
  have discoveryFilters : r.discoveryFilters = s.discoveryFilters := by
    obtain ⟨includes, excludes, included, excluded, made⟩ := h.discoveryFilters
    obtain ⟨_, _, includedAgain, excludedAgain, other⟩ := k.discoveryFilters
    rw [made, other, map_ok_injective (includedAgain.symm.trans included),
      map_ok_injective (excludedAgain.symm.trans excluded)]
  have postDiscoveryFilters : r.postDiscoveryFilters = s.postDiscoveryFilters := by
    rw [h.postDiscoveryFilters, k.postDiscoveryFilters, effective_congr same.includeTags,
      effective_congr same.excludeTags]
  have parameters : r.parameters = s.parameters := by
    refine Parameters.ext_get? fun key => ?_
    obtain ⟨pairs, read, values⟩ := h.parameters
    obtain ⟨_, again, others⟩ := k.parameters
    rw [values, others, map_ok_injective (again.symm.trans read)]
    -- Either the command line has the last word on the key, or it is the same in both.
    by_cases overwritten : isBlank key = false ∧ a.SetsKey key
    · obtain ⟨value, last⟩ := Option.ne_none_iff_exists'.1 (overwritten.2.lastWrite_ne_none read)
      rw [last, Option.some_or, Option.some_or]
    · rw [same.parameters key overwritten]
  cases r
  cases s
  simp only at selectors engineFilters discoveryFilters postDiscoveryFilters parameters
  rw [selectors, engineFilters, discoveryFilters, postDiscoveryFilters, parameters]

/-! ## The same outcome -/

/-- The outcome depends on the files and the project only through the configuration. -/
theorem outcome_congr {files others : FileSystem} {a : Arguments} {root other : Path}
    (h : configuration files a root = configuration others a other) :
    outcome files a root = outcome others a other := by
  cases loaded : configuration others a other with
  | error e =>
      rw [outcome_of_configuration_error loaded, outcome_of_configuration_error (h.trans loaded)]
  | ok c =>
      rw [outcome_of_configuration loaded, outcome_of_configuration (h.trans loaded), faults,
        faults, h]

theorem outcome_eq_of_sameFor {files others : FileSystem} {a : Arguments} {root other : Path}
    {c d : Config} (loaded : configuration files a root = .ok c)
    (loadedToo : configuration others a other = .ok d) (same : Config.SameFor a c d) :
    outcome files a root = outcome others a other := by
  have noted : faults files a root = faults others a other := by
    rw [faults, faults, loaded, loadedToo]
    simp only [Config.launchFaults, same.faults_eq]
  rw [outcome_of_configuration loaded, outcome_of_configuration loadedToo, ← noted]
  refine firstFault_congr fun free => ?_
  rw [faults, loaded] at free
  obtain ⟨config, arguments⟩ := List.append_eq_nil_iff.1 free
  have sound : (c.inForce a).faults = [] := by
    simpa only [Config.launchFaults, List.map_eq_nil_iff] using config
  exact (assembled_additions sound arguments).eq_of_sameFor
    (assembled_additions (same.faults_eq ▸ sound) arguments) same

/-- **What a command line replaces or overwrites in its configuration has no influence.**
Configurations that agree in the rest come to the same outcome: the same fault, or the same
request.  If the command line names its configuration file, nothing else in the file system has
an influence, and neither has the project. -/
theorem overridden_has_no_influence (a : Arguments) (files others : FileSystem)
    (root other : Path) :
    (∀ c d, configuration files a root = .ok c → configuration others a other = .ok d →
      Config.SameFor a c d → outcome files a root = outcome others a other) ∧
    (∀ path, a.configFile = some path → files path = others path →
      outcome files a root = outcome others a other) := by
  refine ⟨fun c d => outcome_eq_of_sameFor, fun path named same => outcome_congr ?_⟩
  rw [configuration, configuration, named]
  simp only [Config.inFile, same]

theorem eq_ok_of_toOption {ε α : Type} {x : Except ε α} {y : α} (h : x.toOption = some y) :
    x = .ok y := by
  cases x with
  | error e => cases h
  | ok z => rw [Option.some.inj h]

/-- Two files of a project that differ in a list that is replaced, in a parameter that is
overwritten and in a key without a meaning, and a file that is named in place of them. -/
theorem overridden_has_no_influence_two_files :
    let project : String → FileSystem := fun text path =>
      if path == Path.ofText "rlaunch.toml" then .contents (Utf8.encode text)
      else .contents (Utf8.encode "include-tags = ['fast']\n")
    let files := project "engines = ['a']\ncolour = 1\n[parameters]\nk = 'file'\nl = 'x'\n"
    let others := project "engines = ['']\n[parameters]\nl = 'x'\n"
    let a : Arguments := { engines := ["b"], config := ["k=v"] }
    let named : Arguments := { a with configFile := some (Path.ofText "other.toml") }
    (∃ c d, configuration files a ⟨[]⟩ = .ok c ∧ configuration others a ⟨[]⟩ = .ok d ∧ c ≠ d ∧
      Config.SameFor a c d ∧ outcome files a ⟨[]⟩ = outcome others a ⟨[]⟩) ∧
    outcome files named ⟨[]⟩ = outcome others named (Path.ofText "elsewhere") := by
  intro project files others a named
  let c : Config := ⟨["a"], [], [], .ofList [("k", "file"), ("l", "x")], ["colour"]⟩
  let d : Config := ⟨[""], [], [], .ofList [("l", "x")], []⟩
  have loaded : configuration files a ⟨[]⟩ = .ok c := eq_ok_of_toOption (by decide +kernel)
  have loadedToo : configuration others a ⟨[]⟩ = .ok d := eq_ok_of_toOption (by decide +kernel)
  have same : Config.SameFor a c d := by
    refine ⟨nofun, fun _ => rfl, fun _ => rfl, fun key counts => ?_⟩
    have other : key ≠ "k" := by
      rintro rfl
      exact counts ⟨by decide, "k=v", by decide, "v", by decide, by decide⟩
    show ((Dictionary.empty.put "k" "file").put "l" "x").get? key =
      (Dictionary.empty.put "l" "x").get? key
    simp only [Dictionary.get?_put, other, if_false]
  refine ⟨⟨c, d, loaded, loadedToo, by decide, same, ?_⟩, ?_⟩
  · exact (overridden_has_no_influence a files others ⟨[]⟩ ⟨[]⟩).1 c d loaded loadedToo same
  · exact (overridden_has_no_influence named files others ⟨[]⟩ (Path.ofText "elsewhere")).2
      (Path.ofText "other.toml") rfl rfl

end Launch

end TestDiscovery
