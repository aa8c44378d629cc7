/-
# TestDiscovery.Proofs.Launch.Assembled -- what the request of a launch holds

A launch merges a configuration with a command line by two rules.  A list of the
command line replaces that of the configuration unless it is empty; parameters are
laid over each other key by key.  Selectors and class name filters come from the
command line alone.

`Assembled` says what this makes of each part of the request.  It is read off the
additions of a launch without faults: such a launch cuts none of its lists short.
-/
import TestDiscovery.Proofs.Launch.Faults

namespace TestDiscovery

set_option autoImplicit false

open TestDiscovery.Text Building

namespace Launch

/-- The filter that a list of tags in force gives: that of its tags that are not blank, trimmed. -/
def tagFilters (mode : FilterMode) (tags : List String) : List PostDiscoveryFilter :=
  if tags.isEmpty then [] else [.tags ⟨(tags.filter fun tag => !isBlank tag).map trim, mode⟩]

/-- The request holds what the configuration and the command line give it, part by part. -/
structure Assembled (c : Config) (a : Arguments) (r : Request) : Prop where
  /-- The selectors of the command line, kind by kind, with every text of a method read. -/
  selectors : ∃ methods : List MethodSelector,
    a.methods.map MethodSelector.parse = methods.map .ok ∧
    r.selectors = a.packages.map .package ++
      a.classes.map (fun name => .namedClass ⟨name, .name⟩) ++ methods.map .method ++
      a.paths.map .path ++ a.uniqueIds.map .uniqueId
  engineFilters : r.engineFilters = (effective c.engines a.engines).map EngineFilter.mk
  /-- The filters of the patterns, first those to include. -/
  discoveryFilters : ∃ includes excludes : List ClassNameFilter,
    a.includeClassNames.map (ClassNameFilter.ofPattern .include) = includes.map .ok ∧
    a.excludeClassNames.map (ClassNameFilter.ofPattern .exclude) = excludes.map .ok ∧
    r.discoveryFilters = includes.map .className ++ excludes.map .className
  postDiscoveryFilters : r.postDiscoveryFilters =
    tagFilters .include (effective c.includeTags a.includeTags) ++
      tagFilters .exclude (effective c.excludeTags a.excludeTags)
  /-- The last value that the command line gives to a key, or else that of the configuration. -/
  parameters : ∃ pairs : List (String × String), a.config.map Arguments.parameter = pairs.map .ok ∧
    ∀ key, r.parameters.get? key = (lastWrite pairs key).or (c.parameters.get? key)

/-! ## Lists that are read without faults -/

theorem map_eq_map_ok {β γ ε : Type} {read : β → Except ε γ} {fault : β → ε} {xs : List β}
    (h : refusals (fun x => (read x).isOk) fault xs = []) :
    xs.map read = (xs.filterMap fun x => (read x).toOption).map .ok := by
  rw [refusals_eq_nil_iff] at h
  induction xs with
  | nil => rfl
  | cons x xs ih =>
      have accepted := h x List.mem_cons_self
      have rest := ih fun y hy => h y (List.mem_cons_of_mem x hy)
      cases hx : read x with
      | error e =>
          rw [hx] at accepted
          cases accepted
      | ok y => rw [List.map_cons, List.filterMap_cons, hx, rest]; rfl

theorem patternFilters_of_patternFaults {mode : FilterMode} {patterns : List String}
    (h : Arguments.patternFaults mode patterns = []) :
    ∃ filters : List ClassNameFilter,
      patterns.map (ClassNameFilter.ofPattern mode) = filters.map .ok ∧
      Arguments.patternFilters mode patterns =
        (filters.map DiscoveryFilter.className).map Filter.discovery := by
  refine ⟨_, map_eq_map_ok h, ?_⟩
  rw [Arguments.patternFilters, takeWhile_of_refusals_eq_nil h, List.map_map, List.map_filterMap,
    List.filterMap_eq_flatMap_toList]
  rfl

theorem tagFilters_eq {tags : List String} (h : Config.tagFaults tags = []) (mode : FilterMode) :
    Config.tagFilters mode tags = tagFilters mode tags := by
  rw [Config.tagFilters_of_tagFaults h, TagFilter.cleaned_eq, tagFilters]

theorem map_parameter_of_parameterFaults {a : Arguments} (h : a.parameterFaults = []) :
    a.config.map Arguments.parameter = a.pairs.map .ok := by
  rw [Arguments.parameterFaults, ← funext Arguments.isOk_parameter] at h
  exact map_eq_map_ok h

/-! ## The additions of a launch without faults -/

theorem selectors_additions (c : Config) (a : Arguments) :
    (additions c a).selectors = a.selectors := by
  show c.additions.selectors ++ (a.selectors ++ []) = _
  rw [c.selectors_additions, List.nil_append, List.append_nil]

theorem filters_additions {c : Config} {a : Arguments} (config : c.faults = [])
    {includes excludes : List ClassNameFilter}
    (included : Arguments.patternFilters .include a.includeClassNames =
      (includes.map DiscoveryFilter.className).map Filter.discovery)
    (excluded : Arguments.patternFilters .exclude a.excludeClassNames =
      (excludes.map DiscoveryFilter.className).map Filter.discovery) :
    (additions c a).filters = (c.engines.map EngineFilter.mk).map Filter.engine ++
      ((tagFilters .include c.includeTags ++ tagFilters .exclude c.excludeTags).map
          Filter.postDiscovery ++
        (includes.map DiscoveryFilter.className ++ excludes.map DiscoveryFilter.className).map
          Filter.discovery) := by
  obtain ⟨-, includeTags, excludeTags, -⟩ : _ ∧ _ ∧ _ ∧ _ := by
    simpa only [Config.faults, List.append_eq_nil_iff] using config
  have file := (Config.additions_of_faults_eq_nil config).1
  rw [tagFilters_eq includeTags, tagFilters_eq excludeTags] at file
  show c.additions.filters ++ ([] ++ ((Arguments.patternFilters _ _ ++
    Arguments.patternFilters _ _) ++ [])) = _
  rw [file, included, excluded, List.nil_append, List.append_nil, List.append_assoc,
    ← List.map_append]

theorem writes_additions {c : Config} {a : Arguments} (config : c.faults = [])
    (keys : writeFaults a.pairs = []) :
    (additions c a).writes = c.parameters.toList ++ a.pairs := by
  show c.additions.writes ++ accepted a.pairs = _
  rw [(Config.additions_of_faults_eq_nil config).2, accepted, takeWhile_of_refusals_eq_nil keys]

theorem get?_writeAll_additions {c : Config} {a : Arguments} (config : c.faults = [])
    (keys : writeFaults a.pairs = []) (key : String) :
    (Parameters.empty.writeAll (additions c a).writes).get? key =
      (lastWrite a.pairs key).or (c.parameters.get? key) := by
  have fileKeys : writeFaults c.parameters.toList = [] := by
    simp only [Config.faults, List.append_eq_nil_iff] at config
    exact config.2.2.2
  have filled : ∀ w ∈ c.parameters.toList ++ a.pairs, isBlank w.1 = false := by
    intro w hw
    rcases List.mem_append.1 hw with file | given
    · exact writeFaults_eq_nil_iff.1 fileKeys w file
    · exact writeFaults_eq_nil_iff.1 keys w given
  rw [writes_additions config keys, Parameters.get?_writeAll .empty filled, lastWrite_append,
    Dictionary.lastWrite_toList, Parameters.get?_empty, Option.or_none]

/-! ## The request -/

theorem assembled_additions {c : Config} {a : Arguments} (config : (c.inForce a).faults = [])
    (arguments : a.faults = []) :
    Assembled c a (Request.empty.extended (additions (c.inForce a) a)) := by
  obtain ⟨methods, includes, excludes, texts, keys⟩ := a.faults_eq_nil_iff.1 arguments
  obtain ⟨included, includeRead, includeMade⟩ := patternFilters_of_patternFaults includes
  obtain ⟨excluded, excludeRead, excludeMade⟩ := patternFilters_of_patternFaults excludes
  have filters := filters_additions config includeMade excludeMade
  obtain ⟨engineKind, postKind, discoveryKind⟩ := Filter.filterMap_kinds
    ((c.inForce a).engines.map EngineFilter.mk)
    (tagFilters .include (c.inForce a).includeTags ++ tagFilters .exclude (c.inForce a).excludeTags)
    (included.map DiscoveryFilter.className ++ excluded.map DiscoveryFilter.className)
  refine
    { selectors := ⟨_, map_eq_map_ok methods, ?_⟩
      engineFilters := ?_
      discoveryFilters := ⟨included, excluded, includeRead, excludeRead, ?_⟩
      postDiscoveryFilters := ?_
      parameters := ⟨a.pairs, map_parameter_of_parameterFaults texts, fun key => ?_⟩ }
  · show (additions (c.inForce a) a).selectors = _
    rw [selectors_additions, Arguments.selectors]
    simp only [List.append_assoc]
    rfl
  · show (additions (c.inForce a) a).filters.filterMap Filter.asEngine? = _
    rw [filters, engineKind]
    rfl
  · show (additions (c.inForce a) a).filters.filterMap Filter.asDiscovery? = _
    rw [filters, discoveryKind]
  · show (additions (c.inForce a) a).filters.filterMap Filter.asPostDiscovery? = _
    rw [filters, postKind]
    rfl
  · exact get?_writeAll_additions config keys key

/-- **A launch that succeeds merges its configuration and its command line.** -/
theorem assembled_of_outcome {files : FileSystem} {a : Arguments} {root : Path} {r : Request}
    (h : outcome files a root = .ok r) :
    ∃ c, configuration files a root = .ok c ∧ Assembled c a r := by
  cases loaded : configuration files a root with
  | error e =>
      rw [outcome_of_configuration_error loaded] at h
      cases h
  | ok c =>
      rw [outcome_of_configuration loaded, firstFault_eq_ok_iff, faults, loaded] at h
      obtain ⟨free, rfl⟩ := h
      obtain ⟨config, arguments⟩ := List.append_eq_nil_iff.1 free
      refine ⟨c, rfl, assembled_additions ?_ arguments⟩
      simpa only [Config.launchFaults, List.map_eq_nil_iff] using config

/-- A project's file and a command line that touches each part of it. -/
theorem assembled_of_file_and_options :
    let files : FileSystem := fun path =>
      if path == Path.ofText "rlaunch.toml" then
        .contents (Utf8.encode
          "engines = ['a']\nexclude-tags = ['', ' x ']\n[parameters]\nj = 'file'\nk = 'file'\n")
      else .missing
    let a : Arguments :=
      { classes := ["D", "D"], methods := ["C # m ( int, String )"], engines := ["b", "a"]
        includeClassNames := ["A.*"], config := ["k=v=w", "l="] }
    ∃ r, outcome files a ⟨[]⟩ = .ok r ∧
      ∃ c, configuration files a ⟨[]⟩ = .ok c ∧ Assembled c a r := by
  intro files a
  have accepted : (outcome files a ⟨[]⟩).isOk = true := by decide +kernel
  cases h : outcome files a ⟨[]⟩ with
  | error e =>
      rw [h] at accepted
      cases accepted
  | ok r => exact ⟨r, rfl, assembled_of_outcome h⟩

end Launch

end TestDiscovery
