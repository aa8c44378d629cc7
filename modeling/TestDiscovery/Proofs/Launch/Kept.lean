/-
# TestDiscovery.Proofs.Launch.Kept -- what the request of a launch lets through

A request lets an engine through when one of its engine filters does, and a class name
or a discovered test when all filters of that kind do.  `Kept` says what this comes to
for the request of a launch, in terms of its configuration and its command line:
engines by id, class names by matches of the whole name, tests by tag.

The tags of filters are trimmed and those of tests are not, so a test with a tag that
ends in a blank carries none of the tags of a filter by it.
-/
import TestDiscovery.Proofs.Filter.WholeName
import TestDiscovery.Proofs.Launch.Assembled

namespace TestDiscovery

set_option autoImplicit false

open TestDiscovery.Text

/-! ## Filters of each kind -/

theorem EngineFilter.isIncluded_iff (f : EngineFilter) (id : String) :
    (f.apply id).isIncluded = true ↔ f.engineId = id := by
  unfold apply
  split <;> simp [Verdict.isIncluded, *]

namespace Launch

theorem isIncluded_tagFilters_include (tags : List String) (t : TestIdentifier) :
    (∀ f ∈ tagFilters .include tags, (f.apply t).isIncluded = true) ↔
      tags = [] ∨ t.Carries tags := by
  unfold tagFilters
  cases tags with
  | nil => simp
  | cons tag tags =>
      rw [if_neg (by simp), List.forall_mem_singleton]
      show (TagFilter.apply _ t).isIncluded = true ↔ _
      simp [TagFilter.isIncluded_iff, TagFilter.firstMatch?_isSome_iff]

theorem isIncluded_tagFilters_exclude (tags : List String) (t : TestIdentifier) :
    (∀ f ∈ tagFilters .exclude tags, (f.apply t).isIncluded = true) ↔ ¬ t.Carries tags := by
  unfold tagFilters
  cases tags with
  | nil => simp [TestIdentifier.Carries]
  | cons tag tags =>
      rw [if_neg (by simp), List.forall_mem_singleton]
      show (TagFilter.apply _ t).isIncluded = true ↔ _
      simp [TagFilter.isIncluded_iff, TagFilter.firstMatch?_isSome_iff]

/-- All filters of some patterns include a name when each of its patterns lets it through. -/
theorem isIncluded_patternFilters {mode : FilterMode} {passes : String → String → Prop}
    (verdict : ∀ {p f}, ClassNameFilter.ofPattern mode p = .ok f → ∀ name,
      ((f.apply name).isIncluded = true ↔ passes p name))
    {patterns : List String} {filters : List ClassNameFilter}
    (made : patterns.map (ClassNameFilter.ofPattern mode) = filters.map .ok) (name : String) :
    (∀ f ∈ filters, (f.apply name).isIncluded = true) ↔ ∀ p ∈ patterns, passes p name := by
  induction patterns generalizing filters with
  | nil =>
      cases filters with
      | nil => simp
      | cons f filters => cases made
  | cons p patterns ih =>
      cases filters with
      | nil => cases made
      | cons f filters =>
          obtain ⟨first, rest⟩ := List.cons.inj made
          rw [List.forall_mem_cons, List.forall_mem_cons, verdict first, ih rest]

/-! ## The request -/

/-- What the filters of a request let through, by the configuration and the command line. -/
structure Kept (c : Config) (a : Arguments) (r : Request) : Prop where
  tests : ∀ t : TestIdentifier, (∀ f ∈ r.postDiscoveryFilters, (f.apply t).isIncluded = true) ↔
    (effective c.includeTags a.includeTags = [] ∨ t.Carries (effective c.includeTags a.includeTags)) ∧
      ¬ t.Carries (effective c.excludeTags a.excludeTags)
  classNames : ∀ name : String, (∀ f ∈ r.discoveryFilters, (f.apply name).isIncluded = true) ↔
    (∀ p ∈ a.includeClassNames, Pattern.MatchesWhole p name) ∧
      ∀ p ∈ a.excludeClassNames, ¬ Pattern.MatchesWhole p name
  engines : ∀ id : String, (∃ f ∈ r.engineFilters, (f.apply id).isIncluded = true) ↔
    id ∈ effective c.engines a.engines

/-- The parts of a request settle what it lets through. -/
theorem Assembled.kept {c : Config} {a : Arguments} {r : Request} (h : Assembled c a r) :
    Kept c a r := by
  refine ⟨fun t => ?_, fun name => ?_, fun id => ?_⟩
  · rw [h.postDiscoveryFilters, List.forall_mem_append, isIncluded_tagFilters_include,
      isIncluded_tagFilters_exclude]
  · obtain ⟨includes, excludes, included, excluded, filters⟩ := h.discoveryFilters
    rw [filters, List.forall_mem_append, List.forall_mem_map, List.forall_mem_map]
    exact and_congr
      (isIncluded_patternFilters ClassNameFilter.isIncluded_of_include included name)
      (isIncluded_patternFilters ClassNameFilter.isIncluded_of_exclude excluded name)
  · simp only [h.engineFilters, List.mem_map, EngineFilter.isIncluded_iff]
    constructor
    · rintro ⟨_, ⟨engine, given, rfl⟩, rfl⟩
      exact given
    · intro given
      exact ⟨_, ⟨id, given, rfl⟩, rfl⟩

/-- **A launch that succeeds keeps what its configuration and its command line ask for.** -/
theorem kept_of_outcome {files : FileSystem} {a : Arguments} {root : Path} {r : Request}
    (h : outcome files a root = .ok r) :
    ∃ c, configuration files a root = .ok c ∧ Kept c a r := by
  obtain ⟨c, loaded, config, arguments, rfl⟩ := outcome_eq_ok_iff.1 h
  exact ⟨c, loaded, (assembled_additions config arguments).kept⟩

/-- Tags of a file of which one is replaced, and a class name that two patterns look at. -/
theorem kept_of_file_and_options :
    let files : FileSystem := fun path =>
      if path == Path.ofText "rlaunch.toml" then
        .contents (Utf8.encode
          "engines = ['a']\ninclude-tags = ['fast']\nexclude-tags = ['', ' x ']\n")
      else .missing
    let a : Arguments :=
      { includeTags := [" slow ", ""], includeClassNames := ["(?m)Foo$|Bar"]
        excludeClassNames := ["Bar"] }
    ∃ r, outcome files a ⟨[]⟩ = .ok r ∧
      ∃ c, configuration files a ⟨[]⟩ = .ok c ∧ Kept c a r := by
  intro files a
  have accepted : (outcome files a ⟨[]⟩).isOk = true := by decide +kernel
  cases h : outcome files a ⟨[]⟩ with
  | error e =>
      rw [h] at accepted
      cases accepted
  | ok r => exact ⟨r, rfl, kept_of_outcome h⟩

end Launch

end TestDiscovery
