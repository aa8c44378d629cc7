/-
# TestDiscovery.Proofs.Config.Applied -- what a configuration adds to a request

A configuration is applied in four stages: engines, tags to include, tags to
exclude, parameters.  `Config.faults` lists the faults of all stages in that order,
and `Config.additions` what is added before the first of them.  `adds_apply` says
that applying a configuration does just this to any request.
-/
import TestDiscovery.Config
import TestDiscovery.Proofs.Building.Contract
import TestDiscovery.Proofs.Filter.Tags

namespace TestDiscovery

set_option autoImplicit false

open TestDiscovery.Text Building

namespace Config

/-! ## Lists of tags -/

/-- The fault of a list of tags: it holds tags and all of them are blank. -/
def tagFaults (tags : List String) : List RequestFault :=
  if tags ≠ [] ∧ ∀ tag ∈ tags, isBlank tag = true then [.emptyTagList] else []

/-- The filter of a list of tags, if one of them is not blank. -/
def tagFilters (mode : FilterMode) (tags : List String) : List PostDiscoveryFilter :=
  if TagFilter.cleaned tags = [] then [] else [.tags ⟨TagFilter.cleaned tags, mode⟩]

theorem adds_applyTags (mode : FilterMode) (tags : List String) :
    Adds (applyTags mode tags) (tagFaults tags) (fun _ => ())
      (.ofFilters ((tagFilters mode tags).map .postDiscovery)) := by
  unfold tagFaults tagFilters
  by_cases h : tags = []
  · subst h
    exact adds_pure ()
  · have given : tags.isEmpty = false := by simpa using h
    rw [applyTags, given, if_neg (by decide)]
    by_cases blank : ∀ tag ∈ tags, isBlank tag = true
    · have none_ : TagFilter.cleaned tags = [] := (TagFilter.cleaned_eq_nil_iff tags).2 blank
      rw [if_pos ⟨h, blank⟩, if_pos none_, TagFilter.ofTags_of_isBlank mode blank]
      exact (finds_ofExcept _).refused _ _
    · have some_ : TagFilter.cleaned tags ≠ [] := fun none_ =>
        blank ((TagFilter.cleaned_eq_nil_iff tags).1 none_)
      have filled : ∃ tag ∈ tags, isBlank tag = false := by simpa using blank
      rw [if_neg fun both => blank both.2, if_neg some_,
        TagFilter.ofTags_of_not_isBlank mode filled]
      exact adds_store _

/-- A list of tags that is not refused is empty or gives a filter. -/
theorem tagFilters_of_tagFaults {tags : List String} (h : tagFaults tags = []) (mode : FilterMode) :
    tagFilters mode tags =
      if tags.isEmpty then [] else [.tags ⟨TagFilter.cleaned tags, mode⟩] := by
  unfold tagFilters
  cases tags with
  | nil => rfl
  | cons tag tags =>
      have some_ : TagFilter.cleaned (tag :: tags) ≠ [] := by
        rw [Ne, TagFilter.cleaned_eq_nil_iff]
        intro blank
        rw [tagFaults, if_pos ⟨List.cons_ne_nil tag tags, blank⟩] at h
        cases h
      rw [if_neg some_]
      rfl

/-! ## Lists of engines -/

/-- The faults of a list of engines: its blank ids. -/
def engineFaults (engines : List String) : List RequestFault :=
  refusals (fun id => !isBlank id) (fun _ => .blankEngineId) engines

/-- The filters of the engines before the first blank id. -/
def engineFilters (engines : List String) : List EngineFilter :=
  (engines.takeWhile fun id => !isBlank id).map EngineFilter.mk

theorem adds_applyEngines (engines : List String) :
    Adds (engines.forM applyEngine) (engineFaults engines) (fun _ => ())
      (.ofFilters ((engineFilters engines).map .engine)) := by
  have added : Additions.ofFilters ((engineFilters engines).map .engine) = .total
      ((engines.takeWhile fun id => !isBlank id).map fun id => .ofFilters [.engine ⟨id⟩]) := by
    rw [total_ofFilters, engineFilters, List.map_map, ← List.map_eq_flatMap]
    rfl
  rw [added]
  refine adds_forM (fun id filled => ?_) (fun id blank => ?_) engines
  · have made : EngineFilter.ofId id = .ok ⟨id⟩ := by
      simpa [EngineFilter.ofId] using filled
    rw [applyEngine, made]
    exact adds_store _
  · have refused : EngineFilter.ofId id = .error .blankEngineId := by
      simpa [EngineFilter.ofId] using blank
    rw [applyEngine, refused]
    exact (finds_ofExcept _).refused _ _

theorem engineFilters_of_engineFaults {engines : List String} (h : engineFaults engines = []) :
    engineFilters engines = engines.map EngineFilter.mk := by
  rw [engineFilters, takeWhile_of_refusals_eq_nil h]

/-! ## The four stages -/

/-- The faults of all stages in order. -/
def faults (c : Config) : List RequestFault :=
  engineFaults c.engines ++ (tagFaults c.includeTags ++ (tagFaults c.excludeTags ++
    writeFaults c.parameters.toList))

/-- What is added before the first fault. -/
def additions (c : Config) : Additions :=
  .ofFilters ((engineFilters c.engines).map .engine) ++
    (.ofFilters ((tagFilters .include c.includeTags).map .postDiscovery) ++
      (.ofFilters ((tagFilters .exclude c.excludeTags).map .postDiscovery) ++
        (Additions.ofWrites (accepted c.parameters.toList)).barring (tagFaults c.excludeTags)
        ).barring (tagFaults c.includeTags)).barring (engineFaults c.engines)

/-- **A configuration is applied up to its first fault.** -/
theorem adds_apply (c : Config) :
    Adds c.apply (c.faults.map .request) (fun _ => ()) c.additions := by
  have stages : Adds c.applyParts c.faults (fun _ => ()) c.additions :=
    (adds_applyEngines c.engines).seq ((adds_applyTags .include c.includeTags).seq
      ((adds_applyTags .exclude c.excludeTags).seq (adds_setParameters c.parameters.toList)))
  exact stages.widen ConfigFault.request

theorem selectors_additions (c : Config) : c.additions.selectors = [] := by
  simp only [additions, Additions.barring]
  repeat' split
  all_goals rfl

theorem mem_accepted_of_mem_writes {c : Config} {w : String × String}
    (h : w ∈ c.additions.writes) : w ∈ accepted c.parameters.toList := by
  rw [additions, Additions.writes_ofFilters_append] at h
  have includes := Additions.mem_writes_of_barring h
  rw [Additions.writes_ofFilters_append] at includes
  have excludes := Additions.mem_writes_of_barring includes
  rw [Additions.writes_ofFilters_append] at excludes
  exact Additions.mem_writes_of_barring excludes

/-- Without faults everything is added. -/
theorem additions_of_faults_eq_nil {c : Config} (h : c.faults = []) :
    c.additions.filters = (c.engines.map EngineFilter.mk).map .engine ++
      (tagFilters .include c.includeTags ++ tagFilters .exclude c.excludeTags).map .postDiscovery ∧
    c.additions.writes = c.parameters.toList := by
  simp only [faults, List.append_eq_nil_iff] at h
  obtain ⟨engines, includes, excludes, keys⟩ := h
  rw [additions, engines, includes, excludes, engineFilters_of_engineFaults engines, accepted,
    takeWhile_of_refusals_eq_nil keys, List.map_append]
  constructor
  · simp [Additions.barring, Additions.ofFilters, Additions.ofWrites]
  · rfl

end Config

end TestDiscovery
