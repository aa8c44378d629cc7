/-
# TestDiscovery.Proofs.Building.Objects -- filters that are given as objects

A filter can be given as what it is, or as an object that shows what it can act as.
Which filter an object is taken for (`FilterObject.TakenFor`) is decided by its first
capability in the order engine, post-discovery, discovery; a filter that is wrapped in an
object has one capability and is taken for itself.  So both ways of giving filters leave
the same request, and only the log tells them apart, where the bucket of each object is
noted.  Each object adds one filter, in order, to the bucket of its first capability
(`Bucketed`).
-/
import TestDiscovery.Proofs.Building.Contract
import Mathlib.Data.List.Forall2

namespace TestDiscovery

set_option autoImplicit false

/-! ## What an object is taken for -/

namespace FilterObject

/-- The filter is that of the object's first capability. -/
inductive TakenFor (o : FilterObject) : Filter → Prop where
  | engine {f : EngineFilter} (first : o.engine = some f) : TakenFor o (.engine f)
  | postDiscovery {f : PostDiscoveryFilter} (no_engine : o.engine = none)
    (first : o.postDiscovery = some f) : TakenFor o (.postDiscovery f)
  | discovery {f : DiscoveryFilter} (no_engine : o.engine = none)
    (no_postDiscovery : o.postDiscovery = none) (first : o.discovery = some f) :
    TakenFor o (.discovery f)

/-- The object has no capability. -/
structure ActsAsNothing (o : FilterObject) : Prop where
  engine : o.engine = none
  postDiscovery : o.postDiscovery = none
  discovery : o.discovery = none

variable {o : FilterObject} {f : Filter}

theorem TakenFor.filter?_eq (h : o.TakenFor f) : o.filter? = some f := by
  cases h with
  | engine first => simp [filter?, first]
  | postDiscovery no_engine first => simp [filter?, no_engine, first]
  | discovery no_engine no_postDiscovery first =>
      simp [filter?, no_engine, no_postDiscovery, first]

theorem ActsAsNothing.filter?_eq (h : o.ActsAsNothing) : o.filter? = none := by
  simp [filter?, h.engine, h.postDiscovery, h.discovery]

/-- Every object is taken for a filter or can act as nothing. -/
theorem takenFor_or_actsAsNothing (o : FilterObject) :
    (∃ f, o.TakenFor f) ∨ o.ActsAsNothing := by
  cases engine : o.engine with
  | some f => exact .inl ⟨_, .engine engine⟩
  | none =>
      cases postDiscovery : o.postDiscovery with
      | some f => exact .inl ⟨_, .postDiscovery engine postDiscovery⟩
      | none =>
          cases discovery : o.discovery with
          | some f => exact .inl ⟨_, .discovery engine postDiscovery discovery⟩
          | none => exact .inr ⟨engine, postDiscovery, discovery⟩

/-- A filter that is wrapped in an object is taken for itself. -/
theorem takenFor_ofFilter (f : Filter) : (ofFilter f).TakenFor f := by
  cases f with
  | engine f => exact .engine rfl
  | discovery f => exact .discovery rfl rfl rfl
  | postDiscovery f => exact .postDiscovery rfl rfl

theorem exists_takenFor {objects : List FilterObject} (h : ∀ o ∈ objects, ¬ o.ActsAsNothing) :
    ∃ filters, objects.Forall₂ TakenFor filters := by
  induction objects with
  | nil => exact ⟨[], .nil⟩
  | cons o objects ih =>
      obtain ⟨first, rest⟩ := List.forall_mem_cons.1 h
      obtain ⟨filters, taken⟩ := ih rest
      rcases o.takenFor_or_actsAsNothing with ⟨f, head⟩ | nothing
      · exact ⟨f :: filters, .cons head taken⟩
      · exact absurd nothing first

/-- Objects that are taken for filters are classified as these. -/
theorem map_filter?_eq {objects : List FilterObject} {filters : List Filter}
    (h : objects.Forall₂ TakenFor filters) : objects.map filter? = filters.map some := by
  induction h with
  | nil => rfl
  | cons head _ ih => rw [List.map_cons, List.map_cons, head.filter?_eq, ih]

theorem map_classify_eq {objects : List FilterObject} {filters : List Filter}
    (h : objects.Forall₂ TakenFor filters) : objects.map classify = filters.map .ok := by
  induction h with
  | nil => rfl
  | cons head _ ih => rw [List.map_cons, List.map_cons, classify, head.filter?_eq, ih]

theorem forall₂_ofFilter (filters : List Filter) :
    (filters.map ofFilter).Forall₂ TakenFor filters := by
  rw [List.forall₂_map_left_iff, List.forall₂_same]
  exact fun f _ => takenFor_ofFilter f

end FilterObject

/-! ## Buckets -/

/-- Each object has added the filter of its first capability at the end of the bucket of that
kind, and nothing else has changed. -/
structure Bucketed (objects : List FilterObject) (before after : Request) : Prop where
  selectors : after.selectors = before.selectors
  engineFilters : after.engineFilters = before.engineFilters ++ objects.filterMap fun o => o.engine
  postDiscoveryFilters : after.postDiscoveryFilters = before.postDiscoveryFilters ++
    (objects.filter fun o => o.engine.isNone).filterMap fun o => o.postDiscovery
  discoveryFilters : after.discoveryFilters = before.discoveryFilters ++
    (objects.filter fun o => o.engine.isNone && o.postDiscovery.isNone).filterMap fun o => o.discovery
  parameters : after.parameters = before.parameters
  /-- One filter for each object. -/
  number : after.engineFilters.length + after.discoveryFilters.length +
      after.postDiscoveryFilters.length =
    before.engineFilters.length + before.discoveryFilters.length +
      before.postDiscoveryFilters.length + objects.length

section

variable {objects : List FilterObject} {filters : List Filter}

/-- The filters of each kind are those of the objects whose first capability is of the kind. -/
theorem filterMap_kind_eq (h : objects.Forall₂ FilterObject.TakenFor filters) :
    filters.filterMap Filter.asEngine? = objects.filterMap (fun o => o.engine) ∧
    filters.filterMap Filter.asPostDiscovery? =
      (objects.filter fun o => o.engine.isNone).filterMap (fun o => o.postDiscovery) ∧
    filters.filterMap Filter.asDiscovery? =
      (objects.filter fun o => o.engine.isNone && o.postDiscovery.isNone).filterMap
        fun o => o.discovery := by
  induction h with
  | nil => exact ⟨rfl, rfl, rfl⟩
  | cons head _ ih =>
      obtain ⟨engines, posts, discoveries⟩ := ih
      simp only [List.filterMap_cons, List.filter_cons]
      cases head with
      | engine first =>
          simp [Filter.asEngine?, Filter.asPostDiscovery?, Filter.asDiscovery?, first, engines,
            posts, discoveries]
      | postDiscovery no_engine first =>
          simp [Filter.asEngine?, Filter.asPostDiscovery?, Filter.asDiscovery?, no_engine, first,
            engines, posts, discoveries]
      | discovery no_engine no_postDiscovery first =>
          simp [Filter.asEngine?, Filter.asPostDiscovery?, Filter.asDiscovery?, no_engine,
            no_postDiscovery, first, engines, posts, discoveries]

theorem bucketed_extended (h : objects.Forall₂ FilterObject.TakenFor filters) (r : Request) :
    Bucketed objects r (r.extended (.ofFilters filters)) := by
  obtain ⟨engines, posts, discoveries⟩ := filterMap_kind_eq h
  have number := (Filter.buckets_perm filters).length_eq
  simp only [List.length_append, List.length_map] at number
  have paired := h.length_eq
  constructor
  case selectors => exact List.append_nil _
  case engineFilters => rw [← engines]; rfl
  case postDiscoveryFilters => rw [← posts]; rfl
  case discoveryFilters => rw [← discoveries]; rfl
  case parameters => rfl
  case number =>
    simp only [Request.extended, Additions.ofFilters, List.length_append]
    omega

end

namespace Building

variable {objects : List FilterObject} {filters : List Filter}

/-- Objects that are taken for filters leave the request with these. -/
theorem run_filterObjects (h : objects.Forall₂ FilterObject.TakenFor filters) (b : Builder) :
    ((filterObjects objects).run b).1 = .ok () ∧
    ((filterObjects objects).run b).2.contents = b.contents.extended (.ofFilters filters) := by
  have found := FilterObject.map_filter?_eq h
  have usable : ∀ o ∈ objects, o.filter?.isSome = true := by
    intro o ho
    have among : o.filter? ∈ filters.map some := found ▸ List.mem_map_of_mem ho
    obtain ⟨f, -, same⟩ := List.mem_map.1 among
    rw [← same]
    rfl
  have all : classified objects = filters := by
    rw [classified, List.takeWhile_eq_self_iff.2 usable]
    calc objects.filterMap FilterObject.filter?
        = (objects.map FilterObject.filter?).filterMap id := by rw [List.filterMap_map]; rfl
      _ = (filters.map some).filterMap id := by rw [found]
      _ = filters := by rw [List.filterMap_map]; exact List.filterMap_some
  have none_ : refusals (fun o : FilterObject => o.filter?.isSome)
      (fun _ => RequestFault.unclassifiableFilter) objects = [] := refusals_eq_nil_iff.2 usable
  constructor
  · rw [(adds_filterObjects objects).answers, none_, firstFault]
  · rw [(adds_filterObjects objects).leaves, all]

theorem answer_filterObjects_of_actsAsNothing (h : ∃ o ∈ objects, o.ActsAsNothing) (b : Builder) :
    ((filterObjects objects).run b).1 = .error .unclassifiableFilter := by
  obtain ⟨o, ho, nothing⟩ := h
  rw [(adds_filterObjects objects).answers, firstFault_eq_error_iff, refusals, List.head?_map]
  have refused : o ∈ objects.filter fun o => !o.filter?.isSome :=
    List.mem_filter.2 ⟨ho, by rw [nothing.filter?_eq]; rfl⟩
  obtain ⟨first, rest, split⟩ := List.exists_cons_of_ne_nil (List.ne_nil_of_mem refused)
  rw [split]
  rfl

/-- **Filters can be given as what they are or as objects.**
Wrapped in objects they leave the request that they leave themselves.  Objects of any kind leave
the request that the filters they are taken for leave, and those filters are taken for
themselves again; objects are refused just if one of them can act as nothing. -/
theorem objects_added_as_filters (objects : List FilterObject) (filters : List Filter)
    (b : Builder) :
    ((filterObjects (filters.map FilterObject.ofFilter)).run b).1 = .ok () ∧
    ((filterObjects (filters.map FilterObject.ofFilter)).run b).2.contents =
      ((filter filters : Building RequestFault Unit).run b).2.contents ∧
    (((∀ o ∈ objects, ¬ o.ActsAsNothing) ∧ ((filterObjects objects).run b).1 = .ok () ∧
        ∃ fs, objects.Forall₂ FilterObject.TakenFor fs ∧
          objects.map FilterObject.classify = fs.map .ok ∧
          (fs.map FilterObject.ofFilter).map FilterObject.classify = fs.map .ok ∧
          ((filterObjects objects).run b).2.contents =
            ((filter fs : Building RequestFault Unit).run b).2.contents ∧
          Bucketed objects b.contents ((filterObjects objects).run b).2.contents) ∨
      (∃ o ∈ objects, o.ActsAsNothing) ∧
        ((filterObjects objects).run b).1 = .error .unclassifiableFilter) := by
  have wrapped := run_filterObjects (FilterObject.forall₂_ofFilter filters) b
  refine ⟨wrapped.1, wrapped.2.trans ((adds_filter filters).leaves b).symm, ?_⟩
  by_cases nothing : ∃ o ∈ objects, o.ActsAsNothing
  · exact .inr ⟨nothing, answer_filterObjects_of_actsAsNothing nothing b⟩
  · have usable : ∀ o ∈ objects, ¬ o.ActsAsNothing := fun o ho acts => nothing ⟨o, ho, acts⟩
    obtain ⟨fs, taken⟩ := FilterObject.exists_takenFor usable
    obtain ⟨answer, contents⟩ := run_filterObjects taken b
    refine .inl ⟨usable, answer, fs, taken, FilterObject.map_classify_eq taken,
      FilterObject.map_classify_eq (FilterObject.forall₂_ofFilter fs), ?_, ?_⟩
    · rw [contents, (adds_filter fs).leaves]
    · rw [contents]
      exact bucketed_extended taken b.contents

end Building

end TestDiscovery
