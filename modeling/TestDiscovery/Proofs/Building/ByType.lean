/-
# TestDiscovery.Proofs.Building.ByType -- what queries by type give

Five queries give the selectors of a request, each those of one kind.  Wrapped again
as selectors (`Request.ofKind`), each answer is the request's own list without the
selectors of other kinds.  The five lose nothing between them: `mergeAlong` deals them
out along the sequence of kinds and comes back to the list (`mergeAlong_filter`).

A discovery filter has a concrete type, which is known by how its values are filters
and by the test that finds them (`ConcreteFilter`).  A query by such a type gives the
filters of the type and no others.

`ByType` says this of a request, and traces every answer to the steps that made it.
-/
import TestDiscovery.Proofs.Building.Runs

namespace TestDiscovery

set_option autoImplicit false

open Building

/-! ## Lists in parts -/

section

variable {κ σ τ : Type}

/-- Deal out the parts along a sequence of their names: each name takes the next element of its
part. -/
def mergeAlong [DecidableEq κ] (parts : κ → List σ) : List κ → List σ
  | [] => []
  | k :: ks =>
    match parts k with
    | [] => mergeAlong parts ks
    | s :: rest => s :: mergeAlong (Function.update parts k rest) ks

/-- A list that is divided by a name of its elements is its parts, merged along the names. -/
theorem mergeAlong_filter [DecidableEq κ] (name : σ → κ) (xs : List σ) :
    mergeAlong (fun k => xs.filter fun s => name s = k) (xs.map name) = xs := by
  induction xs with
  | nil => rfl
  | cons s xs ih =>
      have first : (s :: xs).filter (fun t => name t = name s) =
          s :: xs.filter fun t => name t = name s :=
        List.filter_cons_of_pos (decide_eq_true rfl)
      -- The part of `s` loses it, and it stands in no other part.
      have rest : Function.update (fun k => (s :: xs).filter fun t => name t = k) (name s)
          (xs.filter fun t => name t = name s) = fun k => xs.filter fun t => name t = k := by
        funext k
        by_cases h : k = name s
        · rw [h, Function.update_self]
        · rw [Function.update_of_ne h, List.filter_cons_of_neg]
          simpa using fun same => h (Eq.symm same)
      rw [List.map_cons, mergeAlong, first]
      simp only [rest, ih]

/-- What a test finds, wrapped again, is the list without the rest. -/
theorem map_filterMap_eq_filter {test : σ → Option τ} {wrap : τ → σ} {p : σ → Bool}
    (h : ∀ s, (test s).map wrap = if p s then some s else none) (xs : List σ) :
    (xs.filterMap test).map wrap = xs.filter p := by
  rw [List.map_filterMap, ← List.filterMap_eq_filter]
  exact List.filterMap_congr fun s _ => (h s).trans Option.guard_eq_ite.symm

end

/-! ## Selectors by kind -/

namespace Request

/-- The answer of the query for a kind, as selectors. -/
def ofKind (r : Request) : SelectorKind → List Selector
  | .package => r.packages.map .package
  | .namedClass => r.classes.map .namedClass
  | .method => r.methods.map .method
  | .path => r.paths.map .path
  | .uniqueId => r.uniqueIds.map .uniqueId

theorem ofKind_eq_filter (r : Request) (k : SelectorKind) :
    r.ofKind k = r.selectors.filter fun s => s.kind = k := by
  cases k with
  | package => exact map_filterMap_eq_filter (fun s => by cases s <;> rfl) r.selectors
  | namedClass => exact map_filterMap_eq_filter (fun s => by cases s <;> rfl) r.selectors
  | method => exact map_filterMap_eq_filter (fun s => by cases s <;> rfl) r.selectors
  | path => exact map_filterMap_eq_filter (fun s => by cases s <;> rfl) r.selectors
  | uniqueId => exact map_filterMap_eq_filter (fun s => by cases s <;> rfl) r.selectors

theorem length_queries (r : Request) :
    r.packages.length + r.classes.length + r.methods.length + r.paths.length +
      r.uniqueIds.length = r.selectors.length := by
  simp only [packages, classes, methods, paths, uniqueIds]
  induction r.selectors with
  | nil => rfl
  | cons s xs ih =>
      cases s <;>
        simp only [List.filterMap_cons, Selector.asPackage?, Selector.asClass?,
          Selector.asMethod?, Selector.asPath?, Selector.asUniqueId?, List.length_cons] <;>
        omega

end Request

/-! ## Discovery filters by concrete type -/

/-- A concrete type of discovery filters. -/
structure ConcreteFilter (β : Type) where
  toFilter : β → DiscoveryFilter
  ofFilter? : DiscoveryFilter → Option β
  /-- The test finds the values of the type and nothing else. -/
  ofFilter?_eq_some_iff : ∀ f x, ofFilter? f = some x ↔ f = toFilter x

namespace ConcreteFilter

/-- Class name filters. -/
def className : ConcreteFilter ClassNameFilter where
  toFilter := .className
  ofFilter? := DiscoveryFilter.asClassName?
  ofFilter?_eq_some_iff f x := by cases f <;> simp [DiscoveryFilter.asClassName?]

/-- Custom filters: a display and a function. -/
def custom : ConcreteFilter (String × (String → Verdict)) where
  toFilter x := .custom x.1 x.2
  ofFilter?
    | .className _ => none
    | .custom display apply => some (display, apply)
  ofFilter?_eq_some_iff f x := by
    obtain ⟨shown, verdict⟩ := x
    cases f <;> simp

variable {β : Type} (T : ConcreteFilter β)

theorem map_toFilter_filterMap (fs : List DiscoveryFilter) :
    (fs.filterMap T.ofFilter?).map T.toFilter = fs.filter fun f => (T.ofFilter? f).isSome := by
  refine map_filterMap_eq_filter (fun f => ?_) fs
  cases found : T.ofFilter? f with
  | none => rfl
  | some x => rw [(T.ofFilter?_eq_some_iff f x).1 found]; rfl

end ConcreteFilter

/-- The discovery filters of a concrete type. -/
def Request.filtersOf {β : Type} (r : Request) (T : ConcreteFilter β) : List β :=
  r.discoveryFilters.filterMap T.ofFilter?

theorem Request.customFilters_eq (r : Request) :
    r.customFilters = (r.filtersOf .custom).map Prod.fst := by
  rw [filtersOf, List.map_filterMap]
  exact List.filterMap_congr fun f _ => by cases f <;> rfl

/-! ## The discovery filters that steps add -/

/-- The discovery filter that the object is taken for. -/
def FilterObject.asDiscovery? (o : FilterObject) : Option DiscoveryFilter :=
  if o.engine.isNone && o.postDiscovery.isNone then o.discovery else none

theorem FilterObject.bind_asDiscovery? (o : FilterObject) :
    o.filter?.bind Filter.asDiscovery? = o.asDiscovery? := by
  obtain ⟨_ | engine, _ | post, _ | discovery⟩ := o <;> rfl

theorem Config.asDiscovery?_additions (c : Config) :
    c.additions.filters.filterMap Filter.asDiscovery? = [] := by
  simp only [additions, Additions.barring]
  repeat' split
  all_goals simp [Additions.ofFilters, Additions.ofWrites, Additions.nothing, Filter.asDiscovery?]

variable {α : Type}

/-- The discovery filters among those that the step is given; of objects, those before the first
that can act as nothing. -/
def BuilderStep.discoveryFilters : BuilderStep α → List DiscoveryFilter
  | .filter filters => filters.filterMap Filter.asDiscovery?
  | .filterObjects objects =>
    (objects.takeWhile fun o => o.filter?.isSome).filterMap FilterObject.asDiscovery?
  | _ => []

theorem BuilderStep.asDiscovery?_additions (s : BuilderStep α) :
    s.additions.filters.filterMap Filter.asDiscovery? = s.discoveryFilters := by
  cases s with
  | filterObjects objects =>
      show (classified objects).filterMap Filter.asDiscovery? = _
      rw [classified, List.filterMap_filterMap]
      exact List.filterMap_congr fun o _ => o.bind_asDiscovery?
  | applyConfig c => exact c.asDiscovery?_additions
  | _ => rfl

namespace BuilderRun

/-! ## Queries of a request that was made in steps -/

/-- The queries by type divide the request, and give what the steps added. -/
structure ByType (steps : List (BuilderStep α)) (r : Request) : Prop where
  /-- A selector is in the answer for its own kind and in no other. -/
  returned : ∀ s ∈ r.selectors, ∀ k, s ∈ r.ofKind k ↔ k = s.kind
  /-- In order, and as often as it was selected. -/
  sublist : ∀ k, (r.ofKind k).Sublist r.selectors
  number : r.packages.length + r.classes.length + r.methods.length + r.paths.length +
    r.uniqueIds.length = r.selectors.length
  merged : mergeAlong r.ofKind (r.selectors.map Selector.kind) = r.selectors
  selected : ∀ k, r.ofKind k = steps.flatMap fun s => s.selected.filter fun x => x.kind = k
  /-- The query for a concrete type gives the filters of the type, in order. -/
  filters : ∀ {β : Type} (T : ConcreteFilter β), (r.filtersOf T).map T.toFilter =
    r.discoveryFilters.filter fun f => (T.ofFilter? f).isSome
  added : ∀ {β : Type} (T : ConcreteFilter β), r.filtersOf T =
    steps.flatMap fun s => s.discoveryFilters.filterMap T.ofFilter?
  classNameFilters : r.classNameFilters = r.filtersOf .className
  customFilters : r.customFilters = (r.filtersOf .custom).map Prod.fst

theorem Accumulated.discoveryFilters_eq {steps : List (BuilderStep α)} {r : Request}
    (h : Accumulated steps r) :
    r.discoveryFilters = steps.flatMap BuilderStep.discoveryFilters := by
  rw [h.discoveryFilters, contributed, List.filterMap_flatMap]
  exact congrArg (List.flatMap · steps) (funext BuilderStep.asDiscovery?_additions)

theorem Accumulated.byType {steps : List (BuilderStep α)} {r : Request}
    (h : Accumulated steps r) : ByType steps r where
  returned s hs k := by
    rw [r.ofKind_eq_filter, List.mem_filter, decide_eq_true_iff]
    exact ⟨fun found => found.2.symm, fun same => ⟨hs, same.symm⟩⟩
  sublist k := r.ofKind_eq_filter k ▸ List.filter_sublist
  number := r.length_queries
  merged := by
    rw [funext r.ofKind_eq_filter]
    exact mergeAlong_filter Selector.kind r.selectors
  selected k := by rw [r.ofKind_eq_filter, h.selectors, List.filter_flatMap]
  filters T := T.map_toFilter_filterMap r.discoveryFilters
  added T := by rw [Request.filtersOf, h.discoveryFilters_eq, List.filterMap_flatMap]
  classNameFilters := rfl
  customFilters := r.customFilters_eq

/-- **Queries by type divide every request that a run takes**, whenever it is taken and whatever
follows. -/
theorem queries_by_type_divide (steps before after : List (BuilderStep α)) :
    (∀ r ∈ (ofSteps steps).requests, ∃ earlier later,
      steps = earlier ++ .build :: later ∧ ByType earlier r) ∧
    ∃ r, ByType before r ∧ replyTo before .build after = some (.ok (.built r)) ∧
      ∀ ask, replyTo before (.query none ask) after = some (.ok (.answered (ask r))) := by
  refine ⟨fun r recorded => ?_, (ofSteps before).builder.contents,
    (accumulated_contents before).byType, ?_, fun ask => ?_⟩
  · obtain ⟨earlier, later, divided, made⟩ := accumulated_of_mem_requests steps recorded
    exact ⟨earlier, later, divided, made.byType⟩
  · rw [replyTo_eq]
    rfl
  · rw [replyTo_eq]
    rfl

end BuilderRun

end TestDiscovery
