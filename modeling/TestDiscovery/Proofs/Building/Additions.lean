/-
# TestDiscovery.Proofs.Building.Additions -- what a step leaves in a request

A request only grows: a step appends selectors, appends filters to the buckets of
their kinds, and writes parameters.  `Additions` lists what it adds, in order, and
`Request.extended` is the request afterwards, so that one step after another is
their additions one after another (`extended_append`).  The parameters are known by
the last write to each key (`get?_writeAll`).
-/
import TestDiscovery.Proofs.Entries
import TestDiscovery.Request.Builder

namespace TestDiscovery

set_option autoImplicit false

open TestDiscovery.Text

/-! ## Filters by kind -/

namespace Filter

/-- The engine filter that this is. -/
def asEngine? : Filter → Option EngineFilter
  | .engine f => some f
  | _ => none

/-- The discovery filter that this is. -/
def asDiscovery? : Filter → Option DiscoveryFilter
  | .discovery f => some f
  | _ => none

/-- The post-discovery filter that this is. -/
def asPostDiscovery? : Filter → Option PostDiscoveryFilter
  | .postDiscovery f => some f
  | _ => none

/-- Sorting filters into the three buckets loses none and doubles none. -/
theorem buckets_perm (fs : List Filter) :
    ((fs.filterMap asEngine?).map Filter.engine ++
      (fs.filterMap asDiscovery?).map Filter.discovery ++
      (fs.filterMap asPostDiscovery?).map Filter.postDiscovery).Perm fs := by
  induction fs with
  | nil => rfl
  | cons f fs ih =>
      cases f with
      | engine g => exact ih.cons _
      | discovery g =>
          simp only [List.filterMap_cons, asEngine?, asDiscovery?, asPostDiscovery?, List.map_cons,
            List.append_assoc, List.cons_append] at ih ⊢
          exact List.perm_middle.trans (ih.cons _)
      | postDiscovery g =>
          simp only [List.filterMap_cons, asEngine?, asDiscovery?, asPostDiscovery?, List.map_cons]
            at ih ⊢
          exact List.perm_middle.trans (ih.cons _)

/-- The bucket of each kind holds the filters of the kind. -/
theorem filterMap_kinds (es : List EngineFilter) (ps : List PostDiscoveryFilter)
    (ds : List DiscoveryFilter) :
    let all := es.map Filter.engine ++ (ps.map Filter.postDiscovery ++ ds.map Filter.discovery)
    all.filterMap asEngine? = es ∧ all.filterMap asPostDiscovery? = ps ∧
      all.filterMap asDiscovery? = ds := by
  simp [List.filterMap_map, Function.comp_def, asEngine?, asPostDiscovery?, asDiscovery?]

end Filter

/-! ## Parameters written in order -/

/-- The value that writes give to a key: that of the last write to it. -/
def lastWrite (writes : List (String × String)) (key : String) : Option String :=
  writes.reverse.lookup key

theorem lastWrite_append (ws vs : List (String × String)) (key : String) :
    lastWrite (ws ++ vs) key = (lastWrite vs key).or (lastWrite ws key) := by
  rw [lastWrite, List.reverse_append, List.lookup_append, ← lastWrite, ← lastWrite]

theorem lastWrite_cons (w : String × String) (ws : List (String × String)) (key : String) :
    lastWrite (w :: ws) key = (lastWrite ws key).or (if key = w.1 then some w.2 else none) := by
  rw [← List.singleton_append, lastWrite_append]
  refine congrArg _ ?_
  rw [lastWrite, List.reverse_singleton, Dictionary.lookup_cons_eq_ite, List.lookup_nil]

/-- When every key is written once, the last write to a key is the only one. -/
theorem lastWrite_of_nodup {ws : List (String × String)} (h : (ws.map Prod.fst).Nodup)
    (key : String) : lastWrite ws key = ws.lookup key := by
  have reversed : (ws.reverse.map Prod.fst).Nodup := by
    rw [List.map_reverse]
    exact List.nodup_reverse.2 h
  refine Option.ext fun value => ?_
  rw [lastWrite, lookup_eq_some_iff_mem reversed, lookup_eq_some_iff_mem h, List.mem_reverse]

theorem lastWrite_of_ascending {ws : List (String × String)}
    (h : ws.Pairwise fun v w => v.1 < w.1) (key : String) : lastWrite ws key = ws.lookup key :=
  lastWrite_of_nodup (nodup_of_ascending h) key

/-- Writing the entries of a dictionary writes its values. -/
theorem Dictionary.lastWrite_toList (d : Dictionary) (key : String) :
    lastWrite d.toList key = d.get? key :=
  lastWrite_of_ascending d.ascending key

theorem lastWrite_ne_none_iff {ws : List (String × String)} {key : String} :
    lastWrite ws key ≠ none ↔ ∃ value, (key, value) ∈ ws := by
  rw [lastWrite, Ne, lookup_eq_none_iff_not_mem, not_not, List.map_reverse, List.mem_reverse]
  simp

namespace Parameters

/-- The store after a write; a write to a blank key is ignored. -/
def write (ps : Parameters) (w : String × String) : Parameters :=
  if h : isBlank w.1 = false then ps.put w.1 w.2 h else ps

/-- The store after writes, one after the other. -/
def writeAll (ps : Parameters) (ws : List (String × String)) : Parameters := ws.foldl write ps

theorem write_of_not_isBlank (ps : Parameters) {w : String × String} (h : isBlank w.1 = false) :
    ps.write w = ps.put w.1 w.2 h :=
  dif_pos h

theorem get?_writeAll (ps : Parameters) {ws : List (String × String)}
    (h : ∀ w ∈ ws, isBlank w.1 = false) (key : String) :
    (ps.writeAll ws).get? key = (lastWrite ws key).or (ps.get? key) := by
  induction ws generalizing ps with
  | nil => rfl
  | cons w ws ih =>
      have filled := h w List.mem_cons_self
      have rest := fun v hv => h v (List.mem_cons_of_mem w hv)
      rw [writeAll, List.foldl_cons, ← writeAll, ih _ rest, write_of_not_isBlank ps filled,
        get?_put, lastWrite_cons]
      split <;> cases lastWrite ws key <;> rfl

theorem get?_empty (key : String) : Parameters.empty.get? key = none := rfl

end Parameters

/-! ## Additions -/

/-- What a step adds to a request, in order. -/
structure Additions where
  selectors : List Selector
  filters : List Filter
  writes : List (String × String)

namespace Additions

/-- Nothing is added. -/
def nothing : Additions := ⟨[], [], []⟩

/-- Only selectors are added. -/
def ofSelectors (selectors : List Selector) : Additions := ⟨selectors, [], []⟩

/-- Only filters are added. -/
def ofFilters (filters : List Filter) : Additions := ⟨[], filters, []⟩

/-- Only parameters are written. -/
def ofWrites (writes : List (String × String)) : Additions := ⟨[], [], writes⟩

instance : Append Additions :=
  ⟨fun a b => ⟨a.selectors ++ b.selectors, a.filters ++ b.filters, a.writes ++ b.writes⟩⟩

@[simp] theorem selectors_append (a b : Additions) :
    (a ++ b).selectors = a.selectors ++ b.selectors := rfl

@[simp] theorem filters_append (a b : Additions) : (a ++ b).filters = a.filters ++ b.filters := rfl

@[simp] theorem writes_append (a b : Additions) : (a ++ b).writes = a.writes ++ b.writes := rfl

theorem writes_ofFilters_append (filters : List Filter) (a : Additions) :
    (ofFilters filters ++ a).writes = a.writes := rfl

@[simp] theorem nothing_append (a : Additions) : nothing ++ a = a := rfl

@[simp] theorem append_nothing (a : Additions) : a ++ nothing = a := by
  obtain ⟨selectors, filters, writes⟩ := a
  show Additions.mk _ _ _ = _
  simp [nothing]

/-- All additions of a list, in order. -/
def total (as : List Additions) : Additions := as.foldr (· ++ ·) nothing

@[simp] theorem total_cons (a : Additions) (as : List Additions) :
    total (a :: as) = a ++ total as := rfl

theorem total_eq (as : List Additions) :
    total as = ⟨as.flatMap selectors, as.flatMap filters, as.flatMap writes⟩ := by
  induction as with
  | nil => rfl
  | cons a as ih => rw [total_cons, ih]; rfl

theorem total_append (as bs : List Additions) : total (as ++ bs) = total as ++ total bs := by
  rw [total_eq, total_eq, total_eq, List.flatMap_append, List.flatMap_append, List.flatMap_append]
  rfl

theorem total_singleton (a : Additions) : total [a] = a := append_nothing a

end Additions

/-- The request with additions. -/
def Request.extended (r : Request) (a : Additions) : Request where
  selectors := r.selectors ++ a.selectors
  engineFilters := r.engineFilters ++ a.filters.filterMap Filter.asEngine?
  discoveryFilters := r.discoveryFilters ++ a.filters.filterMap Filter.asDiscovery?
  postDiscoveryFilters := r.postDiscoveryFilters ++ a.filters.filterMap Filter.asPostDiscovery?
  parameters := r.parameters.writeAll a.writes

theorem Request.extended_append (r : Request) (a b : Additions) :
    r.extended (a ++ b) = (r.extended a).extended b := by
  simp [Request.extended, Parameters.writeAll]

theorem Request.extended_nothing (r : Request) : r.extended .nothing = r := by
  simp [Request.extended, Additions.nothing, Parameters.writeAll]

end TestDiscovery
