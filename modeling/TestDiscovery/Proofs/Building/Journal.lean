/-
# TestDiscovery.Proofs.Building.Journal -- what the journal tells of a run

A builder writes down what is done to it, and the journal of a run can be read as an
account of it.  The records of parameters lead from the empty store to the store of the
builder (`Parameters.Follows`): each tells of one accepted write, and the value that a
write replaces stands right behind it.  The records of filters name the objects that were
taken for filters, with the bucket that each of them went to (`Routes`); those of
selections count the selectors, and those of requests give the sizes of the requests that
were handed out.  What is refused leaves no record.

`BuilderStep.records` lists what one step appends to the journal, and `journal_perform`
says that the steps do just that.  What the journal of a run tells (`Journaled`) follows
from it step by step.
-/
import TestDiscovery.Proofs.Building.Objects
import TestDiscovery.Proofs.Building.Runs
import Mathlib.Algebra.GroupWithZero.Nat
import Mathlib.Data.List.Induction

namespace TestDiscovery

set_option autoImplicit false

open TestDiscovery.Text Building

variable {ε δ α β : Type}

/-! ## Kinds of record -/

namespace LogRecord

/-- The key and the value of a write. -/
def write? : LogRecord → Option (String × String)
  | .parameterWritten key value => some (key, value)
  | _ => none

/-- The key and the value that a write replaced. -/
def replaced? : LogRecord → Option (String × String)
  | .parameterReplaced key previous => some (key, previous)
  | _ => none

/-- The bucket and the display of a filter object. -/
def routed? : LogRecord → Option (FilterKind × String)
  | .routed kind display => some (kind, display)
  | _ => none

/-- The number of selectors of a selection. -/
def selected? : LogRecord → Option Nat
  | .selected count => some count
  | _ => none

/-- The sizes of a request that was taken. -/
def built? : LogRecord → Option Counts
  | .built counts => some counts
  | _ => none

/-- The record tells of a parameter. -/
def ofParameter (r : LogRecord) : Bool := r.write?.isSome || r.replaced?.isSome

/-- A record of a parameter is of no other kind. -/
theorem readers_of_ofParameter {r : LogRecord} (h : r.ofParameter = true) :
    r.routed? = none ∧ r.selected? = none ∧ r.built? = none := by
  cases r with
  | parameterWritten key value => exact ⟨rfl, rfl, rfl⟩
  | parameterReplaced key previous => exact ⟨rfl, rfl, rfl⟩
  | _ => cases h

end LogRecord

/-! ## Records of parameters -/

namespace Parameters

/-- The records lead from one store to another.  A write is followed at once by the value that its
key had, if it had one, and no other record tells of a replaced value. -/
inductive Follows : Parameters → List LogRecord → Parameters → Prop where
  | nothing (ps : Parameters) : Follows ps [] ps
  | written {ps qs : Parameters} {key value : String} {rs : List LogRecord}
    (filled : isBlank key = false) (absent : ps.get? key = none)
    (rest : Follows (ps.put key value filled) rs qs) :
    Follows ps (.parameterWritten key value :: rs) qs
  | replaced {ps qs : Parameters} {key value previous : String} {rs : List LogRecord}
    (filled : isBlank key = false) (present : ps.get? key = some previous)
    (rest : Follows (ps.put key value filled) rs qs) :
    Follows ps (.parameterWritten key value :: .parameterReplaced key previous :: rs) qs
  | other {ps qs : Parameters} {r : LogRecord} {rs : List LogRecord}
    (unrelated : r.ofParameter = false) (rest : Follows ps rs qs) : Follows ps (r :: rs) qs

variable {ps qs : Parameters} {rs : List LogRecord}

theorem Follows.append (h : Follows ps rs qs) {others : List LogRecord} {last : Parameters}
    (k : Follows qs others last) : Follows ps (rs ++ others) last := by
  induction h with
  | nothing => exact k
  | written filled absent _ ih => exact .written filled absent (ih k)
  | replaced filled present _ ih => exact .replaced filled present (ih k)
  | other unrelated _ ih => exact .other unrelated (ih k)

theorem follows_of_unrelated (ps : Parameters) (h : ∀ r ∈ rs, r.ofParameter = false) :
    Follows ps rs ps := by
  induction rs with
  | nil => exact .nothing ps
  | cons r rs ih =>
      obtain ⟨first, rest⟩ := List.forall_mem_cons.1 h
      exact .other first (ih rest)

theorem size_put (ps : Parameters) {key : String} (value : String) (filled : isBlank key = false) :
    (ps.put key value filled).size = if (ps.get? key).isSome then ps.size else ps.size + 1 :=
  Dictionary.size_put ps.entries key value

/-- Every write either adds an entry or is on record as a replacement. -/
theorem Follows.size_eq (h : Follows ps rs qs) :
    (rs.filterMap LogRecord.write?).length + ps.size =
      (rs.filterMap LogRecord.replaced?).length + qs.size := by
  induction h with
  | nothing => rfl
  | written filled absent _ ih =>
      rw [size_put, absent] at ih
      simp only [List.filterMap_cons, LogRecord.write?, LogRecord.replaced?, List.length_cons,
        Option.isSome_none, Bool.false_eq_true, if_false] at ih ⊢
      omega
  | replaced filled present _ ih =>
      rw [size_put, present] at ih
      simp only [List.filterMap_cons, LogRecord.write?, LogRecord.replaced?, List.length_cons,
        Option.isSome_some, if_true] at ih ⊢
      omega
  | other unrelated _ ih =>
      obtain ⟨noWrite, noReplacement⟩ : _ ∧ _ := by
        simpa only [LogRecord.ofParameter, Bool.or_eq_false_iff, Option.isSome_eq_false_iff,
          Option.isNone_iff_eq_none] using unrelated
      rw [List.filterMap_cons_none noWrite, List.filterMap_cons_none noReplacement]
      exact ih

/-- The records of writes one after the other, from the store that they begin with. -/
def writeRecords : Parameters → List (String × String) → List LogRecord
  | _, [] => []
  | ps, w :: ws => .parameterWritten w.1 w.2 ::
      (((ps.get? w.1).map (.parameterReplaced w.1)).toList ++ (ps.write w).writeRecords ws)

theorem follows_writeRecords (ps : Parameters) {ws : List (String × String)}
    (h : ∀ w ∈ ws, isBlank w.1 = false) : Follows ps (ps.writeRecords ws) (ps.writeAll ws) := by
  induction ws generalizing ps with
  | nil => exact .nothing ps
  | cons w ws ih =>
      obtain ⟨filled, rest⟩ := List.forall_mem_cons.1 h
      have later := ih (ps.write w) rest
      rw [writeRecords, writeAll, List.foldl_cons, ← writeAll]
      cases before : ps.get? w.1 with
      | none => exact .written filled before (ps.write_of_not_isBlank filled ▸ later)
      | some previous => exact .replaced filled before (ps.write_of_not_isBlank filled ▸ later)

theorem filterMap_write?_writeRecords (ps : Parameters) (ws : List (String × String)) :
    (ps.writeRecords ws).filterMap LogRecord.write? = ws := by
  induction ws generalizing ps with
  | nil => rfl
  | cons w ws ih =>
      rw [writeRecords, List.filterMap_cons, List.filterMap_append, ih]
      cases ps.get? w.1 <;> rfl

theorem ofParameter_of_mem_writeRecords {ps : Parameters} {ws : List (String × String)}
    {r : LogRecord} (h : r ∈ ps.writeRecords ws) : r.ofParameter = true := by
  induction ws generalizing ps with
  | nil => cases h
  | cons w ws ih =>
      rw [writeRecords, List.mem_cons, List.mem_append] at h
      rcases h with rfl | replaced | later
      · rfl
      · obtain ⟨previous, -, rfl⟩ := by simpa using replaced
        rfl
      · exact ih later

/-- Records of writes are of no other kind. -/
theorem readers_writeRecords (ps : Parameters) (ws : List (String × String)) :
    (ps.writeRecords ws).filterMap LogRecord.routed? = [] ∧
    (ps.writeRecords ws).filterMap LogRecord.selected? = [] ∧
    (ps.writeRecords ws).filterMap LogRecord.built? = [] := by
  have readers := fun r (hr : r ∈ ps.writeRecords ws) =>
    LogRecord.readers_of_ofParameter (ofParameter_of_mem_writeRecords hr)
  exact ⟨List.filterMap_eq_nil_iff.2 fun r hr => (readers r hr).1,
    List.filterMap_eq_nil_iff.2 fun r hr => (readers r hr).2.1,
    List.filterMap_eq_nil_iff.2 fun r hr => (readers r hr).2.2⟩

end Parameters

/-! ## What steps append to the journal -/

namespace Building

/-- The step leaves no record. -/
def Silent (step : Building ε α) : Prop := ∀ b, (step.run b).2.journal = b.journal

/-- From whatever builder it starts, the step records the writes. -/
def RecordsWrites (step : Building ε α) (ws : List (String × String)) : Prop :=
  ∀ b, (step.run b).2.journal = b.journal ++ b.contents.parameters.writeRecords ws

theorem silent_ofExcept (result : Except ε α) : Silent (ofExcept result) := by
  cases result with
  | ok x => exact fun _ => rfl
  | error e => exact fun _ => rfl

theorem silent_store (f : Filter) : Silent (store f : Building ε Unit) := fun _ => rfl

theorem Silent.bind {step : Building ε α} {next : α → Building ε β} (first : Silent step)
    (second : ∀ x, Silent (next x)) : Silent (step >>= next) := by
  intro b
  have before := first b
  rw [run_bind]
  rcases done : step.run b with ⟨_ | x, after⟩
  · rwa [done] at before
  · rw [done] at before
    exact (second x after).trans before

theorem silent_forM {step : β → Building ε Unit} (h : ∀ x, Silent (step x)) (xs : List β) :
    Silent (xs.forM step) := by
  induction xs with
  | nil => exact fun _ => rfl
  | cons x xs ih => exact (h x).bind fun _ => ih

theorem silent_applyEngine (id : String) : Silent (Config.applyEngine id) :=
  (silent_ofExcept _).bind fun _ => silent_store _

theorem silent_applyTags (mode : FilterMode) (tags : List String) :
    Silent (Config.applyTags mode tags) := by
  unfold Config.applyTags
  split
  · exact fun _ => rfl
  · exact (silent_ofExcept _).bind fun _ => silent_store _

/-- A refused write ends a list of writes without a record. -/
theorem recordsWrites_setParameters (pairs : List (String × String)) :
    RecordsWrites (setParameters pairs) (accepted pairs) := by
  induction pairs with
  | nil => exact fun b => (List.append_nil b.journal).symm
  | cons w rest ih =>
      intro b
      show ((setParameter w.1 w.2 >>= fun _ => setParameters rest).run b).2.journal = _
      cases h : isBlank w.1 with
      | true =>
          have none_ : accepted (w :: rest) = [] := List.takeWhile_cons_of_neg (by simp [h])
          have refused := run_setParameter_of_isBlank w.2 h b
          rw [run_bind_of_error (congrArg Prod.fst refused), refused, none_,
            Parameters.writeRecords, List.append_nil]
      | false =>
          have kept : accepted (w :: rest) = w :: accepted rest :=
            List.takeWhile_cons_of_pos (by simp [h])
          have done := run_setParameter w.2 h b
          rw [run_bind_of_ok (congrArg Prod.fst done), ih, done, kept, Parameters.writeRecords,
            Parameters.write_of_not_isBlank _ h]
          simp [Request.withParameters]

/-- Stages that only add filters leave no record, and at a fault they are the last. -/
theorem RecordsWrites.after_filters {step : Building ε Unit} {rest : Building ε α}
    {faults : List ε} {filters : List Filter} {c : Additions} (silent : Silent step)
    (first : Adds step faults (fun _ => ()) (.ofFilters filters))
    (second : RecordsWrites rest c.writes) :
    RecordsWrites (do step; rest) (Additions.ofFilters filters ++ c.barring faults).writes := by
  intro b
  rw [Additions.writes_ofFilters_append]
  cases faults with
  | nil =>
      rw [run_bind_of_ok (first.answers b), second, silent, first.leaves]
      rfl
  | cons e faults =>
      rw [run_bind_of_error (first.answers b), silent]
      exact (List.append_nil b.journal).symm

theorem recordsWrites_apply (c : Config) : RecordsWrites c.apply c.additions.writes := by
  have stages : RecordsWrites c.applyParts c.additions.writes :=
    .after_filters (silent_forM silent_applyEngine _) (Config.adds_applyEngines c.engines)
      (.after_filters (silent_applyTags _ _) (Config.adds_applyTags .include c.includeTags)
        (.after_filters (silent_applyTags _ _) (Config.adds_applyTags .exclude c.excludeTags)
          (recordsWrites_setParameters c.parameters.toList)))
  exact stages

end Building

/-! ## Objects that are taken for filters -/

/-- The number of filters in the bucket of a kind. -/
def Request.bucketSize (r : Request) : FilterKind → Nat
  | .engine => r.engineFilters.length
  | .discovery => r.discoveryFilters.length
  | .postDiscovery => r.postDiscoveryFilters.length

theorem Request.bucketSize_withFilter (r : Request) (f : Filter) (kind : FilterKind) :
    (r.withFilter f).bucketSize kind = r.bucketSize kind + if kind = f.kind then 1 else 0 := by
  cases f <;> cases kind <;> simp [withFilter, bucketSize, Filter.kind]

/-- Objects lead from one builder to another.  An object that is taken for a filter is recorded
with the bucket of its kind, which grows by one while the others stay as they are; one that can
act as nothing is the last, and leaves no record. -/
inductive Routes : List FilterObject → Builder → Builder → Prop where
  | done (b : Builder) : Routes [] b b
  | refused {o : FilterObject} {objects : List FilterObject} (b : Builder)
    (nothing : o.ActsAsNothing) : Routes (o :: objects) b b
  | taken {o : FilterObject} {f : Filter} {objects : List FilterObject} {b next after : Builder}
    (first : o.TakenFor f)
    (recorded : next.journal = b.journal ++ [.routed f.kind f.display])
    (grown : ∀ kind, next.contents.bucketSize kind =
      b.contents.bucketSize kind + if kind = f.kind then 1 else 0)
    (rest : Routes objects next after) : Routes (o :: objects) b after

/-- The records name the filters that the objects are taken for, in order. -/
theorem Routes.journal_eq {objects : List FilterObject} {b after : Builder}
    (h : Routes objects b after) :
    after.journal = b.journal ++ (classified objects).map fun f => .routed f.kind f.display := by
  induction h with
  | done b => exact (List.append_nil b.journal).symm
  | @refused o objects b nothing =>
      have none_ : classified (o :: objects) = [] := by simp [classified, nothing.filter?_eq]
      rw [none_]
      exact (List.append_nil b.journal).symm
  | @taken o f objects b next after first recorded grown rest ih =>
      have some_ : classified (o :: objects) = f :: classified objects := by
        simp [classified, first.filter?_eq]
      rw [ih, recorded, some_, List.append_assoc]
      rfl

theorem routes_filterObjects (objects : List FilterObject) (b : Builder) :
    Routes objects b ((filterObjects objects).run b).2 := by
  induction objects generalizing b with
  | nil => exact .done b
  | cons o objects ih =>
      have unfolded : (filterObjects (o :: objects)).run b =
          (filterObject o >>= fun _ => filterObjects objects).run b := rfl
      rw [unfolded]
      rcases o.takenFor_or_actsAsNothing with ⟨f, first⟩ | nothing
      · have done : (filterObject o).run b =
            (.ok (), (b.note (.routed f.kind f.display)).store f) := by
          rw [filterObject, FilterObject.classify, first.filter?_eq]
          rfl
        rw [run_bind_of_ok (congrArg Prod.fst done), done]
        exact .taken first rfl (b.contents.bucketSize_withFilter f) (ih _)
      · have refused : (filterObject o).run b = (.error .unclassifiableFilter, b) := by
          rw [filterObject, FilterObject.classify, nothing.filter?_eq]
          rfl
        rw [run_bind_of_error (congrArg Prod.fst refused), refused]
        exact .refused b nothing

/-! ## What a step records -/

namespace BuilderStep

/-- The filters that the objects of the step are taken for. -/
def routed : BuilderStep α → List Filter
  | .filterObjects objects => classified objects
  | _ => []

/-- What the step appends to the journal of a builder that holds the request. -/
def records (r : Request) : BuilderStep α → List LogRecord
  | .select selectors => [.selected selectors.length]
  | .filterObjects objects => (classified objects).map fun f => .routed f.kind f.display
  | .build | .query none _ => [.built r.counts]
  | s => r.parameters.writeRecords s.additions.writes

theorem run_done (step : Building LaunchFault Unit) (b : Builder) :
    ((do step; return .done : Building LaunchFault (Reply α)).run b).2 = (step.run b).2 := by
  rw [run_map step (fun _ => (Reply.done : Reply α))]

/-- **Whatever a step answers, it appends its records to the journal.** -/
theorem journal_perform (s : BuilderStep α) (recorded : List Request) (b : Builder) :
    ((s.perform recorded).run b).2.journal = b.journal ++ s.records b.contents := by
  cases s with
  | select selectors => rfl
  | filter filters =>
      have silent : Silent (Building.filter filters : Building LaunchFault Unit) :=
        silent_forM silent_store filters
      rw [perform, run_done, silent]
      exact (List.append_nil b.journal).symm
  | filterObjects objects =>
      rw [perform, run_done]
      exact (routes_filterObjects objects b).journal_eq
  | setParameter key value =>
      rw [perform, run_done, ← setParameters_singleton]
      exact recordsWrites_setParameters [(key, value)] b
  | setParameters pairs =>
      rw [perform, run_done]
      exact recordsWrites_setParameters pairs b
  | applyConfig c =>
      rw [perform, run_done]
      exact recordsWrites_apply c b
  | build => rfl
  | query number ask =>
      cases number with
      | none => rfl
      | some i =>
          rw [perform]
          split <;> exact (List.append_nil b.journal).symm
  | clone => exact (List.append_nil b.journal).symm

/-! ## Records of each kind -/

/-- The step takes the request so far. -/
def takes : BuilderStep α → Bool
  | .build | .query none _ => true
  | _ => false

/-- What each kind of record tells of the step. -/
structure Told (s : BuilderStep α) (r : Request) (rs : List LogRecord) : Prop where
  writes : rs.filterMap LogRecord.write? = s.additions.writes
  routed : rs.filterMap LogRecord.routed? = s.routed.map fun f => (f.kind, f.display)
  selected : (rs.filterMap LogRecord.selected?).sum = s.selected.length
  built : rs.filterMap LogRecord.built? = if s.takes then [r.counts] else []

theorem told_writeRecords {s : BuilderStep α} {r : Request} (routed : s.routed = [])
    (selected : s.selected = []) (takes : s.takes = false) :
    s.Told r (r.parameters.writeRecords s.additions.writes) := by
  obtain ⟨noObject, noSelection, noRequest⟩ :=
    r.parameters.readers_writeRecords s.additions.writes
  constructor
  case writes => exact Parameters.filterMap_write?_writeRecords _ _
  case routed => rw [noObject, routed, List.map_nil]
  case selected => rw [noSelection, selected, List.sum_nil, List.length_nil]
  case built => rw [noRequest, takes, if_neg (by decide)]

theorem told_records (s : BuilderStep α) (r : Request) : s.Told r (s.records r) := by
  cases s with
  | select selectors => exact ⟨rfl, rfl, List.sum_singleton, rfl⟩
  | filterObjects objects =>
      constructor <;>
        simp [records, additions, Additions.ofFilters, routed, selected, takes, Function.comp_def,
          LogRecord.write?, LogRecord.routed?, LogRecord.selected?, LogRecord.built?]
  | build => exact ⟨rfl, rfl, rfl, rfl⟩
  | query number ask =>
      cases number with
      | none => exact ⟨rfl, rfl, rfl, rfl⟩
      | some i => exact told_writeRecords rfl rfl rfl
  | _ => exact told_writeRecords rfl rfl rfl

/-- The records of a step lead to the parameters that it leaves. -/
theorem follows_records (s : BuilderStep α) (r : Request) :
    Parameters.Follows r.parameters (s.records r) (r.extended s.additions).parameters := by
  have unrelated : ∀ {rs : List LogRecord}, (∀ x ∈ rs, x.ofParameter = false) →
      Parameters.Follows r.parameters rs r.parameters :=
    Parameters.follows_of_unrelated r.parameters
  have writes : Parameters.Follows r.parameters (r.parameters.writeRecords s.additions.writes)
      (r.extended s.additions).parameters :=
    r.parameters.follows_writeRecords fun w => not_isBlank_of_mem_writes
  cases s with
  | select selectors => exact unrelated (List.forall_mem_singleton.2 rfl)
  | filterObjects objects => exact unrelated (List.forall_mem_map.2 fun f _ => rfl)
  | build => exact unrelated (List.forall_mem_singleton.2 rfl)
  | query number ask =>
      cases number with
      | none => exact unrelated (List.forall_mem_singleton.2 rfl)
      | some i => exact writes
  | _ => exact writes

/-- Writes and selections are recorded at the finest level, all else one above it. -/
theorem level_of_mem_records {s : BuilderStep α} {r : Request} {x : LogRecord}
    (h : x ∈ s.records r) :
    x.level = if x.write?.isSome || x.selected?.isSome then .trace else .debug := by
  have parameter : x.ofParameter = true →
      x.level = if x.write?.isSome || x.selected?.isSome then .trace else .debug := by
    intro told
    cases x with
    | parameterWritten key value => rfl
    | parameterReplaced key previous => rfl
    | _ => cases told
  cases s with
  | select selectors =>
      cases List.mem_singleton.1 h
      rfl
  | filterObjects objects =>
      obtain ⟨f, -, rfl⟩ := List.mem_map.1 h
      rfl
  | build =>
      cases List.mem_singleton.1 h
      rfl
  | query number ask =>
      cases number with
      | none =>
          cases List.mem_singleton.1 h
          rfl
      | some i => exact parameter (Parameters.ofParameter_of_mem_writeRecords h)
  | _ => exact parameter (Parameters.ofParameter_of_mem_writeRecords h)

/-- The step takes the request and answers with it, or with what it is asked. -/
inductive HandsOut (r : Request) : BuilderStep α → Reply α → Prop where
  | build : HandsOut r .build (.built r)
  | query (ask : Request → α) : HandsOut r (.query none ask) (.answered (ask r))

theorem exists_handsOut {s : BuilderStep α} (h : s.takes = true) (recorded : List Request)
    (b : Builder) :
    ∃ reply, ((s.perform recorded).run b).1 = .ok reply ∧ s.HandsOut b.contents reply := by
  cases s with
  | build => exact ⟨_, rfl, .build⟩
  | query number ask =>
      cases number with
      | none => exact ⟨_, rfl, .query ask⟩
      | some i => cases h
  | _ => cases h

theorem HandsOut.records_eq {s : BuilderStep α} {r : Request} {reply : Reply α}
    (h : s.HandsOut r reply) : s.records r = [.built r.counts] := by
  cases h with
  | build => rfl
  | query ask => rfl

end BuilderStep

/-! ## What a run records -/

namespace BuilderRun

theorem journal_append_singleton (steps : List (BuilderStep α)) (s : BuilderStep α) :
    (ofSteps (steps ++ [s])).builder.journal =
      (ofSteps steps).builder.journal ++ s.records (ofSteps steps).builder.contents := by
  rw [ofSteps_append]
  exact s.journal_perform _ _

theorem contents_append_singleton (steps : List (BuilderStep α)) (s : BuilderStep α) :
    (ofSteps (steps ++ [s])).builder.contents =
      (ofSteps steps).builder.contents.extended s.additions := by
  rw [ofSteps_append]
  exact s.contents_perform _ _

theorem follows_journal (steps : List (BuilderStep α)) :
    Parameters.Follows .empty (ofSteps steps).builder.journal
      (ofSteps steps).builder.contents.parameters := by
  induction steps using List.reverseRecOn with
  | nil => exact .nothing .empty
  | append_singleton steps s ih =>
      rw [journal_append_singleton, contents_append_singleton]
      exact ih.append (s.follows_records _)

/-- Records of a kind that does not depend on the request stand in the journal step by step. -/
theorem filterMap_journal {read : LogRecord → Option β} {told : BuilderStep α → List β}
    (h : ∀ s r, (s.records r).filterMap read = told s) (steps : List (BuilderStep α)) :
    (ofSteps steps).builder.journal.filterMap read = steps.flatMap told := by
  induction steps using List.reverseRecOn with
  | nil => rfl
  | append_singleton steps s ih =>
      rw [journal_append_singleton, List.filterMap_append, ih, h, List.flatMap_append,
        List.flatMap_singleton]

theorem forall_mem_journal {p : LogRecord → Prop}
    (h : ∀ (s : BuilderStep α) r, ∀ x ∈ s.records r, p x) (steps : List (BuilderStep α)) :
    ∀ x ∈ (ofSteps steps).builder.journal, p x := by
  induction steps using List.reverseRecOn with
  | nil => exact nofun
  | append_singleton steps s ih =>
      rw [journal_append_singleton, List.forall_mem_append]
      exact ⟨ih, h s _⟩

theorem sum_selected_journal (steps : List (BuilderStep α)) :
    ((ofSteps steps).builder.journal.filterMap LogRecord.selected?).sum =
      (ofSteps steps).builder.contents.selectors.length := by
  induction steps using List.reverseRecOn with
  | nil => rfl
  | append_singleton steps s ih =>
      have more := (s.told_records (ofSteps steps).builder.contents).selected
      rw [journal_append_singleton, contents_append_singleton, List.filterMap_append,
        List.sum_append, ih, more, ← s.selectors_additions]
      exact List.length_append.symm

theorem length_built_journal (steps : List (BuilderStep α)) :
    ((ofSteps steps).builder.journal.filterMap LogRecord.built?).length =
      steps.countP BuilderStep.takes := by
  induction steps using List.reverseRecOn with
  | nil => rfl
  | append_singleton steps s ih =>
      have more := (s.told_records (ofSteps steps).builder.contents).built
      rw [journal_append_singleton, List.filterMap_append, List.length_append, ih, more,
        List.countP_append, List.countP_singleton]
      split <;> rfl

/-- An element of two joined lists stands in the first or in the second. -/
theorem append_eq_append_cons {xs ys front rest : List β} {x : β}
    (h : xs ++ ys = front ++ x :: rest) :
    (∃ more, xs = front ++ x :: more) ∨ ∃ more, front = xs ++ more ∧ ys = more ++ x :: rest := by
  rcases List.append_eq_append_iff.1 h with ⟨more, before, after⟩ | ⟨more, before, after⟩
  · exact .inr ⟨more, before, after⟩
  · cases more with
    | nil => exact .inr ⟨[], by simpa using before.symm, after.symm⟩
    | cons y more =>
        obtain ⟨rfl, -⟩ := List.cons.inj after
        exact .inl ⟨more, before⟩

/-- A record of a request was left by a step that took the request. -/
theorem exists_step_of_built {steps : List (BuilderStep α)} {front rest : List LogRecord}
    {c : Counts} (h : (ofSteps steps).builder.journal = front ++ .built c :: rest) :
    ∃ earlier s later reply, steps = earlier ++ s :: later ∧
      (ofSteps earlier).builder.journal = front ∧
      replyTo earlier s later = some (.ok reply) ∧
      s.HandsOut (ofSteps earlier).builder.contents reply ∧
      c = (ofSteps earlier).builder.contents.counts := by
  induction steps using List.reverseRecOn generalizing rest with
  | nil => simp [ofSteps, start, Builder.empty] at h
  | append_singleton steps s ih =>
      rw [journal_append_singleton] at h
      rcases append_eq_append_cons h with ⟨more, before⟩ | ⟨more, rfl, now⟩
      · obtain ⟨earlier, t, later, reply, rfl, journal, replied, taken, sizes⟩ := ih before
        refine ⟨earlier, t, later ++ [s], reply, by simp, journal, ?_, taken, sizes⟩
        rwa [replyTo_eq] at replied ⊢
      · have told := (s.told_records (ofSteps steps).builder.contents).built
        cases takes : s.takes with
        | false => simp [now, takes, LogRecord.built?] at told
        | true =>
            obtain ⟨reply, answered, taken⟩ := BuilderStep.exists_handsOut takes
              (ofSteps steps).requests (ofSteps steps).builder
            rw [taken.records_eq, List.singleton_eq_append_iff] at now
            obtain ⟨rfl, rfl, -⟩ : more = [] ∧ c = (ofSteps steps).builder.contents.counts ∧
                rest = [] := by simpa using now
            exact ⟨steps, s, [], reply, rfl, (List.append_nil _).symm,
              (replyTo_eq steps s []).trans (congrArg some answered), taken, rfl⟩

/-- The journal of a run tells what was done in it. -/
structure Journaled (steps : List (BuilderStep α)) (b : Builder) : Prop where
  /-- The writes on record are those that were accepted, in order. -/
  writes : b.journal.filterMap LogRecord.write? = written steps
  /-- Each of them is followed at once by the value that its key had just before, if it had one. -/
  parameters : Parameters.Follows .empty b.journal b.contents.parameters
  size : (b.journal.filterMap LogRecord.write?).length =
    (b.journal.filterMap LogRecord.replaced?).length + b.contents.parameters.size
  /-- The objects on record are those that were taken for filters, in order. -/
  routed : b.journal.filterMap LogRecord.routed? =
    (steps.flatMap BuilderStep.routed).map fun f => (f.kind, f.display)
  /-- Each of them is recorded as it is stored, with the bucket that it makes grow. -/
  routes : ∀ earlier objects later, steps = earlier ++ .filterObjects objects :: later →
    Routes objects (ofSteps earlier).builder
      (ofSteps (earlier ++ [.filterObjects objects])).builder
  selected : (b.journal.filterMap LogRecord.selected?).sum = b.contents.selectors.length
  /-- A record of a request gives the sizes of the request that was handed out then. -/
  built : ∀ front c rest, b.journal = front ++ .built c :: rest →
    ∃ earlier s later r reply, steps = earlier ++ s :: later ∧
      (ofSteps earlier).builder.journal = front ∧
      replyTo earlier s later = some (.ok reply) ∧ s.HandsOut r reply ∧
      c = ⟨r.selectors.length, r.engineFilters.length, r.discoveryFilters.length,
        r.postDiscoveryFilters.length, r.parameters.size⟩
  /-- Every request that is handed out is on record. -/
  taken : (b.journal.filterMap LogRecord.built?).length = steps.countP BuilderStep.takes
  /-- Writes and selections are recorded at the finest level, all else one above it. -/
  levels : ∀ x ∈ b.journal,
    x.level = if x.write?.isSome || x.selected?.isSome then .trace else .debug

/-- **The journal of a run is an exact account of it**, whichever of its steps failed. -/
theorem journal_tells_run (steps : List (BuilderStep α)) :
    Journaled steps (ofSteps steps).builder := by
  have follows := follows_journal steps
  constructor
  case writes => exact filterMap_journal (fun s r => (s.told_records r).writes) steps
  case parameters => exact follows
  case size => exact follows.size_eq
  case routed =>
    rw [filterMap_journal (fun s r => (s.told_records r).routed) steps, List.map_flatMap]
  case routes =>
    intro earlier objects later _
    have next : (ofSteps (earlier ++ [.filterObjects objects])).builder =
        ((filterObjects objects).run (ofSteps earlier).builder).2 := by
      rw [ofSteps_append]
      exact BuilderStep.run_done (widen LaunchFault.request (filterObjects objects)) _
    rw [next]
    exact routes_filterObjects objects (ofSteps earlier).builder
  case selected => exact sum_selected_journal steps
  case built =>
    intro front c rest here
    obtain ⟨earlier, s, later, reply, split, before, replied, handed, sizes⟩ :=
      exists_step_of_built here
    exact ⟨earlier, s, later, _, reply, split, before, replied, handed, sizes⟩
  case taken => exact length_built_journal steps
  case levels => exact forall_mem_journal (fun s r x => BuilderStep.level_of_mem_records) steps

-- A write that is refused ends its list, and the value that a later write replaces is on record.
example :
    let steps : List (BuilderStep Unit) :=
      [.setParameters [("a", "1"), ("\u3000", "x"), ("b", "2")], .setParameter "a" "3"]
    (ofSteps steps).builder.journal =
      [.parameterWritten "a" "1", .parameterWritten "a" "3", .parameterReplaced "a" "1"] := by
  rfl

end BuilderRun

end TestDiscovery
