/-
# TestDiscovery.Proofs.Building.Contract -- what each step answers and adds

`Building.Adds` is the contract of a step: the faults that it can find, of which it
reports the first (`firstFault`), its answer when there are none, and its additions.
Only the answer may depend on the request so far.  The rules for contracts follow
the ways in which steps are put together; after them stands one contract for each
step of a builder, so that nothing later has to open a step.

Two rules carry the rest.  A step after faults adds nothing (`Adds.bind`), and of a
list everything before the first refused element is added (`adds_forM`).
-/
import TestDiscovery.Proofs.Building.Additions
import Mathlib.Data.List.Basic
import Mathlib.Data.List.TakeWhile

namespace TestDiscovery

set_option autoImplicit false

open TestDiscovery.Text

variable {ε δ α β : Type}

/-! ## Faults -/

/-- The first fault, or else the answer. -/
def firstFault : List ε → α → Except ε α
  | [], x => .ok x
  | e :: _, _ => .error e

theorem firstFault_eq_error_iff {faults : List ε} {x : α} {e : ε} :
    firstFault faults x = .error e ↔ faults.head? = some e := by
  cases faults with
  | nil => simp [firstFault]
  | cons f faults => simp [firstFault]

theorem firstFault_eq_ok_iff {faults : List ε} {x y : α} :
    firstFault faults x = .ok y ↔ faults = [] ∧ x = y := by
  cases faults with
  | nil => simp [firstFault]
  | cons f faults => simp [firstFault]

theorem firstFault_congr {faults : List ε} {x y : α} (h : faults = [] → x = y) :
    firstFault faults x = firstFault faults y := by
  cases faults with
  | nil => rw [h rfl]
  | cons e faults => rfl

theorem mapError_firstFault (f : ε → δ) (faults : List ε) (x : α) :
    (firstFault faults x).mapError f = firstFault (faults.map f) x := by
  cases faults with
  | nil => rfl
  | cons e faults => rfl

/-- The faults of the elements that are not accepted. -/
def refusals (accepts : β → Bool) (fault : β → ε) (xs : List β) : List ε :=
  (xs.filter fun x => !accepts x).map fault

theorem refusals_cons_of_accepts {accepts : β → Bool} {x : β} (h : accepts x = true)
    (fault : β → ε) (xs : List β) :
    refusals accepts fault (x :: xs) = refusals accepts fault xs := by
  simp [refusals, h]

theorem refusals_cons_of_not_accepts {accepts : β → Bool} {x : β} (h : accepts x = false)
    (fault : β → ε) (xs : List β) :
    refusals accepts fault (x :: xs) = fault x :: refusals accepts fault xs := by
  simp [refusals, h]

theorem refusals_eq_nil_iff {accepts : β → Bool} {fault : β → ε} {xs : List β} :
    refusals accepts fault xs = [] ↔ ∀ x ∈ xs, accepts x = true := by
  simp [refusals]

/-- Without refusals everything comes before the first refused element. -/
theorem takeWhile_of_refusals_eq_nil {accepts : β → Bool} {fault : β → ε} {xs : List β}
    (h : refusals accepts fault xs = []) : xs.takeWhile accepts = xs :=
  List.takeWhile_eq_self_iff.2 (refusals_eq_nil_iff.1 h)

/-- Either all elements are accepted, or there is a first that is refused. -/
theorem accepted_or_split (accepts : β → Bool) (xs : List β) :
    (∀ x ∈ xs, accepts x = true) ∨
      ∃ front x rest, xs = front ++ x :: rest ∧ (∀ y ∈ front, accepts y = true) ∧
        accepts x = false := by
  cases found : xs.find? fun x => !accepts x with
  | none => exact .inl (by simpa using List.find?_eq_none.1 found)
  | some x =>
      obtain ⟨refused, front, rest, split, before⟩ := List.find?_eq_some_iff_append.1 found
      exact .inr ⟨front, x, rest, split, by simpa using before, by simpa using refused⟩

theorem refusals_split {accepts : β → Bool} {front : List β} {x : β}
    (good : ∀ y ∈ front, accepts y = true) (bad : accepts x = false) (fault : β → ε)
    (rest : List β) :
    refusals accepts fault (front ++ x :: rest) = fault x :: refusals accepts fault rest := by
  induction front with
  | nil => exact refusals_cons_of_not_accepts bad fault rest
  | cons y front ih =>
      obtain ⟨first, others⟩ := List.forall_mem_cons.1 good
      rw [List.cons_append, refusals_cons_of_accepts first, ih others]

theorem takeWhile_split {accepts : β → Bool} {front : List β} {x : β}
    (good : ∀ y ∈ front, accepts y = true) (bad : accepts x = false) (rest : List β) :
    (front ++ x :: rest).takeWhile accepts = front := by
  rw [List.takeWhile_append_of_pos good, List.takeWhile_cons_of_neg (by simp [bad]),
    List.append_nil]

/-- The additions, unless there are faults. -/
def Additions.barring (a : Additions) : List ε → Additions
  | [] => a
  | _ :: _ => .nothing

theorem Additions.mem_writes_of_barring {a : Additions} {faults : List ε} {w : String × String}
    (h : w ∈ (a.barring faults).writes) : w ∈ a.writes := by
  cases faults with
  | nil => exact h
  | cons e faults => cases h

namespace Building

/-! ## Putting steps together -/

/-- From whatever builder it starts, the step finds the faults, and it leaves the request with
the additions. -/
structure Adds (step : Building ε α) (faults : List ε) (answer : Request → α)
    (added : Additions) : Prop where
  answers : ∀ b, (step.run b).1 = firstFault faults (answer b.contents)
  leaves : ∀ b, (step.run b).2.contents = b.contents.extended added

theorem run_bind (step : Building ε α) (next : α → Building ε β) (b : Builder) :
    (step >>= next).run b =
      match step.run b with
      | (.ok x, after) => (next x).run after
      | (.error e, after) => (.error e, after) := by
  show (ExceptT.run (step >>= next)) b = _
  rw [ExceptT.run_bind]
  simp only [bind, StateT.bind]
  rcases (ExceptT.run step) b with ⟨_ | x, after⟩ <;> rfl

theorem run_bind_of_ok {step : Building ε α} {b : Builder} {x : α} (h : (step.run b).1 = .ok x)
    (next : α → Building ε β) : (step >>= next).run b = (next x).run (step.run b).2 := by
  rw [run_bind]
  rcases done : step.run b with ⟨_ | y, after⟩
  · rw [done] at h
    cases h
  · rw [done] at h
    cases h
    rfl

theorem run_bind_of_error {step : Building ε α} {b : Builder} {e : ε}
    (h : (step.run b).1 = .error e) (next : α → Building ε β) :
    (step >>= next).run b = (.error e, (step.run b).2) := by
  rw [run_bind]
  rcases done : step.run b with ⟨_ | y, after⟩
  · rw [done] at h
    cases h
    rfl
  · rw [done] at h
    cases h

theorem run_map (step : Building ε α) (f : α → β) (b : Builder) :
    (do return f (← step) : Building ε β).run b = ((step.run b).1.map f, (step.run b).2) := by
  rw [run_bind]
  rcases step.run b with ⟨_ | _, _⟩ <;> rfl

theorem adds_pure (x : α) : Adds (pure x : Building ε α) [] (fun _ => x) .nothing :=
  ⟨fun _ => rfl, fun b => (Request.extended_nothing b.contents).symm⟩

theorem adds_ofExcept_firstFault (faults : List ε) (x : α) :
    Adds (ofExcept (firstFault faults x)) faults (fun _ => x) .nothing := by
  cases faults with
  | nil => exact adds_pure x
  | cons e faults => exact ⟨fun _ => rfl, fun b => (Request.extended_nothing b.contents).symm⟩

/-- **One step after the other: their faults in order, and nothing is added after faults.** -/
theorem Adds.bind {step : Building ε α} {next : α → Building ε β} {x : α} {faults : List ε}
    {others : α → List ε} {answer : α → Request → β} {a : Additions} {c : α → Additions}
    (first : Adds step faults (fun _ => x) a)
    -- For all `y`: only so can the contract of `next` be found by unification.
    (second : ∀ y, Adds (next y) (others y) (answer y) (c y)) :
    Adds (step >>= next) (faults ++ others x) (fun r => answer x (r.extended a))
      (a ++ (c x).barring faults) := by
  cases faults with
  | nil =>
      have run := fun b => run_bind_of_ok (first.answers b) next
      constructor
      · intro b
        rw [run, (second x).answers, first.leaves, List.nil_append]
      · intro b
        rw [run, (second x).leaves, first.leaves, Additions.barring, Request.extended_append]
  | cons e faults =>
      have run := fun b => run_bind_of_error (first.answers b) next
      constructor
      · intro b
        rw [run, List.cons_append, firstFault]
      · intro b
        rw [run, first.leaves, Additions.barring, Additions.append_nothing]

theorem Adds.seq {step : Building ε Unit} {rest : Building ε β} {answer : Request → β}
    {faults others : List ε} {a c : Additions} (first : Adds step faults (fun _ => ()) a)
    (second : Adds rest others answer c) :
    Adds (do step; rest) (faults ++ others) (fun r => answer (r.extended a))
      (a ++ c.barring faults) :=
  first.bind fun _ => second

theorem Adds.widen {step : Building δ α} {faults : List δ} {answer : Request → α} {a : Additions}
    (h : Adds step faults answer a) (f : δ → ε) :
    Adds (Building.widen f step) (faults.map f) answer a := by
  have run : ∀ b, (Building.widen f step).run b = ((step.run b).1.mapError f, (step.run b).2) :=
    fun _ => rfl
  constructor
  · intro b
    rw [run, h.answers, mapError_firstFault]
  · intro b
    rw [run, h.leaves]

/-- **A list is added up to its first refused element.** -/
theorem adds_forM {step : β → Building ε Unit} {accepts : β → Bool} {fault : β → ε}
    {added : β → Additions}
    (good : ∀ x, accepts x = true → Adds (step x) [] (fun _ => ()) (added x))
    (bad : ∀ x, accepts x = false → Adds (step x) [fault x] (fun _ => ()) .nothing)
    (xs : List β) :
    Adds (xs.forM step) (refusals accepts fault xs) (fun _ => ())
      (.total ((xs.takeWhile accepts).map added)) := by
  induction xs with
  | nil => exact adds_pure ()
  | cons x xs ih =>
      cases h : accepts x with
      | true =>
          rw [refusals_cons_of_accepts h, List.takeWhile_cons_of_pos h, List.map_cons,
            Additions.total_cons]
          exact (good x h).seq ih
      | false =>
          rw [refusals_cons_of_not_accepts h, List.takeWhile_cons_of_neg (by simp [h])]
          exact (bad x h).seq ih

/-! ## Steps that only look -/

/-- The step comes to the result and leaves the request as it is. -/
structure Finds (step : Building ε α) (result : Except ε α) : Prop where
  answers : ∀ b, (step.run b).1 = result
  leaves : ∀ b, (step.run b).2.contents = b.contents

theorem finds_ofExcept (result : Except ε α) : Finds (ofExcept result) result := by
  cases result with
  | ok x => exact ⟨fun _ => rfl, fun _ => rfl⟩
  | error e => exact ⟨fun _ => rfl, fun _ => rfl⟩

theorem finds_note (r : LogRecord) : Finds (note r : Building ε Unit) (.ok ()) :=
  ⟨fun _ => rfl, fun _ => rfl⟩

theorem Finds.bind {step : Building ε α} {next : α → Building ε β} {x : α} {result : Except ε β}
    (first : Finds step (.ok x)) (second : Finds (next x) result) :
    Finds (step >>= next) result := by
  have run := fun b => run_bind_of_ok (first.answers b) next
  constructor
  · intro b
    rw [run, second.answers]
  · intro b
    rw [run, second.leaves, first.leaves]

theorem finds_forM {step : β → Building ε Unit} (h : ∀ x, Finds (step x) (.ok ())) (xs : List β) :
    Finds (xs.forM step) (.ok ()) := by
  induction xs with
  | nil => exact finds_ofExcept (.ok ())
  | cons x xs ih => exact (h x).bind ih

theorem Finds.adds {step : Building ε α} {x : α} (h : Finds step (.ok x)) :
    Adds step [] (fun _ => x) .nothing := by
  constructor
  · intro b
    rw [h.answers, firstFault]
  · intro b
    rw [h.leaves, Request.extended_nothing]

/-- What is not found is reported at once. -/
theorem Finds.refused {step : Building ε α} {e : ε} (h : Finds step (.error e))
    (next : α → Building ε β) (answer : Request → β) :
    Adds (step >>= next) [e] answer .nothing := by
  have run := fun b => run_bind_of_error (h.answers b) next
  constructor
  · intro b
    rw [run, firstFault]
  · intro b
    rw [run, h.leaves, Request.extended_nothing]

theorem Finds.widen {step : Building δ α} {result : Except δ α} (h : Finds step result)
    (f : δ → ε) : Finds (Building.widen f step) (result.mapError f) := by
  constructor
  · intro b
    exact congrArg (Except.mapError f) (h.answers b)
  · intro b
    exact h.leaves b

/-! ## The steps of a builder -/

theorem adds_select (selectors : List Selector) :
    Adds (select selectors : Building ε Unit) [] (fun _ => ()) (.ofSelectors selectors) := by
  refine ⟨fun _ => rfl, fun b => ?_⟩
  show b.contents.withSelectors selectors = _
  simp [Request.withSelectors, Request.extended, Additions.ofSelectors, Parameters.writeAll]

theorem adds_store (f : Filter) :
    Adds (store f : Building ε Unit) [] (fun _ => ()) (.ofFilters [f]) := by
  refine ⟨fun _ => rfl, fun b => ?_⟩
  show b.contents.withFilter f = _
  cases f <;>
    simp [Request.withFilter, Request.extended, Additions.ofFilters, Parameters.writeAll,
      Filter.asEngine?, Filter.asDiscovery?, Filter.asPostDiscovery?]

theorem adds_filter (filters : List Filter) :
    Adds (filter filters : Building ε Unit) [] (fun _ => ()) (.ofFilters filters) := by
  induction filters with
  | nil => exact adds_pure ()
  | cons f fs ih => exact (adds_store f).seq ih

/-- Additions of filters, one after the other. -/
theorem total_ofFilters (added : β → List Filter) (xs : List β) :
    Additions.total (xs.map fun x => .ofFilters (added x)) = .ofFilters (xs.flatMap added) := by
  simp [Additions.total_eq, Additions.ofFilters, List.flatMap_map]

/-- The objects before the first that can act as nothing, as the filters they are taken for. -/
def classified (objects : List FilterObject) : List Filter :=
  (objects.takeWhile fun o => o.filter?.isSome).filterMap FilterObject.filter?

theorem adds_filterObjects (objects : List FilterObject) :
    Adds (filterObjects objects)
      (refusals (fun o => o.filter?.isSome) (fun _ => .unclassifiableFilter) objects)
      (fun _ => ()) (.ofFilters (classified objects)) := by
  have added : Additions.ofFilters (classified objects) = .total
      ((objects.takeWhile fun o => o.filter?.isSome).map fun o => .ofFilters o.filter?.toList) := by
    rw [total_ofFilters, classified, List.filterMap_eq_flatMap_toList]
  rw [added]
  refine adds_forM (fun o accepted => ?_) (fun o refused => ?_) objects
  · obtain ⟨f, hf⟩ := Option.isSome_iff_exists.1 accepted
    have classify : o.classify = .ok f := by simp [FilterObject.classify, hf]
    have routed : Adds (do note (.routed f.kind f.display); store f : Building RequestFault Unit)
        [] (fun _ => ()) (.ofFilters [f]) :=
      (finds_note _).adds.seq (adds_store f)
    rw [hf, filterObject, classify]
    exact routed
  · have none_ : o.filter? = none := Option.not_isSome_iff_eq_none.1 (by rw [refused]; simp)
    have classify : o.classify = .error .unclassifiableFilter := by
      rw [FilterObject.classify, none_]
    rw [filterObject, classify]
    exact (finds_ofExcept _).refused _ _

/-- The faults of writes: those to blank keys. -/
def writeFaults (pairs : List (String × String)) : List RequestFault :=
  refusals (fun p => !isBlank p.1) (fun _ => .blankParameterKey) pairs

theorem writeFaults_eq_nil_iff {pairs : List (String × String)} :
    writeFaults pairs = [] ↔ ∀ w ∈ pairs, isBlank w.1 = false := by
  simp [writeFaults, refusals_eq_nil_iff]

/-- The writes before the first to a blank key. -/
def accepted (pairs : List (String × String)) : List (String × String) :=
  pairs.takeWhile fun p => !isBlank p.1

theorem not_isBlank_of_mem_accepted {pairs : List (String × String)} {w : String × String}
    (h : w ∈ accepted pairs) : isBlank w.1 = false := by
  simpa using List.mem_takeWhile_imp h

/-- A write that is accepted is recorded, and so is the value that it replaces. -/
theorem run_setParameter {key : String} (value : String) (filled : isBlank key = false)
    (b : Builder) :
    (setParameter key value).run b =
      (.ok (),
        { contents := b.contents.withParameters (b.contents.parameters.put key value filled)
          journal := b.journal ++ .parameterWritten key value ::
            ((b.contents.parameters.get? key).map (.parameterReplaced key)).toList }) := by
  have insert : b.contents.parameters.insert key value =
      .ok (b.contents.parameters.get? key, b.contents.parameters.put key value filled) :=
    dif_pos filled
  unfold setParameter
  rw [run_bind]
  show (ofExcept (b.contents.parameters.insert key value) >>= _).run b = _
  rw [insert, run_bind]
  cases old : b.contents.parameters.get? key with
  | none => rfl
  | some previous =>
      show (Except.ok (), Builder.mk _ (b.journal ++ [.parameterWritten key value] ++
        [.parameterReplaced key previous])) = _
      rw [List.append_assoc]
      rfl

theorem adds_setParameter_of_not_isBlank {key : String} (value : String)
    (filled : isBlank key = false) :
    Adds (setParameter key value) [] (fun _ => ()) (.ofWrites [(key, value)]) := by
  constructor
  · intro b
    rw [run_setParameter value filled]
    rfl
  · intro b
    rw [run_setParameter value filled]
    simp [Request.withParameters, Request.extended, Additions.ofWrites, Parameters.writeAll,
      Parameters.write_of_not_isBlank b.contents.parameters (w := (key, value)) filled]

/-- A refused write leaves everything as it is. -/
theorem run_setParameter_of_isBlank {key : String} (value : String) (blank : isBlank key = true)
    (b : Builder) : (setParameter key value).run b = (.error .blankParameterKey, b) := by
  have insert : b.contents.parameters.insert key value = .error .blankParameterKey :=
    dif_neg (by simp [blank])
  unfold setParameter
  rw [run_bind]
  show (ofExcept (b.contents.parameters.insert key value) >>= _).run b = _
  rw [insert, run_bind]
  rfl

theorem adds_setParameter_of_isBlank {key : String} (value : String) (blank : isBlank key = true) :
    Adds (setParameter key value) [.blankParameterKey] (fun _ => ()) .nothing := by
  constructor
  · intro b
    rw [run_setParameter_of_isBlank value blank]
    rfl
  · intro b
    rw [run_setParameter_of_isBlank value blank, Request.extended_nothing]

theorem adds_setParameters (pairs : List (String × String)) :
    Adds (setParameters pairs) (writeFaults pairs) (fun _ => ()) (.ofWrites (accepted pairs)) := by
  have added : Additions.ofWrites (accepted pairs) =
      .total ((pairs.takeWhile fun p => !isBlank p.1).map fun p => .ofWrites [p]) := by
    simp [Additions.total_eq, Additions.ofWrites, List.flatMap_map, accepted]
  rw [added]
  refine adds_forM (fun p filled => ?_) (fun p blank => ?_) pairs
  · exact adds_setParameter_of_not_isBlank p.2 (by simpa using filled)
  · exact adds_setParameter_of_isBlank p.2 (by simpa using blank)

/-- A request is taken as it is at that point, and taking it changes nothing. -/
theorem adds_build : Adds (build : Building ε Request) [] id .nothing :=
  ⟨fun _ => rfl, fun b => (Request.extended_nothing b.contents).symm⟩

/-- A write by itself is a list of one. -/
theorem setParameters_singleton (key value : String) :
    setParameters [(key, value)] = setParameter key value := bind_pure _

theorem adds_setParameter (key value : String) :
    Adds (setParameter key value) (writeFaults [(key, value)]) (fun _ => ())
      (.ofWrites (accepted [(key, value)])) := by
  rw [← setParameters_singleton]
  exact adds_setParameters [(key, value)]

end Building

end TestDiscovery
